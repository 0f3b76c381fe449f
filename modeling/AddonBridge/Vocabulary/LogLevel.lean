/-!
# Log levels

The severities of messages in the host's log, and those of the records that addon code emits. The
host knows no trace level.
-/

namespace AddonBridge

/-- The severity of a message in the host's log. -/
inductive LogLevel where
  | debug
  | info
  | warning
  | error
  | fatal
  deriving DecidableEq, Repr

namespace LogLevel

def toRaw : LogLevel → Int32
  | .debug => 0
  | .info => 1
  | .warning => 2
  | .error => 3
  | .fatal => 4

def all : List LogLevel := [.debug, .info, .warning, .error, .fatal]

def ofRaw? (raw : Int32) : Option LogLevel := all.find? (·.toRaw = raw)

/-- Levels compare by number. -/
instance : Ord LogLevel where
  compare a b := compare a.toRaw b.toRaw

def label : LogLevel → String
  | .debug => "DEBUG"
  | .info => "INFO"
  | .warning => "WARNING"
  | .error => "ERROR"
  | .fatal => "FATAL"

theorem ofRaw?_toRaw (l : LogLevel) : ofRaw? l.toRaw = some l := by cases l <;> decide

end LogLevel

/-- The severity of a record that addon code emits. -/
inductive RecordLevel where
  | error
  | warn
  | info
  | debug
  | trace
  deriving DecidableEq, Repr

namespace RecordLevel

def toHost : RecordLevel → LogLevel
  | .error => .error
  | .warn => .warning
  | .info => .info
  | .debug | .trace => .debug

/-- The number of a level: the higher, the more is told. -/
def verbosity : RecordLevel → Nat
  | .error => 1
  | .warn => 2
  | .info => 3
  | .debug => 4
  | .trace => 5

end RecordLevel

end AddonBridge
