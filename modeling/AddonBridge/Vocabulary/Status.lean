/-!
# Statuses

What an addon reports to its host. Each status has a number that crosses between the two sides, and a
label for messages.
-/

namespace AddonBridge

inductive Status where
  | ok
  | lostConnection
  | needRestart
  | needSettings
  | unknown
  | permanentFailure
  | notImplemented
  deriving DecidableEq, Repr

namespace Status

def toRaw : Status → Int32
  | .ok => 0
  | .lostConnection => 1
  | .needRestart => 2
  | .needSettings => 3
  | .unknown => 4
  | .permanentFailure => 5
  | .notImplemented => 6

def all : List Status :=
  [.ok, .lostConnection, .needRestart, .needSettings, .unknown, .permanentFailure, .notImplemented]

def ofRaw? (raw : Int32) : Option Status := all.find? (·.toRaw = raw)

/-- The status that a host makes of a number: one outside the vocabulary is unknown. -/
def ofRaw (raw : Int32) : Status := (ofRaw? raw).getD .unknown

def label : Status → String
  | .ok => "OK"
  | .lostConnection => "Lost Connection"
  | .needRestart => "Need Restart"
  | .needSettings => "Need Settings"
  | .unknown => "Unknown error"
  | .permanentFailure => "Permanent failure"
  | .notImplemented => "Not implemented"

def debug : Status → String
  | .ok => "Ok"
  | .lostConnection => "LostConnection"
  | .needRestart => "NeedRestart"
  | .needSettings => "NeedSettings"
  | .unknown => "Unknown"
  | .permanentFailure => "PermanentFailure"
  | .notImplemented => "NotImplemented"

def translate (raw : Int32) : String := ((ofRaw? raw).map label).getD "Unknown"

theorem ofRaw?_toRaw (s : Status) : ofRaw? s.toRaw = some s := by cases s <;> decide

theorem ofRaw_toRaw (s : Status) : ofRaw s.toRaw = s := by rw [ofRaw, ofRaw?_toRaw]; rfl

end Status

end AddonBridge
