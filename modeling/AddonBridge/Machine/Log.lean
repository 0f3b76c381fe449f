import AddonBridge.Machine.HostService

/-!
# Log records

Addon code logs through one facade for all addons, and what passes it goes to one sink. While that is
bound to an interface, records go to the host behind that interface; otherwise, and when another
logger has them, they go nowhere that the trace shows.
-/

namespace AddonBridge.Log

variable {σ ν : Type}

/-- Sends a message to the host behind an interface, without its NUL characters. False if the host
offers no function for it. -/
def toHost (t : TableId) (level : LogLevel) (message : String) : Act σ ν Bool := do
  match ← Act.hostTable? t with
  | some table =>
    if (table.provider .addonLogMsg).isSome then
      HostService.log t table.hasBase level.toRaw (some (.strip message))
      return true
    else return false
  | none => return false

def toSink (level : LogLevel) (message : String) : Act σ ν Unit := do
  match (← get).sink with
  | some t => discard (toHost t level message)
  | none => pure ()

/-- Sets the logger that sends records to the sink, unless one is set, and says whether it is set. -/
def install : Act σ ν Bool :=
  modifyGet fun w =>
    (w.facade.installed.logger = some .sink, { w with facade := w.facade.installed })

def emit (level : RecordLevel) (message : String) : Act σ ν Unit := do
  if (← get).facade.passes level then toSink level.toHost message

def error (message : String) : Act σ ν Unit := emit .error message

def warn (message : String) : Act σ ν Unit := emit .warn message

def debug (message : String) : Act σ ν Unit := emit .debug message

def raise {α : Type} (d : Defect) : Act σ ν α := do
  Act.record (.raised d)
  error d.message
  throw (.unwinding (.defect d))

end AddonBridge.Log
