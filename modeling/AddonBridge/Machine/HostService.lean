import AddonBridge.Machine.World

/-!
# The functions behind a host's table

What the host's side does when one of its functions is called with a base pointer and raw arguments.
Null pointers are answered neutrally. A string that is given out counts as outstanding until it is
given back.
-/

namespace AddonBridge.HostService

variable {σ ν : Type}

/-- Asks the host behind a base pointer; there is none behind null. -/
def consult (t : TableId) (hasBase : Bool) (q : Question) : Act σ ν (Option q.Answer) :=
  if hasBase then Act.inquire t q else pure none

def share (t : TableId) (s : String) : Act σ ν CString := do
  Act.modifyLoaded t fun l => { l with outstanding := l.outstanding + 1 }
  Act.record (.host t (.shared (.strip s)))
  return .strip s

def shareText (t : TableId) (s : Option String) : Act σ ν (Option CString) := do
  match s with
  | some s => some <$> share t s
  | none => return none

def typeVersion (t : TableId) (hasBase : Bool) (ty : AddonType) : Act σ ν (Option CString) := do
  shareText t (← consult t hasBase (.typeVersion ty))

def addonPath (t : TableId) (hasBase : Bool) : Act σ ν (Option CString) := do
  shareText t (← consult t hasBase .addonPath)

def userPath (t : TableId) (hasBase : Bool) : Act σ ν (Option CString) := do
  shareText t (← consult t hasBase .userPath)

/-- A message whose level is outside the vocabulary is an information. -/
def log (t : TableId) (hasBase : Bool) (level : Int32) (message : Option CString) :
    Act σ ν Unit := do
  match message with
  | some m => discard (consult t hasBase (.log ((LogLevel.ofRaw? level).getD .info) m.text))
  | none => pure ()

def lookup (t : TableId) (hasBase : Bool) (id : Option CString) : Act σ ν (Option Setting) := do
  match id with
  | some id => return (← consult t hasBase (.setting id.text)).join
  | none => return none

/-- The setting, if it has the right type and there is a location for it. -/
def getSetting (t : TableId) (hasBase : Bool) (kind : SettingKind) (id : Option CString)
    (hasOut : Bool) : Act σ ν (Option Setting) := do
  let found ← lookup t hasBase id
  return found.filter fun v => v.kind = kind ∧ hasOut

def getString (t : TableId) (hasBase : Bool) (id : Option CString) (hasOut : Bool) :
    Act σ ν (Option CString) := do
  match ← getSetting t hasBase .string id hasOut with
  | some (.string s) => some <$> share t s
  | _ => return none

def setSetting (t : TableId) (hasBase : Bool) (id : Option CString) (v : Setting) :
    Act σ ν Bool := do
  match id with
  | some id => return (← consult t hasBase (.setSetting id.text v)).getD false
  | none => return false

def setString (t : TableId) (hasBase : Bool) (id value : Option CString) : Act σ ν Bool := do
  match value with
  | some value => setSetting t hasBase id (.string value.text)
  | none => return false

def freeString (t : TableId) (hasBase : Bool) (s : Option CString) : Act σ ν Unit := do
  match s with
  | some s =>
    if hasBase && (← Act.loaded? t).isSome then
      Act.modifyLoaded t fun l => { l with outstanding := l.outstanding - 1 }
      Act.record (.host t (.freed s))
  | none => pure ()

def interface (t : TableId) (hasBase : Bool) (name version : Option CString) :
    Act σ ν HostHandle := do
  match name, version with
  | some name, some version =>
    return (← consult t hasBase (.interface name.text version.text)).getD .null
  | _, _ => return .null

end AddonBridge.HostService
