import AddonBridge.Machine.Log
import AddonBridge.Text.Hex
import AddonBridge.Vocabulary.Path

/-!
# Talking to the host

The helpers through which addon code calls its host. They go through the functions that the host
offers; one that is missing gives a neutral answer and a debug record. Every string that the host
gives is given back before a helper ends.
-/

namespace AddonBridge.HostAccess

variable {σ ν α : Type}

def offered (t : TableId) (f : HostFunction) (neutral : α)
    (k : HostTable → Provider → Act σ ν α) : Act σ ν α := do
  match ← Act.hostTable? t with
  | none => return neutral
  | some table =>
    match table.provider f with
    | some p => k table p
    | none =>
      Log.debug ("Host does not provide '" ++ f.name ++ "'")
      return neutral

def release (t : TableId) (table : HostTable) (s : CString) : Act σ ν Unit := do
  match table.provider .freeString with
  | some .host => HostService.freeString t table.hasBase (some s)
  | some (.stub _) => Act.record .stubFreed
  | none => Log.debug ("Host does not provide '" ++ HostFunction.freeString.name ++ "'")

/-- The text of a string of the host's, which is given back; null is no text. -/
def takeText (t : TableId) (table : HostTable) (s : Option CString) : Act σ ν String := do
  match s with
  | some s =>
    release t table s
    return s.text
  | none => return ""

/-- A setting's identifier as a string. One with a NUL is refused with a warning. -/
def settingId? (id : String) : Act σ ν (Option CString) := do
  match CString.ofText? id with
  | some c => return some c
  | none =>
    Log.warn ("Invalid setting identifier " ++ Text.quote id ++ ": contains a NUL byte")
    return none

def libPath (t : TableId) : Act σ ν String :=
  return ((← Act.loaded? t).map (·.libPath.text)).getD ""

def firstInstance (t : TableId) : Act σ ν HostHandle :=
  return ((← Act.loaded? t).map (·.firstInstance)).getD .null

def typeVersion (t : TableId) (ty : AddonType) : Act σ ν String :=
  offered t .getTypeVersion "" fun table _ => do
    takeText t table (← HostService.typeVersion t table.hasBase ty)

def addonPath (t : TableId) (segment : String) : Act σ ν String := do
  let base ← offered t .getAddonPath "" fun table p => do
    match p with
    | .host => takeText t table (← HostService.addonPath t table.hasBase)
    | .stub _ => return ""
  return Path.join base segment

def userPath (t : TableId) (segment : String) : Act σ ν String := do
  let base ← offered t .getBaseUserPath "" fun table _ => do
    takeText t table (← HostService.userPath t table.hasBase)
  return Path.join base segment

def echo (s : CString) : CString :=
  .ofBytes ((Text.Hex.decode? s.text.toList).getD [])

/-- Whether a string setting is found, and the string that came with the answer. -/
def fetchString (t : TableId) (table : HostTable) (p : Provider) (id : Option CString)
    (hasOut : Bool) : Act σ ν (Bool × Option CString) := do
  match p with
  | .host =>
    let s ← HostService.getString t table.hasBase id hasOut
    return (s.isSome, s)
  | .stub .unfoundBuffer => return (false, if hasOut then some .empty else none)
  | .stub .echoBytes =>
    let s := if hasOut then id.map echo else none
    return (s.isSome, s)
  | .stub _ => return (true, none)

/-- Reads a string setting. One that is found without a string is empty. -/
def checkString (t : TableId) (id : String) : Act σ ν (Option String) :=
  offered t (.getSetting .string) none fun table p => do
    match ← settingId? id with
    | none => return none
    | some id =>
      let (found, s) ← fetchString t table p (some id) true
      let text ← takeText t table s
      return if found then some text else none

def check (t : TableId) (kind : SettingKind) (id : String) : Act σ ν (Option Setting) := do
  match kind with
  | .string => return (← checkString t id).map .string
  | kind =>
    offered t (.getSetting kind) none fun table _ => do
      match ← settingId? id with
      | none => return none
      | some id => HostService.getSetting t table.hasBase kind (some id) true

def setting (t : TableId) (id : String) (default : Setting) : Act σ ν Setting :=
  return (← check t default.kind id).getD default

/-- Stores a string setting, and says whether the host accepted it. -/
def setString (t : TableId) (id value : String) : Act σ ν Bool :=
  offered t (.setSetting .string) false fun table _ => do
    match ← settingId? id, CString.ofText? value with
    | some id, some value => HostService.setString t table.hasBase (some id) (some value)
    | _, _ =>
      Log.warn "Cannot send setting value containing a NUL byte to the host"
      return false

def setSetting (t : TableId) (id : String) (value : Setting) : Act σ ν Bool := do
  match value with
  | .string s => setString t id s
  | value =>
    offered t (.setSetting value.kind) false fun table _ => do
      match ← settingId? id with
      | none => return false
      | some id => HostService.setSetting t table.hasBase (some id) value

/-- Looks up an interface that the host publishes; null if there is none. -/
def interface (t : TableId) (name version : String) : Act σ ν HostHandle :=
  offered t .getInterface .null fun table _ => do
    match CString.ofText? name, CString.ofText? version with
    | some name, some version =>
      HostService.interface t table.hasBase (some name) (some version)
    | _, _ => return .null

def call (t : TableId) : (c : HostCall) → Act σ ν c.Answer
  | .libPath => libPath t
  | .firstInstance => firstInstance t
  | .typeVersion ty => typeVersion t ty
  | .addonPath segment => addonPath t segment
  | .userPath segment => userPath t segment
  | .log level message => Log.toHost t level message
  | .check kind id => check t kind id
  | .setting id default => setting t id default
  | .setSetting id value => setSetting t id value
  | .interface name version => interface t name version

/-! ### Straight calls into the table -/

/-- Gives a string back through the table, unless it is kept or there is no function for it. -/
def releaseUnlessKept (t : TableId) (table : HostTable) (hasBase keep : Bool)
    (s : Option CString) : Act σ ν Unit := do
  if keep then pure ()
  else match table.provider .freeString, s with
    | some .host, some s => HostService.freeString t hasBase (some s)
    | some (.stub _), some _ => Act.record .stubFreed
    | _, _ => pure ()

def TableCall.function : TableCall → HostFunction
  | .getSetting kind .. => .getSetting kind
  | .setSetting _ v => .setSetting v.kind
  | .setString .. => .setSetting .string
  | .log .. => .addonLogMsg
  | .interface .. => .getInterface
  | .typeVersion _ => .getTypeVersion
  | .addonPath => .getAddonPath
  | .userPath => .getBaseUserPath
  | .freeNull => .freeString

/-- Does a straight call with a base pointer that is the table's, or null. -/
def provided (t : TableId) (table : HostTable) (p : Provider) (hasBase keep : Bool) :
    TableCall → Act σ ν TableAnswer
  | .getSetting .string id hasOut => do
    let (found, s) ← fetchString t { table with hasBase } p id hasOut
    releaseUnlessKept t table hasBase keep s
    return .fetched found (.text s)
  | .getSetting kind id hasOut => do
    match ← HostService.getSetting t hasBase kind id hasOut with
    | some v => return .fetched true (.setting v)
    | none => return .fetched false (.initial kind)
  | .setSetting id v => return .flag (← HostService.setSetting t hasBase id v)
  | .setString id v => return .flag (← HostService.setString t hasBase id v)
  | .log level message => do
    HostService.log t hasBase level message
    return .done
  | .interface name version => return .handle (← HostService.interface t hasBase name version)
  | .typeVersion ty => do
    let s ← HostService.typeVersion t hasBase ty
    releaseUnlessKept t table hasBase keep s
    return .text s
  | .addonPath => do
    let s ← match p with
      | .host => HostService.addonPath t hasBase
      | .stub _ => pure none
    releaseUnlessKept t table hasBase keep s
    return .text s
  | .userPath => do
    let s ← HostService.userPath t hasBase
    releaseUnlessKept t table hasBase keep s
    return .text s
  | .freeNull => do
    match p with
    | .host => HostService.freeString t hasBase none
    | .stub _ => Act.record .stubFreed
    return .done

/-- Does a straight call into the table, with the table's base pointer if `useBase`. -/
def callTable (t : TableId) (useBase keep : Bool) (c : TableCall) : Act σ ν TableAnswer := do
  match ← Act.hostTable? t with
  | none => return .unavailable
  | some table =>
    match table.provider (TableCall.function c) with
    | none => return .unset
    | some p => provided t table p (table.hasBase && useBase) keep c

/-- Changes the tables of an interface, and says whether they could be changed. -/
def patch (t : TableId) (p : Patch) : Act σ ν Bool := do
  match (← Act.loaded? t).bind (·.patch? p) with
  | some l =>
    Act.modifyLoaded t fun _ => l
    return true
  | none => return false

end AddonBridge.HostAccess
