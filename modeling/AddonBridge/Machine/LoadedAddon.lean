import AddonBridge.Machine.Exports

/-!
# Driving a loaded addon

What a host does with an addon that it loaded. The operations check what they are asked before they
call the addon; one that fails changes nothing. After a create, whatever its status, the addon counts
as created until it is destroyed.
-/

namespace AddonBridge.LoadedAddon

variable {σ ν δ α : Type} [Panics δ]

def load (t : TableId) (module : String) (host : Host) (libPath : String) :
    Act σ ν (Except HostError Unit) := do
  match CString.ofText? libPath with
  | none => return .error .nulString
  | some libPath =>
    modify fun w => { w with loaded := w.loaded.set t { module, libPath, host } }
    return .ok ()

def statusOf : CallAnswer → Status
  | .status raw | .created raw _ => .ofRaw raw
  | _ => .unknown

def handleOf : CallAnswer → Option InstanceHandle
  | .created _ (some out) => InstanceHandle.ofRaw? out
  | _ => none

def textOf : CallAnswer → String
  | .text s => CString.textOrEmpty s
  | _ => ""

def create (env : Env σ ν δ) (t : TableId) (l : Loaded) (apiVersion : String) :
    Act σ ν (Except HostError Status) := do
  if l.isCreated then return .error .alreadyCreated
  match CString.ofText? apiVersion with
  | none => return .error .nulString
  | some api =>
    Act.modifyLoaded t fun l => { l with isCreated := true }
    return .ok (statusOf (← Exports.call env l.module (.create (some t) (some api))))

def registered (l : Loaded) (f : AddonFunction) : Except HostError String :=
  if l.isCreated then
    match l.addonTable.function f with
    | some module => .ok module
    | none => .error (.missingAddonFunction f.name)
  else .error .notCreated

def encoded (s : String) : Except HostError CString :=
  match CString.ofText? s with
  | some c => .ok c
  | none => .error .nulString

/-- A text as a value to push, unless a NUL would cut it short. -/
def textInput (s : String) : Except HostError SettingInput :=
  match SettingInput.string? s with
  | some value => .ok value
  | none => .error .nulString

def send (env : Env σ ν δ) (c : Except HostError (String × EntryCall)) :
    Act σ ν (Except HostError CallAnswer) := do
  match c with
  | .ok (module, c) => return .ok (← Exports.call env module c)
  | .error e => return .error e

def status (env : Env σ ν δ) (l : Loaded) : Act σ ν (Except HostError Status) := do
  return (← send env do return (← registered l .getStatus, .status)).map statusOf

def setSetting (env : Env σ ν δ) (l : Loaded) (name : String) (value : SettingInput) :
    Act σ ν (Except HostError Status) := do
  return (← send env do
    let module ← registered l .setSetting
    let name ← encoded name
    return (module, .setSetting (some name) (some value.stored))).map statusOf

def createInstance (env : Env σ ν δ) (l : Loaded) (ty : AddonType) (id : String) (host : HostHandle)
    (version : String) (parent : Option InstanceHandle) :
    Act σ ν (Except HostError (Status × Option InstanceHandle)) := do
  return (← send env do
    let module ← registered l .createInstance
    let id ← encoded id
    let version ← encoded version
    return (module, .createInstance ty (some id) host (some version) (some 0)
      (InstanceHandle.toRaw parent))).map fun a => (statusOf a, handleOf a)

def destroyInstance (env : Env σ ν δ) (l : Loaded) (ty : AddonType) (handle : InstanceHandle) :
    Act σ ν (Except HostError Unit) := do
  return (← send env do
    let module ← registered l .destroyInstance
    return (module, .destroyInstance ty handle.raw)).map fun _ => ()

def typeVersion (env : Env σ ν δ) (l : Loaded) (ty : AddonType) : Act σ ν String :=
  return textOf (← Exports.call env l.module (.typeVersion ty))

/-- The text of the oldest version of a type that the addon accepts. -/
def typeMinVersion (env : Env σ ν δ) (l : Loaded) (ty : AddonType) : Act σ ν String :=
  return textOf (← Exports.call env l.module (.minVersion ty))

/-- The version in a text for a type; one that writes none, or the unknown one, is an error. -/
def usableVersion (ty : AddonType) (s : String) : Except HostError Version :=
  match Version.parse? s with
  | some v => if v = .unknown then .error (.unknownType ty) else .ok v
  | none => .error (.unknownType ty)

def typeApiVersion (env : Env σ ν δ) (l : Loaded) (ty : AddonType) :
    Act σ ν (Except HostError Version) :=
  return usableVersion ty (← typeVersion env l ty)

/-- Whether the addon's version of a type lies in the range that the host supports. -/
def isTypeCompatible (env : Env σ ν δ) (l : Loaded) (ty : AddonType) (min max : Version) :
    Act σ ν Bool := do
  match ← typeApiVersion env l ty with
  | .ok v => return decide (min ≤ v ∧ v ≤ max)
  | .error _ => return false

def setFirstInstance (t : TableId) (h : HostHandle) : Act σ ν Unit :=
  Act.modifyLoaded t fun l => { l with firstInstance := h }

def destroy (env : Env σ ν δ) (t : TableId) (l : Loaded) : Act σ ν Unit := do
  if l.isCreated then
    Act.modifyLoaded t fun l => { l with isCreated := false }
    discard (Exports.call env l.module .destroy)

/-- Lets go of the addon: destroys it if it is created, and takes its interface away. -/
def drop (env : Env σ ν δ) (t : TableId) (l : Loaded) : Act σ ν Unit := do
  destroy env t l
  modify fun w => { w with loaded := w.loaded.erase t }

/-! ### Operations as values -/

/-- Something that a host does with a loaded addon. -/
inductive Operation where
  | create (apiVersion : String)
  | status
  | setSetting (name : String) (value : SettingInput)
  | createInstance (instanceType : AddonType) (id : String) (host : HostHandle) (version : String)
      (parent : Option InstanceHandle)
  | destroyInstance (instanceType : AddonType) (handle : InstanceHandle)
  | setFirstInstance (host : HostHandle)
  | destroy
  | drop
  deriving DecidableEq

/-- What an operation gives back. -/
inductive Result where
  | done
  | status (status : Status)
  | instance (status : Status) (handle : Option InstanceHandle)
  deriving DecidableEq

def perform (env : Env σ ν δ) (t : TableId) (l : Loaded) :
    Operation → Act σ ν (Except HostError Result)
  | .create api => return (← create env t l api).map .status
  | .status => return (← status env l).map .status
  | .setSetting name value => return (← setSetting env l name value).map .status
  | .createInstance ty id host version parent =>
    return (← createInstance env l ty id host version parent).map fun (s, h) => .instance s h
  | .destroyInstance ty handle => return (← destroyInstance env l ty handle).map fun _ => .done
  | .setFirstInstance h => do
    setFirstInstance t h
    return .ok .done
  | .destroy => do
    destroy env t l
    return .ok .done
  | .drop => do
    drop env t l
    return .ok .done

end AddonBridge.LoadedAddon
