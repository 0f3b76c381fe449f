import AddonBridge.Machine.Dispatch

/-!
# The functions of a module

The functions through which a host talks to a module. Each module has a slot for the context of its
addon. A function that needs the slot while another one uses it is turned away; no panic leaves a
function, and a defect aborts.
-/

namespace AddonBridge.Exports

variable {σ ν δ α : Type} [Panics δ]

/-- Runs a function of a module. A panic is logged and gives the fallback; a defect is logged as
fatal and aborts. -/
def guard (operation : String) (fallback : α) (act : Act σ ν α) : Act σ ν α := do
  match ← Act.observe act with
  | .ok a => return a
  | .error (.defect d) =>
    Log.toSink .fatal ("Fatal addon defect during " ++ operation ++ ": " ++ d.message)
    throw .aborted
  | .error p =>
    Log.error ("Addon panicked during " ++ operation ++ ": " ++
      p.message?.getD "unknown panic payload")
    return fallback

/-! ### The slot -/

/-- Does something with the context in a module's slot, which is in use meanwhile. Gives the default
if the slot is in use already or empty. -/
def withSlot (module operation : String) (default : α) (act : Act σ ν α) : Act σ ν α := do
  if ← Act.isBusy module then
    Log.error ("Host re-entered the addon during '" ++ operation ++ "'")
    return default
  else
    match ← Act.context? (.module module) with
    | some _ => Act.holding module act
    | none =>
      Log.error ("Host called '" ++ operation ++ "' on an addon that is not created")
      return default

/-- Puts a context into a module's slot and drops the one before it. A slot in use takes none: then
the context is dropped, and the answer is false. -/
def install (env : Env σ ν δ) (module : String) (c : Context σ) : Act σ ν Bool := do
  if ← Act.isBusy module then
    Log.error "Host re-entered the addon during 'create'"
    Dispatch.dropContext env c
    return false
  else
    Act.holding module do
      let old ← Act.context? (.module module)
      Act.setContext (.module module) c
      Act.record (.installed c.root.object)
      match old with
      | some old =>
        Dispatch.dropContext env old
        Log.warn "Addon was created twice, dropping the previous instance"
      | none => pure ()
    return true

def take (module : String) : Act σ ν (Option (Context σ)) := do
  if ← Act.isBusy module then
    Log.error "Host re-entered the addon during 'destroy'"
    return none
  else
    let c ← Act.context? (.module module)
    match c with
    | some _ => Act.removeContext (.module module)
    | none => Log.warn "Host destroyed an addon that is not created"
    return c

/-! ### Creating and destroying -/

/-- Registers a module's functions with an interface, if it has a table for them. -/
def registerFunctions (module : String) (t : TableId) : Act σ ν Bool := do
  match ← Act.loaded? t with
  | some l =>
    if l.addonTableLinked then
      Act.modifyLoaded t fun l => { l with addonTable := .full module }
      return true
    else return false
  | none => return false

/-- Publishes the handles of an addon's root and of its single instance. -/
def publish (t : TableId) (base single : Option InstanceHandle) : Act σ ν Unit :=
  Act.modifyLoaded t fun l =>
    { l with addonBase := InstanceHandle.toRaw base, singleInstance := InstanceHandle.toRaw single }

/-- Builds an addon on an interface and installs it. Gives the handle of its single instance, if it
has one, or the status of the failure. -/
def construct (env : Env σ ν δ) (module : String) (t : TableId) (apiVersion : Option CString) :
    Act σ ν (Except Status (Option InstanceHandle)) := do
  Log.debug ("Creating addon for host API version '" ++ CString.textOrEmpty apiVersion ++ "'")
  match ← Dispatch.build env module t with
  | .error e =>
    Log.error ("Failed to create addon: " ++ e.message)
    return .error e.toStatus
  | .ok c =>
    if ← registerFunctions module t then
      if ← install env module c then
        return .ok (c.single.map fun _ => .root)
      else return .error .unknown
    else
      Log.error "Host did not provide a function table to register the addon into"
      Dispatch.dropContext env c
      return .error .permanentFailure

/-- Creates a module's addon. Log records go to its interface from the start, and stop going there
if nothing is installed. -/
def create (env : Env σ ν δ) (module : String) (table : Option TableId)
    (apiVersion : Option CString) : Act σ ν Status :=
  guard "create" .permanentFailure do
    match table with
    | none =>
      Log.error "Host did not provide an interface table"
      return .permanentFailure
    | some t =>
      discard Log.install
      Act.setSink (some t)
      match ← Act.observe (construct env module t apiVersion) with
      | .ok (.ok single) =>
        publish t (some .root) single
        withSlot module "create" .unknown (Dispatch.create env (.module module))
      | .ok (.error status) =>
        Act.unbind t
        return status
      | .error p =>
        Act.unbind t
        throw (.unwinding p)

def destroy (env : Env σ ν δ) (module : String) : Act σ ν Unit :=
  guard "destroy" () do
    match ← take module with
    | none => pure ()
    | some c =>
      Dispatch.destroy env c
      publish c.root.site.table none none
      Act.unbind c.root.site.table

/-! ### The other functions -/

def status (env : Env σ ν δ) (module : String) : Act σ ν Status :=
  guard "get_status" .permanentFailure <|
    withSlot module "get_status" .unknown (Dispatch.status env (.module module))

def setSetting (env : Env σ ν δ) (module : String) (name : Option CString)
    (value : Option SettingValue) : Act σ ν Status :=
  guard "set_setting" .permanentFailure do
    match name with
    | none =>
      Log.error "Host pushed a setting without a name"
      return .unknown
    | some name =>
      withSlot module "set_setting" .unknown
        (Dispatch.setSetting env (.module module) name.text value)

/-- Creates an instance. The location for its handle, if there is one, holds null until there is an
instance. -/
def createInstance (env : Env σ ν δ) (module : String) (ty : AddonType) (id : Option CString)
    (host : HostHandle) (version : Option CString) (out : Option UInt64) (parent : UInt64) :
    Act σ ν (Status × Option UInt64) :=
  Act.withLocation module out <|
    guard "create_instance" .permanentFailure do
      match out with
      | none =>
        Log.error "Host did not provide a location for the new instance"
        return .unknown
      | some _ =>
        Act.writeLocation module 0
        let (status, handle) ← withSlot module "create_instance" (.unknown, none)
          (Dispatch.createInstance env (.module module) ty (CString.textOrEmpty id) host
            (CString.textOrEmpty version) (InstanceHandle.ofRaw? parent))
        match handle with
        | some h => Act.writeLocation module h.raw
        | none => pure ()
        return status

def destroyInstance (env : Env σ ν δ) (module : String) (ty : AddonType) (handle : UInt64) :
    Act σ ν Unit :=
  guard "destroy_instance" () <|
    withSlot module "destroy_instance" ()
      (Dispatch.destroyInstance env (.module module) ty (InstanceHandle.ofRaw? handle))

/-! ### Calls -/

def callAddon (env : Env σ ν δ) (module : String) : EntryCall → Act σ ν CallAnswer
  | .create t api => return .status (← create env module t api).toRaw
  | .destroy => do
    destroy env module
    return .done
  | .status => return .status (← status env module).toRaw
  | .setSetting name value => return .status (← setSetting env module name value).toRaw
  | .createInstance ty id host version out parent => do
    let (s, out) ← createInstance env module ty id host version out parent
    return .created s.toRaw out
  | .destroyInstance ty handle => do
    destroyInstance env module ty handle
    return .done
  | .typeVersion ty => return .text (some ((env.modules.addon module).versions.version ty))
  | .minVersion ty => return .text (some ((env.modules.addon module).versions.minVersion ty))

/-- Publishes what a native module publishes when it is created. Functions that it does not name
stay as they are. -/
def publishNative (module : String) (t : TableId) (p : Publication) : Act σ ν Unit :=
  Act.modifyLoaded t fun l =>
    { l with
      addonBase := p.addonBase
      singleInstance := p.singleInstance
      addonTable :=
        if l.addonTableLinked then l.addonTable.register module p.functions else l.addonTable }

def callNative (env : Env σ ν δ) (module : String) (n : NativeAddon σ ν) :
    EntryCall → Act σ ν CallAnswer
  | .create t api => do
    match ← env.quietly module (n.create t api) with
    | .inl raw => return .status raw
    | .inr (t, p) =>
      publishNative module t p
      return .status (← env.quietly module (n.started t))
  | .destroy => do
    env.quietly module n.destroy
    return .done
  | .status => return .status (← env.quietly module n.status)
  | .setSetting name value => return .status (← env.quietly module (n.setSetting name value))
  | .createInstance ty id host version out parent => do
    let (raw, handle) ← env.quietly module (n.createInstance ty id host version out parent)
    return .created raw (out.map fun _ => handle)
  | .destroyInstance ty handle => do
    env.quietly module (n.destroyInstance ty handle)
    return .done
  | .typeVersion ty => return .text (n.versions ty)
  | .minVersion ty => return .text (n.minVersions ty)

def call (env : Env σ ν δ) (module : String) (c : EntryCall) : Act σ ν CallAnswer := do
  Act.record (.entered module c)
  match env.modules.native module with
  | some n => callNative env module n c
  | none => callAddon env module c

/-- The module whose function is registered for a call, in the table that an interface points to. -/
def registered? (table : Option TableId) (c : EntryCall) : Act σ ν (Option String) := do
  match table, c.registeredAs? with
  | some t, some f =>
    match ← Act.loaded? t with
    | some l => return if l.addonTableLinked then l.addonTable.function f else none
    | none => return none
  | _, _ => return none

def callRaw (env : Env σ ν δ) : RawCall → Act σ ν CallAnswer
  | .entry module c => do
    match c with
    | .create (some t) _ => Act.modifyLoaded t fun l => { l with createdByHand := true }
    | _ => pure ()
    call env module c
  | .registered table c => do
    match ← registered? table c with
    | some module => call env module c
    | none => return .unset

/-- The environment in which calls may nest `depth` times. While an addon is unloaded, nested calls
do not create it again. -/
def env (modules : Modules σ ν δ) (isUnloading : Bool) : (depth : Nat) → Env σ ν δ
  | 0 => { modules, nested := fun _ => pure .tooDeep }
  | depth + 1 =>
    { modules
      nested := fun c =>
        if isUnloading && c.isCreate then pure .unloading
        else callRaw (env modules isUnloading depth) c }

end AddonBridge.Exports
