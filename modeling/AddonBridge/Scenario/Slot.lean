import AddonBridge.Scenario.Profile
import AddonBridge.Scenario.Report
import AddonBridge.Scenario.Task

/-!
# Slots

A slot loads its entry with its host, keeps the interface that the addon was handed, and may drive a
context directly. A `Post` is a slot at work: it does the tasks of a session.
-/

namespace AddonBridge.Scenario

structure Slot where
  entry : String
  /-- What the host answers; there is none for the host that says nothing. -/
  profile : Option Profile
  loads : Nat := 0
  table : Option TableId := none
  /-- Whether the addon was handed its interface. -/
  isHanded : Bool := false

def Slot.held (s : Slot) : Option TableId := if s.isHanded then s.table else none

def Slot.actor (s : Slot) : Actor := .ofModule s.entry s.held

abbrev Deal := Act Memory Note

def directModule : String := "ctx"

/-- The module that is loaded as a library. It lies at the empty path. -/
def libraryModule : String := "library"

structure Post where
  home : Nat
  slot : Slot
  /-- What code runs in. -/
  env : Env Memory Note
  /-- What code runs in while the slot is unloaded. -/
  unloadingEnv : Env Memory Note

namespace Post

def seat (p : Post) : Seat := .direct p.home

def dropContext (env : Env Memory Note) (p : Post) : Deal Unit := do
  match ← Act.context? p.seat with
  | some c =>
    Act.removeContext p.seat
    Dispatch.dropContext env c
  | none => pure ()

def unload (p : Post) : Deal Unit := do
  dropContext p.unloadingEnv p
  match p.slot.table with
  | none => pure ()
  | some t =>
    if ((← Act.loaded? t).any (·.createdByHand)) then
      discard (Exports.call p.unloadingEnv p.slot.entry .destroy)
    match ← Act.loaded? t with
    | some l => LoadedAddon.drop p.unloadingEnv t l
    | none => pure ()

/-- Loads the slot's entry with a new interface. The library is found at its own path only. -/
def load (p : Post) (t : TableId) (libPath : Option String) : Deal (Except HostError Unit) := do
  let host := (p.slot.profile.map (·.host)).getD {}
  if p.slot.entry = libraryModule then
    if libPath.getD "" = "" then LoadedAddon.load t p.slot.entry host ""
    else return .error .libraryLoading
  else LoadedAddon.load t p.slot.entry host (libPath.getD "/opt/addons")

def answerOf : Except HostError LoadedAddon.Result → Answer
  | .ok .done => .nothing
  | .ok (.status s) => .status s
  | .ok (.instance s h) => .created s h
  | .error e => .hostError e

def withLoaded (p : Post) (t : TableId) (l : Loaded) : LoadedStep → Deal Answer
  | .operate op => return answerOf (← LoadedAddon.perform p.env t l op)
  | .setUnwritable => return .hostError .nulString
  | .destroyNull => return .nullHandle
  | .versions ty => do
    let version ← LoadedAddon.typeVersion p.env l ty
    let minVersion ← LoadedAddon.typeMinVersion p.env l ty
    return .versions version minVersion (← LoadedAddon.typeApiVersion p.env l ty)
  | .isCompatible ty min max => return .flag (← LoadedAddon.isTypeCompatible p.env l ty min max)
  | .state => return .nothing
  | .hostSettings => do
    let past := (← get).heard t
    return .settings (p.slot.profile.map (·.listing past))
  | .putHostSetting id v => do
    if p.slot.profile.isSome then Act.record (.host t (.setSetting id v true))
    return .nothing

/-- Builds a context to be driven directly, in the place of the one before. -/
def newContext (p : Post) : Deal Answer := do
  match p.slot.held with
  | none => return .unavailable
  | some t =>
    dropContext p.env p
    match ← Dispatch.build p.env directModule t with
    | .ok c =>
      Act.setContext p.seat c
      return .nothing
    | .error e => return .addonError e

def withContext (p : Post) (c : Context Memory) : ContextStep → Deal Answer
  | .create => return .status (← Dispatch.create p.env p.seat)
  | .status => return .status (← Dispatch.status p.env p.seat)
  | .setSetting name value => return .status (← Dispatch.setSetting p.env p.seat name value)
  | .createInstance ty id host version parent => do
    let (s, h) ← Dispatch.createInstance p.env p.seat ty id host version parent
    return .created s h
  | .destroyInstance ty handle => do
    Dispatch.destroyInstance p.env p.seat ty handle
    return .nothing
  | .instance handle => return .descriptor ((handle.bind c.instances.get?).map (·.descriptor))
  | .info => return .context c.instances.size c.single c.root.single
  | .destroy => do
    Act.removeContext p.seat
    Dispatch.destroy p.env c
    return .nothing

def perform (p : Post) : Task → Deal Answer
  | .load libPath => do
    p.unload
    match ← p.load ⟨p.home, p.slot.loads⟩ libPath with
    | .ok () => return .nothing
    | .error e => return .hostError e
  | .unload => do
    p.unload
    return .nothing
  | .edit _ => return .nothing
  | .act actions => do
    p.env.quietly p.slot.entry (Action.runAll p.slot.actor none actions)
    return .nothing
  | .raw c =>
    match c.ofActor p.slot.actor with
    | some c => return .call (← Exports.callRaw p.env c)
    | none => return .unavailable
  | .loaded step => do
    match p.slot.table with
    | none => return .notLoaded
    | some t =>
      match ← Act.loaded? t with
      | some l => p.withLoaded t l step
      | none => return .notLoaded
  | .newContext => p.newContext
  | .context step => do
    match ← Act.context? p.seat with
    | some c => p.withContext c step
    | none => return .noContext

end Post

end AddonBridge.Scenario
