import AddonBridge.Scenario.Action

/-!
# Scripted addons

Addons whose callbacks are tables: each leaves a note, does its actions and gives its answer. A
factory is a list of rules, of which the first that fits a request is taken.
-/

namespace AddonBridge.Scenario

/-- What an instance rule makes. What it does not say is as requested. -/
inductive Make where
  | instance (status : Status) (instanceType : Option AddonType) (hostVersion : Option String)
  | none (status : Status)
  | single
  | shortcut
  deriving DecidableEq, Repr

structure Rule where
  instanceType : Option AddonType := none
  id : Option String := none
  actions : List Action := []
  make : Make := .none .unknown
  /-- The rules of the factory that a new instance has, if it has one of its own. -/
  children : Option (List Rule) := none

/-- What an instance keeps: the rules of its own factory, if it has one. -/
abbrev Memory := Option (List Rule)

namespace Rule

def fits (r : Rule) (q : Request) : Bool :=
  r.instanceType.all (· = q.instanceType) && r.id.all (· = q.id)

def answer (r : Rule) (q : Request) : Outcome Memory :=
  match r.make with
  | .instance status ty version =>
    .createdWithStatus status ⟨ty.getD q.instanceType, version.getD q.version, none⟩ r.children
  | .none status => .ofStatus status
  | .single => .single
  | .shortcut => q.shortcut

def ask (a : Actor) (rules : List Rule) (q : Request) : Program σ Note Payload (Outcome Memory) :=
  match rules.find? (·.fits q) with
  | some r => do
    Action.runAll a mayPanic r.actions
    return r.answer q
  | none => return .notImplemented

end Rule

structure Part (α : Type) where
  actions : List Action := []
  answer : α

structure Script where
  build : Part (Option AddonError) := { answer := none }
  /-- The type and version of the root's single instance. -/
  single : Option (AddonType × String) := none
  created : Part Status := { answer := .ok }
  status : Part Status := { answer := .ok }
  getters : Assoc String Getter := []
  setSetting : Part Status := { answer := .unknown }
  factory : List Rule := []
  instanceDestroyed : List Action := []
  dropped : List Action := []
  versions : VersionTable := .standard

namespace Script

def actor (target : String → String) (site : Site) : Actor :=
  ⟨site.module, target site.module, some site.table⟩

def construct (s : Script) (target : String → String) (site : Site) :
    Program Memory Note Payload (Except AddonError (Option Descriptor)) := do
  Program.note (.built site)
  Action.runAll (actor target site) mayPanic s.build.actions
  match s.build.answer with
  | some e => return .error e
  | none => return .ok (s.single.map fun (ty, version) => ⟨ty, version, none⟩)

def respond (target : String → String) (site : Site) (n : Note) (p : Part α) :
    Program Memory Note Payload α := do
  Program.note n
  Action.runAll (actor target site) mayPanic p.actions
  return p.answer

def read (s : Script) (name : String) (value : Option SettingValue) : Reading :=
  match s.getters.get? name, value with
  | some g, some v => g.read v
  | _, _ => .nothing

def addon (s : Script) (target : String → String) : Addon Memory Note where
  build := s.construct target
  created site := respond target site (.created site.module) s.created
  status site := respond target site (.status site.module) s.status
  setSetting site name value :=
    respond target site
      (.setting site.module name value.isNone (s.getters.get? name) (s.read name value)) s.setSetting
  factory site q := do
    Program.note (.factory site.module none q)
    Rule.ask (actor target site) s.factory q
  instanceFactory site d own q :=
    match own with
    | some rules => do
      Program.note (.factory site.module (some d.id) q)
      Rule.ask (actor target site) rules q
    | none => return .notImplemented
  instanceDestroyed site ty id d := do
    Program.note (.instanceDestroyed site.module ty id d)
    Action.runAll (actor target site) mayPanic s.instanceDestroyed
  dropped site := do
    Program.note (.rootDropped site.module)
    Action.runAll (actor target site) none s.dropped
  versions := s.versions

/-- The addon that follows a script as far as its construction goes, and is plain otherwise. -/
def plainAddon (s : Script) (target : String → String) (hasSingle : Bool) : Addon Memory Note where
  build := { s with single := if hasSingle then s.single else none }.construct target

end Script

end AddonBridge.Scenario
