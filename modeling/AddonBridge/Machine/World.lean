import AddonBridge.Addon.Program
import AddonBridge.Addon.Registry

/-!
# The state of host and addons

Everything that a call can read or change: the interfaces of the loaded addons, the contexts of the
created ones, which modules are busy, where log records go, and the trace of what happened. An `Act`
changes it and ends with a value, unwinds in a panic, or aborts; whichever way, the changes stay, as
`observe_eq` says of a panic that is caught. A second panic while one unwinds aborts.
-/

namespace AddonBridge

/-- The name of a root or an instance: the interface that its root was built on, and its place among
the objects that were made there. -/
structure ObjectId where
  table : TableId
  number : Nat
  deriving DecidableEq, Repr

/-- A live instance. -/
structure Instance (σ : Type) where
  object : ObjectId
  descriptor : Descriptor
  data : σ

/-- The root of a created addon. -/
structure Root where
  object : ObjectId
  site : Site
  /-- The descriptor of its single instance, if it has one. -/
  single : Option Descriptor
  deriving DecidableEq, Repr

/-- A created addon: its root and its live instances. -/
structure Context (σ : Type) where
  root : Root
  instances : Registry (Instance σ) := {}
  /-- The type of the single instance, as the root declared it when it was built. -/
  single : Option AddonType := root.single.map (·.instanceType)

/-- Where a context is kept: in a module's slot, or by someone who drives it directly. -/
inductive Seat where
  | module (name : String)
  | direct (home : Nat)
  deriving DecidableEq, Repr

/-- A callback of a root or an instance. -/
inductive Callback where
  | created
  | status
  | setSetting (name : String) (value : Option SettingValue)
  | factory (request : Request)
  | instanceDestroyed (instanceType : AddonType) (id : String)
  deriving DecidableEq, Repr

/-- Something that happened. -/
inductive Event (ν : Type) where
  | entered (module : String) (call : EntryCall)
  | building (root : ObjectId) (site : Site)
  | built (root : ObjectId)
  /-- A root took its place in a slot. -/
  | installed (root : ObjectId)
  | called (object : ObjectId) (callback : Callback)
  /-- A factory gave an instance. -/
  | produced (object maker : ObjectId)
  | instanceDropped (object : ObjectId) (descriptor : Descriptor)
  | rootDropped (root : ObjectId)
  /-- A call reached the host behind an interface. -/
  | host (table : TableId) (query : HostQuery)
  | stubFreed
  | raised (defect : Defect)
  | note (note : ν)

/-- What came to the host behind an interface, if something did. -/
def Event.query? (t : TableId) : Event ν → Option HostQuery
  | .host u q => if u = t then some q else none
  | _ => none

/-- The logger that all log records go to. It is set at most once. -/
inductive Logger where
  /-- The one that sends records on to the sink. -/
  | sink
  | other
  deriving DecidableEq, Repr

/-- What log records pass on their way: the logger, and the levels that are told. -/
structure Facade where
  logger : Option Logger := none
  /-- The most verbose level that is told, if any is. -/
  maxLevel : Option RecordLevel := none
  deriving DecidableEq, Repr

namespace Facade

/-- Whether records of a level reach the sink. -/
def passes (f : Facade) (level : RecordLevel) : Bool :=
  f.logger = some .sink && f.maxLevel.any fun max => decide (level.verbosity ≤ max.verbosity)

/-- The facade after the logger that sends records to the sink was set, unless one was set before. -/
def installed (f : Facade) : Facade :=
  if f.logger.isNone then ⟨some .sink, some .debug⟩ else f

end Facade

structure World (σ ν : Type) where
  /-- What each module keeps between its callbacks. -/
  memory : String → σ
  loaded : Assoc TableId Loaded := []
  contexts : Assoc Seat (Context σ) := []
  /-- The modules whose slots are in use. -/
  busy : List String := []
  facade : Facade := {}
  /-- The interface that log records go to. -/
  sink : Option TableId := none
  /-- What the locations hold that the calls of a module under way were given, the latest first; null
  holds nothing. -/
  locations : String → List (Option UInt64) := fun _ => []
  /-- How many objects were made on each interface. -/
  made : TableId → Nat := fun _ => 0
  /-- What happened, the latest first. -/
  trace : List (Event ν) := []

/-- What came to the host behind an interface, the latest first. -/
def World.heard (w : World σ ν) (t : TableId) : List HostQuery := w.trace.filterMap (Event.query? t)

def World.setLocations (w : World σ ν) (module : String) (locations : List (Option UInt64)) :
    World σ ν :=
  { w with locations := fun m => if m = module then locations else w.locations m }

@[simp] theorem World.locations_setLocations (w : World σ ν) (m : String)
    (locations : List (Option UInt64)) : (w.setLocations m locations).locations m = locations :=
  if_pos rfl

@[simp] theorem World.setLocations_setLocations (w : World σ ν) (m : String)
    (first second : List (Option UInt64)) :
    (w.setLocations m first).setLocations m second = w.setLocations m second := by
  unfold setLocations
  congr 1
  funext n
  dsimp only
  split <;> rfl

/-- A location that was put first is taken away again. -/
theorem World.locations_tail {w u : World σ ν} {m : String} {out : Option UInt64}
    (same : u.locations = (w.setLocations m (out :: w.locations m)).locations) :
    (u.setLocations m (u.locations m).tail).locations = w.locations := by
  funext n
  by_cases own : n = m
  · subst own
    simp [same]
  · simp [setLocations, own, same]

/-- Why an act ended early. -/
inductive Stop where
  | unwinding (payload : Payload)
  | aborted
  deriving DecidableEq, Repr

/-- Something that is done to the state. -/
abbrev Act (σ ν : Type) := EStateM Stop (World σ ν)

namespace Act

variable {σ ν α : Type}

/-- The end of an act, a panic included. Only an abort goes through. -/
def observe (act : Act σ ν α) : Act σ ν (Except Payload α) :=
  tryCatch (Except.ok <$> act) fun
    | .unwinding payload => pure (.error payload)
    | .aborted => throw .aborted

/-- An act with another one done after it, also when it panics; then the other one must not. -/
def after (act : Act σ ν α) (cleanup : Act σ ν Unit) : Act σ ν α := do
  match ← observe act with
  | .ok a =>
    cleanup
    return a
  | .error payload =>
    match ← observe cleanup with
    | .ok () => throw (.unwinding payload)
    | .error _ => throw .aborted

theorem observe_eq (act : Act σ ν α) (w : World σ ν) :
    observe act w = match act w with
      | .ok a u => .ok (.ok a) u
      | .error (.unwinding p) u => .ok (.error p) u
      | .error .aborted u => .error .aborted u := by
  change EStateM.tryCatch (EStateM.map Except.ok act) _ w = _
  delta EStateM.tryCatch EStateM.map
  dsimp only
  cases act w with
  | ok a u => rfl
  | error e u => cases e <;> rfl

def record (e : Event ν) : Act σ ν Unit := modify fun w => { w with trace := e :: w.trace }

def freshObject (t : TableId) : Act σ ν ObjectId :=
  modifyGet fun w =>
    (⟨t, w.made t⟩, { w with made := fun u => if u = t then w.made t + 1 else w.made u })

def loaded? (t : TableId) : Act σ ν (Option Loaded) := return (← get).loaded.get? t

def modifyLoaded (t : TableId) (f : Loaded → Loaded) : Act σ ν Unit :=
  modify fun w => { w with loaded := w.loaded.modify t f }

def hostTable? (t : TableId) : Act σ ν (Option HostTable) :=
  return (← loaded? t).bind (·.hostTable)

/-- Asks the host behind an interface, if there is one. -/
def inquire (t : TableId) (q : Question) : Act σ ν (Option q.Answer) := do
  let w ← get
  match w.loaded.get? t with
  | some l =>
    let answer := l.host.answer (w.heard t) q
    record (.host t (q.answered answer))
    return some answer
  | none => return none

def context? (s : Seat) : Act σ ν (Option (Context σ)) := return (← get).contexts.get? s

def setContext (s : Seat) (c : Context σ) : Act σ ν Unit :=
  modify fun w => { w with contexts := w.contexts.set s c }

def removeContext (s : Seat) : Act σ ν Unit :=
  modify fun w => { w with contexts := w.contexts.erase s }

def modifyContext (s : Seat) (f : Context σ → Context σ) : Act σ ν Unit :=
  modify fun w => { w with contexts := w.contexts.modify s f }

def isBusy (module : String) : Act σ ν Bool := return decide (module ∈ (← get).busy)

def holding (module : String) (act : Act σ ν α) : Act σ ν α := do
  modify fun w => { w with busy := module :: w.busy }
  after act (modify fun w => { w with busy := w.busy.erase module })

/-- An act during a call of a module that was given a location, or null, with what the location holds in
the end. -/
def withLocation (module : String) (out : Option UInt64) (act : Act σ ν α) :
    Act σ ν (α × Option UInt64) := do
  modify fun w => w.setLocations module (out :: w.locations module)
  let a ← act
  modifyGet fun w =>
    ((a, (w.locations module).head?.join), w.setLocations module (w.locations module).tail)

/-- Writes into the location that the latest call of a module was given. -/
def writeLocation (module : String) (value : UInt64) : Act σ ν Unit :=
  modify fun w =>
    w.setLocations module ((w.locations module).modifyHead (·.map fun _ => value))

def setSink (t : Option TableId) : Act σ ν Unit := modify fun w => { w with sink := t }

/-- Stops sending log records to an interface, unless they go to another one by now. -/
def unbind (t : TableId) : Act σ ν Unit :=
  modify fun w => if w.sink = some t then { w with sink := none } else w

end Act

end AddonBridge
