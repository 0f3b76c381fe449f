import AddonBridge.Machine.World
import AddonBridge.Scenario.Note

/-!
# Reports

What a step of a session shows: its answer, what happened during it and the state after it. Of what
happened, notes, the ends of instances, calls to a host's log and settings, and strings taken by a
stub are shown. Instances that go together are shown in the order of their types and identifiers.
-/

namespace AddonBridge.Scenario

inductive Item where
  | note (note : Note)
  | instanceDropped (instanceType : AddonType) (id : String)
  | log (home : Nat) (level : LogLevel) (message : String)
  | setting (home : Nat) (id : String) (value : Setting) (accepted : Bool)
  | stubFreed
  deriving DecidableEq

namespace Item

/-- What an event shows, given the homes whose hosts show nothing. -/
def ofEvent? (isSilent : Nat → Bool) : Event Note → Option Item
  | .note n => some (.note n)
  | .instanceDropped _ d => some (.instanceDropped d.instanceType d.id)
  | .host t (.log level message) =>
    if isSilent t.home then none else some (.log t.home level message)
  | .host t (.setSetting id v accepted) =>
    if isSilent t.home then none else some (.setting t.home id v accepted)
  | .stubFreed => some .stubFreed
  | _ => none

/-- Whether the end of one instance is shown no later than that of another. -/
def precedes (a b : AddonType × String) : Bool :=
  a.1.raw < b.1.raw || (a.1.raw = b.1.raw && a.2 ≤ b.2)

def dropped (ends : List (AddonType × String)) : List Item :=
  (ends.mergeSort precedes).map fun (ty, id) => .instanceDropped ty id

/-- Items with each run of ends put in order; `ends` are those of the run at hand. -/
def arrange (ends : List (AddonType × String)) : List Item → List Item
  | [] => dropped ends
  | .instanceDropped ty id :: items => arrange (ends ++ [(ty, id)]) items
  | item :: items => dropped ends ++ item :: arrange [] items

def ofTrace (isSilent : Nat → Bool) (events : List (Event Note)) : List Item :=
  arrange [] (events.filterMap (ofEvent? isSilent))

end Item

inductive Answer where
  | nothing
  | notLoaded
  | nullHandle
  | noContext
  | unavailable
  | flag (value : Bool)
  | status (status : Status)
  | created (status : Status) (handle : Option InstanceHandle)
  /-- The texts of a type's version and of its oldest version, and what the first one is read as. -/
  | versions (version minVersion : String) (api : Except HostError Version)
  | settings (listing : Option (List (String × Setting)))
  | call (answer : CallAnswer)
  | descriptor (descriptor : Option Descriptor)
  /-- The number of instances, the type of the single one, and its descriptor. -/
  | context (size : Nat) (single : Option AddonType) (descriptor : Option Descriptor)
  | hostError (error : HostError)
  | addonError (error : AddonError)
  | defect (defect : Defect)
  | panicked (message : Option String)
  /-- A defect reached an entry point, which ended everything. -/
  | aborted

namespace Answer

def ofPayload : Payload → Answer
  | .defect d => .defect d
  | p => .panicked p.message?

end Answer

structure Snapshot where
  isCreated : Bool
  addonBase : UInt64
  singleInstance : UInt64
  outstanding : UInt64
  deriving DecidableEq, Repr

def Snapshot.ofLoaded (l : Loaded) : Snapshot :=
  ⟨l.isCreated, l.addonBase, l.singleInstance, l.outstanding⟩

structure Report where
  answer : Answer
  items : List Item
  snapshot : Option Snapshot := none

end AddonBridge.Scenario
