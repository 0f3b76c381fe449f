import AddonBridge.Scenario.Note

/-!
# Actions

The single things that scripted code does. Every action leaves a note of what it found.
-/

namespace AddonBridge.Scenario

/-- A call whose module and interface are those of the code that makes it. -/
inductive OwnCall where
  | create (hasTable : Bool) (apiVersion : Option CString)
  /-- A call of one of the module's other entry points. -/
  | entry (call : EntryCall)
  /-- A call of a function registered with the interface. -/
  | registered (call : EntryCall)
  deriving DecidableEq

/-- Who acts: the module whose code acts, the module that its calls go to, and the interface that is
held, if there is one. -/
structure Actor where
  module : String
  target : String
  table : Option TableId
  deriving DecidableEq, Repr

def Actor.ofModule (module : String) (table : Option TableId) : Actor := ⟨module, module, table⟩

/-- The call that an actor makes; there is none if it takes an interface that is not held. -/
def OwnCall.ofActor (a : Actor) : OwnCall → Option RawCall
  | .create true api => a.table.map fun t => .entry a.target (.create (some t) api)
  | .create false api => some (.entry a.target (.create none api))
  | .entry c => some (.entry a.target c)
  | .registered c => some (.registered a.table c)

inductive Deed where
  | emit (level : RecordLevel) (message : String)
  /-- Asks for log records to be forwarded, which they always are. -/
  | install
  /-- Whether the module's addon is created, as far as the module lets that be seen. -/
  | isCreated
  | panic (kind : String) (payload : Payload)
  | host (call : HostCall)
  | table (useBase keep : Bool) (call : TableCall)
  | patch (patch : Patch)
  | reenter (call : OwnCall)
  deriving DecidableEq

structure Action where
  name : String
  deed : Deed
  deriving DecidableEq

def openModules : List String := ["script0", "legacy"]

variable {σ ε : Type}

def Deed.find (a : Actor) (d : Deed) : Program σ Note ε Finding :=
  match d, a.table with
  | .emit level message, _ => do
    Program.ask (.emit level message)
    return .nothing
  | .install, _ => return .flag (← Program.ask .install)
  | .isCreated, _ =>
    if a.module ∈ openModules then do
      return .flag (← Program.ask (.isCreated a.module))
    else return .nothing
  | .host c, some t => do return Finding.ofHost c (← Program.ask (.host t c))
  | .table useBase keep c, some t => do
    return .table (← Program.ask (.table t useBase keep c))
  | .patch p, some t => do
    return if ← Program.ask (.patch t p) then .nothing else .unavailable
  | .reenter c, some _ =>
    match c.ofActor a with
    | some c => do return .call (← Program.ask (.call c))
    | none => return .unavailable
  | _, _ => return .unavailable

def mayPanic : Option (Payload → Payload) := some id

/-- Does an action. It panics only where panics may start: there `raise` says with what. -/
def Action.run (a : Actor) (raise : Option (Payload → ε)) (action : Action) :
    Program σ Note ε Unit :=
  match action.deed, raise with
  | .panic kind payload, some raise => do
    Program.note (.panicking kind)
    .panic (raise payload)
  | .panic .., none => Program.note .panicSkipped
  | d, _ => do
    let found ← d.find a
    Program.note (.act action.name found)

def Action.runAll (a : Actor) (raise : Option (Payload → ε)) : List Action → Program σ Note ε Unit
  | [] => return
  | x :: xs => do
    x.run a raise
    runAll a raise xs

end AddonBridge.Scenario
