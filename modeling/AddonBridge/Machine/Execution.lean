import AddonBridge.Machine.HostAccess

/-!
# Running addon code

A program runs by doing its commands in turn. Commands that call back into a module are answered by
the environment, which knows how deeply such calls may nest.
-/

namespace AddonBridge

/-- A way to put lists in an order. -/
structure Arrangement (α : Type) where
  arrange : List α → List α
  perm : ∀ as, (arrange as).Perm as

def Arrangement.same : Arrangement α := ⟨id, fun _ => .refl _⟩

/-- The code of all modules: of a native one, or else of an addon. -/
structure Modules (σ ν : Type) (δ : Type := Empty) where
  addon : String → Addon σ ν δ
  native : String → Option (NativeAddon σ ν) := fun _ => none
  /-- The order in which instances go that go together, which nothing else tells. -/
  order : Arrangement (Instance σ) := .same

/-- What code runs in. -/
structure Env (σ ν : Type) (δ : Type := Empty) where
  modules : Modules σ ν δ
  /-- Answers calls that code makes while it is called itself. -/
  nested : RawCall → Act σ ν CallAnswer

namespace Env

variable {σ ν δ ε α : Type}

/-- Whether the addon in a module's slot is created; one in use is. -/
def isCreated (module : String) : Act σ ν Bool := do
  return (← Act.isBusy module) || (← Act.context? (.module module)).isSome

def perform (env : Env σ ν δ) (module : String) : (c : Command σ ν) → Act σ ν c.Answer
  | .recall => return (← get).memory module
  | .remember data =>
    modify fun w => { w with memory := fun m => if m = module then data else w.memory m }
  | .note n => Act.record (.note n)
  | .emit level message => Log.emit level message
  | .install => Log.install
  | .isCreated m => isCreated m
  | .host t c => HostAccess.call t c
  | .table t useBase keep c => HostAccess.callTable t useBase keep c
  | .patch t p => HostAccess.patch t p
  | .call c => env.nested c

/-- Runs a module's code. A panic unwinds with what `payload` makes of it. -/
def exec (env : Env σ ν δ) (module : String) (payload : ε → Payload) :
    Program σ ν ε α → Act σ ν α
  | .done a => pure a
  | .panic e => throw (.unwinding (payload e))
  | .step c next => do
    let r ← env.perform module c
    env.exec module payload (next r)

def callback (env : Env σ ν δ) (module : String) (p : Program σ ν Payload α) : Act σ ν α :=
  env.exec module id p

/-- Runs code that does not panic. -/
def quietly (env : Env σ ν δ) (module : String) (p : Program σ ν Empty α) : Act σ ν α :=
  env.exec module Empty.elim p

/-- Runs the code of something that is dropped. -/
def lastly [Panics δ] (env : Env σ ν δ) (module : String) (p : Program σ ν δ α) : Act σ ν α :=
  env.exec module Panics.payload p

end Env

end AddonBridge
