import AddonBridge.Addon.Instance
import AddonBridge.Boundary.Call
import AddonBridge.Vocabulary.Failure
import AddonBridge.Vocabulary.VersionTable

/-!
# Addon code

What the code of an addon can do, as data. A `Program` issues commands one at a time and goes on with
their answers, and ends with a value or in a panic. An `Addon` is a program for each callback, so
that a statement about all addons is one about all such programs. `σ` is the type of the data that an
addon keeps, `ν` that of the notes that it leaves in the trace, and `ε` that of its panics, which is
empty for code that does not panic. Code that runs when something is dropped has a type `δ` of panics
of its own, which is empty unless another one is given.
-/

namespace AddonBridge

/-- Something that addon code asks for. -/
inductive Command (σ ν : Type) where
  /-- What the module keeps between its callbacks. -/
  | recall
  | remember (data : σ)
  | note (note : ν)
  | emit (level : RecordLevel) (message : String)
  /-- Sets the logger that sends records to the host. -/
  | install
  | isCreated (module : String)
  | host (table : TableId) (call : HostCall)
  | table (table : TableId) (hasBase keep : Bool) (call : TableCall)
  | patch (table : TableId) (patch : Patch)
  | call (call : RawCall)

/-- What a command gives back. -/
abbrev Command.Answer : Command σ ν → Type
  | .recall => σ
  | .remember _ | .note _ | .emit .. => Unit
  | .install | .isCreated _ | .patch .. => Bool
  | .host _ c => c.Answer
  | .table .. => TableAnswer
  | .call _ => CallAnswer

/-- Addon code that ends with a value of type `α`, or in a panic of type `ε`. -/
inductive Program (σ ν ε α : Type) where
  | done (value : α)
  | panic (payload : ε)
  | step (command : Command σ ν) (next : command.Answer → Program σ ν ε α)

namespace Program

def bind : Program σ ν ε α → (α → Program σ ν ε β) → Program σ ν ε β
  | .done a, f => f a
  | .panic e, _ => .panic e
  | .step c next, f => .step c fun r => (next r).bind f

instance : Monad (Program σ ν ε) where
  pure := .done
  bind := bind

def ask (c : Command σ ν) : Program σ ν ε c.Answer := .step c .done

def note (n : ν) : Program σ ν ε Unit := .step (.note n) fun _ => .done ()

end Program

/-- What a panic carries. -/
inductive Payload where
  | text (message : String)
  | defect (defect : Defect)
  | other
  deriving DecidableEq, Repr

def Payload.message? : Payload → Option String
  | .text message => some message
  | .defect _ | .other => none

/-- A type of panics: what each of them carries. -/
class Panics (ε : Type) where
  payload : ε → Payload

instance : Panics Payload := ⟨id⟩

instance : Panics Empty := ⟨Empty.elim⟩

/-- Where a callback runs: in which module, and on whose interface its root was built. -/
structure Site where
  module : String
  table : TableId
  deriving DecidableEq, Repr

/-- The code of an addon. Callbacks without code have the answers given here. -/
structure Addon (σ ν : Type) (δ : Type := Empty) where
  /-- Builds the root, which may come with a single instance. -/
  build : Site → Program σ ν Payload (Except AddonError (Option Descriptor))
  created : Site → Program σ ν Payload Status := fun _ => .done .ok
  status : Site → Program σ ν Payload Status := fun _ => .done .ok
  setSetting : Site → String → Option SettingValue → Program σ ν Payload Status :=
    fun _ _ _ => .done .unknown
  factory : Site → Request → Program σ ν Payload (Outcome σ) := fun _ r => .done r.shortcut
  /-- The factory of an instance, given its descriptor and data. -/
  instanceFactory : Site → Descriptor → σ → Request → Program σ ν Payload (Outcome σ) :=
    fun _ _ _ _ => .done .notImplemented
  /-- Told before an instance goes: its type, its identifier and its descriptor. -/
  instanceDestroyed : Site → AddonType → String → Descriptor → Program σ ν Payload Unit :=
    fun _ _ _ _ => .done ()
  /-- Run when an instance goes, given its descriptor and data. -/
  instanceDropped : Site → Descriptor → σ → Program σ ν δ Unit := fun _ _ _ => .done ()
  dropped : Site → Program σ ν δ Unit := fun _ => .done ()
  versions : VersionTable := .standard

/-- What a module written against the bare boundary publishes when it is created. -/
structure Publication where
  addonBase : UInt64
  singleInstance : UInt64
  functions : List AddonFunction

/-- The code of a module written against the bare boundary, without a root or a registry. -/
structure NativeAddon (σ ν : Type) where
  /-- What create publishes, or the status with which it gives up. -/
  create : Option TableId → Option CString → Program σ ν Empty (Int32 ⊕ TableId × Publication)
  started : TableId → Program σ ν Empty Int32
  destroy : Program σ ν Empty Unit
  status : Program σ ν Empty Int32
  setSetting : Option CString → Option SettingValue → Program σ ν Empty Int32
  /-- A status and the handle written into the location for it, if there is one. -/
  createInstance : AddonType → Option CString → HostHandle → Option CString → Option UInt64 →
    UInt64 → Program σ ν Empty (Int32 × UInt64)
  destroyInstance : AddonType → UInt64 → Program σ ν Empty Unit
  versions : AddonType → Option CString
  minVersions : AddonType → Option CString

end AddonBridge
