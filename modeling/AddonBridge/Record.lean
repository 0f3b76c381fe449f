import AddonBridge.Assoc
import AddonBridge.Text.Fields

/-!
# Records with two kinds of owner

A record that crosses between the sides belongs either to a handle or to someone outside. An owning
handle has a copy of its own; a borrowing handle edits an external record in place, and any number
of handles may borrow the same one. A `RecordPool` holds named handles and the external records.
-/

namespace AddonBridge

/-- A handle on a record of type `α`, among `n` external ones. -/
inductive RecordHandle (α : Type) (n : Nat) where
  | owned (record : α)
  | borrowed (external : Fin n)
  deriving DecidableEq, Repr

namespace RecordHandle

variable {α : Type} {n : Nat}

def isOwned : RecordHandle α n → Bool
  | .owned _ => true
  | .borrowed _ => false

/-- The external record that a handle borrows. -/
def external? : RecordHandle α n → Option (Fin n)
  | .owned _ => none
  | .borrowed i => some i

def get (externals : Vector α n) : RecordHandle α n → α
  | .owned r => r
  | .borrowed i => externals[i]

def debug [ToString α] (externals : Vector α n) (h : RecordHandle α n) : String :=
  Text.fields "StructHandle"
    [("owned", Text.truth h.isOwned), ("record", toString (h.get externals))]

end RecordHandle

/-- Named handles and the external records that they may borrow. -/
structure RecordPool (α : Type) (n : Nat) where
  externals : Vector α n
  handles : Assoc String (RecordHandle α n) := []

namespace RecordPool

variable {α : Type} {n : Nat}

inductive Answer (α : Type) where
  | done
  | missing
  | flag (value : Bool)
  | text (value : String)
  | record (value : α)
  | panicked (message : String)
  deriving DecidableEq, Repr

/-- What is done to a pool. A missing external stands for the null pointer. -/
inductive Step (α : Type) (n : Nat) where
  | own (name : String) (record : α)
  /-- A new handle that owns a copy of an external record. -/
  | copy (name : String) (external : Option (Fin n))
  /-- A new handle that borrows an external record. -/
  | borrow (name : String) (external : Option (Fin n))
  | setExternal (external : Option (Fin n)) (record : α)
  | drop (name : String)
  /-- A new handle that owns a copy of another handle's record. -/
  | clone (name target : String)
  | assign (name : String) (record : α)
  /-- Writes the record of a handle with that of another. -/
  | assignFrom (name other : String)
  /-- Writes fields of a handle's record. -/
  | edit (name : String) (change : α → α)
  | debug (name : String)
  /-- Whether the record of a handle is the given external one. -/
  | isExternal (name : String) (external : Option (Fin n))
  | get (name : String)

def external (b : RecordPool α n) (i : Fin n) : α := b.externals[i]

def setExternal (b : RecordPool α n) (i : Fin n) (r : α) : RecordPool α n :=
  { b with externals := b.externals.set i r }

/-- Writes the record that a handle reads: its own, or the external one for everyone. -/
def write (b : RecordPool α n) (name : String) (r : α) : RecordHandle α n → RecordPool α n
  | .owned _ => { b with handles := b.handles.set name (.owned r) }
  | .borrowed i => b.setExternal i r

/-- Answers about the handle of a name, or says that it is missing. -/
def withHandle (b : RecordPool α n) (name : String)
    (f : RecordHandle α n → RecordPool α n × Answer α) : RecordPool α n × Answer α :=
  match b.handles.get? name with
  | some h => f h
  | none => (b, .missing)

def update (b : RecordPool α n) (name : String) (f : α → α) : RecordPool α n × Answer α :=
  b.withHandle name fun h => (b.write name (f (h.get b.externals)) h, .done)

def step [ToString α] (b : RecordPool α n) : Step α n → RecordPool α n × Answer α
  | .own name r => ({ b with handles := b.handles.set name (.owned r) }, .done)
  | .copy name (some i) =>
    ({ b with handles := b.handles.set name (.owned (b.external i)) }, .done)
  | .copy _ none => (b, .panicked "Cannot copy a record from a null pointer")
  | .borrow name (some i) => ({ b with handles := b.handles.set name (.borrowed i) }, .done)
  | .borrow _ none => (b, .panicked "Cannot borrow a record from a null pointer")
  | .setExternal (some i) r => (b.setExternal i r, .done)
  | .setExternal none _ => (b, .done)
  | .drop name =>
    ({ b with handles := b.handles.erase name }, .flag (b.handles.get? name).isSome)
  | .clone name target =>
    b.withHandle name fun h =>
      if name = target then (b, .done)
      else ({ b with handles := b.handles.set target (.owned (h.get b.externals)) }, .done)
  | .assign name r => b.update name fun _ => r
  | .assignFrom name other =>
    match b.handles.get? other with
    | some source =>
      if name = other then (b, .missing) else b.update name fun _ => source.get b.externals
    | none => (b, .missing)
  | .edit name change => b.update name change
  | .debug name => b.withHandle name fun h => (b, .text (h.debug b.externals))
  | .isExternal name i => b.withHandle name fun h => (b, .flag (i.any fun i => h.external? = some i))
  | .get name => b.withHandle name fun h => (b, .record (h.get b.externals))

/-- The handles in the order of their names: name, ownership and record of each. -/
def listing (b : RecordPool α n) : List (String × Bool × α) :=
  (b.handles.mergeSort fun a b => a.1 ≤ b.1).map fun (name, h) =>
    (name, h.isOwned, h.get b.externals)

/-- Does steps in turn; each answer comes with the pool after its step. -/
def run [ToString α] (b : RecordPool α n) : List (Step α n) → List (Answer α × RecordPool α n)
  | [] => []
  | s :: steps =>
    let (b, a) := b.step s
    (a, b) :: b.run steps

end RecordPool

/-! ### Sample records -/

structure Record where
  uniqueId : UInt32 := 0
  flags : UInt64 := 0
  deriving DecidableEq, Repr

def Record.debug (r : Record) : String :=
  Text.fields "sample_data"
    [("unique_id", toString r.uniqueId.toNat), ("flags", toString r.flags.toNat)]

instance : ToString Record := ⟨Record.debug⟩

/-- A pool of sample records. -/
abbrev Bench (n : Nat) := RecordPool Record n

namespace Bench

abbrev Answer := RecordPool.Answer Record

abbrev Step (n : Nat) := RecordPool.Step Record n

def Step.setId (name : String) (id : UInt32) : Step n := .edit name ({ · with uniqueId := id })

def Step.setFlags (name : String) (flags : UInt64) : Step n := .edit name ({ · with flags := flags })

end Bench

end AddonBridge
