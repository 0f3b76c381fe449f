import AddonBridge.Assoc
import AddonBridge.Vocabulary.Handle

/-!
# Registries

The live instances of an addon, by the handles given to the host. Handles count up from the one
after the root's and are not given again, until the last of them is reached: that one is given to
every later instance, and each takes the place of the one before.
-/

namespace AddonBridge

/-- Values by handle, and the handle that comes next. -/
structure Registry (α : Type) where
  entries : Assoc InstanceHandle α := []
  next : InstanceHandle := InstanceHandle.root.succ

namespace Registry

def get? (r : Registry α) (h : InstanceHandle) : Option α := r.entries.get? h

/-- The registry with one more value, which has the next handle. -/
def insert (r : Registry α) (a : α) : Registry α := ⟨r.entries.set r.next a, r.next.succ⟩

def erase (r : Registry α) (h : InstanceHandle) : Registry α := { r with entries := r.entries.erase h }

def size (r : Registry α) : Nat := r.entries.length

def values (r : Registry α) : List α := r.entries.map (·.2)

theorem get?_insert (r : Registry α) (a : α) (h : InstanceHandle) :
    (r.insert a).get? h = if r.next = h then some a else r.get? h :=
  Assoc.get?_set ..

theorem get?_erase (r : Registry α) (h j : InstanceHandle) :
    (r.erase h).get? j = if h = j then none else r.get? j :=
  Assoc.get?_erase ..

@[simp] theorem next_erase (r : Registry α) (h : InstanceHandle) : (r.erase h).next = r.next := rfl

end Registry

end AddonBridge
