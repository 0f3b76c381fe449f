/-!
# Handles

Pointer-sized values that one side gives out and the other only hands back. A host's handles are
opaque. An addon's handles are keys of its instances: they are never null, and the first one stands
for the addon's root.
-/

namespace AddonBridge

/-- A handle to something of the host's. -/
structure HostHandle where
  raw : UInt64
  deriving DecidableEq, Repr

namespace HostHandle

def null : HostHandle := ⟨0⟩

instance : Inhabited HostHandle := ⟨null⟩

def isNull (h : HostHandle) : Bool := h = null

end HostHandle

/-- A handle to an instance of the addon's. -/
structure InstanceHandle where
  raw : UInt64
  ne_zero : raw ≠ 0
  deriving DecidableEq

namespace InstanceHandle

/-- Handles compare by value. -/
instance : Ord InstanceHandle where
  compare a b := compare a.raw b.raw

/-- The handle of the addon's root, and of its single instance if it has one. -/
def root : InstanceHandle := ⟨1, by decide⟩

def isRoot (h : InstanceHandle) : Bool := h = root

/-- The handle that a pointer value stands for; null stands for none. -/
def ofRaw? (raw : UInt64) : Option InstanceHandle :=
  if h : raw = 0 then none else some ⟨raw, h⟩

def toRaw : Option InstanceHandle → UInt64
  | some h => h.raw
  | none => 0

/-- The handle after this one. The last handle is its own successor. -/
def succ (h : InstanceHandle) : InstanceHandle :=
  if e : h.raw + 1 = 0 then h else ⟨h.raw + 1, e⟩

def debug (h : InstanceHandle) : String := "InstanceHandle(" ++ toString h.raw.toNat ++ ")"

theorem ofRaw?_toRaw (h : Option InstanceHandle) : ofRaw? (toRaw h) = h := by
  cases h with
  | none => rfl
  | some h => simp [toRaw, ofRaw?, h.ne_zero]

end InstanceHandle

end AddonBridge
