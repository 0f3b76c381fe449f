/-!
# Finite maps

Maps from keys to values, as lists of pairs in the order the keys came in. `get?_set` and
`get?_erase` say what the two updates do to every key.
-/

namespace AddonBridge

/-- A finite map. The first pair of a key counts. -/
abbrev Assoc (κ α : Type) := List (κ × α)

namespace Assoc

variable {κ α : Type} [DecidableEq κ]

def get? (m : Assoc κ α) (k : κ) : Option α := (m.find? (·.1 = k)).map (·.2)

/-- The map with a value put at a key, in the place of the value there, or else at the end. -/
def set : Assoc κ α → κ → α → Assoc κ α
  | [], k, a => [(k, a)]
  | (l, b) :: m, k, a => if l = k then (k, a) :: m else (l, b) :: set m k a

def erase (m : Assoc κ α) (k : κ) : Assoc κ α := m.filter (·.1 ≠ k)

def modify (m : Assoc κ α) (k : κ) (f : α → α) : Assoc κ α :=
  match m.get? k with
  | some a => m.set k (f a)
  | none => m

@[simp] theorem get?_nil (k : κ) : get? ([] : Assoc κ α) k = none := rfl

theorem get?_cons (l : κ) (b : α) (m : Assoc κ α) (k : κ) :
    get? ((l, b) :: m) k = if l = k then some b else get? m k := by
  unfold get?
  rw [List.find?_cons]
  by_cases h : l = k <;> simp [h]

theorem get?_set (m : Assoc κ α) (k : κ) (a : α) (j : κ) :
    get? (set m k a) j = if k = j then some a else get? m j := by
  induction m with
  | nil => rw [set, get?_cons]
  | cons p m ih =>
    obtain ⟨l, b⟩ := p
    rw [set]
    by_cases h : l = k
    · subst h
      rw [if_pos rfl, get?_cons, get?_cons]
      by_cases e : l = j <;> simp [e]
    · rw [if_neg h, get?_cons, get?_cons, ih]
      by_cases e : l = j
      · subst e
        simp [Ne.symm h]
      · simp [e]

theorem get?_erase (m : Assoc κ α) (k j : κ) :
    get? (erase m k) j = if k = j then none else get? m j := by
  unfold erase get?
  induction m with
  | nil => simp
  | cons p m ih =>
    by_cases h : p.1 = k
    · rw [List.filter_cons_of_neg (by simp [h]), ih, List.find?_cons]
      by_cases e : k = j
      · simp [e]
      · simp [e, show p.1 ≠ j from h ▸ e]
    · rw [List.filter_cons_of_pos (by simp [h]), List.find?_cons, List.find?_cons]
      by_cases e : p.1 = j
      · simp [e, show k ≠ j from fun hk => h (hk ▸ e)]
      · simpa [e] using ih

theorem get?_modify (m : Assoc κ α) (k : κ) (f : α → α) (j : κ) :
    get? (modify m k f) j = if k = j then (get? m j).map f else get? m j := by
  unfold modify
  split
  · next a h =>
    rw [get?_set]
    by_cases e : k = j
    · subst e; simp [h]
    · simp [e]
  · next h =>
    by_cases e : k = j
    · subst e; simp [h]
    · simp [e]

/-- What a modification leaves alone is as it was at every key. -/
theorem map_get?_modify {β : Type} {g : α → β} {f : α → α} (m : Assoc κ α) (k : κ)
    (h : ∀ a, m.get? k = some a → g (f a) = g a) (j : κ) :
    (get? (modify m k f) j).map g = (get? m j).map g := by
  rw [get?_modify]
  split
  · next same =>
    subst same
    cases found : get? m k with
    | none => rfl
    | some a => simp [h a found]
  · rfl

end Assoc

end AddonBridge
