import AddonBridge.Addon.Registry

/-!
# Finite maps as lists

Where a key stands in the list of a map, and what the updates do there.
-/

namespace AddonBridge.Assoc

variable {κ α : Type} [DecidableEq κ] {m l r : Assoc κ α} {k j : κ} {a b : α}

def Distinct (m : Assoc κ α) : Prop := (m.map (·.1)).Nodup

theorem split_of_get? (h : m.get? k = some b) :
    ∃ l r, m = l ++ (k, b) :: r ∧ ∀ p ∈ l, p.1 ≠ k := by
  induction m with
  | nil => contradiction
  | cons p m ih =>
    obtain ⟨j, c⟩ := p
    rw [get?_cons] at h
    split at h
    · next same =>
      subst same
      cases h
      exact ⟨[], m, rfl, by simp⟩
    · next other =>
      obtain ⟨l, r, rfl, before⟩ := ih h
      refine ⟨(j, c) :: l, r, rfl, fun p member => ?_⟩
      rcases List.mem_cons.mp member with rfl | member
      · exact other
      · exact before p member

theorem set_split (before : ∀ p ∈ l, p.1 ≠ k) :
    set (l ++ (k, b) :: r) k a = l ++ (k, a) :: r := by
  induction l with
  | nil => rw [List.nil_append, set, if_pos rfl, List.nil_append]
  | cons p l ih =>
    rw [List.cons_append, set, if_neg (before p List.mem_cons_self),
      ih fun q member => before q (List.mem_cons_of_mem _ member), List.cons_append]

theorem set_new (h : m.get? k = none) : m.set k a = m ++ [(k, a)] := by
  induction m with
  | nil => rfl
  | cons p m ih =>
    obtain ⟨j, c⟩ := p
    rw [get?_cons] at h
    split at h
    · contradiction
    · next other => rw [set, if_neg other, ih h, List.cons_append]

/-- A value that an update left was put there, or was there before at another key. -/
theorem get?_set_cases (h : (m.set k a).get? j = some b) :
    (k = j ∧ b = a) ∨ (k ≠ j ∧ m.get? j = some b) := by
  rw [get?_set] at h
  split at h
  · next same =>
    cases h
    exact .inl ⟨same, rfl⟩
  · next other => exact .inr ⟨other, h⟩

theorem mem_of_mem_set {p : κ × α} (h : p ∈ m.set k a) : p = (k, a) ∨ p ∈ m := by
  cases found : m.get? k with
  | none =>
    rw [set_new found, List.mem_append, List.mem_singleton] at h
    exact h.symm
  | some b =>
    obtain ⟨l, r, rfl, before⟩ := split_of_get? found
    rw [set_split before] at h
    rcases List.mem_append.mp h with left | right
    · exact .inr (List.mem_append_left _ left)
    · exact (List.mem_cons.mp right).imp id fun later =>
        List.mem_append_right _ (List.mem_cons_of_mem _ later)

theorem erase_split (before : ∀ p ∈ l, p.1 ≠ k) (after : ∀ p ∈ r, p.1 ≠ k) :
    erase (l ++ (k, b) :: r) k = l ++ r := by
  rw [erase, List.filter_append, List.filter_cons_of_neg (by simp),
    List.filter_eq_self.mpr (by simpa using before), List.filter_eq_self.mpr (by simpa using after)]

theorem get?_eq_none_iff : m.get? k = none ↔ ∀ p ∈ m, p.1 ≠ k := by
  rw [get?, Option.map_eq_none_iff, List.find?_eq_none]
  simp

theorem mem_of_get? (h : m.get? k = some a) : (k, a) ∈ m := by
  obtain ⟨l, r, rfl, -⟩ := split_of_get? h
  simp

theorem get?_of_mem (distinct : m.Distinct) (h : (k, a) ∈ m) : m.get? k = some a := by
  obtain ⟨l, r, rfl⟩ := List.append_of_mem h
  induction l with
  | nil => rw [List.nil_append, get?_cons, if_pos rfl]
  | cons p l ih =>
    unfold Distinct at *
    rw [List.cons_append, List.map_cons, List.nodup_cons] at distinct
    rw [List.cons_append, get?_cons, if_neg, ih distinct.2 (by simp)]
    intro same
    exact distinct.1 (by simp [same])

omit [DecidableEq κ] in
theorem Distinct.split (distinct : Distinct (l ++ (k, b) :: r)) :
    (∀ p ∈ l, p.1 ≠ k) ∧ ∀ p ∈ r, p.1 ≠ k := by
  unfold Distinct at distinct
  rw [List.map_append, List.map_cons, List.nodup_append, List.nodup_cons] at distinct
  obtain ⟨-, ⟨after, -⟩, before⟩ := distinct
  refine ⟨fun p member => ?_, fun p member same => ?_⟩
  · exact before p.1 (List.mem_map_of_mem member) k List.mem_cons_self
  · exact after (List.mem_map.mpr ⟨p, member, same⟩)

theorem Distinct.erase (distinct : m.Distinct) : (m.erase k).Distinct :=
  List.Nodup.sublist (List.Sublist.map _ List.filter_sublist) distinct

theorem keys_set_of_get? (h : m.get? k = some b) : (m.set k a).map (·.1) = m.map (·.1) := by
  obtain ⟨l, r, rfl, before⟩ := split_of_get? h
  rw [set_split before]
  simp

theorem Distinct.set (distinct : m.Distinct) : (m.set k a).Distinct := by
  unfold Distinct at *
  cases h : m.get? k with
  | some b => rwa [keys_set_of_get? h]
  | none =>
    rw [set_new h, List.map_append, List.nodup_append]
    refine ⟨distinct, by simp, ?_⟩
    intro j member _ single
    rw [List.mem_map] at member
    obtain ⟨p, member, rfl⟩ := member
    rw [List.mem_singleton.mp single]
    exact get?_eq_none_iff.mp h p member

/-! ### What the values of a map hold -/

section gather

variable {β : Type} {g : α → List β} {x : β}

def gather (g : α → List β) (m : Assoc κ α) : List β := m.flatMap fun p => g p.2

theorem mem_gather (h : m.get? k = some a) (member : x ∈ g a) : x ∈ gather g m :=
  List.mem_flatMap.mpr ⟨_, mem_of_get? h, member⟩

theorem get?_of_mem_gather (distinct : m.Distinct) (h : x ∈ gather g m) :
    ∃ k a, m.get? k = some a ∧ x ∈ g a := by
  obtain ⟨⟨k, a⟩, member, held⟩ := List.mem_flatMap.mp h
  exact ⟨k, a, get?_of_mem distinct member, held⟩

variable [DecidableEq β]

omit [DecidableEq κ] in
theorem count_gather_split : (gather g (l ++ (k, a) :: r)).count x =
    (gather g l).count x + (g a).count x + (gather g r).count x := by
  rw [gather, List.flatMap_append, List.flatMap_cons, List.count_append, List.count_append,
    Nat.add_assoc]
  rfl

/-- What the value put at a key holds comes in, what the value there held goes. -/
theorem count_gather_set : (gather g (m.set k a)).count x +
    ((m.get? k).toList.flatMap g).count x = (gather g m).count x + (g a).count x := by
  cases h : m.get? k with
  | some b =>
    obtain ⟨l, r, rfl, before⟩ := split_of_get? h
    rw [set_split before, count_gather_split, count_gather_split, Option.toList_some,
      List.flatMap_singleton]
    omega
  | none =>
    rw [set_new h, count_gather_split]
    simp [gather]

theorem count_gather_erase (distinct : m.Distinct) (h : m.get? k = some a) :
    (gather g (m.erase k)).count x + (g a).count x = (gather g m).count x := by
  obtain ⟨l, r, rfl, before⟩ := split_of_get? h
  rw [erase_split before distinct.split.2, count_gather_split, gather, List.flatMap_append,
    List.count_append]
  simp only [gather]
  omega

end gather

end AddonBridge.Assoc
