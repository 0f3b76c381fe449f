import AddonBridge.Proofs.Removal

/-!
# Numbering of handles

Values are put into a registry and handles are taken out of it, in any order. The handle that a value
is given depends only on how many were put in before it: handles count up from the one after the
root's to the last there is, and stay there. `run_numbered` says so of every run, and what it means for
the values that are already there.
-/

namespace AddonBridge

namespace InstanceHandle

theorem toNat_succ (h : InstanceHandle) :
    h.succ.raw.toNat = min (h.raw.toNat + 1) (UInt64.size - 1) := by
  have bound : h.succ.raw.toNat < UInt64.size := h.succ.raw.toNat_lt
  rcases Nat.lt_or_ge (h.raw.toNat + 1) UInt64.size with small | last
  · rw [Dispatch.succ_toNat small]
    omega
  · rcases h.succ_cases with same | next
    · rw [same] at bound ⊢
      omega
    · omega

theorem succ_eq_self_iff (h : InstanceHandle) : h.succ = h ↔ h.raw.toNat = UInt64.size - 1 := by
  have counted := h.toNat_succ
  refine ⟨fun same => ?_, fun last => h.succ_cases.resolve_right fun next => ?_⟩
  · rw [same] at counted
    omega
  · omega

end InstanceHandle

namespace Registry

variable {α : Type} {r : Registry α} {n : Nat}

/-! ### Runs -/

inductive Update (α : Type) where
  | insert (a : α)
  | erase (h : InstanceHandle)

def Update.isInsert : Update α → Bool
  | .insert _ => true
  | .erase _ => false

def apply (r : Registry α) : Update α → Registry α
  | .insert a => r.insert a
  | .erase h => r.erase h

/-- The registry after updates. -/
def after (r : Registry α) (updates : List (Update α)) : Registry α := updates.foldl apply r

/-- The handles that updates give to the values they put in, one after the other. -/
def handles (r : Registry α) : List (Update α) → List InstanceHandle
  | [] => []
  | .insert a :: updates => r.next :: (r.insert a).handles updates
  | .erase h :: updates => (r.erase h).handles updates

/-- How many values updates put in. -/
def inserts (updates : List (Update α)) : Nat := updates.countP (·.isInsert)

theorem inserts_insert (a : α) (updates : List (Update α)) :
    inserts (.insert a :: updates) = inserts updates + 1 :=
  List.countP_cons_of_pos rfl

theorem inserts_erase (h : InstanceHandle) (updates : List (Update α)) :
    inserts (.erase h :: updates) = inserts updates :=
  List.countP_cons_of_neg nofun

/-! ### How far a registry has counted -/

/-- A registry that `n` values were put into. -/
structure Counts (n : Nat) (r : Registry α) : Prop where
  next : r.next.raw.toNat = min (n + 2) (UInt64.size - 1)
  given : ∀ p ∈ r.entries, p.1.raw.toNat ≤ n + 1
  distinct : r.entries.Distinct

theorem Counts.new : Counts 0 ({} : Registry α) := ⟨rfl, by simp, .nil⟩

theorem Counts.insert (counts : Counts n r) (a : α) : Counts (n + 1) (r.insert a) where
  next := by
    rw [Registry.insert, InstanceHandle.toNat_succ, counts.next]
    omega
  given p member := by
    rcases Assoc.mem_of_mem_set member with rfl | earlier
    · exact counts.next ▸ Nat.min_le_left ..
    · exact Nat.le_succ_of_le (counts.given p earlier)
  distinct := counts.distinct.set

theorem Counts.erase (counts : Counts n r) (h : InstanceHandle) : Counts n (r.erase h) where
  next := counts.next
  given p member := counts.given p (List.mem_of_mem_filter member)
  distinct := counts.distinct.erase

theorem Counts.after (counts : Counts n r) (updates : List (Update α)) :
    Counts (n + inserts updates) (r.after updates) := by
  induction updates generalizing n r with
  | nil => exact counts
  | cons u updates ih =>
    cases u with
    | insert a =>
      rw [inserts_insert, Nat.add_comm _ 1, ← Nat.add_assoc]
      exact ih (counts.insert a)
    | erase h =>
      rw [inserts_erase]
      exact ih (counts.erase h)

theorem Counts.handles (counts : Counts n r) (updates : List (Update α)) :
    (r.handles updates).map (·.raw.toNat) =
      (List.range' (n + 1) (inserts updates)).map fun k => min (k + 1) (UInt64.size - 1) := by
  induction updates generalizing n r with
  | nil => rfl
  | cons u updates ih =>
    cases u with
    | insert a =>
      rw [Registry.handles, inserts_insert, List.range'_succ, List.map_cons, List.map_cons,
        counts.next, ih (counts.insert a)]
    | erase h =>
      rw [Registry.handles, inserts_erase, ih (counts.erase h)]

/-- No value has the next handle, until handles run out. -/
theorem Counts.fresh (counts : Counts n r) (few : n + 1 ≤ UInt64.size - 2) :
    r.get? r.next = none := by
  refine Assoc.get?_eq_none_iff.mpr fun p member same => ?_
  have below := counts.given p member
  rw [same, counts.next] at below
  omega

/-- The size is how many handles have a value. -/
theorem Counts.size (counts : Counts n r) :
    ∃ live : List InstanceHandle, live.Nodup ∧ live.length = r.size ∧
      ∀ h, h ∈ live ↔ (r.get? h).isSome := by
  refine ⟨r.entries.map Prod.fst, counts.distinct, List.length_map _, fun h => ?_⟩
  rw [← Option.ne_none_iff_isSome, Registry.get?, Ne, Assoc.get?_eq_none_iff, List.mem_map]
  push Not
  rfl

/-! ### What putting a value in does -/

theorem size_insert (r : Registry α) (a : α) :
    (r.insert a).size = if (r.get? r.next).isSome then r.size else r.size + 1 := by
  unfold size Registry.insert get?
  cases found : r.entries.get? r.next with
  | none => simp [Assoc.set_new found]
  | some b => simpa using congrArg List.length (Assoc.keys_set_of_get? (a := a) found)

/-- What it does to a registry to put the `k`-th value of a run into it. -/
structure Numbered (k : Nat) (r : Registry α) (a : α) : Prop where
  handle : r.next.raw.toNat = min (k + 1) (UInt64.size - 1)
  /-- The sum is one of natural numbers, so that the counter never wraps around. -/
  counter : (r.insert a).next.raw.toNat = min (r.next.raw.toNat + 1) (UInt64.size - 1)
  resolves : ∀ h, (r.insert a).get? h = if h = r.next then some a else r.get? h
  fresh : k ≤ UInt64.size - 2 → r.get? r.next = none ∧ (r.insert a).size = r.size + 1
  /-- When the value after this one has the same handle. -/
  again : (r.insert a).next = r.next ↔ UInt64.size - 2 ≤ k
  /-- A value that has the last handle makes room for the new one. -/
  last : UInt64.size - 1 ≤ k → r.next.raw.toNat = UInt64.size - 1 ∧
    (r.insert a).size = if (r.get? r.next).isSome then r.size else r.size + 1

theorem Counts.numbered (counts : Counts n r) (a : α) : Numbered (n + 1) r a where
  handle := counts.next
  counter := r.next.toNat_succ
  resolves h := by
    rw [get?_insert]
    exact if_congr eq_comm rfl rfl
  fresh few := by
    have unused := counts.fresh few
    refine ⟨unused, ?_⟩
    rw [size_insert, unused]
    rfl
  again := by
    rw [Registry.insert, InstanceHandle.succ_eq_self_iff, counts.next]
    omega
  last many := by
    refine ⟨?_, size_insert r a⟩
    rw [counts.next]
    omega

/-! ### Whole runs -/

theorem handles_proper (updates : List (Update α)) {h : InstanceHandle}
    (member : h ∈ handles {} updates) : h.raw ≠ 0 ∧ h ≠ .root := by
  have number : h.raw.toNat ∈ (handles {} updates).map (·.raw.toNat) :=
    List.mem_map_of_mem member
  rw [Counts.new.handles] at number
  obtain ⟨k, counted, same⟩ := List.mem_map.mp number
  have positive : 1 ≤ k := (List.mem_range'_1.mp counted).1
  refine ⟨h.ne_zero, ?_⟩
  rintro rfl
  rw [show InstanceHandle.root.raw.toNat = 1 from rfl, UInt64.size] at same
  omega

theorem handles_distinct (updates : List (Update α)) :
    ((handles {} updates).take (UInt64.size - 2)).Nodup := by
  refine List.Nodup.of_map (·.raw.toNat) ?_
  rw [List.map_take, Counts.new.handles, ← List.map_take]
  -- The numbers that are left are too small for the minimum to be anything but `k + 1`.
  refine List.Nodup.map_on (fun j first k second same => ?_)
    ((List.nodup_range' 1).sublist (List.take_sublist _ _))
  obtain ⟨x, small, rfl⟩ := List.mem_take_iff_getElem.mp first
  obtain ⟨y, small', rfl⟩ := List.mem_take_iff_getElem.mp second
  rw [List.getElem_range', List.getElem_range'] at same ⊢
  omega

/-- How a run numbers the values that it puts into a new registry. -/
structure Numbering (updates : List (Update α)) : Prop where
  handles : (handles {} updates).map (·.raw.toNat) =
    (List.range' 1 (inserts updates)).map fun k => min (k + 1) (UInt64.size - 1)
  proper : ∀ h ∈ Registry.handles {} updates, h.raw ≠ 0 ∧ h ≠ .root
  distinct : ((Registry.handles {} updates).take (UInt64.size - 2)).Nodup
  inserted : ∀ pre a post, updates = pre ++ .insert a :: post →
    Numbered (inserts pre + 1) (after {} pre) a
  /-- The counter does not go back for a handle that is taken out. -/
  erased : ∀ pre h post, updates = pre ++ .erase h :: post →
    ((after {} pre).erase h).next = (after {} pre).next ∧
      ∀ j, ((after {} pre).erase h).get? j = if h = j then none else (after {} pre).get? j
  size : ∃ live : List InstanceHandle, live.Nodup ∧ live.length = (after {} updates).size ∧
    ∀ h, h ∈ live ↔ ((after {} updates).get? h).isSome

/-- However values are put into a registry and handles taken out of it, the `k`-th value has the handle
`k + 1`, until handles run out: no handle is null or the root's or is given twice, and a new value
leaves the others alone. After that every value has the last handle and takes the place of the one
that has it still. -/
theorem run_numbered (updates : List (Update α)) : Numbering updates where
  handles := Counts.new.handles updates
  proper _ := handles_proper updates
  distinct := handles_distinct updates
  inserted pre a _ _ := by
    have counts := (Counts.new (α := α)).after pre
    rw [Nat.zero_add] at counts
    exact counts.numbered a
  erased pre h _ _ := ⟨next_erase _ h, get?_erase _ h⟩
  size := (Counts.new.after updates).size

/-- When as many values were put in as there are handles for them, the next one takes the place of the
one before. -/
theorem run_numbered_full :
    let r : Registry Bool := after {} (.replicate (UInt64.size - 2) (.insert false))
    r.get? r.next = some false ∧ (r.insert true).get? r.next = some true ∧
      (r.insert true).size = r.size := by
  intro r
  let full : List (Update Bool) := .replicate (UInt64.size - 2) (.insert false)
  let earlier : List (Update Bool) := .replicate (UInt64.size - 3) (.insert false)
  have counted (n : Nat) : inserts (List.replicate n (.insert false : Update Bool)) = n :=
    (List.countP_replicate ..).trans (if_pos rfl)
  have grown : full = earlier ++ [.insert false] := List.replicate_succ'
  have grows : r = (after {} earlier).insert false := by
    change after {} full = _
    rw [grown, after, List.foldl_append, List.foldl_cons, List.foldl_nil]
    rfl
  have numbering := run_numbered (full ++ [.insert true])
  have first := numbering.inserted earlier false [.insert true] (by
    rw [grown, List.append_assoc]
    rfl)
  have second := numbering.inserted full true [] rfl
  have same : r.next = (after {} earlier).next := by
    rw [grows]
    refine first.again.mpr ?_
    rw [counted]
    omega
  have held : r.get? r.next = some false := by
    rw [same, grows, first.resolves, if_pos rfl]
  have many : UInt64.size - 1 ≤ inserts full + 1 := by
    rw [counted]
    omega
  refine ⟨held, (second.resolves _).trans (if_pos rfl), (second.last many).2.trans (if_pos ?_)⟩
  exact Option.isSome_of_eq_some held

end Registry

end AddonBridge
