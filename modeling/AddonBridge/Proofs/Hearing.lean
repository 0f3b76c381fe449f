import Mathlib.Data.List.Nodup
import AddonBridge.Proofs.Maps
import AddonBridge.Proofs.Reentry
import AddonBridge.Proofs.Settling

/-!
# What roots and instances hear of

While a context is in use, nobody calls its root and its instances but the request that uses it,
whatever code runs meanwhile. For this every name must stand for one object only: a world is `Tidy`,
and calls keep it so. What a request tells the objects of its own context is then all that they hear
of, in the order in which it tells them; `Under` follows a request through its acts.
-/

namespace AddonBridge

open Act

variable {σ ν α : Type}

/-! ### Names -/

/-- The names of a root and of its live instances. -/
def Context.names (c : Context σ) : List ObjectId :=
  c.root.object :: c.instances.values.map (·.object)

namespace Context

variable {c : Context σ} {h : InstanceHandle} {i : Instance σ} {x : ObjectId}

theorem mem_names (found : c.instances.get? h = some i) : i.object ∈ c.names :=
  List.mem_cons_of_mem _ (List.mem_map_of_mem (List.mem_map_of_mem (Assoc.mem_of_get? found)))

theorem root_own (c : Context σ) (cb : Callback) : ∀ p ∈ [(c.root.object, cb)], p.1 ∈ c.names := by
  simp [names]

theorem names_erase (c : Context σ) (h : InstanceHandle) :
    { c with instances := c.instances.erase h }.names.Sublist c.names :=
  ((List.filter_sublist.map _).map _).cons_cons _

theorem count_names_insert (c : Context σ) (i : Instance σ) (x : ObjectId) :
    { c with instances := c.instances.insert i }.names.count x ≤
      c.names.count x + [i.object].count x := by
  have gathered (r : Registry (Instance σ)) :
      r.values.map (·.object) = r.entries.gather fun i => [i.object] := by
    rw [Registry.values, List.map_map, List.map_eq_flatMap]
    rfl
  have moved : ((c.instances.insert i).entries.gather fun i => [i.object]).count x +
      ((c.instances.get? c.instances.next).toList.flatMap fun i => [i.object]).count x =
        (c.instances.entries.gather fun i => [i.object]).count x + [i.object].count x :=
    Assoc.count_gather_set
  simp only [names, gathered, List.count_cons] at moved ⊢
  omega

theorem mem_names_insert (member : x ∈ { c with instances := c.instances.insert i }.names) :
    x ∈ c.names ∨ x = i.object := by
  have some := List.count_pos_iff.mpr member
  have bound := count_names_insert c i x
  by_cases old : x ∈ c.names
  · exact .inl old
  · rw [List.count_eq_zero.mpr old] at bound
    exact .inr (List.mem_singleton.mp (List.count_pos_iff.mp (by omega)))

theorem nodup_names_insert (distinct : c.names.Nodup) (new : i.object ∉ c.names) :
    { c with instances := c.instances.insert i }.names.Nodup := by
  refine List.nodup_iff_count_le_one.mpr fun x => Nat.le_trans (count_names_insert c i x) ?_
  have once := List.nodup_iff_count_le_one.mp distinct x
  by_cases same : x = i.object
  · subst same
    rw [List.count_eq_zero.mpr new]
    simp
  · rwa [List.count_eq_zero.mpr (show x ∉ [i.object] by simpa using same)]

end Context

/-! ### Callbacks -/

namespace Event

/-- The callback of one of some roots and instances, if the event is one. -/
def call? (among : List ObjectId) : Event ν → Option (ObjectId × Callback)
  | .called o cb => if o ∈ among then some (o, cb) else none
  | _ => none

theorem IsTalk.call? {e : Event ν} (h : e.IsTalk) (among : List ObjectId) : e.call? among = none := by
  cases e <;> first | rfl | exact h.elim

end Event

namespace World

variable {exempt : Option Seat} {seat : Seat} {c : Context σ} {w u v : World σ ν} {x o : ObjectId}
  {among : List ObjectId} {calls more : List (ObjectId × Callback)} {j k : Option Stop}

/-- The callbacks that some roots and instances had between two worlds, the first one first. -/
def Hears (among : List ObjectId) (w u : World σ ν) (calls : List (ObjectId × Callback)) : Prop :=
  ∃ es, u.trace = es ++ w.trace ∧ es.filterMap (Event.call? among) = calls.reverse

theorem Hears.trans (first : Hears among w u calls) (second : Hears among u v more) :
    Hears among w v (calls ++ more) := by
  obtain ⟨es, before, heard⟩ := first
  obtain ⟨es', after, heard'⟩ := second
  refine ⟨es' ++ es, by rw [after, before, List.append_assoc], ?_⟩
  rw [List.filterMap_append, heard, heard', List.reverse_append]

theorem Hears.refl (w : World σ ν) : Hears among w w [] := ⟨[], rfl, rfl⟩

theorem Hears.silent {es : List (Event ν)} (grown : u.trace = es ++ w.trace)
    (silent : ∀ e ∈ es, e.call? among = none) : Hears among w u [] :=
  ⟨es, grown, List.filterMap_eq_nil_iff.mpr silent⟩

/-- Some objects hear of nothing when none of them does. -/
theorem Hears.of_each (grown : w.trace <:+ u.trace) (each : ∀ x ∈ among, Hears [x] w u []) :
    Hears among w u [] := by
  obtain ⟨es, grown⟩ := grown
  refine .silent grown.symm fun e member => ?_
  cases e with
  | called o cb =>
    rw [Event.call?, if_neg]
    intro heard
    obtain ⟨es', grown', silent⟩ := each o heard
    cases List.append_cancel_right (grown'.symm.trans grown.symm)
    have := List.filterMap_eq_nil_iff.mp silent _ member
    simp [Event.call?] at this
  | _ => rfl

/-- Every name in a context was given out, and stands for one object. -/
structure Tidy (w : World σ ν) : Prop where
  numbered : ∀ seat c, w.contexts.get? seat = some c → ∀ x ∈ c.names, x.number < w.made x.table
  distinct : ∀ seat c, w.contexts.get? seat = some c → c.names.Nodup
  apart : ∀ s s' c c' x, w.contexts.get? s = some c → w.contexts.get? s' = some c' →
    x ∈ c.names → x ∈ c'.names → s = s'

/-- A name was given out and is in no context. -/
structure Reserves (w : World σ ν) (x : ObjectId) : Prop where
  named : x.number < w.made x.table
  vacant : ∀ seat c, w.contexts.get? seat = some c → x ∉ c.names

/-- No call comes across an object: it is in a context in use, other than one that is exempt, or in
none. -/
def Guards (exempt : Option Seat) (w : World σ ν) (x : ObjectId) : Prop :=
  w.Reserves x ∨ ∃ seat c, w.Holds seat ∧ exempt ≠ some seat ∧ w.contexts.get? seat = some c ∧
    x ∈ c.names

theorem Guards.weaken (h : Guards exempt w x) : Guards none w x := by
  obtain reserved | ⟨seat, c, held, -, here, member⟩ := h
  · exact .inl reserved
  · exact .inr ⟨seat, c, held, by simp, here, member⟩

theorem Tidy.same (tidy : w.Tidy) (contexts : u.contexts = w.contexts) (made : u.made = w.made) :
    u.Tidy where
  numbered seat c here := made ▸ tidy.numbered seat c (contexts ▸ here)
  distinct seat c here := tidy.distinct seat c (contexts ▸ here)
  apart s s' c c' x here there := tidy.apart s s' c c' x (contexts ▸ here) (contexts ▸ there)

theorem Reserves.same (reserved : w.Reserves x) (contexts : u.contexts = w.contexts)
    (made : u.made = w.made) : u.Reserves x where
  named := made ▸ reserved.named
  vacant seat c here := reserved.vacant seat c (contexts ▸ here)

/-- One context without instances. -/
theorem Tidy.lone {root : Root} (only : w.contexts = [(seat, { root })])
    (named : root.object.number < w.made root.object.table) : w.Tidy := by
  have alone : ∀ s c x, w.contexts.get? s = some c → x ∈ c.names →
      seat = s ∧ c = { root } ∧ x = root.object := by
    intro s c x here member
    rw [only, Assoc.get?_cons] at here
    split at here
    · next same =>
      cases here
      exact ⟨same, rfl, List.mem_singleton.mp member⟩
    · contradiction
  refine ⟨fun s c here x member => ?_, fun s c here => ?_,
    fun s s' c c' x here there member member' => ?_⟩
  · obtain ⟨-, -, rfl⟩ := alone s c x here member
    exact named
  · obtain ⟨-, rfl, -⟩ := alone s c _ here List.mem_cons_self
    exact List.nodup_singleton _
  · exact (alone s c x here member).1.symm.trans (alone s' c' x there member').1
/-- A context may come into a seat: its names are distinct, and each is in that seat already or was
given out and is in none. -/
structure Admits (w : World σ ν) (seat : Seat) (c : Context σ) : Prop where
  distinct : c.names.Nodup
  names : ∀ x ∈ c.names,
    (∃ old, w.contexts.get? seat = some old ∧ x ∈ old.names) ∨ w.Reserves x

theorem Admits.elsewhere {d : Context σ} {s : Seat} (admits : w.Admits seat c) (tidy : w.Tidy)
    (other : seat ≠ s) (there : w.contexts.get? s = some d) (member : x ∈ c.names) : x ∉ d.names := by
  rcases admits.names x member with ⟨old, here, within⟩ | reserved
  · exact fun held => other (tidy.apart seat s old d x here there within held)
  · exact reserved.vacant s d there

theorem Tidy.set (tidy : w.Tidy) (admits : w.Admits seat c) :
    Tidy { w with contexts := w.contexts.set seat c } where
  numbered s d found x member := by
    rcases Assoc.get?_set_cases found with ⟨-, rfl⟩ | ⟨-, there⟩
    · rcases admits.names x member with ⟨old, here, within⟩ | reserved
      · exact tidy.numbered seat old here x within
      · exact reserved.named
    · exact tidy.numbered s d there x member
  distinct s d found := by
    rcases Assoc.get?_set_cases found with ⟨-, rfl⟩ | ⟨-, there⟩
    · exact admits.distinct
    · exact tidy.distinct s d there
  apart s s' d d' x found found' member member' := by
    rcases Assoc.get?_set_cases found with ⟨rfl, rfl⟩ | ⟨other, there⟩ <;>
      rcases Assoc.get?_set_cases found' with ⟨same, rfl⟩ | ⟨other', there'⟩
    · exact same
    · exact absurd member' (admits.elsewhere tidy other' there' member)
    · exact absurd member (admits.elsewhere tidy (same ▸ other) there member')
    · exact tidy.apart s s' d d' x there there' member member'

theorem Reserves.set (reserved : w.Reserves x) (away : x ∉ c.names) :
    Reserves { w with contexts := w.contexts.set seat c } x where
  named := reserved.named
  vacant s d found := by
    rcases Assoc.get?_set_cases found with ⟨-, rfl⟩ | ⟨-, there⟩
    · exact away
    · exact reserved.vacant s d there

/-- A name that leaves a context in use with an update is in none then. -/
theorem Guards.set (guarded : Guards none w x) (tidy : w.Tidy) (held : w.Holds seat) :
    Guards none { w with contexts := w.contexts.set seat c } x := by
  by_cases inside : x ∈ c.names
  · exact .inr ⟨seat, c, held, by simp, by simp [Assoc.get?_set], inside⟩
  rcases guarded with reserved | ⟨s, d, inUse, -, there, within⟩
  · exact .inl (reserved.set inside)
  by_cases same : seat = s
  · subst same
    refine .inl ⟨tidy.numbered seat d there x within, fun s e found => ?_⟩
    rcases Assoc.get?_set_cases found with ⟨-, rfl⟩ | ⟨other, elsewhere⟩
    · exact inside
    · exact fun member => other (tidy.apart seat s d e x there elsewhere within member)
  · exact .inr ⟨s, d, inUse, by simp, by simpa [Assoc.get?_set, same] using there, within⟩

/-- What a call does to a tidy world: it stays tidy, and what no call comes across hears of nothing. -/
structure Hushes (exempt : Option Seat) (w : World σ ν) (k : Option Stop) (u : World σ ν) : Prop where
  tidy : k ≠ some .aborted → u.Tidy
  reserves : k ≠ some .aborted → ∀ x, w.Reserves x → u.Reserves x
  hears : w.trace <:+ u.trace ∧ ∀ x, Guards exempt w x → w.Hears [x] u []

end World

open World

/-- Contexts in use are left as they were and hear of nothing, but for the one in an exempt seat. -/
structure Hushing (exempt : Option Seat) (w : World σ ν) (k : Option Stop) (u : World σ ν) : Prop where
  spares : k ≠ some .aborted → Spares exempt w u
  hushes : w.Tidy → (∀ seat, exempt = some seat → w.Holds seat) → Hushes exempt w k u

namespace Hushing

variable {exempt : Option Seat} {seat : Seat} {c : Context σ} {w u v : World σ ν} {x o : ObjectId}
  {j k : Option Stop}

theorem hushed (h : Hushing none w k u) (tidy : w.Tidy) : Hushes none w k u :=
  h.hushes tidy (by simp)

theorem guards (h : Hushing exempt w k u) (going : k ≠ some .aborted) (tidy : w.Tidy)
    (held : ∀ seat, exempt = some seat → w.Holds seat) (guarded : Guards exempt w x) :
    Guards exempt u x := by
  obtain reserved | ⟨seat, c, inUse, other, here, member⟩ := guarded
  · exact .inl ((h.hushes tidy held).reserves going x reserved)
  · have spares := h.spares going
    exact .inr ⟨seat, c, inUse.of_busy spares.busy, other,
      (spares.contexts seat inUse other).trans here, member⟩

theorem trans (first : Hushing exempt w j u) (going : j ≠ some .aborted)
    (second : Hushing exempt u k v) : Hushing exempt w k v where
  spares live := (first.spares going).trans (second.spares live)
  hushes tidy held := by
    have before := first.hushes tidy held
    have after := second.hushes (before.tidy going) fun seat same =>
      (held seat same).of_busy (first.spares going).busy
    refine ⟨after.tidy, fun live x reserved => after.reserves live x (before.reserves going x reserved),
      before.hears.1.trans after.hears.1, fun x guarded => ?_⟩
    exact (before.hears.2 x guarded).trans (after.hears.2 x (first.guards going tidy held guarded))

theorem relax (h : Hushing exempt w j u) (going : k ≠ some .aborted → j ≠ some .aborted) :
    Hushing exempt w k u where
  spares live := h.spares (going live)
  hushes tidy held :=
    have hushed := h.hushes tidy held
    ⟨fun live => hushed.tidy (going live), fun live => hushed.reserves (going live), hushed.hears⟩

/-- Nothing happens to contexts, and there is no callback. -/
theorem quiet {l : List (Event ν)} (contexts : u.contexts = w.contexts) (busy : u.busy = w.busy)
    (locations : u.locations = w.locations) (made : ∀ t, w.made t ≤ u.made t) (grown : u.trace = l ++ w.trace)
    (silent : ∀ e ∈ l, ∀ among, e.call? among = none) : Hushing exempt w k u where
  spares _ := ⟨busy, locations, ⟨l, grown.symm⟩, fun _ _ _ => by rw [contexts]⟩
  hushes tidy _ := by
    refine ⟨fun _ => ⟨?_, ?_, ?_⟩, fun _ x reserved => ⟨?_, ?_⟩, ⟨l, grown.symm⟩, fun x _ =>
      .silent grown fun e member => silent e member [x]⟩
    · intro seat c here x member
      exact Nat.lt_of_lt_of_le (tidy.numbered seat c (contexts ▸ here) x member) (made _)
    · exact fun seat c here => tidy.distinct seat c (contexts ▸ here)
    · exact fun s s' c c' x here there => tidy.apart s s' c c' x (contexts ▸ here) (contexts ▸ there)
    · exact Nat.lt_of_lt_of_le reserved.named (made _)
    · exact fun seat c here => reserved.vacant seat c (contexts ▸ here)

theorem same (contexts : u.contexts = w.contexts) (busy : u.busy = w.busy)
    (locations : u.locations = w.locations) (made : u.made = w.made) (trace : u.trace = w.trace) :
    Hushing exempt w k u :=
  .quiet (l := []) contexts busy locations (fun t => made ▸ Nat.le_refl _) trace (by simp)

theorem refl (w : World σ ν) : Hushing exempt w k w := .same rfl rfl rfl rfl rfl

theorem record {e : Event ν} (silent : ∀ among, e.call? among = none) :
    Hushing exempt w k { w with trace := e :: w.trace } :=
  .quiet (l := [e]) rfl rfl rfl (fun _ => Nat.le_refl _) rfl (by simpa using silent)

theorem idle (idle : w.Idle u) : Hushing exempt w none u := by
  obtain ⟨talk, grown, quiet⟩ := idle.trace
  exact .quiet idle.contexts idle.busy idle.locations (fun t => idle.made ▸ Nat.le_refl _) grown
    fun e member among => (quiet e member).call? among

theorem law : Law (Hushing exempt : Change σ ν) where
  refl := refl
  trans first second := first.trans returned_ne second
  cleanup first second := (first.trans (by simp) second).relax fun _ => returned_ne
  cleanup_aborted first second := first.trans (by simp) second
  caught h _ := h.relax fun _ => by simp
  fatal h := h.relax fun going => absurd rfl going

theorem weaken (h : Hushing none w k u) : Hushing exempt w k u where
  spares live := (h.spares live).weaken
  hushes tidy _ :=
    have hushed := h.hushed tidy
    ⟨hushed.tidy, hushed.reserves, hushed.hears.1, fun x guarded => hushed.hears.2 x guarded.weaken⟩

/-- What was going on while a slot was not in use is as good while it is, but for that slot. -/
theorem enter {m : String} (h : Hushing none w k u) :
    Hushing (some (.module m)) (w.inUse m) k (u.inUse m) where
  spares live := by
    have spares := h.spares live
    exact ⟨congrArg (m :: ·) spares.busy, spares.locations, spares.trace, fun seat held other =>
      spares.contexts seat (held.of_inUse other) (by simp)⟩
  hushes tidy _ := by
    have hushed := h.hushed (tidy.same rfl rfl)
    refine ⟨fun live => (hushed.tidy live).same rfl rfl, fun live x reserved =>
      (hushed.reserves live x (reserved.same rfl rfl)).same rfl rfl, hushed.hears.1,
      fun x guarded => hushed.hears.2 x ?_⟩
    obtain reserved | ⟨seat, c, held, other, here, member⟩ := guarded
    · exact .inl (reserved.same rfl rfl)
    · exact .inr ⟨seat, c, held.of_inUse other, by simp, here, member⟩

/-- What was going on while a slot was in use comes to this when it is not in use any more. -/
theorem release {m : String} {busy : List String} (free : m ∉ w.busy)
    (h : Hushing (some (.module m)) (w.inUse m) k u)
    (left : k ≠ some .aborted → busy = u.busy.erase m) : Hushing none w k { u with busy } where
  spares live := by
    rw [left live]
    exact (h.spares live).release free
  hushes tidy _ := by
    have hushed := h.hushes (tidy.same rfl rfl) (by
      rintro _ ⟨⟩
      exact List.mem_cons_self)
    refine ⟨fun live => (hushed.tidy live).same rfl rfl, fun live x reserved =>
      (hushed.reserves live x (reserved.same rfl rfl)).same rfl rfl, hushed.hears.1,
      fun x guarded => hushed.hears.2 x ?_⟩
    obtain reserved | ⟨seat, c, held, -, here, member⟩ := guarded
    · exact .inl (reserved.same rfl rfl)
    · refine .inr ⟨seat, c, held.inUse m, ?_, here, member⟩
      rintro ⟨⟩
      exact free held

theorem releases : Releases (Hushing none : Change σ ν) fun m => Hushing (some (.module m)) where
  held _ _ _ _ free _ h := h.release free fun _ => rfl
  halted _ _ _ free h := h.release free fun live => absurd rfl live

/-- What locations hold is nobody's business but of the calls that were given them. -/
theorem moved {before after : String → List (Option UInt64)}
    (h : Hushing none { w with locations := before } k u)
    (spares : k ≠ some .aborted → Spares none w { u with locations := after }) :
    Hushing none w k { u with locations := after } where
  spares := spares
  hushes tidy held := by
    have hushed := h.hushed (tidy.same rfl rfl)
    refine ⟨fun live => (hushed.tidy live).same rfl rfl, fun live x reserved =>
      (hushed.reserves live x (reserved.same rfl rfl)).same rfl rfl, hushed.hears.1,
      fun x guarded => hushed.hears.2 x ?_⟩
    obtain reserved | inUse := guarded
    · exact .inl (reserved.same rfl rfl)
    · exact .inr inUse

theorem locates : Locates (Hushing none : Change σ ν) where
  left _ _ _ _ h := moved h fun live => (h.spares live).located
  halted _ _ w u h := by
    show Hushing none w (some .aborted) { u with locations := u.locations }
    exact moved h fun live => absurd rfl live

theorem holding {m : String} {act : Act σ ν α} (free : m ∉ w.busy)
    (h : Ensures act (u.inUse m) (fun _ v => Hushing (some (.module m)) (w.inUse m) none v)
      fun e v => Hushing (some (.module m)) (w.inUse m) (some e) v) :
    Ensures (Act.holding m act) u (fun _ v => Hushing none w none v)
      fun e v => Hushing none w (some e) v := by
  rw [ensures_holding]
  refine h.mono (fun _ v hushed => hushed.release free fun _ => rfl) fun e v hushed => ?_
  cases e with
  | aborted => exact hushed.release free fun going => absurd rfl going
  | unwinding q => exact hushed.release free fun _ => rfl

/-- A seat in use takes a context whose names were given out meanwhile. -/
theorem place {c : Context σ} (h : Hushing (some seat) w none u) (distinct : c.names.Nodup)
    (unused : ∀ x ∈ c.names, ¬w.Reserves x) (reserved : w.Tidy → ∀ x ∈ c.names, u.Reserves x) :
    Hushing (some seat) w none { u with contexts := u.contexts.set seat c } where
  spares _ := (h.spares returned_ne).trans .set
  hushes tidy held := by
    have hushed := h.hushes tidy held
    refine ⟨fun _ => (hushed.tidy returned_ne).set ⟨distinct, fun x member => .inr (reserved tidy x member)⟩,
      fun _ x kept => ?_, hushed.hears⟩
    exact (hushed.reserves returned_ne x kept).set fun member => unused x member kept

/-- A slot that is not in use may lose its context. -/
theorem emptied {m : String} (free : m ∉ w.busy) :
    Hushing none w none { w with contexts := w.contexts.erase (.module m) } where
  spares _ := by
    refine ⟨rfl, rfl, List.suffix_rfl, fun seat held _ => ?_⟩
    dsimp only
    rw [Assoc.get?_erase, if_neg]
    rintro rfl
    exact free held
  hushes tidy _ := by
    have before {s : Seat} {c : Context σ} (here : (w.contexts.erase (.module m)).get? s = some c) :
        w.contexts.get? s = some c := by
      rw [Assoc.get?_erase] at here
      split at here
      · contradiction
      · exact here
    refine ⟨fun _ => ⟨?_, ?_, ?_⟩, fun _ x reserved => ⟨reserved.named, ?_⟩, List.suffix_rfl,
      fun x _ => .refl w⟩
    · exact fun s c here => tidy.numbered s c (before here)
    · exact fun s c here => tidy.distinct s c (before here)
    · exact fun s s' c c' x here there => tidy.apart s s' c c' x (before here) (before there)
    · exact fun s c here => reserved.vacant s c (before here)

end Hushing

/-! ### Code and the end of objects -/

/-- The nested calls of an environment leave contexts in use as they were, and tell their objects
nothing. -/
structure Env.Hushes (env : Env σ ν) : Prop where
  spares : env.Spares
  nested : ∀ c, Obeys (Hushing none) (env.nested c)

variable {env : Env σ ν}

theorem Env.Hushes.keeps (hushes : env.Hushes) : env.Keeps (Hushing none) {} where
  law := Hushing.law
  talk _ _ := .idle
  panic _ _ w := .refl w
  modules := Modules.follow_free env.modules
  nested c _ := hushes.nested c
  quiet := hushes.spares.quiet

namespace Dispatch

theorem record_hushes {e : Event ν} (silent : ∀ among, e.call? among = none) :
    Obeys (Hushing none) (Act.record e : Act σ ν Unit) :=
  fun _ => .record silent

theorem dropInstance_hushes (hushes : env.Hushes) (site : Site) (i : Instance σ) :
    Obeys (Hushing none) (dropInstance env site i) :=
  .bind Hushing.law (record_hushes fun _ => rfl) fun _ =>
    Env.lastly_obeys hushes.keeps _ (Program.all_true _)

theorem dropInstances_hushes (hushes : env.Hushes) (site : Site) (is : List (Instance σ)) :
    Obeys (Hushing none) (dropInstances env site is) := by
  induction is with
  | nil => exact .pure Hushing.law ()
  | cons i is ih => exact .bind Hushing.law (dropInstance_hushes hushes site i) fun _ => ih

theorem dropRoot_hushes (hushes : env.Hushes) (r : Root) :
    Obeys (Hushing none) (dropRoot env r) :=
  .bind Hushing.law (record_hushes fun _ => rfl) fun _ =>
    Env.lastly_obeys hushes.keeps _ (Program.all_true _)

theorem dropContext_hushes (hushes : env.Hushes) (c : Context σ) :
    Obeys (Hushing none) (dropContext env c) :=
  .after Hushing.law (dropInstances_hushes hushes _ _) (dropRoot_hushes hushes _)
    (dropRoot_quiet hushes.spares.quiet _)

theorem destroy_hushes (hushes : env.Hushes) (c : Context σ) :
    Obeys (Hushing none) (destroy env c) :=
  .ite (.bind Hushing.law (Log.debug_talks.obeys hushes.keeps.talk) fun _ =>
    dropContext_hushes hushes c) (dropContext_hushes hushes c)

theorem Offer.drop_hushes (hushes : env.Hushes) (site : Site) (o : Offer σ) :
    Obeys (Hushing none) (o.drop env site) := by
  rw [Offer.drop_eq]
  split
  · exact dropInstance_hushes hushes site _
  · exact .pure Hushing.law ()

theorem raise_hushes (d : Defect) : Obeys (Hushing none) (Log.raise d : Act σ ν α) :=
  .bind Hushing.law (record_hushes fun _ => rfl) fun _ =>
    .bind Hushing.law (Log.error_talks.obeys fun _ _ => .idle) fun _ => fun w => .refl w

/-! ### A request to a context in use -/

variable {seat : Seat} {c c' : Context σ} {among : List ObjectId} {w u v : World σ ν}
  {calls : List (ObjectId × Callback)} {j k : Option Stop} {o : ObjectId}

/-- The world in which a request to a context in use goes on, and some objects that no other call
comes across. -/
structure Ongoing (seat : Seat) (c : Context σ) (among : List ObjectId) (w u : World σ ν) : Prop where
  spares : Spares (some seat) w u
  tidy : u.Tidy
  reserves : ∀ x, w.Reserves x → u.Reserves x
  guards : ∀ x ∈ among, Guards none u x
  held : u.Holds seat
  here : u.contexts.get? seat = some c

/-- What a request to a context in use has come to: unless it was aborted it goes on, and what some
objects heard of are those of its calls that are theirs. -/
structure Under (seat : Seat) (c : Context σ) (among : List ObjectId) (w : World σ ν)
    (calls : List (ObjectId × Callback)) (k : Option Stop) (u : World σ ν) : Prop where
  going : k ≠ some .aborted → Ongoing seat c among w u
  hears : w.Hears among u (calls.filter (·.1 ∈ among))

namespace Under

theorem start (tidy : w.Tidy) (held : w.Holds seat) (here : w.contexts.get? seat = some c)
    (guards : ∀ x ∈ among, Guards none w x) : Under seat c among w [] none w :=
  ⟨fun _ => ⟨.refl w, tidy, fun _ => id, guards, held, here⟩, .refl w⟩

theorem ongoing (h : Under seat c among w calls none u) : Ongoing seat c among w u := h.going returned_ne

theorem restart (h : Under seat c among w calls none u) : Under seat c among u [] none u :=
  .start h.ongoing.tidy h.ongoing.held h.ongoing.here h.ongoing.guards

/-- Other code runs. -/
theorem continues (h : Under seat c among w calls j u) (live : j ≠ some .aborted)
    (next : Hushing none u k v) : Under seat c among w calls k v := by
  have before := h.going live
  have hushed := next.hushed before.tidy
  refine ⟨fun live => ?_, ?_⟩
  · have spares := next.spares live
    exact ⟨before.spares.trans spares.weaken, hushed.tidy live,
      fun x reserved => hushed.reserves live x (before.reserves x reserved),
      fun x member => next.guards live before.tidy (by simp) (before.guards x member),
      before.held.of_busy spares.busy, spares.stays before.held before.here⟩
  · have silent := Hears.of_each hushed.hears.1 fun x member =>
      hushed.hears.2 x (before.guards x member)
    simpa using h.hears.trans silent

theorem runs {act : Act σ ν α} (h : Under seat c among w calls none u)
    (hushes : Obeys (Hushing none) act) :
    Ensures act u (fun _ v => Under seat c among w calls none v)
      fun e v => Under seat c among w calls (some e) v :=
  (hushes u).mono (fun _ _ => h.continues returned_ne) fun _ _ => h.continues returned_ne

/-- The request makes a call. -/
theorem called (h : Under seat c among w calls none u) (o : ObjectId) (cb : Callback) :
    Under seat c among w (calls ++ [(o, cb)]) none { u with trace := .called o cb :: u.trace } := by
  have before := h.ongoing
  refine ⟨fun _ => ⟨?_, before.tidy.same rfl rfl, fun x reserved =>
    (before.reserves x reserved).same rfl rfl, fun x member => ?_, before.held, before.here⟩, ?_⟩
  · exact before.spares.trans ⟨rfl, rfl, List.suffix_cons _ _, fun _ _ _ => rfl⟩
  · exact (before.guards x member).imp (·.same rfl rfl) id
  · rw [List.filter_append]
    refine h.hears.trans ⟨[.called o cb], rfl, ?_⟩
    by_cases member : o ∈ among <;> simp [Event.call?, member]

/-- The request changes its context, which may take in names that were given out meanwhile. -/
theorem reseat (h : Under seat c among w calls none u) (c' : Context σ) (distinct : c'.names.Nodup)
    (names : ∀ x ∈ c'.names, x ∈ c.names ∨ ¬w.Reserves x ∧ u.Reserves x) :
    Under seat c' among w calls none { u with contexts := u.contexts.set seat c' } := by
  have before := h.ongoing
  have admits : u.Admits seat c' :=
    ⟨distinct, fun x member => (names x member).imp (⟨c, before.here, ·⟩) And.right⟩
  refine ⟨fun _ => ⟨before.spares.trans .set, before.tidy.set admits, fun x reserved => ?_,
    fun x member => (before.guards x member).set before.tidy before.held, before.held,
    by simp [Assoc.get?_set]⟩, h.hears⟩
  have kept := before.reserves x reserved
  refine kept.set fun member => ?_
  rcases names x member with old | ⟨new, -⟩
  · exact kept.vacant seat c before.here old
  · exact new reserved

theorem trans {more : List (ObjectId × Callback)} (first : Under seat c among w calls none u)
    (second : Under seat c' among u more k v) : Under seat c' among w (calls ++ more) k v := by
  have before := first.ongoing
  refine ⟨fun live => ?_, ?_⟩
  · have after := second.going live
    exact { after with
      spares := before.spares.trans after.spares
      reserves := fun x reserved => after.reserves x (before.reserves x reserved) }
  · rw [List.filter_append]
    exact first.hears.trans second.hears

theorem relax (h : Under seat c among w calls j u) (live : k ≠ some .aborted → j ≠ some .aborted) :
    Under seat c among w calls k u :=
  ⟨fun going => h.going (live going), h.hears⟩

theorem aborted (h : Under seat c among w calls (some .aborted) u) :
    Under seat c' among w calls (some .aborted) u :=
  ⟨fun live => absurd rfl live, h.hears⟩

end Under

end Dispatch

end AddonBridge
