import AddonBridge.Proofs.Chronicle
import AddonBridge.Proofs.Maps
import AddonBridge.Proofs.Reentry

/-!
# Who owns a root or an instance

Everything that was born is in a context, on its way, or gone, and in one place only. `Owned` says so,
relative to what the acts around the present one hold on to, together with what is needed to see that
nothing goes too early and no callback comes too late.
-/

namespace AddonBridge

open Trace

variable {σ ν : Type}

def Registry.things (r : Registry (Instance σ)) : List Thing :=
  r.entries.gather fun i => [.instance i.object]

theorem Registry.things_eq (r : Registry (Instance σ)) :
    r.things = r.values.map fun i => .instance i.object := by
  rw [Registry.values, List.map_map, List.map_eq_flatMap]
  rfl

def Context.things (c : Context σ) : List Thing := .root c.root.object :: c.instances.things

theorem Context.root_of_mem {c : Context σ} {r : ObjectId} (h : .root r ∈ c.things) :
    r = c.root.object := by
  simpa [Context.things, Registry.things_eq] using h

theorem Context.mem_things {c : Context σ} {h : InstanceHandle} {i : Instance σ}
    (here : c.instances.get? h = some i) : .instance i.object ∈ c.things :=
  List.mem_cons_of_mem _ (Assoc.mem_gather here List.mem_cons_self)

theorem Context.count_insert (c : Context σ) (i : Instance σ) (x : Thing) :
    { c with instances := c.instances.insert i }.things.count x +
      ((c.instances.get? c.instances.next).toList.flatMap fun i => [.instance i.object]).count x =
        c.things.count x + [Thing.instance i.object].count x := by
  have moved : (c.instances.insert i).things.count x +
      ((c.instances.get? c.instances.next).toList.flatMap fun i => [.instance i.object]).count x =
        c.instances.things.count x + [Thing.instance i.object].count x := Assoc.count_gather_set
  simp only [Context.things, List.count_cons] at moved ⊢
  omega

theorem Context.count_erase {c : Context σ} {h : InstanceHandle} {i : Instance σ}
    (distinct : c.instances.entries.Distinct) (here : c.instances.get? h = some i) (x : Thing) :
    { c with instances := c.instances.erase h }.things.count x + [Thing.instance i.object].count x =
      c.things.count x := by
  have moved : (c.instances.erase h).things.count x + [Thing.instance i.object].count x =
      c.instances.things.count x := Assoc.count_gather_erase distinct here
  simp only [Context.things, List.count_cons] at moved ⊢
  omega

def housing (cs : Assoc Seat (Context σ)) : List Thing := cs.gather Context.things

section housing

variable {cs : Assoc Seat (Context σ)} {seat : Seat} {c : Context σ} {x : Thing}

theorem mem_housing (h : cs.get? seat = some c) (member : x ∈ c.things) : x ∈ housing cs :=
  Assoc.mem_gather h member

theorem count_housing_set (cs : Assoc Seat (Context σ)) (seat : Seat) (c : Context σ) (x : Thing) :
    (housing (cs.set seat c)).count x +
    ((cs.get? seat).toList.flatMap Context.things).count x =
      (housing cs).count x + c.things.count x :=
  Assoc.count_gather_set

theorem count_housing_erase (distinct : cs.Distinct) (h : cs.get? seat = some c) :
    (housing (cs.erase seat)).count x + c.things.count x = (housing cs).count x :=
  Assoc.count_gather_erase distinct h

end housing

/-- What the acts around the present one hold on to: what is on its way, the roots whose slots are in
use, those that were not told yet that they are created, and names given to nothing so far. -/
structure Frame where
  flying : List Thing := []
  guarded : List ObjectId := []
  waiting : List ObjectId := []
  reserved : List ObjectId := []

structure Owned (f : Frame) (w : World σ ν) : Prop where
  balance : ∀ x, (housing w.contexts).count x + f.flying.count x + (gone w.trace).count x =
    (born w.trace).count x
  distinct : (names w.trace).Nodup
  numbers : ∀ x ∈ born w.trace, x.name.number < w.made x.name.table
  reserved : ∀ o ∈ f.reserved, o.number < w.made o.table ∧ o ∉ names w.trace
  seats : w.contexts.Distinct
  handles : ∀ seat c, w.contexts.get? seat = some c → c.instances.entries.Distinct
  /-- What is in a context goes back to its root. -/
  kin : ∀ seat c, w.contexts.get? seat = some c → ∀ x ∈ c.things,
    rootOf w.trace x.name = c.root.object
  flying : ∀ x ∈ f.flying, rootOf w.trace x.name ∈ f.guarded
  /-- A root that is guarded is in no slot that a call could use. -/
  unguarded : ∀ seat c, w.contexts.get? seat = some c → ¬w.Holds seat → c.root.object ∉ f.guarded
  waiting : ∀ r ∈ f.waiting, .root r ∈ born w.trace ∧ callbacks w.trace r = []
  started : ∀ r, .installed r ∈ w.trace → r ∈ f.waiting ∨ Started w.trace r
  orderly : Orderly w.trace

namespace Owned

variable {f : Frame} {w u : World σ ν} {seat : Seat} {c c' : Context σ} {x y : Thing} {o r : ObjectId}

theorem born_once (owned : Owned f w) (x : Thing) : (born w.trace).count x ≤ 1 :=
  List.nodup_iff_count_le_one.mp (List.Nodup.of_map _ owned.distinct) x

/-! ### One place at a time -/

theorem of_housed (owned : Owned f w) (h : x ∈ housing w.contexts) :
    x ∈ born w.trace ∧ x ∉ gone w.trace ∧ x ∉ f.flying := by
  have here := List.count_pos_iff.mpr h
  have sum := owned.balance x
  have once := owned.born_once x
  exact ⟨List.count_pos_iff.mp (by omega), List.count_eq_zero.mp (by omega),
    List.count_eq_zero.mp (by omega)⟩

theorem of_flying (owned : Owned f w) (h : x ∈ f.flying) : x ∈ born w.trace ∧ x ∉ gone w.trace := by
  have here := List.count_pos_iff.mpr h
  have sum := owned.balance x
  have once := owned.born_once x
  exact ⟨List.count_pos_iff.mp (by omega), List.count_eq_zero.mp (by omega)⟩

theorem of_gone (owned : Owned f w) (h : x ∈ gone w.trace) : x ∈ born w.trace := by
  have here := List.count_pos_iff.mpr h
  have sum := owned.balance x
  exact List.count_pos_iff.mp (by omega)

theorem alive (owned : Owned f w) (h : x ∈ housing w.contexts) :
    x.name ∈ names w.trace ∧ x.name ∉ (gone w.trace).map Thing.name := by
  obtain ⟨birth, stays, -⟩ := owned.of_housed h
  refine ⟨mem_names birth, fun member => ?_⟩
  obtain ⟨y, went, same⟩ := List.mem_map.mp member
  exact stays (eq_of_name owned.distinct (owned.of_gone went) birth same ▸ went)

theorem same_seat (owned : Owned f w) {s : Seat} (here : w.contexts.get? seat = some c)
    (there : w.contexts.get? s = some c') (hx : x ∈ c.things) (hx' : x ∈ c'.things) : seat = s := by
  by_contra other
  have sum := owned.balance x
  have once := owned.born_once x
  have rest := count_housing_erase (x := x) owned.seats here
  have first := List.count_pos_iff.mpr hx
  have second : 0 < (housing (w.contexts.erase seat)).count x :=
    List.count_pos_iff.mpr (mem_housing (by rw [Assoc.get?_erase, if_neg other, there]) hx')
  omega

theorem rootOf_later (owned : Owned f u) (grown : w.trace <:+ u.trace) (h : x ∈ born w.trace) :
    rootOf u.trace x.name = rootOf w.trace x.name := by
  obtain ⟨later, grown⟩ := grown
  have distinct := owned.distinct
  rw [← grown] at distinct ⊢
  exact rootOf_stable distinct h

theorem perm (owned : Owned f w) {F : List Thing} (same : F.Perm f.flying) :
    Owned { f with flying := F } w :=
  { owned with
    balance := fun x => by
      rw [same.count_eq]
      exact owned.balance x
    flying := fun x member => owned.flying x (same.mem_iff.mp member) }

theorem unreserve (owned : Owned { f with reserved := r :: f.reserved } w) : Owned f w :=
  { owned with reserved := fun o member => owned.reserved o (List.mem_cons_of_mem _ member) }

theorem unborn_of_reserved (owned : Owned f w) (h : o ∈ f.reserved) :
    rootOf w.trace o = o ∧ callbacks w.trace o = [] :=
  have unborn := (owned.reserved o h).2
  ⟨rootOf_unborn unborn, callbacks_unborn owned.orderly unborn⟩

/-! ### What the trace may gain -/

/-- Only contexts, slots in use, names and the trace count. -/
theorem congr (owned : Owned f w) (contexts : u.contexts = w.contexts) (busy : u.busy = w.busy)
    (made : u.made = w.made) (trace : u.trace = w.trace) : Owned f u := by
  obtain ⟨memory, loaded, contexts', busy', sink, made', trace'⟩ := u
  dsimp only at contexts busy made trace
  subst contexts busy made trace
  exact { owned with unguarded := fun seat c here free => owned.unguarded seat c here free }

theorem neutral (owned : Owned f w) {e : Event ν} (h : e.IsNeutral) :
    Owned f { w with trace := e :: w.trace } := by
  have root (o : ObjectId) : rootOf (e :: w.trace) o = rootOf w.trace o :=
    rootOf_cons (by simp [h.born?])
  have births := born_cons_none w.trace h.born?
  have naming : names (e :: w.trace) = names w.trace := congrArg (List.map Thing.name) births
  refine ⟨fun x => ?_, ?_, ?_, ?_, owned.seats, owned.handles, ?_, ?_, owned.unguarded, ?_, ?_,
    .neutral h, owned.orderly⟩
  · rw [births, gone_cons_none w.trace h.gone?]
    exact owned.balance x
  · rw [naming]
    exact owned.distinct
  · rw [births]
    exact owned.numbers
  · rw [naming]
    exact owned.reserved
  · simpa only [root] using owned.kin
  · simpa only [root] using owned.flying
  · simpa only [births, callbacks_cons_none w.trace (h.callback? _)] using owned.waiting
  · intro r installed
    rcases List.mem_cons.mp installed with rfl | earlier
    · exact h.elim
    · exact (owned.started r earlier).imp_right fun started => started.of_none (h.callback? r)

theorem talk (owned : Owned f w) {talk : List (Event ν)} (h : ∀ e ∈ talk, e.IsTalk) :
    Owned f { w with trace := talk ++ w.trace } := by
  induction talk with
  | nil => exact owned
  | cons e talk ih =>
    have quiet : e.IsNeutral := by
      have := h e List.mem_cons_self
      cases e <;> first | exact True.intro | exact this.elim
    exact (ih fun e member => h e (List.mem_cons_of_mem _ member)).neutral quiet

theorem idle (owned : Owned f w) (idle : w.Idle u) : Owned f u := by
  obtain ⟨talk, grown, quiet⟩ := idle.trace
  exact (owned.talk quiet).congr idle.contexts idle.busy idle.made grown

/-- A callback that runs on something alive, other than the first of a root. -/
theorem called (owned : Owned f w) (alive : x ∈ housing w.contexts) {cb : Callback}
    (later : cb ≠ .created) (told : ∀ r, x = .root r → r ∉ f.waiting) :
    Owned f { w with trace := .called x.name cb :: w.trace } := by
  refine { owned with
    kin := owned.kin
    flying := owned.flying
    waiting := fun r member => ⟨(owned.waiting r member).1, ?_⟩
    started := fun r installed => ?_
    orderly := ⟨owned.alive alive, owned.orderly⟩ }
  · rw [callbacks_cons_none, (owned.waiting r member).2]
    rw [Event.callback?, if_neg]
    rintro rfl
    obtain ⟨birth, -⟩ := owned.of_housed alive
    exact told _ (eq_of_name owned.distinct birth (owned.waiting _ member).1 rfl) member
  · have installed : .installed r ∈ w.trace := by simpa using installed
    exact (owned.started r installed).imp_right fun started => started.called later

theorem created (owned : Owned { f with waiting := r :: f.waiting } w)
    (alive : .root r ∈ housing w.contexts) (once : r ∉ f.waiting) :
    Owned f { w with trace := .called r .created :: w.trace } := by
  have first := (owned.waiting r List.mem_cons_self).2
  refine { owned with
    kin := owned.kin
    flying := owned.flying
    waiting := fun s member => ?_
    started := fun s installed => ?_
    orderly := ⟨owned.alive alive, owned.orderly⟩ }
  · obtain ⟨birth, silent⟩ := owned.waiting s (List.mem_cons_of_mem _ member)
    refine ⟨birth, ?_⟩
    rw [callbacks_cons_none, silent]
    rw [Event.callback?, if_neg]
    rintro rfl
    exact once member
  · have installed : .installed s ∈ w.trace := by simpa using installed
    by_cases same : r = s
    · subst same
      exact .inr ⟨[], by rw [callbacks_called, first, List.nil_append], List.not_mem_nil⟩
    · refine (owned.started s installed).imp (fun member => ?_) fun started =>
        started.of_none (by simp [Event.callback?, same])
      exact (List.mem_cons.mp member).resolve_left (Ne.symm same)

theorem fresh (owned : Owned f w) (t : TableId) : ⟨t, w.made t⟩ ∉ names w.trace := by
  intro member
  obtain ⟨x, birth, same⟩ := List.mem_map.mp member
  have bound := owned.numbers x birth
  rw [same] at bound
  exact absurd bound (Nat.lt_irrefl _)

theorem made_le (w : World σ ν) (t s : TableId) :
    w.made s ≤ (if s = t then w.made t + 1 else w.made s) := by
  split
  · next same =>
    subst same
    exact Nat.le_succ _
  · exact Nat.le_refl _

theorem reserve (owned : Owned f w) (t : TableId) :
    Owned { f with reserved := ⟨t, w.made t⟩ :: f.reserved }
      { w with made := fun s => if s = t then w.made t + 1 else w.made s } := by
  refine { owned with
    numbers := fun x birth => Nat.lt_of_lt_of_le (owned.numbers x birth) (made_le w t _)
    reserved := fun o member => ?_ }
  rcases List.mem_cons.mp member with rfl | member
  · exact ⟨by simp, owned.fresh t⟩
  · obtain ⟨bound, unborn⟩ := owned.reserved o member
    exact ⟨Nat.lt_of_lt_of_le bound (made_le w t _), unborn⟩

/-- A root is built under a name reserved for it, and nothing has called it yet. -/
theorem built (owned : Owned { f with reserved := r :: f.reserved } w) (once : r ∉ f.reserved) :
    Owned { f with flying := .root r :: f.flying, guarded := r :: f.guarded }
      { w with trace := .built r :: w.trace } := by
  obtain ⟨bound, unborn⟩ := owned.reserved r List.mem_cons_self
  have root (o : ObjectId) : rootOf (.built r :: w.trace) o = rootOf w.trace o :=
    rootOf_cons nofun
  refine ⟨fun x => ?_, ?_, ?_, ?_, owned.seats, owned.handles, owned.kin, ?_, ?_, ?_, ?_,
    True.intro, owned.orderly⟩
  · have sum := owned.balance x
    rw [born_built, gone_cons_none w.trace rfl, List.count_cons, List.count_cons]
    dsimp only at sum ⊢
    omega
  · exact List.nodup_cons.mpr ⟨unborn, owned.distinct⟩
  · intro x birth
    rcases List.mem_cons.mp birth with rfl | birth
    · exact bound
    · exact owned.numbers x birth
  · intro o member
    obtain ⟨small, new⟩ := owned.reserved o (List.mem_cons_of_mem _ member)
    refine ⟨small, fun named => ?_⟩
    rcases List.mem_cons.mp named with rfl | named
    · exact once member
    · exact new named
  · intro x member
    rw [root]
    rcases List.mem_cons.mp member with rfl | member
    · rw [Thing.name, rootOf_unborn unborn]
      exact List.mem_cons_self
    · exact List.mem_cons_of_mem _ (owned.flying x member)
  · intro seat c here free member
    rcases List.mem_cons.mp member with rfl | member
    · exact unborn (owned.alive (mem_housing here List.mem_cons_self)).1
    · exact owned.unguarded seat c here free member
  · intro s member
    rw [callbacks_cons_none w.trace rfl]
    exact ⟨List.mem_cons_of_mem _ (owned.waiting s member).1, (owned.waiting s member).2⟩
  · intro s installed
    have installed : .installed s ∈ w.trace := by simpa using installed
    exact (owned.started s installed).imp_right fun started => started.of_none rfl

theorem produced (owned : Owned f w) (maker : ObjectId) (t : TableId)
    (guarded : rootOf w.trace maker ∈ f.guarded)
    (alive : .root (rootOf w.trace maker) ∈ housing w.contexts) :
    Owned { f with flying := .instance ⟨t, w.made t⟩ :: f.flying }
      { w with
        made := fun s => if s = t then w.made t + 1 else w.made s
        trace := .produced ⟨t, w.made t⟩ maker :: w.trace } := by
  have new := owned.fresh t
  have root {x : Thing} (birth : x ∈ born w.trace) :
      rootOf (.produced ⟨t, w.made t⟩ maker :: w.trace) x.name = rootOf w.trace x.name := by
    refine rootOf_cons fun same => new ?_
    rw [Event.born?, Option.some.injEq, Thing.instance.injEq] at same
    exact same ▸ mem_names birth
  obtain ⟨-, stays, -⟩ := owned.of_housed alive
  refine ⟨fun x => ?_, ?_, ?_, ?_, owned.seats, owned.handles, ?_, ?_, owned.unguarded, ?_, ?_,
    stays, owned.orderly⟩
  · have sum := owned.balance x
    rw [born_produced, gone_cons_none w.trace rfl, List.count_cons, List.count_cons]
    dsimp only
    omega
  · exact List.nodup_cons.mpr ⟨new, owned.distinct⟩
  · intro x birth
    rcases List.mem_cons.mp birth with rfl | birth
    · simp [Thing.name]
    · exact Nat.lt_of_lt_of_le (owned.numbers x birth) (made_le w t _)
  · intro o member
    obtain ⟨small, unborn⟩ := owned.reserved o member
    refine ⟨Nat.lt_of_lt_of_le small (made_le w t _), fun named => ?_⟩
    rcases List.mem_cons.mp named with rfl | named
    · exact absurd small (Nat.lt_irrefl _)
    · exact unborn named
  · intro seat c here x member
    rw [root (owned.of_housed (mem_housing here member)).1]
    exact owned.kin seat c here x member
  · intro x member
    rcases List.mem_cons.mp member with rfl | member
    · rw [Thing.name, rootOf, if_pos rfl]
      exact guarded
    · rw [root (owned.of_flying member).1]
      exact owned.flying x member
  · intro s member
    rw [callbacks_cons_none w.trace rfl]
    exact ⟨List.mem_cons_of_mem _ (owned.waiting s member).1, (owned.waiting s member).2⟩
  · intro s installed
    have installed : .installed s ∈ w.trace := by simpa using installed
    exact (owned.started s installed).imp_right fun started => started.of_none rfl

theorem instanceDropped (owned : Owned { f with flying := .instance o :: f.flying } w)
    {d : Descriptor} : Owned f { w with trace := .instanceDropped o d :: w.trace } := by
  refine { owned with
    balance := fun x => ?_
    kin := owned.kin
    flying := fun x member => owned.flying x (List.mem_cons_of_mem _ member)
    started := fun s installed => ?_
    orderly := ⟨True.intro, owned.orderly⟩ }
  · have sum := owned.balance x
    rw [gone_instanceDropped, born_cons_none w.trace rfl, List.count_cons]
    rw [List.count_cons] at sum
    dsimp only at sum ⊢
    omega
  · have installed : .installed s ∈ w.trace := by simpa using installed
    exact (owned.started s installed).imp_right fun started => started.of_none rfl

/-- A root goes when nothing else is on its way that goes back to it. -/
theorem rootDropped (owned : Owned { f with flying := .root r :: f.flying } w)
    (last : ∀ x ∈ f.flying, rootOf w.trace x.name ≠ r) :
    Owned f { w with trace := .rootDropped r :: w.trace } := by
  refine { owned with
    balance := fun x => ?_
    kin := owned.kin
    flying := fun x member => owned.flying x (List.mem_cons_of_mem _ member)
    started := fun s installed => ?_
    orderly := ⟨fun x birth kin other => ?_, owned.orderly⟩ }
  · have sum := owned.balance x
    rw [gone_rootDropped, born_cons_none w.trace rfl, List.count_cons]
    rw [List.count_cons] at sum
    dsimp only at sum ⊢
    omega
  · have installed : .installed s ∈ w.trace := by simpa using installed
    exact (owned.started s installed).imp_right fun started => started.of_none rfl
  · have sum := owned.balance x
    have here := List.count_pos_iff.mpr birth
    by_contra stays
    have flies : x ∉ Thing.root r :: f.flying := fun member => by
      rcases List.mem_cons.mp member with same | member
      · exact other same
      · exact last x member kin
    have housed : x ∈ housing w.contexts := by
      rw [List.count_eq_zero.mpr stays, List.count_eq_zero.mpr flies] at sum
      exact List.count_pos_iff.mp (by omega)
    obtain ⟨seat, c, here, lives⟩ := Assoc.get?_of_mem_gather owned.seats housed
    have rooted := owned.kin seat c here x lives
    rw [kin] at rooted
    subst rooted
    obtain ⟨-, -, grounded⟩ := owned.of_housed (mem_housing here List.mem_cons_self)
    exact grounded List.mem_cons_self

/-- A root that was installed waits to be told that it is created. -/
theorem installed (owned : Owned f w) (birth : .root r ∈ born w.trace)
    (silent : callbacks w.trace r = []) :
    Owned { f with waiting := r :: f.waiting } { w with trace := .installed r :: w.trace } := by
  refine { owned with
    kin := owned.kin
    flying := owned.flying
    waiting := fun s member => ?_
    started := fun s installed => ?_
    orderly := ⟨birth, owned.orderly⟩ }
  · rcases List.mem_cons.mp member with rfl | member
    · exact ⟨birth, silent⟩
    · exact owned.waiting s member
  · rcases List.mem_cons.mp installed with same | earlier
    · cases same
      exact .inl List.mem_cons_self
    · exact (owned.started s earlier).imp (List.mem_cons_of_mem _) fun started =>
        started.of_none rfl

/-! ### What contexts and slots may become -/

theorem reseat (owned : Owned f w) (here : w.contexts.get? seat = some c) {F : List Thing}
    (root : c'.root.object = c.root.object) (handles : c'.instances.entries.Distinct)
    (exchange : ∀ x, c'.things.count x + F.count x = c.things.count x + f.flying.count x)
    (kin : ∀ x ∈ c'.things, rootOf w.trace x.name = c.root.object)
    (guarded : ∀ x ∈ F, rootOf w.trace x.name ∈ f.guarded) :
    Owned { f with flying := F } { w with contexts := w.contexts.set seat c' } := by
  refine { owned with
    balance := fun x => ?_
    seats := owned.seats.set
    handles := fun s d found => ?_
    kin := fun s d found => ?_
    flying := guarded
    unguarded := fun s d found free => ?_ }
  · have sum := owned.balance x
    have moved := count_housing_set w.contexts seat c' x
    rw [here, Option.toList_some, List.flatMap_singleton] at moved
    have exchanged := exchange x
    dsimp only
    omega
  · dsimp only at found
    rw [Assoc.get?_set] at found
    split at found
    · cases found
      exact handles
    · exact owned.handles s d found
  · dsimp only at found
    rw [Assoc.get?_set] at found
    split at found
    · cases found
      rwa [root]
    · exact owned.kin s d found
  · dsimp only at found
    rw [Assoc.get?_set] at found
    split at found
    · next at_seat =>
      subst at_seat
      cases found
      rw [root]
      exact owned.unguarded _ c here free
    · exact owned.unguarded s d found free

theorem taken (owned : Owned f w) (here : w.contexts.get? seat = some c) :
    Owned { f with flying := c.things ++ f.flying, guarded := c.root.object :: f.guarded }
      { w with contexts := w.contexts.erase seat } := by
  refine { owned with
    balance := fun x => ?_
    seats := owned.seats.erase
    handles := fun s d found => ?_
    kin := fun s d found => ?_
    flying := fun x member => ?_
    unguarded := fun s d found free member => ?_ }
  · have sum := owned.balance x
    have moved := count_housing_erase (x := x) owned.seats here
    dsimp only
    rw [List.count_append]
    omega
  · dsimp only at found
    rw [Assoc.get?_erase] at found
    split at found
    · contradiction
    · exact owned.handles s d found
  · dsimp only at found
    rw [Assoc.get?_erase] at found
    split at found
    · contradiction
    · exact owned.kin s d found
  · rcases List.mem_append.mp member with lived | flew
    · rw [owned.kin seat c here x lived]
      exact List.mem_cons_self
    · exact List.mem_cons_of_mem _ (owned.flying x flew)
  · dsimp only at found
    rw [Assoc.get?_erase] at found
    split at found
    · contradiction
    · next other =>
      rcases List.mem_cons.mp member with same | member
      · refine other (owned.same_seat (x := .root c.root.object) here found List.mem_cons_self ?_)
        rw [← same]
        exact List.mem_cons_self
      · exact owned.unguarded s d found free member

theorem enter (owned : Owned f w) {m : String} (here : w.contexts.get? (.module m) = some c) :
    Owned { f with guarded := c.root.object :: f.guarded } { w with busy := m :: w.busy } := by
  refine { owned with
    flying := fun x member => List.mem_cons_of_mem _ (owned.flying x member)
    unguarded := fun s d found free member => ?_ }
  have unheld : ¬w.Holds s := fun held => free (held.inUse m)
  rcases List.mem_cons.mp member with same | member
  · have at_slot := owned.same_seat (x := .root c.root.object) here found List.mem_cons_self
      (same ▸ List.mem_cons_self)
    subst at_slot
    exact free List.mem_cons_self
  · exact owned.unguarded s d found unheld member

theorem enter_empty (owned : Owned f w) (m : String) : Owned f { w with busy := m :: w.busy } := by
  refine { owned with
    unguarded := fun s d found free => owned.unguarded s d found fun held => free (held.inUse m) }

theorem leave (owned : Owned f w) {m : String} {busy : List String} (used : w.busy = m :: busy)
    (unguarded : ∀ d, w.contexts.get? (.module m) = some d → d.root.object ∉ f.guarded) :
    Owned f { w with busy } := by
  refine { owned with unguarded := fun s d found free member => ?_ }
  by_cases held : w.Holds s
  · cases s with
    | direct home => exact free True.intro
    | module n =>
      have held : n ∈ m :: busy := used ▸ held
      rcases List.mem_cons.mp held with same | held
      · subst same
        exact unguarded d found member
      · exact free held
  · exact owned.unguarded s d found held member

/-- A root is not guarded any more when nothing on its way goes back to it. -/
theorem unguard (owned : Owned { f with guarded := r :: f.guarded } w)
    (last : ∀ x ∈ f.flying, rootOf w.trace x.name ≠ r) : Owned f w :=
  { owned with
    flying := fun x member => (List.mem_cons.mp (owned.flying x member)).resolve_left (last x member)
    unguarded := fun s d found free member =>
      owned.unguarded s d found free (List.mem_cons_of_mem _ member) }

/-- A root takes its place in a slot in use; what was there is on its way. -/
theorem placed (seat : Seat) (owned : Owned { f with flying := .root c.root.object :: f.flying } w)
    (held : w.Holds seat) (alone : rootOf w.trace c.root.object = c.root.object)
    (bare : c.instances.entries = []) :
    Owned
      { f with
        flying := (w.contexts.get? seat).toList.flatMap Context.things ++ f.flying
        guarded := (w.contexts.get? seat).toList.map (·.root.object) ++ f.guarded }
      { w with contexts := w.contexts.set seat c } := by
  have only : c.things = [.root c.root.object] := by
    rw [Context.things, Registry.things, bare]
    rfl
  refine { owned with
    balance := fun x => ?_
    seats := owned.seats.set
    handles := fun s d found => ?_
    kin := fun s d found => ?_
    flying := fun x member => ?_
    unguarded := fun s d found free member => ?_ }
  · have sum := owned.balance x
    dsimp only at sum ⊢
    rw [List.count_append]
    rw [List.count_cons] at sum
    have moved := count_housing_set w.contexts seat c x
    rw [only, List.count_cons, List.count_nil] at moved
    omega
  · dsimp only at found
    rw [Assoc.get?_set] at found
    split at found
    · cases found
      rw [bare]
      exact List.nodup_nil
    · exact owned.handles s d found
  · dsimp only at found
    rw [Assoc.get?_set] at found
    split at found
    · cases found
      rw [only]
      intro x member
      rw [List.mem_singleton.mp member]
      exact alone
    · exact owned.kin s d found
  · rcases List.mem_append.mp member with lived | flew
    · obtain ⟨d, old, lived⟩ := List.mem_flatMap.mp lived
      rw [owned.kin seat d (Option.mem_toList.mp old) x lived]
      exact List.mem_append_left _ (List.mem_map_of_mem old)
    · exact List.mem_append_right _ (owned.flying x (List.mem_cons_of_mem _ flew))
  · dsimp only at found
    rw [Assoc.get?_set] at found
    split at found
    · next at_seat =>
      subst at_seat
      exact free held
    · next other =>
      rcases List.mem_append.mp member with gone | member
      · obtain ⟨e, old, same⟩ := List.mem_map.mp gone
        refine other (owned.same_seat (x := .root e.root.object) (Option.mem_toList.mp old) found
          List.mem_cons_self ?_)
        rw [same]
        exact List.mem_cons_self
      · exact owned.unguarded s d found free member

end Owned

end AddonBridge
