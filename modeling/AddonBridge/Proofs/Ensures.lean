import AddonBridge.Machine.World

/-!
# Where an act ends

`Ensures` says of an act what holds where it ends, with a value or early. One rule for each way to
make an act computes it. A `Law` relates the world before an act to the world after it and to the way
it ended, so that acts done one after the other obey it when each of them does.
-/

namespace AddonBridge.Act

variable {σ ν α β : Type} {w : World σ ν} {Q : α → World σ ν → Prop} {E : Stop → World σ ν → Prop}

/-- An act ends with a value for which `Q` holds, or stops early for a reason for which `E` holds. -/
def Ensures (act : Act σ ν α) (w : World σ ν) (Q : α → World σ ν → Prop)
    (E : Stop → World σ ν → Prop) : Prop :=
  match act w with
  | .ok a u => Q a u
  | .error e u => E e u

theorem Ensures.mono {act : Act σ ν α} {Q' : α → World σ ν → Prop} {E' : Stop → World σ ν → Prop}
    (h : Ensures act w Q E) (value : ∀ a u, Q a u → Q' a u) (stop : ∀ e u, E e u → E' e u) :
    Ensures act w Q' E' := by
  unfold Ensures at *
  split at h
  · exact value _ _ h
  · exact stop _ _ h

theorem Ensures.and {act : Act σ ν α} {Q' : α → World σ ν → Prop} {E' : Stop → World σ ν → Prop}
    (h : Ensures act w Q E) (h' : Ensures act w Q' E') :
    Ensures act w (fun a u => Q a u ∧ Q' a u) (fun e u => E e u ∧ E' e u) := by
  unfold Ensures at *
  cases ended : act w with
  | ok => exact ⟨by simpa only [ended] using h, by simpa only [ended] using h'⟩
  | error => exact ⟨by simpa only [ended] using h, by simpa only [ended] using h'⟩

theorem Ensures.all.{u} {ι : Sort u} {act : Act σ ν α} {Q : ι → α → World σ ν → Prop}
    {E : ι → Stop → World σ ν → Prop} (h : ∀ i, Ensures act w (Q i) (E i)) :
    Ensures act w (fun a u => ∀ i, Q i a u) (fun e u => ∀ i, E i e u) := by
  unfold Ensures at *
  cases ended : act w with
  | ok => exact fun i => by simpa only [ended] using h i
  | error => exact fun i => by simpa only [ended] using h i

/-- Nothing is left to show of the stops of an act that only aborts. -/
theorem Ensures.aborts {act : Act σ ν α} {Q' : α → World σ ν → Prop} {I : World σ ν → Prop}
    (h : Ensures act w Q fun e _ => e = .aborted) (value : ∀ a u, Q a u → Q' a u) :
    Ensures act w Q' fun e u => e ≠ .aborted → I u :=
  h.mono value fun _ _ stopped going => absurd stopped going

theorem Ensures.eq (act : Act σ ν α) :
    Ensures act w (fun a u => act w = .ok a u) (fun e u => act w = .error e u) := by
  unfold Ensures
  split
  · next ended => exact ended
  · next stopped => exact stopped

theorem ensures_ok {act : Act σ ν α} {a : α} {u : World σ ν} (h : act w = .ok a u) :
    Ensures act w Q E ↔ Q a u := by
  rw [Ensures, h]

theorem ensures_error {act : Act σ ν α} {e : Stop} {u : World σ ν} (h : act w = .error e u) :
    Ensures act w Q E ↔ E e u := by
  rw [Ensures, h]

/-- Whether an act comes back, with a value and a world that pass a check. -/
def endsWith (act : Act σ ν α) (w : World σ ν) (p : α → World σ ν → Bool) : Bool :=
  match act w with
  | .ok a u => p a u
  | .error _ _ => false

theorem exists_ended {act : Act σ ν α} {p : α → World σ ν → Bool} (ends : endsWith act w p = true) :
    ∃ a u, act w = .ok a u ∧ p a u = true := by
  unfold endsWith at ends
  split at ends
  · next a u ended => exact ⟨a, u, ended, ends⟩
  · contradiction

theorem bind_of_ok {act : Act σ ν α} {f : α → Act σ ν β} {a : α} {u : World σ ν}
    (h : act w = .ok a u) : (act >>= f) w = f a u := by
  change EStateM.bind act f w = _
  rw [EStateM.bind, h]

theorem bind_of_error {act : Act σ ν α} {f : α → Act σ ν β} {e : Stop} {u : World σ ν}
    (h : act w = .error e u) : (act >>= f) w = .error e u := by
  change EStateM.bind act f w = _
  rw [EStateM.bind, h]

theorem bind_ok {act : Act σ ν α} {f : α → Act σ ν β} {b : β} {v : World σ ν}
    (h : (act >>= f) w = .ok b v) : ∃ a u, act w = .ok a u ∧ f a u = .ok b v := by
  change EStateM.bind act f w = _ at h
  unfold EStateM.bind at h
  split at h
  · next a u ended => exact ⟨a, u, ended, h⟩
  · contradiction

theorem map_of_ok {f : α → β} {act : Act σ ν α} {a : α} {u : World σ ν} (h : act w = .ok a u) :
    (f <$> act) w = .ok (f a) u := by
  change EStateM.map f act w = _
  rw [EStateM.map, h]

theorem map_ok {f : α → β} {act : Act σ ν α} {b : β} {u : World σ ν}
    (h : (f <$> act) w = .ok b u) : ∃ a, act w = .ok a u ∧ f a = b := by
  change EStateM.map f act w = _ at h
  unfold EStateM.map at h
  split at h
  · next a _ ended =>
    cases h
    exact ⟨a, ended, rfl⟩
  · contradiction

theorem bind_error {act : Act σ ν α} {f : α → Act σ ν β} {e : Stop} {v : World σ ν}
    (h : (act >>= f) w = .error e v) :
    act w = .error e v ∨ ∃ a u, act w = .ok a u ∧ f a u = .error e v := by
  change EStateM.bind act f w = _ at h
  unfold EStateM.bind at h
  split at h
  · next a u ended => exact .inr ⟨a, u, ended, h⟩
  · next stopped =>
    cases h
    exact .inl stopped

theorem map_at {act act' : Act σ ν α} (same : act w = act' w) (f : α → β) :
    (f <$> act) w = (f <$> act') w := by
  change EStateM.map f act w = EStateM.map f act' w
  unfold EStateM.map
  rw [same]

theorem bind_at {act act' : Act σ ν α} (same : act w = act' w) (f : α → Act σ ν β) :
    (act >>= f) w = (act' >>= f) w := by
  change EStateM.bind act f w = EStateM.bind act' f w
  unfold EStateM.bind
  rw [same]

theorem observe_at {act act' : Act σ ν α} (same : act w = act' w) :
    observe act w = observe act' w := by
  rw [observe_eq, same, ← observe_eq]

theorem mapM_map {ι : Type} (f : α → β) (act : ι → Act σ ν α) (is : List ι) :
    is.mapM (fun i => f <$> act i) = List.map f <$> is.mapM act := by
  induction is with
  | nil => rfl
  | cons i is ih => simp [List.mapM_cons, ih]

/-- An act for which nothing is said to stop it comes back. -/
theorem Ensures.returns {act : Act σ ν α} (h : Ensures act w Q fun _ _ => False) :
    ∃ a u, act w = .ok a u ∧ Q a u := by
  unfold Ensures at h
  split at h
  · next a u ended => exact ⟨a, u, ended, h⟩
  · exact h.elim

theorem Ensures.trivial (act : Act σ ν α) : Ensures act w (fun _ _ => True) (fun _ _ => True) := by
  unfold Ensures
  split <;> exact True.intro

theorem unwinding_ne {p : Payload} : Stop.unwinding p ≠ .aborted := by simp

theorem returned_ne : (none : Option Stop) ≠ some .aborted := by simp

/-! ### One rule for each way to make an act -/

@[simp] theorem ensures_pure (a : α) : Ensures (pure a) w Q E ↔ Q a w := Iff.rfl

@[simp] theorem ensures_bind {R : β → World σ ν → Prop} (act : Act σ ν α) (f : α → Act σ ν β) :
    Ensures (act >>= f) w R E ↔ Ensures act w (fun a u => Ensures (f a) u R E) E := by
  change (match EStateM.bind act f w with | .ok a u => R a u | .error e u => E e u) ↔ _
  unfold Ensures EStateM.bind
  cases act w <;> rfl

@[simp] theorem ensures_map {R : β → World σ ν → Prop} (f : α → β) (act : Act σ ν α) :
    Ensures (f <$> act) w R E ↔ Ensures act w (fun a u => R (f a) u) E := by
  change (match EStateM.map f act w with | .ok a u => R a u | .error e u => E e u) ↔ _
  unfold Ensures EStateM.map
  cases act w <;> rfl

@[simp] theorem ensures_throw (e : Stop) : Ensures (throw e : Act σ ν α) w Q E ↔ E e w := Iff.rfl

@[simp] theorem ensures_get {R : World σ ν → World σ ν → Prop} :
    Ensures (get : Act σ ν (World σ ν)) w R E ↔ R w w := Iff.rfl

@[simp] theorem ensures_modify {R : PUnit → World σ ν → Prop} (f : World σ ν → World σ ν) :
    Ensures (modify f : Act σ ν PUnit) w R E ↔ R ⟨⟩ (f w) := Iff.rfl

@[simp] theorem ensures_discard {R : PUnit → World σ ν → Prop} (act : Act σ ν α) :
    Ensures (discard act) w R E ↔ Ensures act w (fun _ u => R ⟨⟩ u) E := ensures_map _ _

@[simp] theorem ensures_ite {c : Prop} [Decidable c] {x y : Act σ ν α} :
    Ensures (if c then x else y) w Q E ↔ (c → Ensures x w Q E) ∧ (¬c → Ensures y w Q E) := by
  split <;> simp [*]

@[simp] theorem ensures_observe {R : Except Payload α → World σ ν → Prop} (act : Act σ ν α) :
    Ensures (observe act) w R E ↔
      Ensures act w (fun a u => R (.ok a) u)
        (fun e u => match e with
          | .unwinding p => R (.error p) u
          | .aborted => E .aborted u) := by
  unfold Ensures
  rw [observe_eq]
  cases act w with
  | ok a u => rfl
  | error e u => cases e <;> rfl

/-- What an act comes to whose panics are caught. -/
theorem Ensures.observed {R : Except Payload α → World σ ν → Prop} {act : Act σ ν α}
    {answer : Except Payload α} {u : World σ ν} (ended : observe act w = .ok answer u)
    (h : Ensures act w (fun a u => R (.ok a) u) fun e u => ∀ p, e = .unwinding p → R (.error p) u) :
    R answer u := by
  refine (ensures_ok ended).mp ((ensures_observe (E := fun _ _ => True) act).mpr ?_)
  refine h.mono (fun _ _ => id) fun e u stopped => ?_
  cases e with
  | aborted => exact True.intro
  | unwinding p => exact stopped p rfl

@[simp] theorem ensures_after (act : Act σ ν α) (cleanup : Act σ ν Unit) :
    Ensures (after act cleanup) w Q E ↔
      Ensures act w (fun a u => Ensures cleanup u (fun _ v => Q a v) E)
        (fun e u => match e with
          | .unwinding p =>
            Ensures cleanup u (fun _ v => E (.unwinding p) v) (fun _ v => E .aborted v)
          | .aborted => E .aborted u) := by
  unfold after
  simp only [ensures_bind, ensures_observe, ensures_pure, ensures_throw]
  refine ⟨fun h => h.mono (fun _ _ => id) ?_, fun h => h.mono (fun _ _ => id) ?_⟩
  · rintro (p | _) u stopped
    · refine Ensures.mono stopped (fun _ _ => id) ?_
      rintro (q | _) v <;> exact id
    · exact stopped
  · rintro (p | _) u stopped
    · refine Ensures.mono stopped (fun _ _ => id) ?_
      rintro (q | _) v <;> exact id
    · exact stopped

@[simp] theorem ensures_record {R : Unit → World σ ν → Prop} (e : Event ν) :
    Ensures (record e) w R E ↔ R () { w with trace := e :: w.trace } := Iff.rfl

@[simp] theorem ensures_freshObject {R : ObjectId → World σ ν → Prop} (t : TableId) :
    Ensures (freshObject t) w R E ↔
      R ⟨t, w.made t⟩ { w with made := fun u => if u = t then w.made t + 1 else w.made u } :=
  Iff.rfl

@[simp] theorem ensures_loaded? {R : Option Loaded → World σ ν → Prop} (t : TableId) :
    Ensures (loaded? t) w R E ↔ R (w.loaded.get? t) w := Iff.rfl

@[simp] theorem ensures_modifyLoaded {R : Unit → World σ ν → Prop} (t : TableId)
    (f : Loaded → Loaded) :
    Ensures (modifyLoaded t f) w R E ↔ R () { w with loaded := w.loaded.modify t f } := Iff.rfl

@[simp] theorem ensures_hostTable? {R : Option HostTable → World σ ν → Prop} (t : TableId) :
    Ensures (hostTable? t) w R E ↔ R ((w.loaded.get? t).bind (·.hostTable)) w := Iff.rfl

@[simp] theorem ensures_context? {R : Option (Context σ) → World σ ν → Prop} (s : Seat) :
    Ensures (context? s) w R E ↔ R (w.contexts.get? s) w := Iff.rfl

@[simp] theorem ensures_setContext {R : Unit → World σ ν → Prop} (s : Seat) (c : Context σ) :
    Ensures (setContext s c) w R E ↔ R () { w with contexts := w.contexts.set s c } := Iff.rfl

@[simp] theorem ensures_removeContext {R : Unit → World σ ν → Prop} (s : Seat) :
    Ensures (removeContext s) w R E ↔ R () { w with contexts := w.contexts.erase s } := Iff.rfl

@[simp] theorem ensures_modifyContext {R : Unit → World σ ν → Prop} (s : Seat)
    (f : Context σ → Context σ) :
    Ensures (modifyContext s f) w R E ↔ R () { w with contexts := w.contexts.modify s f } :=
  Iff.rfl

@[simp] theorem ensures_isBusy {R : Bool → World σ ν → Prop} (m : String) :
    Ensures (isBusy m) w R E ↔ R (decide (m ∈ w.busy)) w := Iff.rfl

@[simp] theorem ensures_setSink {R : Unit → World σ ν → Prop} (t : Option TableId) :
    Ensures (setSink t) w R E ↔ R () { w with sink := t } := Iff.rfl

@[simp] theorem ensures_unbind {R : Unit → World σ ν → Prop} (t : TableId) :
    Ensures (unbind t) w R E ↔ R () (if w.sink = some t then { w with sink := none } else w) :=
  Iff.rfl

@[simp] theorem ensures_writeLocation {R : Unit → World σ ν → Prop} (m : String) (value : UInt64) :
    Ensures (writeLocation m value) w R E ↔
      R () (w.setLocations m ((w.locations m).modifyHead (·.map fun _ => value))) := Iff.rfl

@[simp] theorem ensures_withLocation {R : α × Option UInt64 → World σ ν → Prop} (m : String)
    (out : Option UInt64) (act : Act σ ν α) :
    Ensures (withLocation m out act) w R E ↔
      Ensures act (w.setLocations m (out :: w.locations m))
        (fun a u => R (a, (u.locations m).head?.join) (u.setLocations m (u.locations m).tail)) E := by
  rw [withLocation, ensures_bind, ensures_modify, ensures_bind]
  exact Iff.rfl

@[simp] theorem ensures_holding (m : String) (act : Act σ ν α) :
    Ensures (holding m act) w Q E ↔
      Ensures act { w with busy := m :: w.busy }
        (fun a u => Q a { u with busy := u.busy.erase m })
        (fun e u => match e with
          | .unwinding p => E (.unwinding p) { u with busy := u.busy.erase m }
          | .aborted => E .aborted u) := by
  change Ensures (modify _ >>= fun _ => after act _) w Q E ↔ _
  rw [ensures_bind, ensures_modify, ensures_after]
  exact Iff.rfl

/-- A cleanup after an act that ends with a value or a panic, with nothing left to show of an abort. -/
theorem Ensures.finally {act : Act σ ν α} {cleanup : Act σ ν Unit} {Q' : α → World σ ν → Prop}
    {I J : World σ ν → Prop} (h : Ensures act w Q fun e u => e ≠ .aborted → J u)
    (value : ∀ a u, Q a u → Ensures cleanup u (fun _ v => Q' a v) fun e v => e ≠ .aborted → I v)
    (panic : ∀ u, J u → Ensures cleanup u (fun _ v => I v) fun _ _ => True) :
    Ensures (Act.after act cleanup) w Q' fun e u => e ≠ .aborted → I u := by
  rw [ensures_after]
  refine h.mono (fun a u ended => value a u ended) fun e u stopped => ?_
  cases e with
  | aborted => exact fun going => absurd rfl going
  | unwinding p =>
    exact (panic u (stopped unwinding_ne)).mono (fun _ _ cleaned _ => cleaned)
      fun _ _ _ going => absurd rfl going

/-- A cleanup that only aborts, after an act that ends with a value or a panic. -/
theorem Ensures.after {act : Act σ ν α} {cleanup : Act σ ν Unit} {Q' : α → World σ ν → Prop}
    {I J : World σ ν → Prop} (h : Ensures act w Q fun e u => e ≠ .aborted → J u)
    (value : ∀ a u, Q a u → Ensures cleanup u (fun _ v => Q' a v) fun e _ => e = .aborted)
    (panic : ∀ u, J u → Ensures cleanup u (fun _ v => I v) fun e _ => e = .aborted) :
    Ensures (Act.after act cleanup) w Q' fun e u => e ≠ .aborted → I u :=
  h.finally (fun a u ended => (value a u ended).aborts fun _ _ => id) fun u stopped =>
    (panic u stopped).mono (fun _ _ => id) fun _ _ _ => True.intro

theorem Ensures.holding {m : String} {act : Act σ ν α} {I : World σ ν → Prop}
    (h : Ensures act { w with busy := m :: w.busy }
      (fun a u => Q a { u with busy := u.busy.erase m })
      fun e u => e ≠ .aborted → I { u with busy := u.busy.erase m }) :
    Ensures (Act.holding m act) w Q fun e u => e ≠ .aborted → I u := by
  rw [ensures_holding]
  refine h.mono (fun _ _ => id) fun e u stopped => ?_
  cases e with
  | aborted => exact fun going => absurd rfl going
  | unwinding p => exact stopped

/-! ### Laws -/

/-- A relation between the world before an act, the reason for which it stopped early if it did, and
the world after it. -/
abbrev Change (σ ν : Type) := World σ ν → Option Stop → World σ ν → Prop

/-- What makes a change one that acts obey when their parts do. -/
structure Law (S : Change σ ν) : Prop where
  refl : ∀ w, S w none w
  trans : ∀ {w k u v}, S w none u → S u k v → S w k v
  cleanup : ∀ {w p u v},
    S w (some (.unwinding p)) u → S u none v → S w (some (.unwinding p)) v
  cleanup_aborted : ∀ {w p u v},
    S w (some (.unwinding p)) u → S u (some .aborted) v → S w (some .aborted) v
  caught : ∀ {w p u}, S w (some (.unwinding p)) u → (∀ d, p ≠ .defect d) → S w none u
  fatal : ∀ {w d u}, S w (some (.unwinding (.defect d))) u → S w (some .aborted) u

def Change.unlessAborted (R : World σ ν → World σ ν → Prop) : Change σ ν :=
  fun w k u => k ≠ some .aborted → R w u

namespace Change.unlessAborted

variable {R : World σ ν → World σ ν → Prop} {u : World σ ν}

theorem returned (h : Change.unlessAborted R w none u) : R w u := h (by simp)

theorem unwound {p : Payload} (h : Change.unlessAborted R w (some (.unwinding p)) u) : R w u :=
  h (by simp)

theorem stopped {e : Stop} (h : Change.unlessAborted R w (some e) u) (going : e ≠ .aborted) :
    R w u := h (by simpa using going)

end Change.unlessAborted

theorem Law.of_preorder {R : World σ ν → World σ ν → Prop} (refl : ∀ w, R w w)
    (trans : ∀ w u v, R w u → R u v → R w v) : Law (Change.unlessAborted R) where
  refl w _ := refl w
  trans h h' k := trans _ _ _ (h (by simp)) (h' k)
  cleanup h h' _ := trans _ _ _ (h (by simp)) (h' (by simp))
  cleanup_aborted _ _ k := absurd rfl k
  caught h _ _ := h (by simp)
  fatal _ k := absurd rfl k

/-- An act obeys a change, wherever it starts. -/
def Obeys (S : Change σ ν) (act : Act σ ν α) : Prop :=
  ∀ w, Ensures act w (fun _ u => S w none u) (fun e u => S w (some e) u)

def Quiet (act : Act σ ν α) : Prop := ∀ w, Ensures act w (fun _ _ => True) (fun e _ => e = .aborted)

variable {S : Change σ ν}

theorem Obeys.mono {S' : Change σ ν} {act : Act σ ν α} (h : Obeys S act)
    (weaker : ∀ w k u, S w k u → S' w k u) : Obeys S' act :=
  fun w => (h w).mono (fun _ u => weaker w none u) fun e u => weaker w (some e) u

theorem Quiet.ensures {act : Act σ ν α} (quiet : Quiet act) (h : Ensures act w Q E) :
    Ensures act w Q fun e _ => e = .aborted :=
  (h.and (quiet w)).mono (fun _ _ => And.left) fun _ _ => And.right

/-- What a quiet act brings about, with nothing left to show where it aborts. -/
theorem Obeys.ensures {R : World σ ν → World σ ν → Prop} {act : Act σ ν α}
    (h : Obeys (Change.unlessAborted R) act) (quiet : Quiet act) (w : World σ ν) :
    Ensures act w (fun _ u => R w u) fun e _ => e = .aborted := by
  exact quiet.ensures ((h w).mono (fun _ _ changed => changed.returned) fun _ _ => id)

theorem Obeys.pure (law : Law S) (a : α) : Obeys S (Pure.pure a) := fun w => law.refl w

theorem Obeys.continues (law : Law S) {act : Act σ ν α} (h : Obeys S act) {u : World σ ν}
    (first : S w none u) : Ensures act u (fun _ v => S w none v) (fun e v => S w (some e) v) :=
  (h u).mono (fun _ _ second => law.trans first second) fun _ _ second => law.trans first second

theorem Obeys.bind (law : Law S) {act : Act σ ν α} {f : α → Act σ ν β} (h : Obeys S act)
    (hf : ∀ a, Obeys S (f a)) : Obeys S (act >>= f) := by
  intro w
  rw [ensures_bind]
  exact (h w).mono (fun a u first => (hf a).continues law first) fun _ _ first => first

theorem Obeys.map {f : α → β} {act : Act σ ν α} (h : Obeys S act) : Obeys S (f <$> act) := by
  intro w
  rw [ensures_map]
  exact h w

theorem Obeys.ite {c : Prop} [Decidable c] {x y : Act σ ν α} (hx : Obeys S x) (hy : Obeys S y) :
    Obeys S (if c then x else y) := by
  split
  · exact hx
  · exact hy

theorem Obeys.after (law : Law S) {act : Act σ ν α} {cleanup : Act σ ν Unit} (h : Obeys S act)
    (hc : Obeys S cleanup) (quiet : Quiet cleanup) : Obeys S (after act cleanup) := by
  intro w
  rw [ensures_after]
  refine (h w).mono (fun a u first => hc.continues law first) (fun e u first => ?_)
  · cases e with
    | aborted => exact first
    | unwinding p =>
      refine ((hc u).and (quiet u)).mono (fun _ _ second => law.cleanup first second.1) ?_
      rintro e v ⟨second, rfl⟩
      exact law.cleanup_aborted first second

/-- A change allows an abort by a second panic, whatever the two panics left. -/
def Change.Doubles (S : Change σ ν) : Prop :=
  ∀ {w p u q v}, S w (some (.unwinding p)) u → S u (some (.unwinding q)) v → S w (some .aborted) v

theorem Change.unlessAborted.doubles {R : World σ ν → World σ ν → Prop} :
    (Change.unlessAborted R).Doubles := fun _ _ going => absurd rfl going

theorem Obeys.finally (law : Law S) (doubles : S.Doubles) {act : Act σ ν α}
    {cleanup : Act σ ν Unit} (h : Obeys S act) (hc : Obeys S cleanup) :
    Obeys S (Act.after act cleanup) := by
  intro w
  rw [ensures_after]
  refine (h w).mono (fun a u first => hc.continues law first) (fun e u first => ?_)
  cases e with
  | aborted => exact first
  | unwinding p =>
    refine (hc u).mono (fun _ _ second => law.cleanup first second) ?_
    rintro (q | _) v second
    · exact doubles first second
    · exact law.cleanup_aborted first second

theorem Quiet.pure (a : α) : Quiet (Pure.pure a : Act σ ν α) := fun _ => True.intro

theorem Quiet.bind {act : Act σ ν α} {f : α → Act σ ν β} (h : Quiet act) (hf : ∀ a, Quiet (f a)) :
    Quiet (act >>= f) := by
  intro w
  rw [ensures_bind]
  exact (h w).mono (fun a u _ => hf a u) (fun _ _ stopped => stopped)

/-- After an act that does not panic, a cleanup just comes next. -/
theorem Quiet.after_eq {act : Act σ ν Unit} (h : Quiet act) (cleanup : Act σ ν Unit) :
    Act.after act cleanup = act >>= fun _ => cleanup := by
  funext w
  have observed := observe_eq act w
  have quiet := h w
  rw [Ensures] at quiet
  cases ended : act w with
  | ok a u =>
    rw [ended] at observed
    rw [bind_of_ok ended, Act.after, bind_of_ok observed]
    exact congrFun (bind_pure cleanup) u
  | error e u =>
    rw [ended] at observed quiet
    obtain rfl : e = .aborted := quiet
    rw [bind_of_error ended, Act.after, bind_of_error observed]

theorem Quiet.after {act : Act σ ν α} {cleanup : Act σ ν Unit} (h : Quiet act)
    (hc : Quiet cleanup) : Quiet (Act.after act cleanup) := by
  intro w
  rw [ensures_after]
  refine (h w).mono (fun _ u _ => hc u) fun e u stopped => ?_
  rw [stopped]

end AddonBridge.Act
