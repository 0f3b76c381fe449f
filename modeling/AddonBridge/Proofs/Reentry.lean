import AddonBridge.Proofs.Serving

/-!
# Contexts that are in use

While a slot is in use, or a context is driven directly, nothing that code calls meanwhile touches
that context: it is left as it was by every call, of every module and at every depth.
-/

namespace AddonBridge

open Act

variable {σ ν δ : Type} [Panics δ]

namespace World

def Holds (w : World σ ν) : Seat → Prop
  | .module m => m ∈ w.busy
  | .direct _ => True

/-- Contexts in use are left as they were, but for the one in an exempt seat. -/
structure Spares (exempt : Option Seat) (w u : World σ ν) : Prop where
  busy : u.busy = w.busy
  locations : u.locations = w.locations
  trace : w.trace <:+ u.trace
  contexts : ∀ seat, w.Holds seat → exempt ≠ some seat →
    u.contexts.get? seat = w.contexts.get? seat

variable {exempt : Option Seat} {w u v : World σ ν}

theorem Holds.of_busy {seat : Seat} (h : w.Holds seat) (same : u.busy = w.busy) : u.Holds seat := by
  unfold Holds at *
  rwa [same]

/-- A module's slot is in use. -/
abbrev inUse (w : World σ ν) (m : String) : World σ ν := { w with busy := m :: w.busy }

theorem Holds.inUse {seat : Seat} (h : w.Holds seat) (m : String) : (w.inUse m).Holds seat := by
  cases seat with
  | module n => exact List.mem_cons_of_mem _ h
  | direct home => exact True.intro

theorem Holds.of_inUse {seat : Seat} {m : String} (h : (w.inUse m).Holds seat)
    (other : some (.module m) ≠ some seat) : w.Holds seat := by
  cases seat with
  | module n => exact (List.mem_cons.mp h).resolve_left fun same => other (by rw [same])
  | direct home => exact True.intro

theorem Spares.refl (w : World σ ν) : Spares exempt w w :=
  ⟨rfl, rfl, List.suffix_rfl, fun _ _ _ => rfl⟩

theorem Spares.trans (first : Spares exempt w u) (second : Spares exempt u v) : Spares exempt w v where
  busy := second.busy.trans first.busy
  locations := second.locations.trans first.locations
  trace := first.trace.trans second.trace
  contexts seat held other :=
    (second.contexts seat (held.of_busy first.busy) other).trans (first.contexts seat held other)

theorem Spares.weaken (h : Spares none w u) : Spares exempt w u :=
  ⟨h.busy, h.locations, h.trace, fun seat held _ => h.contexts seat held (by simp)⟩

theorem Stirs.spares (h : w.Stirs u) : Spares exempt w u :=
  ⟨h.busy, h.locations, h.trace, fun _ _ _ => by rw [h.contexts]⟩

theorem Spares.set {seat : Seat} {c : Context σ} :
    Spares (some seat) w { w with contexts := w.contexts.set seat c } := by
  refine ⟨rfl, rfl, List.suffix_rfl, fun s _ other => ?_⟩
  dsimp only
  rw [Assoc.get?_set, if_neg fun same => other (congrArg some same)]

theorem Spares.kept {seat : Seat} (h : Spares none w u) (held : w.Holds seat) :
    u.contexts.get? seat = w.contexts.get? seat :=
  h.contexts seat held (by simp)

theorem Spares.stays {s : Seat} {c : Context σ} (h : Spares none w u) (held : w.Holds s)
    (here : w.contexts.get? s = some c) : u.contexts.get? s = some c :=
  (h.kept held).trans here

theorem Spares.release {m : String} (free : m ∉ w.busy)
    (h : Spares (some (.module m)) { w with busy := m :: w.busy } u) :
    Spares none w { u with busy := u.busy.erase m } := by
  refine ⟨by simp [h.busy], h.locations, h.trace, fun seat held _ => h.contexts seat (held.inUse m) ?_⟩
  rintro ⟨⟩
  exact free held

/-- A call that was given a location takes it away in the end. -/
theorem Spares.located {m : String} {out : Option UInt64}
    (h : Spares exempt (w.setLocations m (out :: w.locations m)) u) :
    Spares exempt w (u.setLocations m (u.locations m).tail) :=
  ⟨h.busy, locations_tail h.locations, h.trace, h.contexts⟩

def Shows (w u : World σ ν) (e : Event ν) : Prop := ∃ es, u.trace = es ++ w.trace ∧ e ∈ es

/-- What happened between a world and a later one. -/
def since (w u : World σ ν) : List (Event ν) := u.trace.take (u.trace.length - w.trace.length)

namespace Shows

variable {e : Event ν}

theorem grown (h : w.Shows u e) : w.trace <:+ u.trace := by
  obtain ⟨es, after, -⟩ := h
  exact ⟨es, after.symm⟩

theorem later (h : w.Shows u e) (grown : u.trace <:+ v.trace) : w.Shows v e := by
  obtain ⟨es, after, member⟩ := h
  obtain ⟨more, grown⟩ := grown
  exact ⟨more ++ es, by rw [← grown, after, List.append_assoc], List.mem_append_right _ member⟩

theorem earlier (grown : w.trace <:+ u.trace) (h : u.Shows v e) : w.Shows v e := by
  obtain ⟨es, after, member⟩ := h
  obtain ⟨more, grown⟩ := grown
  exact ⟨es ++ more, by rw [after, ← grown, List.append_assoc], List.mem_append_left _ member⟩

theorem of_trace {l : List (Event ν)} (after : u.trace = l ++ w.trace) :
    w.Shows u e ↔ e ∈ l := by
  refine ⟨fun ⟨es, after', member⟩ => ?_, fun member => ⟨l, after, member⟩⟩
  rwa [List.append_cancel_right (after.symm.trans after')]

theorem iff_since (grown : w.trace <:+ u.trace) : w.Shows u e ↔ e ∈ w.since u := by
  obtain ⟨es, same⟩ := grown
  have new : w.since u = es := by
    rw [since, ← same, List.length_append, Nat.add_sub_cancel, List.take_left]
  rw [of_trace same.symm, new]

theorem split (first : w.trace <:+ u.trace) (second : u.trace <:+ v.trace) (h : w.Shows v e) :
    w.Shows u e ∨ u.Shows v e := by
  obtain ⟨es, first⟩ := first
  obtain ⟨more, second⟩ := second
  have both : v.trace = (more ++ es) ++ w.trace := by rw [← second, ← first, List.append_assoc]
  rcases List.mem_append.mp ((of_trace both).mp h) with late | early
  · exact .inr ⟨more, second.symm, late⟩
  · exact .inl ⟨es, first.symm, early⟩

end Shows

/-- No functions were entered but those of some modules. -/
def Only (allowed : String → Prop) (w u : World σ ν) : Prop :=
  ∀ m c, w.Shows u (.entered m c) → allowed m

namespace Only

variable {allowed : String → Prop}

theorem left (grown : u.trace <:+ v.trace) (h : w.Only allowed v) : w.Only allowed u :=
  fun m c shown => h m c (shown.later grown)

theorem right (grown : w.trace <:+ u.trace) (h : w.Only allowed v) : u.Only allowed v :=
  fun m c shown => h m c (shown.earlier grown)

end Only

/-- No functions were entered at all. -/
abbrev Still (w u : World σ ν) : Prop := w.Only (fun _ => False) u

/-- A call is on its way into a module. -/
def entered (w : World σ ν) (m : String) (c : EntryCall) : World σ ν :=
  { w with trace := .entered m c :: w.trace }

/-- A call is under way in a module that was given a location, which holds null by now. -/
abbrev locating (w : World σ ν) (m : String) (c : EntryCall) : World σ ν :=
  (w.entered m c).setLocations m (some 0 :: w.locations m)

end World

open World

abbrev Sparing (exempt : Option Seat) : Change σ ν := Change.unlessAborted (Spares exempt)

theorem Sparing.law (exempt : Option Seat) : Law (Sparing exempt : Change σ ν) :=
  .of_preorder Spares.refl fun _ _ _ => Spares.trans

variable {env : Env σ ν δ}

/-- The nested calls of an environment are quiet and spare contexts in use. -/
structure Env.Spares (env : Env σ ν δ) : Prop where
  quiet : env.IsQuiet
  nested : ∀ c, Obeys (Sparing none) (env.nested c)

namespace Env.Spares

theorem permitted (spares : env.Spares) {p : Conduct σ} (follows : env.modules.Follow p)
    (exempt : Option Seat) : env.Permits (Sparing exempt) p where
  law := Sparing.law exempt
  talk _ _ idle _ := idle.stirs.spares
  panic _ _ w _ := .refl w
  modules := follows
  nested c _ := (spares.nested c).mono fun _ _ _ h stopped => (h stopped).weaken
  quiet := spares.quiet
  stirs _ _ stirs _ := stirs.spares

theorem permits (spares : env.Spares) (exempt : Option Seat) : env.Permits (Sparing exempt) {} :=
  spares.permitted (Modules.follow_free env.modules) exempt

theorem tends (spares : env.Spares) (seat : Seat) : env.Tends (Sparing (some seat)) {} seat where
  toPermits := spares.permits (some seat)
  raised _ _ _ := ⟨rfl, rfl, List.suffix_cons _ _, fun _ _ _ => rfl⟩
  reseat _ _ _ _ _ _ _ _ := .set

theorem opens (spares : env.Spares) :
    env.Opens (Sparing none) (fun m => Sparing (some (.module m))) {} where
  toPermits := spares.permits none
  tends m := spares.tends (.module m)
  releases.held _ _ _ _ free going h _ := (h going).release free
  releases.halted _ _ _ _ _ stopped := absurd rfl stopped
  entered _ _ _ _ := ⟨rfl, rfl, List.suffix_cons _ _, fun _ _ _ => rfl⟩
  locates.left m out w u h going := (h going).located
  locates.halted _ _ _ _ _ stopped := absurd rfl stopped
  apart w u contexts busy locations trace _ :=
    ⟨busy, locations, trace ▸ List.suffix_rfl, fun _ _ _ => by rw [contexts]⟩
  emptied w m free _ := by
    refine ⟨rfl, rfl, List.suffix_rfl, fun seat held _ => ?_⟩
    dsimp only
    rw [Assoc.get?_erase, if_neg]
    rintro rfl
    exact free held
  filled _ _ _ _ := .set

end Env.Spares

theorem Exports.env_spares (modules : Modules σ ν δ) (unloading : Bool) (depth : Nat) :
    (Exports.env modules unloading depth).Spares where
  quiet := env_quiet modules unloading depth
  nested c := env_obeys (p := {}) True (fun _ _ _ => True.intro)
    (fun depth nested =>
      (Env.Spares.opens ⟨env_quiet modules unloading depth, fun c => nested c True.intro⟩).serves)
    (Sparing.law none) depth c True.intro

/-- A call of a module that is an addon is on its way, and then the addon's. -/
theorem Exports.ensures_call {m : String} {c : EntryCall} {w : World σ ν}
    {Q : CallAnswer → World σ ν → Prop} {E : Stop → World σ ν → Prop}
    (addon : env.modules.native m = none) :
    Ensures (call env m c) w Q E ↔ Ensures (callAddon env m c) (w.entered m c) Q E := by
  rw [call, ensures_bind, ensures_record, addon]
  rfl

/-- A call leaves its mark in the trace, and contexts in use as they were. -/
theorem Exports.call_shows (spares : env.Spares) (m : String) (c : EntryCall) (w : World σ ν) :
    Ensures (call env m c) w (fun _ u => Spares none w u ∧ w.Shows u (.entered m c))
      fun e _ => e = .aborted := by
  have reached := (reached_obeys spares.opens.serves m (c := c) fun _ _ _ => True.intro)
    (w.entered m c)
  refine (call_quiet spares.quiet m c).ensures (E := fun _ _ => True) ?_
  rw [call, ensures_bind, ensures_record]
  refine reached.mono (fun _ u after => ?_) fun _ _ _ => True.intro
  have after := after.returned
  have mark : Spares none w (w.entered m c) := ⟨rfl, rfl, List.suffix_cons _ _, fun _ _ _ => rfl⟩
  exact ⟨mark.trans after, Shows.later ⟨[_], rfl, List.mem_singleton.mpr rfl⟩ after.trace⟩

theorem Log.raise_ensures (d : Defect) (w : World σ ν) {α : Type} :
    Ensures (raise d : Act σ ν α) w (fun _ _ => False)
      (fun e v => e = .unwinding (.defect d) ∧ Spares none w v) := by
  rw [raise, ensures_bind, ensures_record]
  refine error_talks.before fun _ v idle => ?_
  rw [ensures_throw]
  have found : Spares none w { w with trace := .raised d :: w.trace } :=
    ⟨rfl, rfl, List.suffix_cons _ _, fun _ _ _ => rfl⟩
  exact ⟨rfl, found.trans idle.stirs.spares⟩

end AddonBridge
