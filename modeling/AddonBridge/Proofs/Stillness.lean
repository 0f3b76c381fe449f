import AddonBridge.Proofs.Reentry

/-!
# Code that calls nothing

Code that enters no function only talks, and code that does not panic comes back unless it enters one.
Both are read off the trace of a run, so they hold of all code and say nothing where it does make
calls.
-/

namespace AddonBridge

open Act World

variable {σ ν δ ε α : Type} [Panics δ] {env : Env σ ν δ} {w u v : World σ ν}

/-! ### Traces grow -/

/-- Nothing is taken back from the trace, however an act ends. -/
def Growing : Change σ ν := fun w _ u => w.trace <:+ u.trace

theorem Growing.law : Law (Growing : Change σ ν) where
  refl _ := List.suffix_rfl
  trans first second := List.IsSuffix.trans first second
  cleanup first second := List.IsSuffix.trans first second
  cleanup_aborted first second := List.IsSuffix.trans first second
  caught first _ := first
  fatal first := first

theorem Growing.permits (quiet : env.IsQuiet) (nested : ∀ c, Obeys Growing (env.nested c)) :
    env.Permits Growing {} where
  law := Growing.law
  talk _ _ idle := idle.stirs.trace
  panic _ _ _ := List.suffix_rfl
  modules := Modules.follow_free env.modules
  nested c _ := nested c
  quiet := quiet
  stirs _ _ stirs := stirs.trace
  doubles := .inr fun first second => List.IsSuffix.trans first second

theorem Growing.opens (permits : env.Permits Growing {}) :
    env.Opens Growing (fun _ => Growing) {} where
  toPermits := permits
  tends _ :=
    { toPermits := permits
      raised := fun _ _ => List.suffix_cons _ _
      reseat := fun _ _ _ _ _ _ _ => List.suffix_rfl }
  releases.held _ _ _ _ _ _ h := h
  releases.halted _ _ _ _ h := h
  entered _ _ _ := List.suffix_cons _ _
  locates := .of_free Growing.law fun _ _ _ => List.suffix_rfl
  apart _ _ _ _ _ trace := ⟨[], trace.symm⟩
  emptied _ _ _ := List.suffix_rfl
  filled _ _ _ := List.suffix_rfl

namespace Exports

variable (modules : Modules σ ν δ) (unloading : Bool) (depth : Nat)

theorem env_growing (c : RawCall) :
    Obeys Growing ((Exports.env modules unloading depth).nested c) :=
  env_obeys (p := {}) True (fun _ _ _ => True.intro)
    (fun depth nested => (Growing.opens (Growing.permits (env_quiet modules unloading depth)
      fun c => nested c True.intro)).serves)
    Growing.law depth c True.intro

theorem env_opens_growing :
    (Exports.env modules unloading depth).Opens Growing (fun _ => Growing) {} :=
  Growing.opens (Growing.permits (env_quiet modules unloading depth)
    (env_growing modules unloading depth))

end Exports

/-! ### Nested calls show in the trace -/

namespace World

/-- What holds if no functions were entered. -/
structure IfStill (R : World σ ν → World σ ν → Prop) (w u : World σ ν) : Prop where
  trace : w.trace <:+ u.trace
  holds : w.Still u → R w u

variable {R R' : World σ ν → World σ ν → Prop}

theorem IfStill.trans (trans : ∀ w u v, R w u → R u v → R w v) (first : w.IfStill R u)
    (second : u.IfStill R v) : w.IfStill R v :=
  ⟨first.trace.trans second.trace, fun still =>
    trans _ _ _ (first.holds (still.left second.trace)) (second.holds (still.right first.trace))⟩

theorem IfStill.mono (h : w.IfStill R u) (weaker : R w u → R' w u) : w.IfStill R' u :=
  ⟨h.trace, fun still => weaker (h.holds still)⟩

theorem Idle.ifStill (h : w.Idle u) : w.IfStill Idle u := ⟨h.stirs.trace, fun _ => h⟩

/-- Every call that entered a function is one of the allowed. -/
def Enters (allowed : String → EntryCall → Prop) (w u : World σ ν) : Prop :=
  ∀ m c, w.Shows u (.entered m c) → allowed m c

variable {allowed : String → EntryCall → Prop}

theorem Enters.left (grown : u.trace <:+ v.trace) (h : w.Enters allowed v) : w.Enters allowed u :=
  fun m c shown => h m c (shown.later grown)

theorem Enters.right (grown : w.trace <:+ u.trace) (h : w.Enters allowed v) : u.Enters allowed v :=
  fun m c shown => h m c (shown.earlier grown)

/-- What holds if only allowed calls entered functions. -/
structure IfEnters (allowed : String → EntryCall → Prop) (R : World σ ν → World σ ν → Prop)
    (w u : World σ ν) : Prop where
  trace : w.trace <:+ u.trace
  holds : w.Enters allowed u → R w u

theorem IfEnters.trans (trans : ∀ w u v, R w u → R u v → R w v) (first : w.IfEnters allowed R u)
    (second : u.IfEnters allowed R v) : w.IfEnters allowed R v :=
  ⟨first.trace.trans second.trace, fun enters =>
    trans _ _ _ (first.holds (enters.left second.trace)) (second.holds (enters.right first.trace))⟩

theorem Lenient.ifEnters (lenient : Lenient R) : Lenient (IfEnters allowed R) where
  refl w := ⟨List.suffix_rfl, fun _ => lenient.refl w⟩
  trans _ _ _ := .trans lenient.trans
  stirs w u stirs := ⟨stirs.trace, fun _ => lenient.stirs w u stirs⟩
  raised w d := ⟨List.suffix_cons _ _, fun _ => lenient.raised w d⟩
  marked w t := ⟨List.suffix_rfl, fun _ => lenient.marked w t⟩
  reseat w seat c c' here object site single :=
    ⟨List.suffix_rfl, fun _ => lenient.reseat w seat c c' here object site single⟩
  released m w u free h := ⟨h.trace, fun enters => lenient.released m w u free (h.holds enters)⟩
  moved w m locations := ⟨List.suffix_rfl, fun _ => lenient.moved w m locations⟩
  emptied w m free := ⟨List.suffix_rfl, fun _ => lenient.emptied w m free⟩
  withdrawn w m c u free here h :=
    ⟨h.trace, fun enters => lenient.withdrawn w m c u free here (h.holds enters)⟩
  unbound w := ⟨List.suffix_rfl, fun _ => lenient.unbound w⟩

end World

/-- Nested calls that do more than talk, or stop, have entered a function. -/
structure Env.Tells (env : Env σ ν δ) : Prop where
  spares : env.Spares
  nested : ∀ c w, Ensures (env.nested c) w (fun _ u => w.IfStill Idle u)
    (fun _ u => w.IfStill (fun _ _ => False) u)

namespace Exports

theorem call_unstill (opens : env.Opens Growing (fun _ => Growing) {}) (m : String) (c : EntryCall)
    (w : World σ ν) :
    Ensures (call env m c) w (fun _ u => w.IfStill (fun _ _ => False) u)
      (fun _ u => w.IfStill (fun _ _ => False) u) := by
  have mark {u : World σ ν} (grown : (w.entered m c).trace <:+ u.trace) :
      w.IfStill (fun _ _ => False) u := by
    have entered : w.Shows (w.entered m c) (.entered m c) := ⟨[_], rfl, List.mem_singleton.mpr rfl⟩
    exact ⟨(List.suffix_cons _ _).trans grown, fun still => still m c (entered.later grown)⟩
  rw [call, ensures_bind, ensures_record]
  exact (reached_obeys opens.serves m (c := c) (fun _ _ _ => True.intro) (w.entered m c)).mono
    (fun _ _ => mark) fun _ _ => mark

/-- Of a call that is not allowed there is nothing left to show. -/
theorem call_disallowed (spares : env.Spares) {allowed : String → EntryCall → Prop}
    {R : World σ ν → World σ ν → Prop} {m : String} {c : EntryCall} (barred : ¬allowed m c) :
    Obeys (Change.unlessAborted (IfEnters allowed R)) (call env m c) := by
  refine fun w => (call_shows spares m c w).mono (fun _ u ended _ => ?_) fun _ _ aborted going => ?_
  · obtain ⟨spared, shown⟩ := ended
    exact ⟨spared.trace, fun enters => absurd (enters m c shown) barred⟩
  · exact absurd (congrArg some aborted) going

theorem callRaw_tells (opens : env.Opens Growing (fun _ => Growing) {}) (c : RawCall)
    (w : World σ ν) :
    Ensures (callRaw env c) w (fun _ u => w.IfStill Idle u)
      (fun _ u => w.IfStill (fun _ _ => False) u) := by
  have called (m : String) (c : EntryCall) {v : World σ ν} (before : w.trace <:+ v.trace) :
      Ensures (call env m c) v (fun _ u => w.IfStill Idle u)
        (fun _ u => w.IfStill (fun _ _ => False) u) := by
    have unstill {u : World σ ν} (h : v.IfStill (fun _ _ => False) u) :
        w.IfStill (fun _ _ => False) u :=
      ⟨before.trans h.trace, fun still => h.holds (still.right before)⟩
    exact (call_unstill opens m c v).mono (fun _ _ ended => (unstill ended).mono False.elim)
      fun _ _ => unstill
  cases c with
  | entry m c =>
    unfold callRaw
    dsimp only
    split
    · rw [ensures_bind, ensures_modifyLoaded]
      exact called m _ List.suffix_rfl
    · exact called m c List.suffix_rfl
  | registered table c =>
    refine registered?_talks.before fun found u idle => ?_
    cases found with
    | some m => exact called m c idle.stirs.trace
    | none => exact idle.ifStill

theorem env_tells (modules : Modules σ ν δ) (unloading : Bool) (depth : Nat) :
    (Exports.env modules unloading depth).Tells where
  spares := env_spares modules unloading depth
  nested c w := by
    -- What a nested call does in turn does not matter: that it was made shows in the trace.
    cases depth with
    | zero => exact (Idle.refl w).ifStill
    | succ depth =>
      change Ensures (if (unloading && c.isCreate) = true then pure .unloading else callRaw _ c) w _ _
      rw [ensures_ite]
      exact ⟨fun _ => (Idle.refl w).ifStill,
        fun _ => callRaw_tells (env_opens_growing modules unloading depth) c w⟩

end Exports

/-! ### Code that makes no calls -/

namespace Env.Tells

omit [Panics δ] in
theorem perform_tells (tells : env.Tells) (m : String) (c : Command σ ν) (w : World σ ν) :
    Ensures (env.perform m c) w (fun _ u => w.IfStill Idle u)
      (fun _ u => w.IfStill (fun _ _ => False) u) := by
  by_cases h : ∃ call, c = .call call
  · obtain ⟨call, rfl⟩ := h
    exact tells.nested call w
  · exact (perform_idles env m c fun call same => h ⟨call, same⟩).ensures
      fun _ _ idle => idle.ifStill

omit [Panics δ] in
/-- Code that enters no function talks until it ends, and does not abort. -/
theorem exec_tells (tells : env.Tells) (m : String) (payload : ε → Payload)
    (q : Program σ ν ε α) (w : World σ ν) :
    Ensures (env.exec m payload q) w (fun _ u => w.IfStill Idle u)
      (fun e u => w.IfStill (fun w u => w.Idle u ∧ ∃ p, e = .unwinding (payload p)) u) := by
  induction q generalizing w with
  | done a => exact (Idle.refl w).ifStill
  | panic p => exact (Idle.refl w).ifStill.mono fun idle => ⟨idle, p, rfl⟩
  | step c next ih =>
    rw [exec, ensures_bind]
    refine (tells.perform_tells m c w).mono (fun r u first => ?_) fun _ _ stopped =>
      stopped.mono False.elim
    refine (ih r u).mono (fun _ _ second => first.trans (fun _ _ _ => Idle.trans) second)
      fun e v second => ⟨first.trace.trans second.trace, fun still => ?_⟩
    obtain ⟨idle, unwound⟩ := second.holds (still.right first.trace)
    exact ⟨(first.holds (still.left second.trace)).trans idle, unwound⟩

/-- Code that does not panic comes back unless it enters a function. -/
theorem lastly_tells [IsEmpty δ] (tells : env.Tells) (m : String) (q : Program σ ν δ α)
    (w : World σ ν) :
    Ensures (env.lastly m q) w (fun _ u => w.IfStill Idle u)
      (fun _ u => w.IfStill (fun _ _ => False) u) :=
  (tells.exec_tells m Panics.payload q w).mono (fun _ _ => id) fun _ _ stopped =>
    stopped.mono fun ⟨_, p, _⟩ => isEmptyElim p

end Env.Tells

abbrev Stirring : Change σ ν := Change.unlessAborted (IfStill Stirs)

theorem World.Stirs.trans (first : w.Stirs u) (second : u.Stirs v) : w.Stirs v where
  contexts := second.contexts.trans first.contexts
  busy := second.busy.trans first.busy
  facade := first.facade.trans second.facade
  sink := second.sink.trans first.sink
  locations := second.locations.trans first.locations
  loaded t := (second.loaded t).trans (first.loaded t)
  trace := first.trace.trans second.trace
  defects := second.defects.trans first.defects

/-- What addons have put into their interfaces is as it was. -/
def World.SameCores (w u : World σ ν) : Prop :=
  ∀ t, (u.loaded.get? t).map Loaded.core = (w.loaded.get? t).map Loaded.core

theorem Env.Tells.permits (tells : env.Tells) : env.Permits Stirring {} where
  law := .of_preorder (fun w => (Idle.refl w).ifStill.mono Idle.stirs)
    fun _ _ _ => IfStill.trans fun _ _ _ => Stirs.trans
  talk _ _ idle _ := idle.ifStill.mono Idle.stirs
  panic _ _ w _ := (Idle.refl w).ifStill.mono Idle.stirs
  modules := Modules.follow_free env.modules
  nested c _ w := (tells.nested c w).mono (fun _ _ ended _ => ended.mono Idle.stirs)
    fun _ _ stopped _ => stopped.mono False.elim
  quiet := tells.spares.quiet
  stirs _ _ stirs _ := ⟨stirs.trace, fun _ => stirs⟩

/-- Requests leave alone what addons have put into their interfaces, if code enters no function. -/
theorem Env.Tells.tends (tells : env.Tells) (seat : Seat) :
    env.Tends (Change.unlessAborted (IfStill SameCores)) {} seat where
  law := .of_preorder (fun _ => ⟨List.suffix_rfl, fun _ _ => rfl⟩) fun _ _ _ =>
    IfStill.trans fun _ _ _ first second t => (second t).trans (first t)
  talk _ _ idle _ := ⟨idle.stirs.trace, fun _ => idle.loaded⟩
  panic _ _ _ _ := ⟨List.suffix_rfl, fun _ _ => rfl⟩
  modules := Modules.follow_free env.modules
  nested c _ w := (tells.nested c w).mono (fun _ _ ended _ => ended.mono Idle.loaded)
    fun _ _ stopped _ => stopped.mono False.elim
  quiet := tells.spares.quiet
  stirs _ _ stirs _ := ⟨stirs.trace, fun _ => stirs.loaded⟩
  raised _ _ _ := ⟨List.suffix_cons _ _, fun _ _ => rfl⟩
  reseat _ _ _ _ _ _ _ _ := ⟨List.suffix_rfl, fun _ _ => rfl⟩

end AddonBridge
