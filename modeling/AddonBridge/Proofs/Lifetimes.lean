import AddonBridge.Proofs.Attachment
import AddonBridge.Proofs.Custody

/-!
# Lives of roots and instances

Calls keep everything owned, and so do creates that are not nested in other calls. When all addons are
unloaded again, no context is left to own anything: every root and instance has gone, once, and in
the right order.
-/

namespace AddonBridge

open Act Trace World

variable {σ ν α : Type}

/-! ### Requests to a slot in use -/

namespace World

/-- A context in use keeps its root, and other contexts in use are left as they were. -/
structure Rests (seat : Seat) (w u : World σ ν) : Prop where
  spares : Spares (some seat) w u
  root : w.Holds seat →
    (u.contexts.get? seat).map (·.root.object) = (w.contexts.get? seat).map (·.root.object)

/-- A request to a context in use keeps everything owned. -/
structure Tended (seat : Seat) (w u : World σ ν) : Prop extends Rests seat w u where
  owned : ∀ f, f.Sound → w.Holds seat → (∀ c, w.contexts.get? seat = some c →
    c.root.object ∈ f.guarded ∧ c.root.object ∉ f.waiting) → Owned f w → Owned f u

variable {seat : Seat} {w u v : World σ ν}

theorem Rests.of_contexts (spares : Spares (some seat) w u)
    (same : w.Holds seat → u.contexts.get? seat = w.contexts.get? seat) : Rests seat w u :=
  ⟨spares, fun held => by rw [same held]⟩

theorem Rests.refl (w : World σ ν) : Rests seat w w := .of_contexts (.refl w) fun _ => rfl

theorem Rests.trans (first : Rests seat w u) (second : Rests seat u v) : Rests seat w v :=
  ⟨first.spares.trans second.spares,
    fun held => (second.root (held.of_busy first.spares.busy)).trans (first.root held)⟩

end World

abbrev Resting (seat : Seat) : Change σ ν := Change.unlessAborted (Rests seat)

abbrev Tending (seat : Seat) : Change σ ν := Change.unlessAborted (Tended seat)

theorem Env.Spares.rests {env : Env σ ν} (spares : env.Spares) (seat : Seat) :
    env.Tends (Resting seat) {} seat where
  law := .of_preorder Rests.refl fun _ _ _ => Rests.trans
  talk w u idle _ := .of_contexts idle.stirs.spares fun _ => by rw [idle.contexts]
  panic _ _ w _ := .refl w
  modules := Modules.follow_free env.modules
  nested c _ := (spares.nested c).mono fun _ _ _ h stopped =>
    .of_contexts (h stopped).weaken fun held => (h stopped).kept held
  quiet := spares.quiet
  stirs _ _ stirs _ := .of_contexts stirs.spares fun _ => by rw [stirs.contexts]
  raised _ _ _ := .of_contexts ⟨rfl, rfl, List.suffix_cons _ _, fun _ _ _ => rfl⟩ fun _ => rfl
  reseat w c c' here object _ _ _ := by
    refine ⟨.set, fun _ => ?_⟩
    dsimp only
    rw [Assoc.get?_set, if_pos rfl, here, Option.map_some, Option.map_some, object]

namespace Dispatch

variable {env : Env σ ν} {seat : Seat}

theorem withContext_empty {default : α} {g : Context σ → Act σ ν α} {w : World σ ν}
    (empty : w.contexts.get? seat = none) :
    Ensures (withContext seat default g) w (fun _ u => u = w) fun _ _ => False := by
  rw [withContext, ensures_bind, ensures_context?, empty]
  exact rfl

theorem withContext_tends {default : α} {g : Context σ → Act σ ν α}
    (rests : Obeys (Resting seat) (withContext seat default g))
    (owned : ∀ f c w, Attends f seat c [] w → Ensures (withContext seat default g) w
      (fun _ u => Owned f u) fun e u => e ≠ .aborted → Owned f u) :
    Obeys (Tending seat) (withContext seat default g) := by
  intro w
  have kept : ∀ f, f.Sound → w.Holds seat → (∀ c, w.contexts.get? seat = some c →
      c.root.object ∈ f.guarded ∧ c.root.object ∉ f.waiting) → Owned f w →
      Ensures (withContext seat default g) w (fun _ u => Owned f u)
        fun e u => e ≠ .aborted → Owned f u := by
    intro f sound held root before
    cases here : w.contexts.get? seat with
    | none =>
      refine (withContext_empty here).mono (fun _ u same => ?_) fun _ _ => False.elim
      rwa [same]
    | some c =>
      obtain ⟨guarded, told⟩ := root c here
      exact owned f c w ⟨sound, guarded, told, held, here, before, by simp⟩
  have all := Ensures.all fun f => Ensures.all fun sound => Ensures.all fun held =>
    Ensures.all fun root => Ensures.all fun before => kept f sound held root before
  refine ((rests w).and all).mono (fun _ u ended _ => ?_) fun e u stopped going => ?_
  · obtain ⟨rested, owned⟩ := ended
    exact ⟨rested.returned, owned⟩
  · obtain ⟨rested, owned⟩ := stopped
    refine ⟨rested going, ?_⟩
    intro f sound held root before
    exact owned f sound held root before (by simpa using going)

theorem lawful_tending (conserves : env.Conserves) (seat : Seat) :
    Lawful env (Tending seat) seat := by
  have lawful := (conserves.spares.rests seat).lawful
  exact
    { status := withContext_tends lawful.status fun f c w h =>
        withContext_owned conserves .status (by simp) (fun _ follows site => follows.status site) h
      setSetting := fun name value =>
        withContext_tends (lawful.setSetting name value) fun f c w h =>
          withContext_owned conserves (.setSetting name value) (by simp)
            (fun _ follows site => follows.setSetting site name value) h
      createInstance := fun ty id host version parent =>
        withContext_tends (lawful.createInstance ty id host version parent) fun f c w h =>
          createInstance_owned conserves ty id host version parent h
      destroyInstance := fun ty handle =>
        withContext_tends (lawful.destroyInstance ty handle) fun f c w h =>
          destroyInstance_owned conserves ty handle h }

end Dispatch

/-! ### Calls that create nothing -/

theorem Owned.unguarded_flying {f : Frame} {w : World σ ν} (owned : Owned f w) {m : String}
    {c : Context σ} (free : m ∉ w.busy) (here : w.contexts.get? (.module m) = some c) :
    c.root.object ∉ f.guarded ∧ ∀ x ∈ f.flying, rootOf w.trace x.name ≠ c.root.object := by
  have away := owned.unguarded _ c here free
  exact ⟨away, fun x member same => away (same ▸ owned.flying x member)⟩

namespace Env.Conserves

variable {env : Env σ ν} {w : World σ ν} {m : String}

theorem releases : Releases (Conserving : Change σ ν) fun m => Tending (.module m) where
  held m w k u free going h _ := by
    obtain ⟨⟨spares, root⟩, owned⟩ := h going
    have used : u.busy = m :: w.busy := spares.busy
    have held : World.Holds { w with busy := m :: w.busy } (.module m) := List.mem_cons_self
    refine ⟨spares.release free, fun f sound before => ?_⟩
    have same := root held
    dsimp only at same
    rw [show u.busy.erase m = w.busy by simp [used]]
    cases here : w.contexts.get? (.module m) with
    | none =>
      rw [here] at same
      refine (owned f sound held (by simp [here]) (before.enter_empty m)).leave used fun d found => ?_
      rw [found] at same
      contradiction
    | some c =>
      rw [here] at same
      obtain ⟨away, apart⟩ := before.unguarded_flying free here
      have inside := owned { f with guarded := c.root.object :: f.guarded }
        (sound.guard _) held
        (fun d found => by
          cases here.symm.trans found
          exact ⟨List.mem_cons_self, fun waits => away (sound _ waits)⟩) (before.enter here)
      have outside := inside.unguard fun x member => by
        rw [inside.rootOf_later spares.trace (before.of_flying member).1]
        exact apart x member
      refine outside.leave used fun d found => ?_
      rw [found, Option.map_some, Option.map_some, Option.some.injEq] at same
      rwa [same]
  halted _ _ _ _ _ going := absurd rfl going

theorem destroy_owned (conserves : env.Conserves) {f : Frame} (sound : f.Sound)
    (owned : Owned f w) :
    Ensures (Exports.destroy env m) w (fun _ u => Owned f u) fun e _ => e = .aborted := by
  refine Exports.guard_ensures ?_
  rw [ensures_bind]
  refine (Exports.take_ensures m w).mono (fun taken u ended => ?_) fun _ _ => False.elim
  cases taken with
  | none =>
    obtain ⟨idle, -⟩ := ended
    exact owned.idle idle
  | some c =>
    obtain ⟨free, here, rfl⟩ := ended
    rw [ensures_bind]
    obtain ⟨-, last⟩ := owned.unguarded_flying free here
    refine (Dispatch.destroy_owned conserves sound (owned.taken here) last).aborts
      fun _ u dropped => ?_
    rw [ensures_bind, Exports.publish, ensures_modifyLoaded, ensures_unbind]
    split <;> exact dropped.congr rfl rfl rfl rfl

theorem destroy_conserves (conserves : env.Conserves) :
    Obeys Conserving (Exports.destroy env m) := by
  intro w
  have spared := Exports.destroy_obeys conserves.spares.opens (m := m) w
  have owned := Ensures.all fun f => Ensures.all fun sound : f.Sound =>
    Ensures.all fun before : Owned f w => conserves.destroy_owned (m := m) sound before
  refine (spared.and owned).mono (fun _ u ended _ => ?_) fun e u stopped going => ?_
  · obtain ⟨spared, owned⟩ := ended
    exact ⟨spared.returned, owned⟩
  · obtain ⟨spared, aborted⟩ := stopped
    exact ⟨spared going, fun f sound before =>
      absurd (congrArg some (aborted f sound before)) going⟩

theorem serves (conserves : env.Conserves) :
    env.Serves Conserving (fun m => Tending (.module m)) .tame False where
  toKeeps := conserves.keeps
  seated m := Dispatch.lawful_tending conserves (.module m)
  releases := releases
  locates.left _ _ _ _ h going := ⟨(h going).spares.located, fun f sound owned =>
    ((h going).owned f sound (owned.congr rfl rfl rfl rfl)).congr rfl rfl rfl rfl⟩
  locates.halted _ _ _ _ _ stopped := absurd rfl stopped
  entered _ _ _ _ := .neutral True.intro
  destroyed _ := conserves.destroy_conserves
  created := False.elim
  relinked := False.elim

end Env.Conserves

theorem Exports.env_conserves {modules : Modules σ ν} (tame : modules.Follow .tame)
    (unloading : Bool) (depth : Nat) : (Exports.env modules unloading depth).Conserves where
  tame := by rwa [env_modules]
  spares := env_spares modules unloading depth
  nested c h := env_obeys (p := .tame) False
    (fun _ (never : RawCall.isCreate _ = false) creates => by simp [never] at creates)
    (fun depth nested => Env.Conserves.serves
      ⟨by rwa [env_modules], env_spares modules unloading depth, nested⟩) Conserving.law depth c h

/-! ### Creating an addon -/

variable {env : Env σ ν} {w u : World σ ν} {m : String} {t : TableId} {c : Context σ}

/-- A context that was just built: its root is on its way and was not called yet. -/
structure Newborn (c : Context σ) (w : World σ ν) : Prop where
  owned : Owned { flying := [.root c.root.object], guarded := [c.root.object] } w
  silent : callbacks w.trace c.root.object = []
  bare : c.instances.entries = []

theorem Newborn.congr (h : Newborn c w) (contexts : u.contexts = w.contexts)
    (busy : u.busy = w.busy) (made : u.made = w.made) (trace : u.trace = w.trace) : Newborn c u :=
  ⟨h.owned.congr contexts busy made trace, trace ▸ h.silent, h.bare⟩

theorem Newborn.alone (h : Newborn c w) : rootOf w.trace c.root.object = c.root.object :=
  List.mem_singleton.mp (h.owned.flying _ List.mem_cons_self)

theorem Owned.release {r : ObjectId} {waiting : List ObjectId} {busy : List String}
    (owned : Owned { guarded := [r], waiting } u) (used : u.busy = m :: busy) :
    Owned { waiting } { u with busy := u.busy.erase m } := by
  have free : Owned { waiting } u :=
    Owned.unguard (f := { waiting }) owned fun _ member => absurd member List.not_mem_nil
  rw [show u.busy.erase m = busy by simp [used]]
  exact free.leave used fun _ _ => List.not_mem_nil

theorem Dispatch.build_owned (conserves : env.Conserves) (owned : Owned {} w) :
    Ensures (build env m t) w
      (fun built u => match built with
        | .ok c => Newborn c u
        | .error _ => Owned {} u)
      fun e u => e ≠ .aborted → Owned {} u := by
  rw [build, ensures_bind, ensures_freshObject, ensures_bind, ensures_record, ensures_bind]
  have reserved := (owned.reserve t).neutral (e := .building ⟨t, w.made t⟩ ⟨m, t⟩) True.intro
  refine (Env.callback_obeys conserves.keeps m ((conserves.tame.addon m).build ⟨m, t⟩) _).mono
    (fun built u kept => ?_) fun e u kept going => ?_
  · have reserved := kept.returned.owned _ (fun _ => id) reserved
    cases built with
    | ok single =>
      obtain ⟨-, silent⟩ := reserved.unborn_of_reserved List.mem_cons_self
      rw [ensures_bind, ensures_record]
      exact ⟨reserved.built List.not_mem_nil, (callbacks_cons_none u.trace rfl).trans silent, rfl⟩
    | error e => exact reserved.unreserve
  · exact ((kept.stopped going).owned _ (fun _ => id) reserved).unreserve

/-- The context in a slot that is not in use waits to be told that it is created. -/
structure Waiting (m : String) (w : World σ ν) : Prop where
  free : m ∉ w.busy
  here : ∃ c, w.contexts.get? (.module m) = some c ∧ Owned { waiting := [c.root.object] } w

namespace Exports

theorem registerFunctions_apart (w : World σ ν) :
    Ensures (registerFunctions m t) w (fun _ u => u.contexts = w.contexts ∧ u.busy = w.busy ∧
      u.made = w.made ∧ u.trace = w.trace) fun _ _ => False := by
  rw [registerFunctions, ensures_bind, ensures_loaded?]
  split
  · rw [ensures_ite]
    exact ⟨fun _ => ⟨rfl, rfl, rfl, rfl⟩, fun _ => ⟨rfl, rfl, rfl, rfl⟩⟩
  · exact ⟨rfl, rfl, rfl, rfl⟩

theorem install_owned (conserves : env.Conserves) (newborn : Newborn c w) (free : m ∉ w.busy) :
    Ensures (install env m c) w (fun installed u => installed = true ∧ Waiting m u)
      fun e _ => e = .aborted := by
  have placed := (newborn.owned.enter_empty m).placed (.module m)
    (f := { guarded := [c.root.object] }) List.mem_cons_self newborn.alone newborn.bare
  have birth := (newborn.owned.of_flying (x := .root c.root.object) List.mem_cons_self).1
  have installed := placed.installed birth newborn.silent
  have finished {u : World σ ν}
      (owned : Owned { guarded := [c.root.object], waiting := [c.root.object] } u)
      (used : u.busy = m :: w.busy) (here : u.contexts.get? (.module m) = some c) :
      Waiting m { u with busy := u.busy.erase m } :=
    ⟨by simpa [used] using free, c, here, owned.release used⟩
  refine install_exits free (fun old found => ?_) fun none => ?_
  · rw [found] at installed
    have permits := conserves.spares.permits none
    have dropped := Dispatch.dropContext_owned
      (f := { guarded := [c.root.object], waiting := [c.root.object] }) (c := old) conserves
      (fun _ => id) (by simpa using installed) fun _ member => absurd member List.not_mem_nil
    refine (dropped.and (Dispatch.dropContext_obeys permits _)).mono (fun _ u ended v idle => ?_)
      fun _ _ stopped => stopped.1
    obtain ⟨owned, spared⟩ := ended
    have spared := spared.returned
    refine finished (owned.idle idle) (idle.busy.trans spared.busy) ?_
    rw [idle.contexts, spared.kept List.mem_cons_self]
    simp [Assoc.get?_set]
  · rw [none] at installed
    have seated := finished installed rfl (by simp [Assoc.get?_set])
    rwa [List.erase_cons_head] at seated

/-- The root in a slot is told that it is created, before anything else is said to it. -/
theorem create_tells (conserves : env.Conserves) (waiting : Waiting m w) :
    Ensures (withSlot m "create" .unknown (Dispatch.create env (.module m))) w
      (fun _ u => Owned {} u) fun e u => e ≠ .aborted → Owned {} u := by
  obtain ⟨free, c, here, owned⟩ := waiting
  rw [withSlot, ensures_bind, ensures_isBusy, ensures_ite]
  refine ⟨fun busy => absurd (by simpa using busy) free, fun _ => ?_⟩
  rw [ensures_bind, ensures_context?, here]
  dsimp only
  refine .holding ?_
  rw [Dispatch.create, Dispatch.withContext, ensures_bind, ensures_context?, here]
  dsimp only
  rw [Dispatch.callRoot, ensures_bind, ensures_record]
  have told := (owned.enter here).created (f := { guarded := [c.root.object] })
    (mem_housing here List.mem_cons_self) List.not_mem_nil
  have left {u : World σ ν} (kept : Conserves _ u) :
      Owned {} { u with busy := u.busy.erase m } :=
    Owned.release (kept.owned _ .nil told) kept.spares.busy
  exact (Env.callback_obeys conserves.keeps _
    ((conserves.tame.addon _).created c.root.site) _).mono (fun _ u kept => left kept.returned)
      fun e u kept going => left (kept.stopped going)

theorem construct_owned (conserves : env.Conserves) {api : Option CString} (owned : Owned {} w)
    (free : m ∉ w.busy) :
    Ensures (construct env m t api) w
      (fun built u => match built with
        | .ok _ => Waiting m u
        | .error _ => Owned {} u)
      fun e u => e ≠ .aborted → Owned {} u := by
  have permits := conserves.spares.permits none
  let born (c : Context σ) (u : World σ ν) := Newborn c u ∧ m ∉ u.busy
  refine (construct_exits (F := Owned {}) (B := born) (R := born) (K := fun _ => Waiting m)
    (fun _ _ idle owned => owned.idle idle) (fun u idle => ?_) (fun c u ended => ?_)
    (fun c u ended => ?_) fun c u v ended idle => ?_).mono (fun built u ended => ?_) fun _ _ => id
  · refine ((Dispatch.build_owned conserves (owned.idle idle)).and
      (Dispatch.build_obeys permits u)).mono (fun built v ended => ?_) fun _ _ stopped => stopped.1
    obtain ⟨born, spared⟩ := ended
    cases built with
    | error e => exact born
    | ok c => exact ⟨born, by rwa [spared.returned.busy, idle.busy]⟩
  · refine (registerFunctions_apart u).mono (fun registered v apart => ?_) fun _ _ => False.elim
    obtain ⟨contexts, busy, made, trace⟩ := apart
    rw [ite_self]
    exact ⟨.congr ended.1 contexts busy made trace, busy ▸ ended.2⟩
  · refine (install_owned conserves ended.1 ended.2).aborts fun installed v ended => ?_
    obtain ⟨rfl, waiting⟩ := ended
    exact waiting
  · have alone : c.things = [.root c.root.object] := by
      rw [Context.things, Registry.things, ended.1.bare]
      rfl
    have flying : Owned { flying := c.things ++ [], guarded := [c.root.object] } v := by
      simpa [alone] using ended.1.owned.idle idle
    exact (Dispatch.dropContext_owned (f := {}) conserves .nil flying (by simp)).aborts
      fun _ _ owned => owned
  · cases built with
    | ok single => exact ended.choose_spec.2
    | error status => exact ended

theorem create_owned (conserves : env.Conserves) {table : Option TableId} {api : Option CString}
    (owned : Owned {} w) (free : m ∉ w.busy) :
    Ensures (create env m table api) w (fun _ u => Owned {} u) fun e _ => e = .aborted := by
  cases table with
  | none =>
    refine guard_ensures ?_
    exact Log.error_talks.before fun _ _ idle => owned.idle idle
  | some t =>
    have sunk : Owned {} (w.boundTo t) := owned.congr rfl rfl rfl rfl
    have unbound {u : World σ ν} (owned : Owned {} u) :
        Owned {} (if u.sink = some t then { u with sink := none } else u) := by
      split
      · exact owned.congr rfl rfl rfl rfl
      · exact owned
    refine create_exits (fun _ _ idle owned => owned.idle idle) ?_
    refine (construct_owned conserves sunk free).mono (fun built u ended => ?_)
      fun _ _ stopped going => unbound (stopped going)
    cases built with
    | ok single =>
      obtain ⟨free, c, here, waits⟩ := (ended : Waiting m u)
      dsimp only
      rw [ensures_bind, publish, ensures_modifyLoaded]
      exact create_tells conserves ⟨free, c, here, waits.congr rfl rfl rfl rfl⟩
    | error status => exact unbound ended

end Exports

/-! ### Moves of a host -/

namespace LoadedAddon

variable {l : Loaded}

theorem create_owned (conserves : env.Conserves) {api : String} (owned : Owned {} w)
    (idle : w.busy = []) :
    Ensures (create env t l api) w (fun _ u => Owned {} u) fun _ _ => True := by
  refine create_exits owned fun _ api _ => ?_
  rw [Exports.call, ensures_bind, ensures_record]
  have entered {loaded : Assoc TableId Loaded} {c : EntryCall} :
      Owned {} { w with loaded, trace := .entered l.module c :: w.trace } :=
    (owned.neutral (e := .entered l.module c) True.intro).congr rfl rfl rfl rfl
  split
  · next n native =>
    refine (Exports.callNative_obeys conserves.keeps _ (conserves.tame.native _ n native)
      (fun _ _ _ _ _ _ _ _ => .congr rfl rfl rfl rfl rfl) _).mono (fun _ u kept => ?_)
        fun _ _ _ => True.intro
    exact kept.returned.owned _ .nil entered
  · rw [Exports.callAddon, ensures_bind]
    exact (Exports.create_owned conserves entered (by simp [idle])).mono (fun _ _ owned => owned)
      fun _ _ _ => True.intro

theorem destroy_owned (conserves : env.Conserves) (owned : Owned {} w) :
    Ensures (destroy env t l) w (fun _ u => Owned {} u) fun _ _ => True := by
  rw [destroy, ensures_ite]
  refine ⟨fun _ => ?_, fun _ => owned⟩
  rw [ensures_bind, ensures_modifyLoaded, ensures_discard]
  refine (Exports.call_obeys conserves.serves l.module (c := .destroy) (by simp) _).mono
    (fun _ u kept => ?_) fun _ _ _ => True.intro
  exact kept.returned.owned _ .nil (owned.congr rfl rfl rfl rfl)

theorem perform_owned (conserves : env.Conserves) (operation : Operation) (owned : Owned {} w)
    (idle : w.busy = []) :
    Ensures (perform env t l operation) w (fun _ u => Owned {} u) fun _ _ => True := by
  by_cases plain : operation.IsPlain
  · have obeyed : Obeys Conserving (perform env t l operation) :=
      perform_obeys conserves.serves (fun _ _ _ => .congr rfl rfl rfl rfl rfl) plain
    exact (obeyed w).mono (fun _ u kept => kept.returned.owned _ .nil owned) fun _ _ _ => True.intro
  · cases operation with
    | create api =>
      rw [perform, ensures_bind]
      exact (create_owned conserves owned idle).mono (fun _ _ owned => owned) fun _ _ => id
    | destroy =>
      rw [perform, ensures_bind]
      exact (destroy_owned conserves owned).mono (fun _ _ owned => owned) fun _ _ => id
    | drop =>
      rw [perform, drop, ensures_bind, ensures_bind]
      exact (destroy_owned conserves owned).mono (fun _ _ owned => owned.congr rfl rfl rfl rfl)
        fun _ _ => id
    | _ => exact absurd True.intro plain

theorem step_owned (conserves : env.Conserves) (move : Move) (owned : Owned {} w)
    (idle : w.busy = []) :
    Ensures (step env move) w (fun _ u => Owned {} u) fun _ _ => True := by
  cases move with
  | load t module host libPath =>
    rw [step, ensures_bind, ensures_loaded?]
    split
    · rw [ensures_discard, load]
      split
      · exact owned
      · exact owned.congr rfl rfl rfl rfl
    · exact owned
  | operate t operation =>
    rw [step, ensures_bind, ensures_loaded?]
    split
    · rw [ensures_discard]
      exact perform_owned conserves operation owned idle
    · exact owned

theorem initial_owned (memory : String → σ) (facade : Facade) :
    Owned {} ({ memory, facade } : World σ ν) where
  balance _ := rfl
  distinct := List.nodup_nil
  numbers := nofun
  reserved := nofun
  seats := List.nodup_nil
  handles := nofun
  kin := nofun
  flying := nofun
  unguarded := nofun
  waiting := nofun
  started := nofun
  orderly := True.intro

theorem accounted (owned : Owned {} w) (empty : housing w.contexts = []) : Accounted w.trace where
  once x birth := by
    have sum := owned.balance x
    have once := owned.born_once x
    have here := List.count_pos_iff.mpr birth
    rw [empty] at sum
    simp only [List.count_nil] at sum
    omega
  last later r earlier split o birth kin := by
    have distinct := owned.distinct
    have orderly := owned.orderly
    rw [split] at orderly distinct birth kin
    exact orderly.last distinct birth kin
  alive later o cb earlier split := by
    have orderly := owned.orderly
    rw [split] at orderly
    have away := orderly.fits.2
    exact ⟨fun went => away (List.mem_map_of_mem went), fun went => away (List.mem_map_of_mem went)⟩
  started r installed := (owned.started r installed).resolve_left List.not_mem_nil

/-- However a host uses its addons, when all of them are unloaded again, every root that was built and
every instance that a factory gave has gone, once and in the right order. -/
theorem run_accounted (modules : Modules σ ν) (tame : modules.Follow .tame) (unloading : Bool)
    (depth : Nat) (memory : String → σ) (facade : Facade) (moves : List Move) :
    Ensures (run (Exports.env modules unloading depth) moves) { memory, facade }
      (fun _ w => (∀ t, w.loaded.get? t = none) → Accounted w.trace)
      fun stop _ => stop = .aborted := by
  have wanes := Exports.env_wanes tame unloading depth
  have spares := Exports.env_spares modules unloading depth
  have conserves := Exports.env_conserves tame unloading depth
  let env := Exports.env modules unloading depth
  have preserved (move : Move) (w : World σ ν) (before : w.Attached env.modules ∧ Owned {} w) :
      Ensures (step env move) w (fun _ u => (u.Attached env.modules ∧ Owned {} u) ∧ True)
        fun _ _ => True := by
    obtain ⟨attached, owned⟩ := before
    have stepped := (step_attached wanes spares move attached).and
      (step_owned conserves move owned attached.idle)
    refine stepped.mono (fun _ u after => ?_) fun _ _ _ => True.intro
    obtain ⟨⟨attached, -⟩, owned⟩ := after
    exact ⟨⟨attached, owned⟩, True.intro⟩
  refine (run_ensures (R := fun _ _ => True) wanes.quiet preserved moves _
    ⟨initial_attached env.modules memory facade, initial_owned memory facade⟩).mono
      (fun _ w after unloaded => ?_) fun _ _ => id
  obtain ⟨⟨attached, owned⟩, -⟩ := after
  refine accounted owned (List.eq_nil_iff_forall_not_mem.mpr fun x member => ?_)
  obtain ⟨seat, c, here, -⟩ := Assoc.get?_of_mem_gather owned.seats member
  obtain ⟨m, -, -, created⟩ := attached.seated seat c here
  rw [unloaded] at created
  contradiction

theorem run_accounted_decoders :
    ∃ w, run (Exports.env Modules.decoders false 2)
        [.load ⟨0, 0⟩ "decoders" {} "decoders.so", .operate ⟨0, 0⟩ (.create "1.0"),
          .operate ⟨0, 0⟩ (.createInstance ⟨102⟩ "first" .null "1.0" none),
          .operate ⟨0, 0⟩ .drop] { memory := fun _ => () } = .ok () w ∧
      w.loaded = [] ∧ born w.trace = [.instance ⟨⟨0, 0⟩, 1⟩, .root ⟨⟨0, 0⟩, 0⟩] ∧
      Accounted w.trace := by
  have ends : endsWith (run (Exports.env Modules.decoders false 2)
      [.load ⟨0, 0⟩ "decoders" {} "decoders.so", .operate ⟨0, 0⟩ (.create "1.0"),
        .operate ⟨0, 0⟩ (.createInstance ⟨102⟩ "first" .null "1.0" none),
        .operate ⟨0, 0⟩ .drop]) { memory := fun _ => () } (fun _ w => w.loaded.isEmpty &&
      decide (born w.trace = [.instance ⟨⟨0, 0⟩, 1⟩, .root ⟨⟨0, 0⟩, 0⟩])) := by
    decide +kernel
  obtain ⟨_, w, ran, read⟩ := exists_ended ends
  obtain ⟨empty, births⟩ := Bool.and_eq_true_iff.mp read
  have unloaded : w.loaded = [] := List.isEmpty_iff.mp empty
  have accounted {moves : List Move} {w : World Unit Unit}
      (ran : run (Exports.env Modules.decoders false 2) moves { memory := fun _ => () } = .ok () w) :=
    (ensures_ok ran).mp (run_accounted Modules.decoders
      (Modules.decoders_follow fun _ _ => True.intro) false 2 (fun _ => ()) {} moves)
  refine ⟨w, ran, unloaded, of_decide_eq_true births, accounted ran fun t => ?_⟩
  rw [unloaded]
  rfl

end LoadedAddon

end AddonBridge
