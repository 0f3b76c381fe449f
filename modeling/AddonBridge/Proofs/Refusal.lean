import AddonBridge.Proofs.Lifetimes

/-!
# Calls to an addon that is running

While a slot is in use, the functions of its module turn down every call, and a create drops what it
builds. `reentry_refused` says so of single calls, of everything that a callback calls, at every
depth, and of the calls in which callbacks run.
-/

namespace AddonBridge

open Act World

variable {σ ν α : Type} {env : Env σ ν} {m : String} {w u v : World σ ν} {c : Context σ}

/-- What a function answers that finds its slot in use. Those that need no slot answer as ever, and a
create does once it has built a root. -/
def EntryCall.refusal? : EntryCall → Option CallAnswer
  | .status | .setSetting .. => some (.status Status.unknown.toRaw)
  | .createInstance _ _ _ _ out _ => some (.created Status.unknown.toRaw (out.map fun _ => 0))
  | .destroy | .destroyInstance .. => some .done
  | .create .. | .typeVersion _ | .minVersion _ => none

/-- Modules whose addons, asked for their status, destroy themselves, create themselves once more and
then ask themselves for an instance. -/
def Modules.reentrant : Modules Unit Unit where
  addon m :=
    { build := fun _ => .done (.ok none)
      status := fun site => do
        let _ ← Program.ask (.call (.entry m .destroy))
        let _ ← Program.ask (.call (.entry m (.create (some site.table) none)))
        let _ ← Program.ask (.call (.entry m (.createInstance ⟨102⟩ none .null none (some 7) 0)))
        return .ok }

namespace World

/-- No functions were entered but those of one module. -/
abbrev Alone (m : String) (w u : World σ ν) : Prop := w.Only (· = m) u

/-- As long as code calls no other module, contexts stay in their slots as they are, but for the one
in an exempt seat, and interfaces show the handles that they showed. -/
structure Unmoved (m : String) (exempt : Option Seat) (w u : World σ ν) : Prop where
  busy : u.busy = w.busy
  trace : w.trace <:+ u.trace
  contexts : w.Alone m u → ∀ seat, exempt ≠ some seat →
    u.contexts.get? seat = w.contexts.get? seat
  handles : w.Alone m u → ∀ t, u.handles? t = w.handles? t

variable {exempt : Option Seat} {r : ObjectId} {pending : Option ObjectId}

theorem Unmoved.refl (w : World σ ν) : w.Unmoved m exempt w :=
  ⟨rfl, List.suffix_rfl, fun _ _ _ => rfl, fun _ _ => rfl⟩

theorem Unmoved.trans (first : w.Unmoved m exempt u) (second : u.Unmoved m exempt v) :
    w.Unmoved m exempt v where
  busy := second.busy.trans first.busy
  trace := first.trace.trans second.trace
  contexts alone seat other :=
    (second.contexts (alone.right first.trace) seat other).trans
      (first.contexts (alone.left second.trace) seat other)
  handles alone t :=
    (second.handles (alone.right first.trace) t).trans (first.handles (alone.left second.trace) t)

theorem Unmoved.weaken (h : w.Unmoved m none u) : w.Unmoved m exempt u :=
  ⟨h.busy, h.trace, fun alone seat _ => h.contexts alone seat (by simp), h.handles⟩

theorem Stirs.unmoved (h : w.Stirs u) : w.Unmoved m exempt u :=
  ⟨h.busy, h.trace, fun _ _ _ => by rw [h.contexts], fun _ => handles?_congr h.loaded⟩

/-- Code that calls no other module installs no root, and every root that it builds goes again, but
for one that may be pending. -/
structure Withstood (m : String) (pending : Option ObjectId) (w u : World σ ν) : Prop
    extends Unmoved m none w u where
  uninstalled : w.Alone m u → ∀ r, ¬w.Shows u (.installed r)
  dropped : w.Alone m u → ∀ r, w.Shows u (.built r) → w.Shows u (.rootDropped r) ∨ pending = some r

theorem Withstood.trans (first : w.Withstood m pending u) (second : u.Withstood m none v) :
    w.Withstood m pending v where
  toUnmoved := first.toUnmoved.trans second.toUnmoved
  uninstalled alone r shown :=
    (shown.split first.trace second.trace).elim
      (first.uninstalled (alone.left second.trace) r)
      (second.uninstalled (alone.right first.trace) r)
  dropped alone r shown := by
    rcases shown.split first.trace second.trace with early | late
    · exact (first.dropped (alone.left second.trace) r early).imp_left (·.later second.trace)
    · refine .inl ?_
      rcases second.dropped (alone.right first.trace) r late with gone | pending
      · exact gone.earlier first.trace
      · contradiction

/-- What neither installs nor builds a root. -/
theorem Withstood.of_events {l : List (Event ν)} (h : w.Unmoved m none u)
    (trace : u.trace = l ++ w.trace) (calm : ∀ e ∈ l, ∀ r, e ≠ .installed r ∧ e ≠ .built r) :
    w.Withstood m none u where
  toUnmoved := h
  uninstalled _ r shown := (calm _ ((Shows.of_trace trace).mp shown) r).1 rfl
  dropped _ r shown := absurd rfl (calm _ ((Shows.of_trace trace).mp shown) r).2

theorem Idle.withstood (h : w.Idle u) : w.Withstood m none u := by
  obtain ⟨talk, grown, quiet⟩ := h.trace
  refine .of_events h.stirs.unmoved grown fun e member r => ?_
  constructor <;> rintro rfl <;> exact quiet _ member

theorem Withstood.refl (w : World σ ν) : w.Withstood m none w := (Idle.refl w).withstood

theorem Withstood.apart (contexts : u.contexts = w.contexts) (busy : u.busy = w.busy)
    (trace : u.trace = w.trace) (handles : ∀ t, u.handles? t = w.handles? t) :
    w.Withstood m none u := by
  refine .of_events (l := []) ⟨busy, ?_, fun _ _ _ => by rw [contexts], fun _ => handles⟩ trace ?_
  · exact trace ▸ List.suffix_rfl
  · simp

/-- An event that installs nothing, after which a root is pending that is built or was pending before,
unless the event drops it. -/
theorem Withstood.snoc {e : Event ν} {pending' : Option ObjectId} (h : w.Withstood m pending u)
    (uninstalled : ∀ r, e ≠ .installed r)
    (owed : ∀ r, e = .built r ∨ pending = some r → e = .rootDropped r ∨ pending' = some r) :
    w.Withstood m pending' { u with trace := e :: u.trace } := by
  have grown : u.trace <:+ e :: u.trace := List.suffix_cons _ _
  have last (e' : Event ν) : Shows u { u with trace := e :: u.trace } e' ↔ e' = e :=
    (Shows.of_trace (l := [e]) rfl).trans List.mem_singleton
  refine ⟨⟨h.busy, h.trace.trans grown, fun alone => h.contexts (alone.left grown),
    fun alone => h.handles (alone.left grown)⟩, fun alone r shown => ?_, fun alone r shown => ?_⟩
  · rcases shown.split h.trace grown with early | late
    · exact h.uninstalled (alone.left grown) r early
    · exact uninstalled r ((last _).mp late).symm
  · have settled : e = .rootDropped r ∨ pending' = some r →
        Shows w { u with trace := e :: u.trace } (.rootDropped r) ∨ pending' = some r :=
      Or.imp_left fun same => Shows.earlier h.trace ((last _).mpr same.symm)
    rcases shown.split h.trace grown with early | late
    · rcases h.dropped (alone.left grown) r early with gone | pending
      · exact .inl (gone.later grown)
      · exact settled (owed r (.inr pending))
    · exact settled (owed r (.inl ((last _).mp late).symm))

theorem Withstood.record {e : Event ν} (calm : ∀ r, e ≠ .installed r ∧ e ≠ .built r) :
    w.Withstood m none { w with trace := e :: w.trace } :=
  (Withstood.refl w).snoc (fun r => (calm r).1) fun r owed => absurd owed (by simp [(calm r).2])

end World

/-! ### Turning down calls -/

abbrev Withstanding (m : String) : Change σ ν :=
  Change.unlessAborted fun w u => m ∈ w.busy → Withstood m none w u

theorem Withstanding.law (m : String) : Law (Withstanding m : Change σ ν) :=
  .of_preorder (fun w _ => .refl w) fun _ _ _ first second busy => by
    have before := first busy
    exact before.trans (second (before.busy ▸ busy))

/-- Nested calls leave a module that is running as it is. -/
structure Env.Withstands (env : Env σ ν) (m : String) : Prop where
  spares : env.Spares
  addon : env.modules.native m = none
  nested : ∀ c, Obeys (Withstanding m) (env.nested c)

theorem Env.Withstands.keeps (withstands : env.Withstands m) : env.Keeps (Withstanding m) {} where
  law := Withstanding.law m
  talk _ _ idle _ _ := idle.withstood
  panic _ _ w _ _ := .refl w
  modules := Modules.follow_free env.modules
  nested c _ := withstands.nested c
  quiet := withstands.spares.quiet

namespace Exports

theorem withSlot_refuses {operation : String} {default : α} {act : Act σ ν α} (busy : m ∈ w.busy) :
    Ensures (withSlot m operation default act) w (fun a u => a = default ∧ w.Idle u)
      fun _ _ => False := by
  rw [withSlot, ensures_bind, ensures_isBusy, ensures_ite]
  refine ⟨fun _ => ?_, fun free => absurd busy (by simpa using free)⟩
  exact Log.error_talks.before fun _ _ idle => ⟨rfl, idle⟩

/-- A running module turns down every call that needs its slot. -/
theorem callAddon_refuses (busy : m ∈ w.busy) {call : EntryCall} {a : CallAnswer}
    (refused : call.refusal? = some a) :
    Ensures (callAddon env m call) w (fun answer u => answer = a ∧ w.Idle u) fun _ _ => False := by
  have refuses {β : Type} {operation : String} {default : β} {act : Act σ ν β}
      (f : β → CallAnswer) : Ensures (withSlot m operation default act) w
        (fun b u => f b = f default ∧ w.Idle u) fun _ _ => False := by
    refine (withSlot_refuses busy).mono ?_ fun _ _ => id
    rintro _ u ⟨rfl, idle⟩
    exact ⟨rfl, idle⟩
  cases call with
  | create t api => contradiction
  | typeVersion ty => contradiction
  | minVersion ty => contradiction
  | status =>
    cases refused
    rw [callAddon, ensures_bind]
    exact guard_returns (refuses fun s : Status => .status s.toRaw)
  | setSetting name value =>
    cases refused
    rw [callAddon, ensures_bind]
    refine guard_returns ?_
    cases name with
    | none => exact Log.error_talks.before fun _ _ idle => ⟨rfl, idle⟩
    | some name => exact refuses fun s : Status => .status s.toRaw
  | createInstance ty name host version out parent =>
    cases refused
    rw [callAddon, ensures_bind]
    unfold createInstance
    rw [ensures_withLocation]
    refine guard_returns ?_
    cases out with
    | none =>
      refine Log.error_talks.before fun _ u idle => ⟨?_, idle.located⟩
      simp [idle.locations]
    | some out =>
      rw [ensures_bind, ensures_writeLocation, World.locations_setLocations,
        World.setLocations_setLocations, ensures_bind]
      have running : m ∈ (w.setLocations m (some 0 :: w.locations m)).busy := busy
      refine (withSlot_refuses running).mono ?_ fun _ _ => id
      rintro _ u ⟨rfl, idle⟩
      refine ⟨?_, idle.located⟩
      simp [idle.locations]
  | destroy =>
    cases refused
    rw [callAddon, ensures_bind]
    refine guard_returns ?_
    rw [ensures_bind]
    refine (take_ensures m w).mono (fun taken u ended => ?_) fun _ _ => id
    cases taken with
    | none => exact ⟨rfl, ended.1⟩
    | some c => exact absurd busy ended.1
  | destroyInstance ty handle =>
    cases refused
    rw [callAddon, ensures_bind]
    exact guard_returns (refuses fun _ => .done)

/-! ### Creating once more -/

variable {t : TableId} {api : Option CString}

theorem build_withstood (withstands : env.Withstands m) (busy : m ∈ w.busy) (idle : w.Idle u) :
    Ensures (Dispatch.build env m t) u
      (fun built v => match built with
        | .ok c => c.instances = {} ∧ w.Withstood m (some c.root.object) v
        | .error _ => w.Withstood m none v)
      fun e v => e ≠ .aborted → w.Withstood m none v := by
  rw [Dispatch.build]
  dsimp only
  rw [ensures_bind, ensures_freshObject, ensures_bind, ensures_record, ensures_bind]
  have begun := idle.withstood.trans (v := { u with
      made := fun s => if s = t then u.made t + 1 else u.made s,
      trace := .building ⟨t, u.made t⟩ ⟨m, t⟩ :: u.trace })
    (.of_events (m := m) (l := [_]) ⟨rfl, List.suffix_cons _ _, fun _ _ _ => rfl, fun _ _ => rfl⟩ rfl
      (by simp))
  have busy : m ∈ u.busy := begun.busy ▸ busy
  refine (Env.callback_obeys withstands.keeps m (Program.all_true _) _).mono
    (fun built v ended => ?_) fun e v stopped going => begun.trans (stopped.stopped going busy)
  have called := begun.trans (ended.returned busy)
  cases built with
  | ok single =>
    rw [ensures_bind, ensures_record]
    exact ⟨rfl, called.snoc (by simp) (by simp)⟩
  | error e => exact called

theorem dropContext_withstood (withstands : env.Withstands m) (busy : m ∈ u.busy)
    (bare : c.instances = {}) (pending : w.Withstood m (some c.root.object) u) :
    Ensures (Dispatch.dropContext env c) u (fun _ v => w.Withstood m none v)
      fun e _ => e = .aborted := by
  have gone : w.Withstood m none { u with trace := .rootDropped c.root.object :: u.trace } :=
    pending.snoc nofun (by simp)
  have none_left : env.modules.order.arrange (Registry.values {}) = [] :=
    List.perm_nil.mp (env.modules.order.perm _)
  rw [Dispatch.dropContext_eq withstands.spares.quiet, ensures_bind, bare, none_left]
  change Ensures (Dispatch.dropRoot env c.root) u _ _
  rw [Dispatch.dropRoot, ensures_bind, ensures_record]
  have dropped := Env.lastly_obeys withstands.keeps c.root.site.module (q :=
    (env.modules.addon c.root.site.module).dropped c.root.site) (Program.all_true _)
  have quiet := Env.lastly_quiet withstands.spares.quiet c.root.site.module
    ((env.modules.addon c.root.site.module).dropped c.root.site)
  exact (dropped.ensures quiet _).mono (fun _ v after => gone.trans (after busy)) fun _ _ => id

theorem registerFunctions_withstood :
    Ensures (registerFunctions m t) w (fun _ u => w.Withstood m none u) fun _ _ => False := by
  rw [registerFunctions, ensures_bind, ensures_loaded?]
  cases w.loaded.get? t with
  | none => exact .refl w
  | some l =>
    dsimp only
    rw [ensures_ite]
    refine ⟨fun _ => ?_, fun _ => .refl w⟩
    rw [ensures_bind, ensures_modifyLoaded]
    exact .apart rfl rfl rfl (handles?_modify fun _ => rfl)

theorem install_withstood (withstands : env.Withstands m) (busy : m ∈ u.busy)
    (bare : c.instances = {}) (pending : w.Withstood m (some c.root.object) u) :
    Ensures (install env m c) u (fun installed v => installed = false ∧ w.Withstood m none v)
      fun e _ => e = .aborted := by
  rw [install, ensures_bind, ensures_isBusy, ensures_ite]
  refine ⟨fun _ => ?_, fun free => absurd busy (by simpa using free)⟩
  refine Log.error_talks.before fun _ v idle => ?_
  rw [ensures_bind]
  have busy : m ∈ v.busy := idle.busy ▸ busy
  exact (dropContext_withstood withstands busy bare (pending.trans idle.withstood)).mono
    (fun _ _ gone => ⟨rfl, gone⟩) fun _ _ => id

theorem construct_withstood (withstands : env.Withstands m) (busy : m ∈ w.busy) :
    Ensures (construct env m t api) w
      (fun built u => (∃ status, built = .error status) ∧ w.Withstood m none u)
      fun e u => e ≠ .aborted → w.Withstood m none u := by
  have talk (u v : World σ ν) (idle : u.Idle v) (withstood : w.Withstood m none u) :
      w.Withstood m none v := withstood.trans idle.withstood
  let built (c : Context σ) (u : World σ ν) :=
    c.instances = {} ∧ w.Withstood m (some c.root.object) u
  have used {pending : Option ObjectId} {u : World σ ν} (h : w.Withstood m pending u) :
      m ∈ u.busy := h.busy ▸ busy
  refine (construct_exits (F := w.Withstood m none) (B := built) (R := built)
    (K := fun _ _ => False) talk (fun _ idle => build_withstood withstands busy idle)
    (fun c u ended => ?_) (fun c u ended => ?_) fun c u v ended idle => ?_).mono
      (fun built u ended => ?_) fun _ _ => id
  · refine registerFunctions_withstood.mono (fun registered v after => ?_) fun _ _ => False.elim
    rw [ite_self]
    exact ⟨ended.1, ended.2.trans after⟩
  · refine (install_withstood withstands (used ended.2) ended.1 ended.2).aborts ?_
    rintro _ v ⟨rfl, gone⟩
    exact gone
  · have pending := ended.2.trans idle.withstood
    exact (dropContext_withstood withstands (used pending) ended.1 pending).aborts fun _ _ => id
  · cases built with
    | ok single => exact ended.choose_spec.2.elim
    | error status => exact ⟨⟨status, rfl⟩, ended⟩

/-- A running module that is told to create its addon once more builds a root and drops it. -/
theorem create_withstood (withstands : env.Withstands m) (busy : m ∈ w.busy)
    (table : Option TableId) :
    Ensures (create env m table api) w (fun _ u => w.Withstood m none u)
      fun e _ => e = .aborted := by
  have talk (u v : World σ ν) (idle : u.Idle v) (h : w.Withstood m none u) :
      w.Withstood m none v := h.trans idle.withstood
  cases table with
  | none => exact guard_ensures (Log.error_talks.before fun _ _ idle => idle.withstood)
  | some t =>
    have bound : w.Withstood m none (w.boundTo t) := .apart rfl rfl rfl fun _ => rfl
    have unbound (u : World σ ν) (h : w.Withstood m none u) :
        w.Withstood m none (if u.sink = some t then { u with sink := none } else u) := by
      split
      · exact h.trans (.apart rfl rfl rfl fun _ => rfl)
      · exact h
    refine create_exits talk ?_
    refine (construct_withstood (w := w.boundTo t) withstands busy).mono
      (fun built u ended => ?_) fun e u stopped going => unbound u (bound.trans (stopped going))
    obtain ⟨⟨status, rfl⟩, ended⟩ := ended
    exact unbound u (bound.trans ended)

/-! ### Nested calls -/

theorem callAddon_withstood (withstands : env.Withstands m) (call : EntryCall) :
    Obeys (Withstanding m) (callAddon env m call) := by
  intro w
  by_cases busy : m ∈ w.busy
  swap
  · exact (Ensures.trivial _).mono (fun _ _ _ _ => (absurd · busy)) fun _ _ _ _ => (absurd · busy)
  cases refused : call.refusal? with
  | some a =>
    exact (callAddon_refuses busy refused).mono (fun _ u ended _ _ => ended.2.withstood)
      fun _ _ => False.elim
  | none =>
    cases call with
    | create t api =>
      rw [callAddon, ensures_bind]
      exact (create_withstood withstands busy t).mono (fun _ _ ended _ _ => ended)
        fun _ _ aborted going => absurd (congrArg some aborted) going
    | typeVersion ty => exact fun _ _ => .refl w
    | minVersion ty => exact fun _ _ => .refl w
    | status => contradiction
    | setSetting name value => contradiction
    | createInstance ty name host version out parent => contradiction
    | destroy => contradiction
    | destroyInstance ty handle => contradiction

theorem call_withstood (withstands : env.Withstands m) (n : String) (call : EntryCall) :
    Obeys (Withstanding m) (Exports.call env n call) := by
  by_cases own : n = m
  · subst own
    refine .bind (Withstanding.law n) (fun w _ _ => .record (by simp)) fun _ => ?_
    rw [withstands.addon]
    exact callAddon_withstood withstands call
  · refine fun w => (call_shows withstands.spares n call w).mono (fun _ u ended _ _ => ?_)
      fun _ _ aborted going => absurd (congrArg some aborted) going
    -- A call of another module is none of the calls that the statement is about.
    obtain ⟨spared, shown⟩ := ended
    exact ⟨⟨spared.busy, spared.trace, fun alone => absurd (alone n call shown) own,
      fun alone => absurd (alone n call shown) own⟩, fun alone => absurd (alone n call shown) own,
      fun alone => absurd (alone n call shown) own⟩

theorem env_withstands {modules : Modules σ ν} (addon : modules.native m = none) (unloading : Bool)
    (depth : Nat) : (Exports.env modules unloading depth).Withstands m where
  spares := env_spares modules unloading depth
  addon := by rwa [env_modules]
  nested := by
    refine env_obeys_calls (Withstanding.law m) (fun _ _ idle _ _ => idle.withstood)
      (fun w t _ _ => .apart rfl rfl rfl (handles?_modify fun _ => rfl)) (fun depth nested => ?_) depth
    exact call_withstood ⟨env_spares modules unloading depth, by rwa [env_modules], nested⟩

end Exports

/-! ### Calls in which callbacks run -/

abbrev Unmoving (m : String) : Change σ ν :=
  Change.unlessAborted fun w u => m ∈ w.busy → w.Unmoved m (some (.module m)) u

theorem Env.Withstands.tends (withstands : env.Withstands m) :
    env.Tends (Unmoving m) {} (.module m) where
  law := .of_preorder (fun w _ => .refl w) fun _ _ _ first second busy => by
    have before := first busy
    exact before.trans (second (before.busy ▸ busy))
  talk _ _ idle _ _ := idle.stirs.unmoved
  panic _ _ w _ _ := .refl w
  modules := Modules.follow_free env.modules
  nested c _ := (withstands.nested c).mono fun _ _ _ h going busy =>
    (h going busy).toUnmoved.weaken
  quiet := withstands.spares.quiet
  stirs _ _ stirs _ _ := stirs.unmoved
  raised _ _ _ _ := ⟨rfl, List.suffix_cons _ _, fun _ _ _ => rfl, fun _ _ => rfl⟩
  reseat w c c' _ _ _ _ _ _ := by
    refine ⟨rfl, List.suffix_rfl, fun _ seat other => ?_, fun _ _ => rfl⟩
    dsimp only
    rw [Assoc.get?_set, if_neg fun same => other (congrArg some same)]

namespace World

/-- The module's functions reach the context in its slot, which has this root. -/
def Serves (m : String) (r : ObjectId) (w : World σ ν) : Prop :=
  m ∉ w.busy ∧ ∃ c, w.contexts.get? (.module m) = some c ∧ c.root.object = r

theorem Unmoved.release (h : Unmoved m (some (.module m)) { w with busy := m :: w.busy } u) :
    w.Unmoved m (some (.module m)) { u with busy := u.busy.erase m } :=
  ⟨by simp [h.busy], h.trace, h.contexts, h.handles⟩

theorem Rests.serves (h : Rests (.module m) { w with busy := m :: w.busy } u) (free : m ∉ w.busy)
    (here : w.contexts.get? (.module m) = some c) :
    Serves m c.root.object { u with busy := u.busy.erase m } := by
  have root := h.root (show m ∈ m :: w.busy from List.mem_cons_self)
  rw [here, Option.map_some] at root
  refine ⟨?_, Option.map_eq_some_iff.mp root⟩
  rwa [h.spares.busy, List.erase_cons_head]

end World

namespace Exports

/-- What is done to the context in a slot leaves the rest as it was, and the slot free again. -/
theorem withSlot_unmoved {name : String} {default : α} {act : Act σ ν α} (free : m ∉ w.busy)
    (here : w.contexts.get? (.module m) = some c) (unmoving : Obeys (Unmoving m) act)
    (resting : Obeys (Resting (.module m)) act) :
    Ensures (withSlot m name default act) w
      (fun _ u => w.Unmoved m (some (.module m)) u ∧ u.Serves m c.root.object)
      fun e u => e ≠ .aborted → w.Unmoved m (some (.module m)) u ∧ u.Serves m c.root.object := by
  have running : m ∈ m :: w.busy := List.mem_cons_self
  refine withSlot_reaches free here (Ensures.holding
    (((unmoving { w with busy := m :: w.busy }).and (resting _)).mono
      (fun _ u ended => ?_) fun e u stopped going => ?_))
  · obtain ⟨unmoved, rests⟩ := ended
    exact ⟨(unmoved.returned running).release, rests.returned.serves free here⟩
  · obtain ⟨unmoved, rests⟩ := stopped
    exact ⟨(unmoved.stopped going running).release, (rests.stopped going).serves free here⟩

theorem callAddon_unmoved (withstands : env.Withstands m) (free : m ∉ w.busy)
    (here : w.contexts.get? (.module m) = some c) {entry : EntryCall}
    (slotted : entry.refusal?.isSome) (keeping : entry ≠ .destroy) :
    Ensures (callAddon env m entry) w
      (fun _ u => w.Unmoved m (some (.module m)) u ∧ u.Serves m c.root.object)
      fun e _ => e = .aborted := by
  have idle {u v : World σ ν} (idle : u.Idle v)
      (h : w.Unmoved m (some (.module m)) u ∧ u.Serves m c.root.object) :
      w.Unmoved m (some (.module m)) v ∧ v.Serves m c.root.object := by
    obtain ⟨unmoved, free, c', here, root⟩ := h
    exact ⟨unmoved.trans idle.stirs.unmoved, idle.busy ▸ free, c', idle.contexts ▸ here, root⟩
  have still : w.Unmoved m (some (.module m)) w ∧ w.Serves m c.root.object :=
    ⟨.refl w, free, c, here, rfl⟩
  have served {β : Type} {name : String} {default : β} {act : Act σ ν β}
      (unmoving : Obeys (Unmoving m) act) (resting : Obeys (Resting (.module m)) act) :
      Ensures (withSlot m name default act) w
        (fun _ u => w.Unmoved m (some (.module m)) u ∧ u.Serves m c.root.object)
        fun e u => e ≠ .aborted → ∀ v, u.Idle v →
          w.Unmoved m (some (.module m)) v ∧ v.Serves m c.root.object :=
    (withSlot_unmoved free here unmoving resting).mono (fun _ _ => id)
      fun _ _ stopped going v talked => idle talked (stopped going)
  have unmoving := withstands.tends.lawful
  have resting := (withstands.spares.rests (.module m)).lawful
  cases entry with
  | create t api => contradiction
  | typeVersion ty => contradiction
  | minVersion ty => contradiction
  | destroy => contradiction
  | status =>
    rw [callAddon, ensures_bind]
    exact guard_ensures (served unmoving.status resting.status)
  | setSetting name value =>
    rw [callAddon, ensures_bind]
    refine guard_ensures ?_
    cases name with
    | none => exact Log.error_talks.before fun _ _ talked => idle talked still
    | some name => exact served (unmoving.setSetting _ _) (resting.setSetting _ _)
  | createInstance ty name host version out parent =>
    rw [callAddon, ensures_bind]
    refine createInstance_ensures (fun _ _ => idle)
      (P := fun u => w.Unmoved m (some (.module m)) u ∧ u.Serves m c.root.object) ?_ still
      fun locations => ?_
    · rintro u locations ⟨unmoved, serves⟩
      exact ⟨⟨unmoved.busy, unmoved.trace, unmoved.contexts, unmoved.handles⟩, serves⟩
    · have same {u : World σ ν} (h : (w.setLocations m locations).Unmoved m (some (.module m)) u) :
          w.Unmoved m (some (.module m)) u := ⟨h.busy, h.trace, h.contexts, h.handles⟩
      refine (withSlot_unmoved (w := w.setLocations m locations) free here
        (unmoving.createInstance _ _ _ _ _) (resting.createInstance _ _ _ _ _)).mono
          (fun _ _ => .imp_left same) fun _ _ stopped going => (stopped going).imp_left same
  | destroyInstance ty handle =>
    rw [callAddon, ensures_bind]
    exact guard_ensures (served (unmoving.destroyInstance _ _) (resting.destroyInstance _ _))

/-- A call of a module that is free, other than one that destroys its addon. -/
theorem call_unmoved (withstands : env.Withstands m) (free : m ∉ w.busy)
    (here : w.contexts.get? (.module m) = some c) {entry : EntryCall}
    (slotted : entry.refusal?.isSome) (keeping : entry ≠ .destroy) :
    Ensures (call env m entry) w
      (fun _ u => w.Unmoved m (some (.module m)) u ∧ u.Serves m c.root.object)
      fun e _ => e = .aborted := by
  have mark : w.Unmoved m (some (.module m)) (w.entered m entry) :=
    ⟨rfl, List.suffix_cons _ _, fun _ _ _ => rfl, fun _ _ => rfl⟩
  rw [ensures_call withstands.addon]
  refine (callAddon_unmoved (w := w.entered m entry) withstands free here slotted keeping).mono
    (fun _ u ended => ?_) fun _ _ => id
  obtain ⟨unmoved, serves⟩ := ended
  exact ⟨mark.trans unmoved, serves⟩

/-- A module that serves calls runs its root's code when it is asked for its status. -/
theorem status_reaches (spares : env.Spares) (addon : env.modules.native m = none) {r : ObjectId}
    (serves : w.Serves m r) :
    Ensures (call env m .status) w (fun _ u => w.Shows u (.called r .status))
      fun e _ => e = .aborted := by
  obtain ⟨free, c, here, rfl⟩ := serves
  have shown {u : World σ ν}
      (grown : .called c.root.object .status :: .entered m .status :: w.trace <:+ u.trace) :
      w.Shows u (.called c.root.object .status) :=
    Shows.later (u := { w with
      trace := .called c.root.object .status :: .entered m .status :: w.trace })
      ⟨[_, _], rfl, List.mem_cons_self⟩ grown
  rw [ensures_call addon, callAddon, ensures_bind]
  have here : (w.entered m .status).contexts.get? (.module m) = some c := here
  refine guard_ensures (withSlot_reaches free here (Ensures.holding ?_))
  rw [Dispatch.status, Dispatch.withContext, ensures_bind, ensures_context?, here]
  dsimp only
  rw [Dispatch.callRoot, ensures_bind, ensures_record]
  refine (Env.callback_obeys (spares.permits none).toKeeps _ (Program.all_true _) _).mono
    (fun _ u ended => ?_) fun e u stopped going v idle => ?_
  · exact shown ended.returned.trace
  · obtain ⟨talk, grown, -⟩ := idle.trace
    exact (shown (stopped.stopped going).trace).later ⟨talk, grown.symm⟩

/-- What a call of a running module comes to, which only a create can fail to come back from. -/
theorem call_refused (withstands : env.Withstands m) (busy : m ∈ w.busy) (entry : EntryCall) :
    Ensures (call env m entry) w
      (fun answer u => ∀ a, entry.refusal? = some a → answer = a ∧ (w.entered m entry).Idle u)
      fun _ _ => ∃ t api, entry = .create t api := by
  rw [ensures_call withstands.addon]
  cases refused : entry.refusal? with
  | some a =>
    refine (callAddon_refuses (w := w.entered m entry) busy refused).mono (fun _ _ ended => ?_)
      fun _ _ => False.elim
    rintro _ ⟨⟩
    exact ended
  | none =>
    cases entry with
    | create t api => exact (Ensures.trivial _).mono (fun _ _ _ => nofun) fun _ _ _ => ⟨t, api, rfl⟩
    | typeVersion ty => exact nofun
    | minVersion ty => exact nofun
    | status => contradiction
    | setSetting name value => contradiction
    | createInstance ty name host version out parent => contradiction
    | destroy => contradiction
    | destroyInstance ty handle => contradiction

/-- While a slot is in use, the module's functions answer that they are, and leave everything as it
was; a create drops what it builds. Whatever the code that is running calls, at any depth and in any
order, the context in the slot stays as it is; and if it calls no other module, so do all contexts
and all handles that interfaces show, nothing is installed, and every root that is built goes again.
Calls in which callbacks run, the last part of a create among them, keep to that but for the context
in the slot, and leave the module serving calls. Every call leaves the slots in use that were. -/
theorem reentry_refused (modules : Modules σ ν) (unloading : Bool) (depth : Nat) (m : String)
    (addon : modules.native m = none) :
    (∀ (w : World σ ν) (c : Context σ) (entry : EntryCall), m ∈ w.busy →
      w.contexts.get? (.module m) = some c →
      Ensures (call (Exports.env modules unloading depth) m entry) w
        (fun answer u =>
          (∀ a, entry.refusal? = some a → answer = a ∧ (w.entered m entry).Idle u) ∧
          u.contexts.get? (.module m) = some c ∧ w.Withstood m none u)
        (fun e _ => e = .aborted ∧ ∃ t api, entry = .create t api)) ∧
    (∀ (β : Type) (code : Program σ ν Payload β) (w : World σ ν) (c : Context σ), m ∈ w.busy →
      w.contexts.get? (.module m) = some c →
      Ensures ((Exports.env modules unloading depth).callback m code) w
        (fun _ u => u.contexts.get? (.module m) = some c ∧ w.Withstood m none u)
        fun e u => e ≠ .aborted → u.contexts.get? (.module m) = some c ∧ w.Withstood m none u) ∧
    (∀ (w : World σ ν) (c : Context σ) (entry : EntryCall), m ∉ w.busy →
      w.contexts.get? (.module m) = some c → entry.refusal?.isSome → entry ≠ .destroy →
      Ensures (call (Exports.env modules unloading depth) m entry) w
        (fun _ u => w.Unmoved m (some (.module m)) u ∧ u.Serves m c.root.object)
        fun e _ => e = .aborted) ∧
    (∀ (w : World σ ν) (c : Context σ), m ∉ w.busy → w.contexts.get? (.module m) = some c →
      Ensures (withSlot m "create" .unknown
          (Dispatch.create (Exports.env modules unloading depth) (.module m))) w
        (fun _ u => w.Unmoved m (some (.module m)) u ∧ u.Serves m c.root.object)
        fun e u => e ≠ .aborted →
          w.Unmoved m (some (.module m)) u ∧ u.Serves m c.root.object) ∧
    (∀ (w : World σ ν) (entry : EntryCall),
      Ensures (call (Exports.env modules unloading depth) m entry) w (fun _ u => u.busy = w.busy)
        fun e _ => e = .aborted) ∧
    ∀ (w : World σ ν) (r : ObjectId), w.Serves m r →
      Ensures (call (Exports.env modules unloading depth) m .status) w
        (fun _ u => w.Shows u (.called r .status)) fun e _ => e = .aborted := by
  have withstands := env_withstands addon unloading depth
  have spares := withstands.spares
  refine ⟨fun w c entry busy here => ?_, fun β code w c busy here => ?_,
    fun w c entry free here slotted keeping => call_unmoved withstands free here slotted keeping,
    fun w c free here => withSlot_unmoved free here (Dispatch.create_obeys withstands.tends)
      (Dispatch.create_obeys (spares.rests (.module m))),
    fun w entry => (call_shows spares m entry w).mono (fun _ _ ended => ended.1.busy) fun _ _ => id,
    fun w r serves => status_reaches spares withstands.addon serves⟩
  · refine (((call_refused withstands busy entry).and (call_withstood withstands m entry w)).and
      (call_shows spares m entry w)).mono (fun answer u ended => ?_) fun e u stopped => ?_
    · obtain ⟨⟨refused, withstood⟩, spared, -⟩ := ended
      exact ⟨refused, spared.stays busy here, withstood.returned busy⟩
    · obtain ⟨⟨creates, -⟩, aborted⟩ := stopped
      exact ⟨aborted, creates⟩
  · refine ((Env.callback_obeys withstands.keeps m (Program.all_true code) w).and
      (Env.callback_obeys (spares.permits none).toKeeps m (Program.all_true code) w)).mono
      (fun _ u ended => ?_) fun e u stopped going => ?_
    · obtain ⟨withstood, spared⟩ := ended
      exact ⟨spared.returned.stays busy here, withstood.returned busy⟩
    · obtain ⟨withstood, spared⟩ := stopped
      exact ⟨(spared.stopped going).stays busy here, withstood.stopped going busy⟩

theorem reentry_refused_self :
    let c : Context Unit := { root := ⟨⟨⟨0, 0⟩, 0⟩, ⟨"self", ⟨0, 0⟩⟩, none⟩ }
    let free : World Unit Unit := { memory := fun _ => (), contexts := [(.module "self", c)] }
    let running : World Unit Unit := { free with busy := ["self"] }
    let env := Exports.env Modules.reentrant false 2
    "self" ∈ running.busy ∧ running.contexts.get? (.module "self") = some c ∧
    Ensures (call env "self" (.createInstance ⟨102⟩ none .null none (some 7) 0)) running
      (fun answer u => answer = .created Status.unknown.toRaw (some 0) ∧
        u.contexts.get? (.module "self") = some c)
      (fun _ _ => False) ∧
    Ensures (env.callback "self" ((Modules.reentrant.addon "self").status c.root.site)) running
      (fun _ u => u.contexts.get? (.module "self") = some c ∧ running.Withstood "self" none u)
      (fun e u => e ≠ .aborted →
        u.contexts.get? (.module "self") = some c ∧ running.Withstood "self" none u) ∧
    Ensures (call env "self" .status) free
      (fun _ u => free.Unmoved "self" (some (.module "self")) u ∧ u.Serves "self" ⟨⟨0, 0⟩, 0⟩)
      (fun e _ => e = .aborted) ∧
    Ensures (withSlot "self" "create" .unknown (Dispatch.create env (.module "self"))) free
      (fun _ u => free.Unmoved "self" (some (.module "self")) u ∧ u.Serves "self" ⟨⟨0, 0⟩, 0⟩)
      (fun e u => e ≠ .aborted →
        free.Unmoved "self" (some (.module "self")) u ∧ u.Serves "self" ⟨⟨0, 0⟩, 0⟩) ∧
    Ensures (call env "self" (.create none none)) running (fun _ u => u.busy = ["self"])
      (fun e _ => e = .aborted) ∧
    Ensures (call env "self" .status) free (fun _ u => free.Shows u (.called ⟨⟨0, 0⟩, 0⟩ .status))
      fun e _ => e = .aborted := by
  intro c free running env
  obtain ⟨nested, callback, outer, created, restored, served⟩ :=
    reentry_refused Modules.reentrant false 2 "self" rfl
  have busy : "self" ∈ running.busy := by decide
  have unused : "self" ∉ free.busy := by decide
  refine ⟨busy, rfl, ?_, callback Status _ running c busy rfl,
    outer free c .status unused rfl rfl nofun, created free c unused rfl,
    restored running (.create none none), served free _ ⟨unused, c, rfl, rfl⟩⟩
  refine (nested running c (.createInstance ⟨102⟩ none .null none (some 7) 0) busy rfl).mono
    (fun answer u ended => ?_) fun e u stopped => ?_
  · obtain ⟨refused, here, -⟩ := ended
    exact ⟨(refused _ rfl).1, here⟩
  · obtain ⟨-, t, api, creates⟩ := stopped
    contradiction

end Exports

end AddonBridge
