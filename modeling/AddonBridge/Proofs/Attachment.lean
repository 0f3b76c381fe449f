import AddonBridge.Proofs.HostRun
import AddonBridge.Proofs.Reentry

/-!
# Contexts and the interfaces that they are built on

No context and no binding of the log sink outlives the interface that it refers to. Calls that create
nothing only let contexts go, and unbind the sink from the interface of one that goes; a create binds
the sink to the interface whose context it installs.
-/

namespace AddonBridge

open Act

variable {σ ν δ : Type}

/-- The module of a loaded addon, and whether the addon is created. -/
def Loaded.standing (l : Loaded) : String × Bool := (l.module, l.isCreated)

namespace World

/-- What becomes of the world under calls that create nothing: contexts may go, and with a context
every binding of the sink to its interface. -/
structure Wanes (w u : World σ ν) : Prop where
  busy : u.busy = w.busy
  sink : u.sink = w.sink ∨ u.sink = none
  loaded : ∀ t, (u.loaded.get? t).map Loaded.standing = (w.loaded.get? t).map Loaded.standing
  known : ∀ seat c', u.contexts.get? seat = some c' →
    ∃ c, w.contexts.get? seat = some c ∧ c'.root.site = c.root.site
  gone : ∀ seat c, w.contexts.get? seat = some c →
    (∃ c', u.contexts.get? seat = some c' ∧ c'.root.site = c.root.site) ∨
      u.sink ≠ some c.root.site.table

variable {w u v : World σ ν}

theorem Wanes.of_contexts (contexts : u.contexts = w.contexts) (busy : u.busy = w.busy)
    (sink : u.sink = w.sink ∨ u.sink = none)
    (loaded : ∀ t, (u.loaded.get? t).map Loaded.standing = (w.loaded.get? t).map Loaded.standing) :
    w.Wanes u :=
  ⟨busy, sink, loaded, fun _ c' here => ⟨c', contexts ▸ here, rfl⟩,
    fun _ c here => .inl ⟨c, contexts ▸ here, rfl⟩⟩

theorem Wanes.refl (w : World σ ν) : w.Wanes w := .of_contexts rfl rfl (.inl rfl) fun _ => rfl

theorem Wanes.trans (first : w.Wanes u) (second : u.Wanes v) : w.Wanes v where
  busy := second.busy.trans first.busy
  sink := by
    rcases second.sink with same | none
    · rw [same]; exact first.sink
    · exact .inr none
  loaded t := (second.loaded t).trans (first.loaded t)
  known seat c'' here := by
    obtain ⟨c', before, same⟩ := second.known seat c'' here
    obtain ⟨c, earlier, same'⟩ := first.known seat c' before
    exact ⟨c, earlier, same.trans same'⟩
  gone seat c here := by
    rcases first.gone seat c here with ⟨c', kept, same⟩ | unbound
    · rcases second.gone seat c' kept with ⟨c'', kept', same'⟩ | unbound
      · exact .inl ⟨c'', kept', same'.trans same⟩
      · exact .inr (same ▸ unbound)
    · right
      rcases second.sink with same | none
      · rwa [same]
      · simp [none]

theorem Stirs.wanes (h : w.Stirs u) : w.Wanes u := by
  refine .of_contexts h.contexts h.busy (.inl h.sink) fun t => ?_
  have standing : Loaded.standing = (fun l => (l.module, l.isCreated)) ∘ Loaded.core := rfl
  rw [standing, ← Option.map_map, h.loaded, Option.map_map]

theorem Wanes.modifyLoaded {t : TableId} {f : Loaded → Loaded}
    (h : ∀ l, (f l).standing = l.standing) :
    w.Wanes { w with loaded := w.loaded.modify t f } :=
  .of_contexts rfl rfl (.inl rfl) (Assoc.map_get?_modify _ t fun l _ => h l)

theorem Wanes.reseat {seat : Seat} {c c' : Context σ} (here : w.contexts.get? seat = some c)
    (same : c'.root.site = c.root.site) :
    w.Wanes { w with contexts := w.contexts.set seat c' } := by
  refine ⟨rfl, .inl rfl, fun _ => rfl, fun s d found => ?_, fun s d found => ?_⟩
  · dsimp only at found
    rw [Assoc.get?_set] at found
    split at found
    · next at_seat =>
      cases found
      exact ⟨c, at_seat ▸ here, same⟩
    · exact ⟨d, found, rfl⟩
  · dsimp only
    rw [Assoc.get?_set]
    split
    · next at_seat =>
      subst at_seat
      rw [here] at found
      cases found
      exact .inl ⟨c', rfl, same⟩
    · exact .inl ⟨d, found, rfl⟩

theorem Wanes.removed {seat : Seat} {c : Context σ} (here : w.contexts.get? seat = some c)
    (h : Wanes { w with contexts := w.contexts.erase seat } u)
    (unbound : u.sink ≠ some c.root.site.table) : w.Wanes u := by
  refine ⟨h.busy, h.sink, h.loaded, fun s d found => ?_, fun s d found => ?_⟩
  · obtain ⟨b, before, same⟩ := h.known s d found
    dsimp only at before
    rw [Assoc.get?_erase] at before
    split at before
    · contradiction
    · exact ⟨b, before, same⟩
  · by_cases at_seat : seat = s
    · subst at_seat
      rw [here] at found
      cases found
      exact .inr unbound
    · refine h.gone s d ?_
      dsimp only
      rw [Assoc.get?_erase, if_neg at_seat, found]

theorem Wanes.empty {seat : Seat} (h : w.Wanes u) (none : w.contexts.get? seat = none) :
    u.contexts.get? seat = Option.none := by
  cases here : u.contexts.get? seat with
  | none => rfl
  | some c' =>
    obtain ⟨c, before, -⟩ := h.known seat c' here
    rw [none] at before
    contradiction

theorem Wanes.unbound (t : TableId) :
    w.Wanes (if w.sink = some t then { w with sink := none } else w) := by
  split
  · exact .of_contexts rfl rfl (.inr rfl) fun _ => rfl
  · exact .refl w

end World

open World

abbrev Waning : Change σ ν := Change.unlessAborted Wanes

theorem Waning.law : Law (Waning : Change σ ν) := .of_preorder Wanes.refl fun _ _ _ => Wanes.trans

section

variable [Panics δ] [IsEmpty δ] {env : Env σ ν δ} {m : String}

/-- Code that creates nothing can run in an environment, and lets contexts go at most. -/
structure Env.Wanes (env : Env σ ν δ) : Prop where
  tame : env.modules.Follow .tame
  quiet : env.IsQuiet
  nested : ∀ c, c.isCreate = false → Obeys Waning (env.nested c)

namespace Env.Wanes

theorem permits (wanes : env.Wanes) : env.Permits Waning .tame where
  law := Waning.law
  talk _ _ idle _ := idle.stirs.wanes
  panic _ _ w _ := .refl w
  modules := wanes.tame
  nested := wanes.nested
  quiet := wanes.quiet
  stirs _ _ stirs _ := stirs.wanes

theorem tends (wanes : env.Wanes) (seat : Seat) : env.Tends Waning .tame seat where
  toPermits := wanes.permits
  raised _ _ _ := .of_contexts rfl rfl (.inl rfl) fun _ => rfl
  reseat _ _ _ here _ same _ _ := .reseat here same

theorem destroy_ensures (wanes : env.Wanes) (m : String) (w : World σ ν) :
    Ensures (Exports.destroy env m) w
      (fun _ u => w.Wanes u ∧ (m ∉ w.busy → u.contexts.get? (.module m) = none))
      fun e _ => e = .aborted := by
  have permits := wanes.permits
  refine Exports.guard_ensures ?_
  rw [ensures_bind]
  refine (Exports.take_ensures m w).mono (fun taken u ended => ?_) fun _ _ => False.elim
  cases taken with
  | none =>
    obtain ⟨idle, vacant⟩ := ended
    exact ⟨idle.stirs.wanes, fun free => idle.contexts ▸ vacant free⟩
  | some c =>
    obtain ⟨free, here, rfl⟩ := ended
    rw [ensures_bind]
    have destroyed := (Dispatch.destroy_obeys permits).ensures
      (Dispatch.destroy_quiet wanes.quiet c)
    refine (destroyed _).aborts fun _ u dropped => ?_
    have empty : u.contexts.get? (.module m) = none := dropped.empty (by simp [Assoc.get?_erase])
    rw [ensures_bind, Exports.publish, ensures_modifyLoaded, ensures_unbind]
    refine ⟨.removed here ((dropped.trans ?_).trans (.unbound _)) ?_, fun _ => ?_⟩
    · exact .modifyLoaded fun _ => rfl
    · split
      · simp
      · assumption
    · split <;> exact empty

theorem serves (wanes : env.Wanes) : env.Serves Waning (fun _ => Waning) .tame False where
  toKeeps := wanes.permits.toKeeps
  seated m := (wanes.tends (.module m)).lawful
  releases.held m w k u _ going h _ := by
    have waned := h going
    exact ⟨by simp [waned.busy], waned.sink, waned.loaded, waned.known, waned.gone⟩
  releases.halted _ _ _ _ _ stopped := absurd rfl stopped
  entered _ _ _ _ := .of_contexts rfl rfl (.inl rfl) fun _ => rfl
  locates := .of_free Waning.law fun _ _ _ _ => .of_contexts rfl rfl (.inl rfl) fun _ => rfl
  destroyed m w := (wanes.destroy_ensures m w).mono (fun _ _ ended _ => ended.1)
    fun _ _ stopped going => absurd (congrArg some stopped) going
  created := False.elim
  relinked := False.elim

end Env.Wanes

theorem Exports.env_wanes {modules : Modules σ ν δ} (tame : modules.Follow .tame) (unloading : Bool)
    (depth : Nat) : (Exports.env modules unloading depth).Wanes where
  tame := by rwa [env_modules]
  quiet := env_quiet modules unloading depth
  nested c h := env_obeys (p := .tame) False
    (fun _ (never : RawCall.isCreate _ = false) creates => by simp [never] at creates)
    (fun depth nested => Env.Wanes.serves
      ⟨by rwa [env_modules], env_quiet modules unloading depth, nested⟩) Waning.law depth c h

end

/-! ### What holds between calls -/

namespace World

/-- Every context is in the slot of the module whose addon its interface was loaded for, and that
addon counts as created. -/
def Seated (modules : Modules σ ν δ) (w : World σ ν) : Prop :=
  ∀ seat c, w.contexts.get? seat = some c → ∃ m, seat = .module m ∧ modules.native m = none ∧
    (w.loaded.get? c.root.site.table).map Loaded.standing = some (m, true)

/-- The sink goes to an interface that a context in a slot is built on, if it is bound. -/
def Bound (w : World σ ν) : Prop :=
  ∀ t, w.sink = some t → ∃ m c, w.contexts.get? (.module m) = some c ∧ c.root.site.table = t

variable {modules : Modules σ ν δ} {w u : World σ ν}

theorem Wanes.seated (h : w.Wanes u) (before : w.Seated modules) : u.Seated modules := by
  intro seat c' here
  obtain ⟨c, earlier, same⟩ := h.known seat c' here
  obtain ⟨m, at_slot, addon, created⟩ := before seat c earlier
  exact ⟨m, at_slot, addon, by rw [same, h.loaded, created]⟩

theorem Wanes.bound (h : w.Wanes u) (before : w.Bound) : u.Bound := by
  intro t sunk
  rcases h.sink with same | none
  · obtain ⟨m, c, here, table⟩ := before t (same ▸ sunk)
    rcases h.gone _ c here with ⟨c', kept, site⟩ | unbound
    · exact ⟨m, c', kept, by rw [site, table]⟩
    · exact absurd (table ▸ sunk) unbound
  · rw [none] at sunk
    contradiction

/-- While a module's addon is being created, the sink goes to its interface or nowhere. -/
structure Aimed (modules : Modules σ ν δ) (m : String) (t : TableId) (w : World σ ν) : Prop where
  seated : w.Seated modules
  sink : w.sink = some t ∨ w.sink = none
  created : (w.loaded.get? t).map Loaded.standing = some (m, true)

variable {m : String} {t : TableId}

theorem Wanes.aimed (h : w.Wanes u) (before : w.Aimed modules m t) : u.Aimed modules m t where
  seated := h.seated before.seated
  sink := by
    rcases h.sink with same | none
    · rw [same]; exact before.sink
    · exact .inr none
  created := by rw [h.loaded, before.created]

theorem Aimed.unbind (h : w.Aimed modules m t) :
    Bound (if w.sink = some t then { w with sink := none } else w) := by
  intro s sunk
  split at sunk
  · contradiction
  · next other =>
    rcases h.sink with same | none
    · exact absurd same other
    · rw [none] at sunk
      contradiction

theorem Aimed.of_busy (h : w.Aimed modules m t) (busy : List String) :
    Aimed modules m t { w with busy } :=
  ⟨h.seated, h.sink, h.created⟩

theorem Aimed.install (h : w.Aimed modules m t) (addon : modules.native m = none) {c : Context σ}
    (site : c.root.site = ⟨m, t⟩) :
    Aimed modules m t { w with contexts := w.contexts.set (.module m) c } ∧
      Bound { w with contexts := w.contexts.set (.module m) c } := by
  refine ⟨⟨fun seat d here => ?_, h.sink, h.created⟩, fun s sunk => ⟨m, c, ?_, ?_⟩⟩
  · dsimp only at here
    rw [Assoc.get?_set] at here
    split at here
    · next at_slot =>
      cases here
      exact ⟨m, at_slot.symm, addon, by rw [site]; exact h.created⟩
    · exact h.seated seat d here
  · dsimp only
    rw [Assoc.get?_set, if_pos rfl]
  · rcases h.sink with same | none
    · rw [site]
      exact Option.some.inj (same.symm.trans sunk)
    · exact absurd (none.symm.trans sunk) (by simp)

end World

namespace Env.Wanes

variable [Panics δ] [IsEmpty δ] {env : Env σ ν δ} {m : String} {t : TableId} {w : World σ ν}

theorem keeps {α : Type} {act : Act σ ν α} (obeyed : Obeys Waning act) {I : World σ ν → Prop}
    (kept : ∀ u v, u.Wanes v → I u → I v) (before : I w) :
    Ensures act w (fun _ u => I u) fun e u => e ≠ .aborted → I u :=
  (obeyed w).mono (fun _ u waned => kept w u waned.returned before)
    fun _ u waned going => kept w u (waned.stopped going) before

theorem install_ensures (wanes : env.Wanes) (addon : env.modules.native m = none) {c : Context σ}
    (site : c.root.site = ⟨m, t⟩) (aimed : w.Aimed env.modules m t) :
    Ensures (Exports.install env m c) w
      (fun installed u => u.Aimed env.modules m t ∧ (installed → u.Bound))
      fun e u => e ≠ .aborted → u.Aimed env.modules m t := by
  have permits := wanes.permits
  have law : Law (Waning : Change σ ν) := Waning.law
  rw [Exports.install, ensures_bind, ensures_isBusy, ensures_ite]
  refine ⟨fun _ => ?_, fun _ => ?_⟩
  · refine Log.error_talks.before fun _ u idle => ?_
    rw [ensures_bind]
    have aimed := idle.stirs.wanes.aimed aimed
    exact (keeps (Dispatch.dropContext_obeys permits) (fun _ _ => Wanes.aimed) aimed).mono
      (fun _ _ after => ⟨after, by simp⟩) fun _ _ => id
  · rw [ensures_bind]
    refine .holding ?_
    rw [ensures_bind, ensures_context?, ensures_bind, ensures_setContext, ensures_bind,
      ensures_record]
    obtain ⟨placed, bound⟩ := World.Aimed.install (w := w) aimed addon site
    have told : World.Wanes { w with contexts := w.contexts.set (.module m) c } { w with
        contexts := w.contexts.set (.module m) c
        trace := .installed c.root.object :: w.trace } :=
      .of_contexts rfl rfl (.inl rfl) fun _ => rfl
    have start := (told.aimed placed).of_busy (m :: w.busy)
    split
    · next old _ =>
      have finished : Obeys Waning (do
          Dispatch.dropContext env old
          Log.warn "Addon was created twice, dropping the previous instance" : Act σ ν Unit) :=
        .bind law (Dispatch.dropContext_obeys permits) fun _ => Log.warn_talks.obeys permits.talk
      exact (keeps (I := fun u => u.Aimed env.modules m t ∧ u.Bound) finished
        (fun _ _ waned h => ⟨waned.aimed h.1, waned.bound h.2⟩) ⟨start, bound⟩).mono
        (fun _ u after => ⟨after.1.of_busy _, fun _ => after.2⟩)
        fun e u stopped going => (stopped going).1.of_busy _
    · exact ⟨start.of_busy _, fun _ => bound⟩

theorem registerFunctions_obeys (wanes : env.Wanes) :
    Obeys Waning (Exports.registerFunctions m t : Act σ ν Bool) :=
  Exports.registerFunctions_obeys Waning.law wanes.permits.talk
    fun _ _ => .modifyLoaded fun _ => rfl

theorem construct_ensures (wanes : env.Wanes) (addon : env.modules.native m = none)
    (api : Option CString) (aimed : w.Aimed env.modules m t) :
    Ensures (Exports.construct env m t api) w
      (fun built u => u.Aimed env.modules m t ∧ (built.isOk → u.Bound))
      fun e u => e ≠ .aborted → u.Aimed env.modules m t := by
  have permits := wanes.permits
  have talk (u v : World σ ν) (idle : u.Idle v) (aimed : u.Aimed env.modules m t) :
      v.Aimed env.modules m t := idle.stirs.wanes.aimed aimed
  let placed (c : Context σ) (u : World σ ν) := c.root.site = ⟨m, t⟩ ∧ u.Aimed env.modules m t
  refine (Exports.construct_exits (F := fun u => u.Aimed env.modules m t) (B := placed) (R := placed)
    (K := fun _ u => u.Aimed env.modules m t ∧ u.Bound) talk (fun u idle => ?_)
    (fun c u aimed => ?_) (fun c u aimed => ?_) fun c u v aimed idle => ?_).mono
      (fun built u ended => ?_) fun _ _ => id
  · refine ((keeps (Dispatch.build_obeys permits) (fun _ _ => Wanes.aimed) (talk w u idle aimed)).and
      (Dispatch.build_shape env m t u)).mono (fun built v after => ?_) fun _ _ stopped => stopped.1
    obtain ⟨aimed, shaped⟩ := after
    cases built with
    | error e => exact aimed
    | ok c =>
      obtain ⟨single, rfl⟩ := shaped c rfl
      exact ⟨rfl, aimed⟩
  · refine (keeps wanes.registerFunctions_obeys (fun _ _ => Wanes.aimed) aimed.2).mono
      (fun registered v after => ?_) fun _ _ => id
    rw [ite_self]
    exact ⟨aimed.1, after⟩
  · refine (wanes.install_ensures addon aimed.1 aimed.2).mono (fun installed v ended => ?_)
      fun _ _ => id
    obtain ⟨aimed, bound⟩ := ended
    split
    · next done => exact ⟨aimed, bound done⟩
    · exact aimed
  · exact keeps (Dispatch.dropContext_obeys permits) (fun _ _ => Wanes.aimed) (talk u v idle aimed.2)
  · cases built with
    | ok single =>
      obtain ⟨_, -, aimed, bound⟩ := ended
      exact ⟨aimed, fun _ => bound⟩
    | error status => exact ⟨ended, nofun⟩

/-- After a create, whatever came of it, the sink goes to the interface of a context or nowhere. -/
theorem create_ensures (wanes : env.Wanes) (addon : env.modules.native m = none)
    (api : Option CString) (seated : w.Seated env.modules)
    (created : (w.loaded.get? t).map Loaded.standing = some (m, true)) :
    Ensures (Exports.create env m (some t) api) w
      (fun _ u => u.Seated env.modules ∧ u.Bound) fun e _ => e = .aborted := by
  have law : Law (Waning : Change σ ν) := Waning.law
  have waned {u v : World σ ν} (h : u.Wanes v) (before : u.Seated env.modules ∧ u.Bound) :
      v.Seated env.modules ∧ v.Bound := by
    obtain ⟨seated, bound⟩ := before
    exact ⟨h.seated seated, h.bound bound⟩
  have unbound {u : World σ ν} (aimed : u.Aimed env.modules m t) (s : World σ ν)
      (same : s = if u.sink = some t then { u with sink := none } else u) :
      s.Seated env.modules ∧ s.Bound := by
    subst same
    exact ⟨(Wanes.unbound t).seated aimed.seated, aimed.unbind⟩
  have aimed : World.Aimed env.modules m t (w.boundTo t) :=
    ⟨seated, .inl rfl, created⟩
  refine Exports.create_exits (fun _ _ idle => waned idle.stirs.wanes) ?_
  refine (wanes.construct_ensures addon api aimed).mono (fun built u ended => ?_)
    fun _ _ stopped going => unbound (stopped going) _ rfl
  obtain ⟨aimed, bound⟩ := ended
  cases built with
  | ok single =>
    have finished : Obeys Waning (do
        Exports.publish t (some .root) single
        Exports.withSlot m "create" .unknown (Dispatch.create env (.module m)) :
          Act σ ν Status) := by
      refine .bind law (fun w _ => ?_) fun _ =>
        Exports.withSlot_obeys wanes.serves (Dispatch.create_obeys (wanes.tends (.module m)))
      exact .modifyLoaded fun _ => rfl
    exact keeps finished (fun _ _ h => waned h) ⟨aimed.seated, bound rfl⟩
  | error status => exact unbound aimed _ rfl

end Env.Wanes

/-! ### Moves of a host -/

namespace World

/-- What holds between the moves of a host. -/
structure Attached (modules : Modules σ ν δ) (w : World σ ν) : Prop where
  idle : w.busy = []
  seated : w.Seated modules
  bound : w.Bound

variable {modules : Modules σ ν δ} {w u : World σ ν} {t : TableId}

def Deserted (t : TableId) (w : World σ ν) : Prop :=
  ∀ seat c, w.contexts.get? seat = some c → c.root.site.table ≠ t

theorem Attached.wanes (h : w.Attached modules) (waned : w.Wanes u) : u.Attached modules :=
  ⟨waned.busy.trans h.idle, waned.seated h.seated, waned.bound h.bound⟩

theorem Attached.relink (h : w.Attached modules) (deserted : w.Deserted t)
    {loaded : Assoc TableId Loaded} (others : ∀ s, t ≠ s → loaded.get? s = w.loaded.get? s) :
    Attached modules { w with loaded } := by
  refine ⟨h.idle, fun seat c here => ?_, h.bound⟩
  obtain ⟨m, at_slot, addon, created⟩ := h.seated seat c here
  refine ⟨m, at_slot, addon, ?_⟩
  dsimp only
  rw [others _ (deserted seat c here).symm, created]

theorem Attached.modify (h : w.Attached modules) (deserted : w.Deserted t) (f : Loaded → Loaded) :
    Attached modules { w with loaded := w.loaded.modify t f } :=
  h.relink deserted fun s other => by rw [Assoc.get?_modify, if_neg other]

theorem Seated.deserted (h : w.Seated modules) {l : Loaded} (loaded : w.loaded.get? t = some l)
    (away : l.isCreated = false ∨ modules.native l.module ≠ none) : w.Deserted t := by
  rintro seat c here rfl
  obtain ⟨m, -, addon, created⟩ := h seat c here
  rw [loaded, Option.map_some, Option.some.injEq, Loaded.standing, Prod.mk.injEq] at created
  rcases away with idle | native
  · rw [idle] at created
    exact absurd created.2 nofun
  · rw [created.1] at native
    exact native addon

theorem Wanes.deserted (h : w.Wanes u) (before : w.Deserted t) : u.Deserted t := by
  intro seat c' here
  obtain ⟨c, earlier, site⟩ := h.known seat c' here
  rw [site]
  exact before seat c earlier

theorem initial_attached (modules : Modules σ ν δ) (memory : String → σ) (facade : Facade) :
    Attached modules ({ memory, facade } : World σ ν) :=
  ⟨rfl, fun _ _ here => by simp at here, nofun⟩

end World

namespace LoadedAddon

variable [Panics δ] [IsEmpty δ] {env : Env σ ν δ} {m : String} {t : TableId} {l : Loaded}
  {w : World σ ν}

omit [IsEmpty δ] in
theorem call_attached (spares : env.Spares) {c : EntryCall}
    (called : Ensures (Exports.call env m c) w
      (fun _ u => u.Seated env.modules ∧ u.Bound) fun _ _ => True) (idle : w.busy = []) :
    Ensures (Exports.call env m c) w (fun _ u => u.Attached env.modules) fun _ _ => True := by
  have spared := Exports.call_obeys spares.opens.serves m (c := c) (fun _ _ _ => True.intro) w
  refine (spared.and called).mono (fun _ u after => ?_) fun _ _ _ => True.intro
  obtain ⟨spared, seated, bound⟩ := after
  exact ⟨spared.returned.busy.trans idle, seated, bound⟩

/-- A native module holds no context, whatever is called. -/
theorem callNative_wanes (wanes : env.Wanes) {n : NativeAddon σ ν}
    (native : env.modules.native m = some n) (c : EntryCall) :
    Obeys Waning (Exports.callNative env m n c) :=
  Exports.callNative_obeys wanes.permits.toKeeps m (wanes.tame.native m n native)
    fun _ _ _ _ _ _ same _ => .modifyLoaded fun l => Prod.ext (same l).1 (same l).2

theorem entered_wanes {c : EntryCall} : w.Wanes { w with trace := .entered m c :: w.trace } :=
  .of_contexts rfl rfl (.inl rfl) fun _ => rfl

theorem create_attached (wanes : env.Wanes) (spares : env.Spares) (api : String)
    (attached : w.Attached env.modules) (loaded : w.loaded.get? t = some l) :
    Ensures (create env t l api) w (fun _ u => u.Attached env.modules) fun _ _ => True := by
  refine create_exits attached fun fresh api _ => ?_
  have modified := attached.modify (attached.seated.deserted loaded (.inl fresh))
    fun l => { l with isCreated := true }
  refine call_attached spares ?_ modified.idle
  have entered := modified.wanes (entered_wanes (m := l.module) (c := .create (some t) (some api)))
  rw [Exports.call, ensures_bind, ensures_record]
  split
  · next n native =>
    refine (callNative_wanes wanes native _ _).mono (fun _ u waned => ?_) fun _ _ _ => True.intro
    exact ⟨waned.returned.seated entered.seated, waned.returned.bound entered.bound⟩
  · next addon =>
    rw [Exports.callAddon, ensures_bind]
    refine (wanes.create_ensures addon _ entered.seated ?_).mono (fun _ _ after => after)
      fun _ _ _ => True.intro
    simp [Assoc.get?_modify, loaded, Loaded.standing]

/-- A destroy takes every context that is built on the interface of the addon. -/
theorem call_destroy_ensures (wanes : env.Wanes) (attached : w.Attached env.modules)
    (loaded : w.loaded.get? t = some l) {f : Loaded → Loaded} :
    Ensures (Exports.call env l.module .destroy) { w with loaded := w.loaded.modify t f }
      (fun _ u => (u.Seated env.modules ∧ u.Bound) ∧ u.Deserted t) fun _ _ => True := by
  rw [Exports.call, ensures_bind, ensures_record]
  split
  · next n native =>
    have deserted := attached.seated.deserted loaded (.inr (by simp [native]))
    have modified := attached.modify deserted f
    refine (callNative_wanes wanes native _ _).mono (fun _ u waned => ?_) fun _ _ _ => True.intro
    have waned := Wanes.trans entered_wanes waned.returned
    exact ⟨⟨waned.seated modified.seated, waned.bound modified.bound⟩, waned.deserted deserted⟩
  · rw [Exports.callAddon, ensures_bind]
    refine (wanes.destroy_ensures l.module _).mono (fun _ u ended => ?_) fun _ _ _ => True.intro
    obtain ⟨waned, emptied⟩ := ended
    have empty := emptied (by simp [attached.idle])
    have deserted : u.Deserted t := by
      rintro seat c' here rfl
      obtain ⟨c, earlier, site⟩ := waned.known seat c' here
      obtain ⟨m, rfl, -, created⟩ := attached.seated seat c earlier
      rw [← site, loaded] at created
      have same : l.module = m := congrArg Prod.fst (Option.some.inj created)
      rw [← same, empty] at here
      contradiction
    refine ⟨⟨fun seat c' here => ?_, waned.bound attached.bound⟩, deserted⟩
    obtain ⟨c, earlier, site⟩ := waned.known seat c' here
    obtain ⟨m, at_slot, addon, created⟩ := attached.seated seat c earlier
    refine ⟨m, at_slot, addon, ?_⟩
    rw [waned.loaded, site]
    dsimp only
    rw [Assoc.get?_modify, if_neg (site ▸ (deserted seat c' here).symm), created]

theorem destroy_attached (wanes : env.Wanes) (spares : env.Spares)
    (attached : w.Attached env.modules) (loaded : w.loaded.get? t = some l) :
    Ensures (destroy env t l) w (fun _ u => u.Attached env.modules ∧ u.Deserted t)
      fun _ _ => True := by
  rw [destroy, ensures_ite]
  refine ⟨fun created => ?_, fun fresh => ?_⟩
  · rw [ensures_bind, ensures_modifyLoaded, ensures_discard]
    have called := call_destroy_ensures wanes attached loaded
      (f := fun l => { l with isCreated := false })
    have kept := call_attached spares (called.mono (fun _ _ => And.left) fun _ _ => id)
      attached.idle
    refine (kept.and called).mono (fun _ u after => ?_) fun _ _ _ => True.intro
    obtain ⟨attached, -, deserted⟩ := after
    exact ⟨attached, deserted⟩
  · exact ⟨attached, attached.seated.deserted loaded (.inl (by simpa using fresh))⟩

theorem perform_attached (wanes : env.Wanes) (spares : env.Spares) (operation : Operation)
    (attached : w.Attached env.modules) (loaded : w.loaded.get? t = some l) :
    Ensures (perform env t l operation) w (fun _ u => u.Attached env.modules ∧
      (operation = .drop → u.loaded.get? t = none)) fun _ _ => True := by
  by_cases plain : operation.IsPlain
  · have obeyed : Obeys Waning (perform env t l operation) :=
      perform_obeys wanes.serves (fun _ _ _ => .modifyLoaded fun _ => rfl) plain
    refine (obeyed w).mono (fun _ u waned => ⟨attached.wanes waned.returned, ?_⟩)
      fun _ _ _ => True.intro
    rintro rfl
    exact plain.elim
  · cases operation with
    | create api =>
      rw [perform, ensures_bind]
      exact (create_attached wanes spares api attached loaded).mono
        (fun _ _ after => ⟨after, nofun⟩) fun _ _ => id
    | destroy =>
      rw [perform, ensures_bind]
      exact (destroy_attached wanes spares attached loaded).mono
        (fun _ _ after => ⟨after.1, nofun⟩) fun _ _ => id
    | drop =>
      rw [perform, drop, ensures_bind, ensures_bind]
      refine (destroy_attached wanes spares attached loaded).mono (fun _ u after => ?_)
        fun _ _ => id
      obtain ⟨attached, deserted⟩ := after
      refine ⟨attached.relink deserted fun s other => ?_, fun _ => ?_⟩
      · rw [Assoc.get?_erase, if_neg other]
      · simp [Assoc.get?_erase]
    | _ => exact absurd True.intro plain

theorem step_attached (wanes : env.Wanes) (spares : env.Spares) (move : Move)
    (attached : w.Attached env.modules) :
    Ensures (step env move) w (fun _ u => u.Attached env.modules ∧
      ∀ t, move = .operate t .drop → u.loaded.get? t = none) fun _ _ => True := by
  cases move with
  | load t module host libPath =>
    rw [step, ensures_bind, ensures_loaded?]
    cases loaded : w.loaded.get? t with
    | some l => exact ⟨attached, by simp⟩
    | none =>
      have deserted : w.Deserted t := by
        rintro seat c here rfl
        obtain ⟨m, -, -, created⟩ := attached.seated seat c here
        rw [loaded] at created
        contradiction
      dsimp only
      rw [ensures_discard, load]
      split
      · exact ⟨attached, by simp⟩
      · refine ⟨attached.relink deserted fun s other => ?_, by simp⟩
        rw [Assoc.get?_set, if_neg other]
  | operate t operation =>
    rw [step, ensures_bind, ensures_loaded?]
    cases loaded : w.loaded.get? t with
    | none =>
      refine ⟨attached, ?_⟩
      rintro s ⟨⟩
      exact loaded
    | some l =>
      dsimp only
      rw [ensures_discard]
      refine (perform_attached wanes spares operation attached loaded).mono (fun _ u after => ?_)
        fun _ _ => id
      obtain ⟨attached, dropped⟩ := after
      refine ⟨attached, ?_⟩
      rintro s ⟨⟩
      exact dropped rfl

/-- Whatever a host does with its addons, the log sink goes to the interface of a context in a slot or
nowhere, and nothing refers to an interface whose addon is not loaded any more. The code of the addons
may panic wherever it runs, but for the code that runs when a root or an instance is dropped: there is
no payload for it to panic with. -/
theorem run_attached (modules : Modules σ ν δ) (tame : modules.Follow .tame) (unloading : Bool)
    (depth : Nat) (memory : String → σ) (facade : Facade) (moves : List Move) :
    Ensures (run (Exports.env modules unloading depth) moves) { memory, facade }
      (fun _ w =>
        (∀ t, w.sink = some t →
          ∃ m c, w.contexts.get? (.module m) = some c ∧ c.root.site.table = t) ∧
        (∀ t, w.loaded.get? t = none →
          (∀ m c, w.contexts.get? (.module m) = some c → c.root.site.table ≠ t) ∧
            w.sink ≠ some t) ∧
        ∀ t, moves.getLast? = some (.operate t .drop) → w.loaded.get? t = none)
      fun stop _ => stop = .aborted := by
  have wanes := Exports.env_wanes tame unloading depth
  have spares := Exports.env_spares modules unloading depth
  have start : World.Attached (Exports.env modules unloading depth).modules { memory, facade } :=
    World.initial_attached _ memory facade
  refine (run_ensures wanes.quiet (fun move _ attached => step_attached wanes spares move attached)
    moves _ start).mono (fun _ w after => ?_) fun _ _ => id
  obtain ⟨attached, last⟩ := after
  refine ⟨attached.bound, fun t unloaded => ?_, fun t dropped => last _ dropped t rfl⟩
  have deserted : w.Deserted t := by
    rintro seat c here rfl
    obtain ⟨m, -, -, created⟩ := attached.seated seat c here
    rw [unloaded] at created
    contradiction
  refine ⟨fun m c => deserted (.module m) c, fun sunk => ?_⟩
  obtain ⟨m, c, here, table⟩ := attached.bound t sunk
  exact deserted _ c here table

/-- Three addons are created, and the first is unloaded: log records still go to the third. -/
theorem run_attached_decoders :
    ∃ w, run (Exports.env Modules.decoders false 2)
        [.load ⟨0, 0⟩ "first" {} "first.so", .load ⟨1, 0⟩ "second" {} "second.so",
          .load ⟨2, 0⟩ "third" {} "third.so", .operate ⟨0, 0⟩ (.create "1.0"),
          .operate ⟨1, 0⟩ (.create "1.0"), .operate ⟨2, 0⟩ (.create "1.0"),
          .operate ⟨0, 0⟩ .drop] { memory := fun _ => () } = .ok () w ∧
      w.sink = some ⟨2, 0⟩ ∧ w.contexts.length = 2 ∧
      (∃ m c, w.contexts.get? (.module m) = some c ∧ c.root.site.table = ⟨2, 0⟩) ∧
      w.loaded.get? ⟨0, 0⟩ = none ∧
      ∀ m c, w.contexts.get? (.module m) = some c → c.root.site.table ≠ ⟨0, 0⟩ := by
  have ends : endsWith (run (Exports.env Modules.decoders false 2)
      [.load ⟨0, 0⟩ "first" {} "first.so", .load ⟨1, 0⟩ "second" {} "second.so",
        .load ⟨2, 0⟩ "third" {} "third.so", .operate ⟨0, 0⟩ (.create "1.0"),
        .operate ⟨1, 0⟩ (.create "1.0"), .operate ⟨2, 0⟩ (.create "1.0"),
        .operate ⟨0, 0⟩ .drop]) { memory := fun _ => () } (fun _ w =>
      w.sink = some ⟨2, 0⟩ ∧ w.contexts.length = 2) := by
    decide +kernel
  obtain ⟨_, w, ran, read⟩ := exists_ended ends
  obtain ⟨sunk, two⟩ := of_decide_eq_true read
  have tame := Modules.decoders_follow (p := .tame) fun _ _ => True.intro
  have attached {moves : List Move} {w : World Unit Unit}
      (ran : run (Exports.env Modules.decoders false 2) moves { memory := fun _ => () } = .ok () w) :=
    (ensures_ok ran).mp (run_attached Modules.decoders tame false 2 (fun _ => ()) {} moves)
  obtain ⟨bound, unloaded, dropped⟩ := attached ran
  have gone := dropped ⟨0, 0⟩ rfl
  exact ⟨w, ran, sunk, two, bound _ sunk, gone, (unloaded _ gone).1⟩

end LoadedAddon

/-- Modules whose addons panic when their root is dropped. -/
def Modules.fragile : Modules Unit Unit Payload where
  addon _ :=
    { build := fun _ => .done (.ok none)
      dropped := fun _ => .panic (.text "still in use") }

theorem Modules.fragile_tame : Modules.fragile.Follow .tame where
  addon m :=
    { build := fun _ => True.intro
      created := fun _ => True.intro
      status := fun _ => True.intro
      setSetting := fun _ _ _ => True.intro
      factory := fun _ _ => True.intro
      instanceFactory := fun _ _ _ _ => True.intro
      instanceDestroyed := fun _ _ _ _ => True.intro
      instanceDropped := fun _ _ _ => True.intro
      dropped := fun _ => True.intro }
  native m n found := by cases found

/-- A root that panics when it is dropped leaves log records going to its interface, which is gone
then. -/
theorem LoadedAddon.run_detached :
    Modules.fragile.Follow .tame ∧ ∃ w, run (Exports.env Modules.fragile false 2)
        [.load ⟨0, 0⟩ "fragile" {} "fragile.so", .operate ⟨0, 0⟩ (.create "1.0"),
          .operate ⟨0, 0⟩ .drop] { memory := fun _ => () } = .ok () w ∧
      w.sink = some ⟨0, 0⟩ ∧ w.loaded.get? ⟨0, 0⟩ = none ∧ w.contexts = [] := by
  have ends : endsWith (run (Exports.env Modules.fragile false 2)
      [.load ⟨0, 0⟩ "fragile" {} "fragile.so", .operate ⟨0, 0⟩ (.create "1.0"),
        .operate ⟨0, 0⟩ .drop]) { memory := fun _ => () } (fun _ w =>
      w.sink = some ⟨0, 0⟩ ∧ (w.loaded.get? ⟨0, 0⟩).isNone ∧ w.contexts.isEmpty) := by
    decide +kernel
  obtain ⟨_, w, ran, read⟩ := exists_ended ends
  obtain ⟨sunk, gone, vacant⟩ := of_decide_eq_true read
  exact ⟨Modules.fragile_tame, w, ran, sunk, Option.isNone_iff_eq_none.mp gone,
    List.isEmpty_iff.mp vacant⟩

end AddonBridge
