import AddonBridge.Proofs.Creation
import AddonBridge.Proofs.Registration

/-!
# Taking down what was created in vain

An addon counts as created after every create, also after one that installed nothing. Taking it down
then calls its module, which destroys whatever its slot holds. `destroy_in_vain` says that nobody is
touched if the slot is empty, and what is lost otherwise: the context of another addon of the module,
loaded on an interface of its own. `destroy_takes_other` shows one that loses it.
-/

namespace AddonBridge

open Act World

variable {σ ν : Type} {env : Env σ ν} {modules : Modules σ ν} {m n : String} {w u v : World σ ν}
  {t s : TableId} {c : Context σ}

namespace World

theorem Sited.deserted (h : w.Sited u) (before : w.Deserted t) : u.Deserted t := by
  intro seat c here
  obtain ⟨c', earlier, site⟩ := h seat c here
  rw [← site]
  exact before seat c' earlier

/-- What stays of an interface on which no context is built: none is until one is installed, and its
addon goes on counting as created. -/
structure Awaits (m : String) (t : TableId) (w u : World σ ν) : Prop where
  trace : w.trace <:+ u.trace
  created : (w.loaded.get? t).map Loaded.standing = some (m, true) →
    (u.loaded.get? t).map Loaded.standing = some (m, true)
  deserted : w.Deserted t → (∀ number, ¬w.Shows u (.installed ⟨t, number⟩)) → u.Deserted t

theorem Awaits.of_sited (grown : w.trace <:+ u.trace)
    (created : (w.loaded.get? t).map Loaded.standing = some (m, true) →
      (u.loaded.get? t).map Loaded.standing = some (m, true))
    (sited : w.Sited u) : Awaits m t w u :=
  ⟨grown, created, fun before _ => sited.deserted before⟩

theorem Awaits.refl (w : World σ ν) : Awaits m t w w := .of_sited List.suffix_rfl id (.same rfl)

theorem Awaits.trans (first : Awaits m t w u) (second : Awaits m t u v) : Awaits m t w v where
  trace := first.trace.trans second.trace
  created before := second.created (first.created before)
  deserted before none := by
    have between := first.deserted before fun number shown => none number (shown.later second.trace)
    exact second.deserted between fun number shown => none number (shown.earlier first.trace)

theorem Awaits.relinked {g : Loaded → Loaded}
    (h : s = t → ∀ l : Loaded, l.standing = (m, true) → (g l).standing = (m, true)) :
    Awaits m t w { w with loaded := w.loaded.modify s g } := by
  refine .of_sited List.suffix_rfl (fun before => ?_) (.same rfl)
  dsimp only
  rw [Assoc.get?_modify]
  split
  · next same =>
    obtain ⟨l, loaded, standing⟩ := Option.map_eq_some_iff.mp before
    rw [loaded, Option.map_some, Option.map_some, h same l standing]
  · exact before

theorem Awaits.lenient : Lenient (Awaits m t : World σ ν → World σ ν → Prop) where
  refl := .refl
  trans _ _ _ := .trans
  stirs _ _ h := .of_sited h.trace (fun before => by rw [h.wanes.loaded, before]) (.same h.contexts)
  raised _ _ := .of_sited (List.suffix_cons _ _) id (.same rfl)
  marked _ _ := .relinked fun _ _ => id
  reseat _ _ _ _ here _ site _ := .of_sited List.suffix_rfl id (.reseated here site)
  released _ _ _ _ h := ⟨h.trace, h.created, h.deserted⟩
  moved _ _ _ := .of_sited List.suffix_rfl id (.same rfl)
  emptied w n _ := .of_sited List.suffix_rfl id (.erased w (.module n))
  withdrawn w n c u _ _ h := by
    have emptied : Awaits m t w { w with contexts := w.contexts.erase (.module n) } :=
      .of_sited List.suffix_rfl id (.erased w (.module n))
    exact (emptied.trans h).trans (.relinked fun _ _ => id)
  unbound _ := .of_sited List.suffix_rfl id (.same rfl)

theorem Awaits.creates : Lenient.Creates (Awaits m t : World σ ν → World σ ν → Prop) n s where
  registered _ _ _ before := before.trans (.relinked fun _ _ => id)
  seated w u c mounting _ := by
    refine ⟨List.suffix_cons _ _, id, fun before none seat d here => ?_⟩
    dsimp only at here
    rw [Assoc.get?_set] at here
    split at here
    · cases here
      obtain ⟨single, rfl⟩ := mounting.shape
      rintro rfl
      exact none _ ⟨[_], rfl, List.mem_singleton.mpr rfl⟩
    · exact before seat d here
  published _ _ _ _ before := before.trans (.relinked fun _ _ => id)

theorem handles?_kept
    (same : (u.loaded.get? s).map Loaded.standing = (w.loaded.get? s).map Loaded.standing)
    (shown : Option InstanceHandle × Option InstanceHandle) :
    (u.handles? s).map (fun _ => shown) = (w.handles? s).map fun _ => shown := by
  have same := congrArg (Option.map fun _ => shown) same
  rw [Option.map_map, Option.map_map] at same
  rw [handles?, handles?, Option.map_map, Option.map_map]
  exact same

/-- A host has stopped counting an addon as created, and has called its module's destroy function. -/
abbrev dismissing (w : World σ ν) (t : TableId) (m : String) : World σ ν :=
  { w with
    loaded := w.loaded.modify t fun l => { l with isCreated := false }
    trace := .entered m .destroy :: w.trace }

theorem handles?_dismissing (w : World σ ν) (t : TableId) (m : String) (s : TableId) :
    (w.dismissing t m).handles? s = w.handles? s := by
  refine handles?_modify (w := w) (t := t) (f := fun l => { l with isCreated := false }) ?_ s
  exact fun _ => rfl

/-- Nobody but the addon on an interface is touched by taking it down. -/
structure Unharmed (t : TableId) (m : String) (w u : World σ ν) : Prop where
  contexts : u.contexts = w.contexts
  handles : ∀ s, s ≠ t → u.handles? s = w.handles? s
  shown : ∀ e, w.Shows u e → e.IsTalk ∨ e = .entered m .destroy

/-- Taking down the addon on an interface has ended a context: its objects are gone, and an interface
of its own shows nothing any more. -/
structure Ended (t : TableId) (c : Context σ) (w u : World σ ν) : Prop where
  root : w.Shows u (.rootDropped c.root.object)
  instances : ∀ i ∈ c.instances.values, w.Shows u (.instanceDropped i.object i.descriptor)
  handles : c.root.site.table ≠ t →
    u.handles? c.root.site.table = (w.handles? c.root.site.table).map fun _ => (none, none)

theorem Ended.before (grown : w.trace <:+ u.trace)
    (handles : c.root.site.table ≠ t →
      u.handles? c.root.site.table = w.handles? c.root.site.table)
    (h : Ended t c u v) : Ended t c w v where
  root := h.root.earlier grown
  instances i member := (h.instances i member).earlier grown
  handles other := by rw [h.handles other, handles other]

end World

/-! ### Ends of contexts -/

namespace Dispatch

theorem dropInstances_ensures (spares : env.Spares) (site : Site) (is : List (Instance σ))
    (w : World σ ν) :
    Ensures (dropInstances env site is) w
      (fun _ u => Spares none w u ∧ ∀ i ∈ is, w.Shows u (.instanceDropped i.object i.descriptor))
      fun e _ => e = .aborted := by
  induction is generalizing w with
  | nil => exact ⟨.refl w, by simp⟩
  | cons i is ih =>
    rw [dropInstances, ensures_bind]
    refine (dropInstance_ensures spares site i w).mono (fun _ u first => ?_) fun _ _ => And.left
    obtain ⟨before, dropped⟩ := first
    refine (ih u).mono (fun _ v rest => ?_) fun _ _ => id
    obtain ⟨after, others⟩ := rest
    refine ⟨before.trans after, fun j member => ?_⟩
    rcases List.mem_cons.mp member with rfl | later
    · exact dropped.later after.trace
    · exact (others j later).earlier before.trace

theorem dropRoot_ensures (spares : env.Spares) (r : Root) (w : World σ ν) :
    Ensures (dropRoot env r) w (fun _ u => w.Shows u (.rootDropped r.object))
      fun e _ => e = .aborted := by
  have permits := spares.permits none
  have follows := (permits.modules.addon r.site.module).dropped r.site
  have ran : Obeys (Sparing none) (env.lastly r.site.module
      ((env.modules.addon r.site.module).dropped r.site)) :=
    Env.lastly_obeys permits.toKeeps r.site.module follows
  rw [dropRoot, ensures_bind, ensures_record]
  refine (ran.ensures (Env.lastly_quiet spares.quiet _ _) _).mono (fun _ u spared => ?_)
    fun _ _ => id
  exact .later ⟨[_], rfl, List.mem_singleton.mpr rfl⟩ spared.trace

/-- Destroying a context drops its instances and its root. -/
theorem destroy_ensures (spares : env.Spares) (c : Context σ) (w : World σ ν) :
    Ensures (destroy env c) w
      (fun _ u => w.Shows u (.rootDropped c.root.object) ∧
        ∀ i ∈ c.instances.values, w.Shows u (.instanceDropped i.object i.descriptor))
      fun e _ => e = .aborted := by
  have dropped (w : World σ ν) : Ensures (dropContext env c) w
      (fun _ u => w.Shows u (.rootDropped c.root.object) ∧
        ∀ i ∈ c.instances.values, w.Shows u (.instanceDropped i.object i.descriptor))
      fun e _ => e = .aborted := by
    rw [dropContext_eq spares.quiet, ensures_bind]
    refine (dropInstances_ensures spares c.root.site _ w).mono (fun _ u ended => ?_) fun _ _ => id
    obtain ⟨spared, instances⟩ := ended
    refine (dropRoot_ensures spares c.root u).mono (fun _ v root => ?_) fun _ _ => id
    exact ⟨root.earlier spared.trace, fun i member =>
      (instances i ((env.modules.order.perm _).symm.subset member)).later root.grown⟩
  rw [destroy]
  split
  · refine Log.debug_talks.before fun _ u idle => ?_
    refine (dropped u).mono (fun _ v ended => ?_) fun _ _ => id
    obtain ⟨root, instances⟩ := ended
    have grown := idle.stirs.trace
    exact ⟨root.earlier grown, fun i member => (instances i member).earlier grown⟩
  · exact dropped w

end Dispatch

namespace Exports

/-- A destroy that finds nothing in its slot only says so. -/
theorem destroy_idles (empty : w.contexts.get? (.module m) = none) :
    Ensures (destroy env m) w (fun _ u => w.Idle u) fun _ _ => False := by
  refine guard_returns ?_
  rw [ensures_bind]
  refine (take_ensures m w).mono (fun taken u ended => ?_) fun _ _ => id
  cases taken with
  | none => exact ended.1
  | some c =>
    obtain ⟨-, here, -⟩ := ended
    rw [empty] at here
    contradiction

/-- A destroy ends the context that it finds in its slot, whoever had it built. -/
theorem destroy_ends (within : env.Within (Enrols env.modules s) {}) (spares : env.Spares)
    (free : m ∉ w.busy) (here : w.contexts.get? (.module m) = some c) :
    Ensures (destroy env m) w (fun _ u => Ended t c w u) fun e _ => e = .aborted := by
  refine guard_ensures ?_
  rw [ensures_bind]
  refine (take_ensures m w).mono (fun taken u ended => ?_) fun _ _ => False.elim
  cases taken with
  | none =>
    rw [ended.2 free] at here
    contradiction
  | some taken =>
    obtain ⟨-, here', rfl⟩ := ended
    obtain rfl : c = taken := Option.some.inj (here.symm.trans here')
    rw [ensures_bind]
    have enrolled := (Dispatch.destroy_obeys (Enrols.lenient.permits within) (c := c)).ensures
      (Dispatch.destroy_quiet spares.quiet c)
    refine ((enrolled _).and (Dispatch.destroy_ensures spares c _)).mono (fun _ u dropped => ?_)
      fun _ _ stopped going => absurd stopped.1 going
    obtain ⟨enrolled, root, instances⟩ := dropped
    rw [ensures_bind, publish, ensures_modifyLoaded, ensures_unbind]
    have ended : Ended t c w (u.published c.root.site.table none none) := by
      refine ⟨root, instances, fun _ => ?_⟩
      rw [handles?_publish, if_pos rfl]
      exact handles?_kept (enrolled.standing _) _
    split
    · exact ⟨ended.root, ended.instances, ended.handles⟩
    · exact ended

theorem call_awaits (within : env.Within (Awaits m t) {}) (spares : env.Spares) (n : String)
    (c : EntryCall) : Obeys (Change.unlessAborted (Awaits m t)) (call env n c) := by
  have permits := Awaits.lenient.permits within
  refine Awaits.lenient.call_obeys within fun table api _ => ?_
  cases native : env.modules.native n with
  | some a =>
    intro w
    have follows := permits.modules.native n a native
    have called := callNative_obeys permits.toKeeps n follows (c := .create table api)
      fun _ _ _ w s f same _ => .relinked fun _ l standing =>
        (Prod.ext (same l).1 (same l).2 : (f l).standing = l.standing).trans standing
    rw [call, ensures_bind, ensures_record, native]
    exact called.continues permits.law fun _ => .of_sited (List.suffix_cons _ _) id (.same rfl)
  | none =>
    exact Awaits.lenient.create_keeps within spares
      (fun _ _ => .of_sited List.suffix_rfl id (.same rfl)) native fun _ _ => Awaits.creates

theorem env_awaits (modules : Modules σ ν) (unloading : Bool) (depth : Nat) (m : String)
    (t : TableId) : (Exports.env modules unloading depth).Within (Awaits m t) {} :=
  Awaits.lenient.env_within (fun depth within n _ _ =>
    call_awaits within (env_spares modules unloading depth) n _) depth

end Exports

/-! ### Taking down a loaded addon -/

namespace LoadedAddon

variable {l : Loaded} {operation : Operation} {moves : List Move}

theorem Relinks.awaiting {move : Move} (kept : move ≠ .operate t .destroy)
    (kept' : move ≠ .operate t .drop) :
    Relinks (Change.unlessAborted (Awaits m t) : Change σ ν) move where
  loads w s l free _ := by
    refine .of_sited List.suffix_rfl (fun created => ?_) (.same rfl)
    have apart : s ≠ t := by
      rintro rfl
      simp [free] at created
    dsimp only
    rwa [Assoc.get?_set, if_neg apart]
  creates w s _ := by
    refine .relinked fun _ l standing => ?_
    exact congrArg (fun p : String × Bool => (p.1, true)) standing
  destroys w s last _ := by
    refine .relinked ?_
    rintro rfl
    exact absurd last (by simp [kept, kept'])
  drops w s dropped _ := by
    refine .of_sited List.suffix_rfl (fun created => ?_) (.same rfl)
    have apart : s ≠ t := by
      rintro rfl
      exact kept' dropped
    dsimp only
    rwa [Assoc.get?_erase, if_neg apart]
  shares w s first _ := .relinked fun _ _ => id

/-- A host's create of an addon came to nothing: since it began, no context was installed on the
interface of the addon, and the addon was not taken down. -/
def InVain (env : Env σ ν) (memory : String → σ) (t : TableId) (w : World σ ν) : Prop :=
  ∃ (facade : Facade) (before after : List Move) (api : String) (w₀ : World σ ν) (l₀ : Loaded),
    run env before { memory, facade } = .ok () w₀ ∧ w₀.loaded.get? t = some l₀ ∧ l₀.isCreated = false ∧
    (CString.ofText? api).isSome ∧ run env (.operate t (.create api) :: after) w₀ = .ok () w ∧
    .operate t .destroy ∉ after ∧ .operate t .drop ∉ after ∧
    ∀ number, ¬w₀.Shows w (.installed ⟨t, number⟩)

theorem step_creates {api : String} {api' : CString} {P : World σ ν → Prop}
    {E : Stop → World σ ν → Prop} (loaded : w.loaded.get? t = some l) (fresh : l.isCreated = false)
    (crossed : CString.ofText? api = some api')
    (called : Ensures (Exports.call env l.module (.create (some t) (some api')))
      { w with loaded := w.loaded.modify t fun l => { l with isCreated := true } }
      (fun _ u => P u) E) :
    Ensures (step env (.operate t (.create api))) w (fun _ u => P u) E := by
  rw [step, ensures_bind, ensures_loaded?, loaded]
  dsimp only
  rw [ensures_discard, perform, ensures_bind, create, ensures_ite]
  refine ⟨fun created => absurd created (by simp [fresh]), fun _ => ?_⟩
  rw [crossed]
  dsimp only
  rw [ensures_bind, ensures_modifyLoaded, ensures_bind]
  exact called

/-- After a create, the addon counts as created until it is taken down. If no context was built on its
interface, none is until one is installed. -/
theorem run_awaits (within : env.Within (Awaits l.module t) {}) (spares : env.Spares) {api : String}
    (loaded : w.loaded.get? t = some l) (fresh : l.isCreated = false)
    (crossed : (CString.ofText? api).isSome) (destroyed : .operate t .destroy ∉ moves)
    (dropped : .operate t .drop ∉ moves) :
    Ensures (run env (.operate t (.create api) :: moves)) w
      (fun _ u => (u.loaded.get? t).map Loaded.standing = some (l.module, true) ∧
        (w.Deserted t → (∀ number, ¬w.Shows u (.installed ⟨t, number⟩)) → u.Deserted t))
      fun _ _ => True := by
  have law : Law (Change.unlessAborted (Awaits l.module t) : Change σ ν) := Awaits.lenient.law
  have rest : Obeys (Change.unlessAborted (Awaits l.module t)) (run env moves) := by
    refine run_obeys law fun move member =>
      step_obeys law (Exports.call_awaits within spares) (.awaiting ?_ ?_)
    · rintro rfl
      exact destroyed member
    · rintro rfl
      exact dropped member
  obtain ⟨api', crossed⟩ := Option.isSome_iff_exists.mp crossed
  -- The addon counts as created from before its module is called, so the law starts from there.
  let begun : World σ ν :=
    { w with loaded := w.loaded.modify t fun l => { l with isCreated := true } }
  have created : (begun.loaded.get? t).map Loaded.standing = some (l.module, true) := by
    simp [begun, Assoc.get?_modify, loaded, Loaded.standing]
  rw [run, ensures_bind]
  refine step_creates loaded fresh crossed ?_
  refine (Exports.call_awaits within spares _ _ _).mono (fun _ u first => ?_)
    fun _ _ _ => True.intro
  refine (rest u).mono (fun _ v second => ?_) fun _ _ _ => True.intro
  have awaits : Awaits l.module t begun v := first.returned.trans second.returned
  exact ⟨awaits.created created, awaits.deserted⟩

theorem destroy_calls {P : World σ ν → Prop} {E : Stop → World σ ν → Prop} (created : l.isCreated)
    (addon : env.modules.native l.module = none)
    (called : Ensures (Exports.destroy env l.module) (w.dismissing t l.module)
      (fun _ u => P u) E) :
    Ensures (destroy env t l) w (fun _ u => P u) E := by
  rw [destroy, ensures_ite]
  refine ⟨fun _ => ?_, fun fresh => absurd created fresh⟩
  rw [ensures_bind, ensures_modifyLoaded, ensures_discard, Exports.ensures_call addon,
    Exports.callAddon, ensures_bind]
  exact called

/-- What a destroy leads to, a drop leads to, if it is left alone by taking the interface away. -/
theorem perform_last {P : World σ ν → Prop} {E : Stop → World σ ν → Prop}
    (last : operation = .destroy ∨ operation = .drop)
    (erased : ∀ u, P u → P { u with loaded := u.loaded.erase t })
    (h : Ensures (destroy env t l) w (fun _ u => P u) E) :
    Ensures (perform env t l operation) w (fun _ u => P u) E := by
  rcases last with rfl | rfl
  · rw [perform, ensures_bind]
    exact h
  · rw [perform, drop, ensures_bind, ensures_bind]
    exact h.mono (fun _ u => erased u) fun _ _ => id

theorem destroy_unharmed (created : l.isCreated) (addon : env.modules.native l.module = none)
    (empty : w.contexts.get? (.module l.module) = none)
    (last : operation = .destroy ∨ operation = .drop) :
    Ensures (perform env t l operation) w (fun _ u => w.Unharmed t l.module u)
      fun _ _ => False := by
  refine perform_last last (fun u unharmed => ?_) (destroy_calls created addon ?_)
  · refine ⟨unharmed.contexts, fun s other => ?_, unharmed.shown⟩
    rw [← unharmed.handles s other, handles?, handles?]
    dsimp only
    rw [Assoc.get?_erase, if_neg other.symm]
  · refine (Exports.destroy_idles (w := w.dismissing t l.module) empty).mono (fun _ u idle => ?_)
      fun _ _ => id
    refine ⟨idle.contexts, fun s _ => ?_, fun e shown => ?_⟩
    · rw [handles?_congr idle.loaded]
      exact handles?_dismissing w t l.module s
    · obtain ⟨talk, grown, talks⟩ := idle.trace
      have grown : u.trace = (talk ++ [.entered l.module .destroy]) ++ w.trace := by simp [grown]
      rcases List.mem_append.mp ((Shows.of_trace grown).mp shown) with said | entered
      · exact .inl (talks e said)
      · exact .inr (List.mem_singleton.mp entered)

theorem destroy_ended (within : env.Within (Enrols env.modules t) {}) (spares : env.Spares)
    (created : l.isCreated) (addon : env.modules.native l.module = none)
    (free : l.module ∉ w.busy) (here : w.contexts.get? (.module l.module) = some c)
    (last : operation = .destroy ∨ operation = .drop) :
    Ensures (perform env t l operation) w (fun _ u => w.Ended t c u) fun e _ => e = .aborted := by
  refine perform_last last (fun u ended => ?_) (destroy_calls created addon ?_)
  · refine ⟨ended.root, ended.instances, fun other => ?_⟩
    rw [← ended.handles other, handles?, handles?]
    dsimp only
    rw [Assoc.get?_erase, if_neg other.symm]
  · have ends := Exports.destroy_ends (t := t) (w := w.dismissing t l.module) within spares free here
    refine ends.mono (fun _ u ended => ?_) fun _ _ => id
    exact .before (List.suffix_cons _ _) (fun _ => handles?_dismissing w t l.module _) ended

/-- Taking down an addon that was created in vain touches nobody, if the slot of its module is empty.
Otherwise it ends the context in the slot, and if code creates nothing, that is the context of another
addon of the module, which its host counts as created. -/
theorem destroy_in_vain (modules : Modules σ ν) (unloading : Bool) (depth : Nat)
    (memory : String → σ) (t : TableId) (w : World σ ν)
    (vain : InVain (Exports.env modules unloading depth) memory t w) :
    ∃ l, w.loaded.get? t = some l ∧ l.isCreated ∧ (modules.native l.module = none →
      (∀ operation, operation = .destroy ∨ operation = .drop →
        (w.contexts.get? (.module l.module) = none →
          Ensures (perform (Exports.env modules unloading depth) t l operation) w
            (fun _ u => w.Unharmed t l.module u) fun _ _ => False) ∧
        ∀ c, w.contexts.get? (.module l.module) = some c →
          Ensures (perform (Exports.env modules unloading depth) t l operation) w
            (fun _ u => w.Ended t c u) fun stop _ => stop = .aborted) ∧
      (modules.Follow .tame → ∀ c, w.contexts.get? (.module l.module) = some c →
        c.root.site.table ≠ t ∧ ∃ l', w.loaded.get? c.root.site.table = some l' ∧
          l'.module = l.module ∧ l'.isCreated)) := by
  have spares := Exports.env_spares modules unloading depth
  obtain ⟨facade, before, after, api, w₀, l₀, began, loaded, fresh, crossed, ended, destroyed,
    dropped, absent⟩ := vain
  have awaits := Exports.env_awaits modules unloading depth l₀.module t
  obtain ⟨standing, deserted⟩ := (ensures_ok ended).mp
    (run_awaits awaits spares loaded fresh crossed destroyed dropped)
  obtain ⟨l, here, same⟩ := Option.map_eq_some_iff.mp standing
  obtain ⟨module, created⟩ := Prod.mk.inj same
  have busy : w.busy = [] := by
    have first := (ensures_ok began).mp (run_opens spares.opens before _)
    have second := (ensures_ok ended).mp (run_opens spares.opens _ w₀)
    exact second.returned.busy.trans first.returned.busy
  refine ⟨l, here, created, fun addon => ⟨fun operation last => ⟨fun empty => ?_, fun c held => ?_⟩,
    fun tame c held => ?_⟩⟩
  · exact destroy_unharmed created (by rwa [Exports.env_modules]) empty last
  · exact destroy_ended (Exports.env_enrols modules unloading depth t) spares created
      (by rwa [Exports.env_modules]) (by simp [busy]) held last
  · have wanes := Exports.env_wanes tame unloading depth
    have steps (move : Move) (v : World σ ν) (attached) :=
      step_attached wanes spares move (w := v) attached
    obtain ⟨attached₀, -⟩ := (ensures_ok began).mp
      (run_ensures wanes.quiet steps before _ (initial_attached _ memory facade))
    obtain ⟨attached, -⟩ := (ensures_ok ended).mp (run_ensures wanes.quiet steps _ w₀ attached₀)
    -- No context was on the interface while its addon did not count as created.
    have apart := deserted (attached₀.seated.deserted loaded (.inl fresh)) absent _ c held
    obtain ⟨m, at_slot, -, other⟩ := attached.seated _ c held
    obtain ⟨l', there, same'⟩ := Option.map_eq_some_iff.mp other
    obtain ⟨module', created'⟩ := Prod.mk.inj same'
    exact ⟨apart, l', there, module'.trans (Seat.module.inj at_slot).symm, created'⟩

/-- An addon alone in its module that cannot be built is dropped, and nothing happens. -/
theorem destroy_in_vain_once :
    let env := Exports.env Modules.once false 2
    let t : TableId := ⟨0, 0⟩
    ∃ w l, InVain env (fun _ => true) t w ∧ w.loaded.get? t = some l ∧
      Ensures (perform env t l .drop) w (fun _ u => w.Unharmed t l.module u) (fun _ _ => False) ∧
      ∀ c, w.contexts.get? (.module l.module) = some c → c.root.site.table ≠ t := by
  intro env t
  obtain ⟨w₀, w, l₀, l, q, q', api, began, loaded, fresh, ended, grown, here, module, empty⟩ :
      ∃ w₀ w l₀ l q q' api, run env [.load t "once" {} "once.so"] { memory := fun _ => true } =
          .ok () w₀ ∧
        w₀.loaded.get? t = some l₀ ∧ l₀.isCreated = false ∧
        run env [.operate t (.create "1.0")] w₀ = .ok () w ∧
        w.trace = [.host t q, .building ⟨t, 0⟩ ⟨"once", t⟩, .host t q',
          .entered "once" (.create (some t) api)] ++ w₀.trace ∧
        w.loaded.get? t = some l ∧ l.module = "once" ∧
        w.contexts.get? (.module "once") = none :=
    ⟨_, _, _, _, _, _, _, rfl, rfl, rfl, rfl, rfl, rfl, rfl, rfl⟩
  have vain : InVain env (fun _ => true) t w := by
    refine ⟨{}, _, [], "1.0", w₀, l₀, began, loaded, fresh, rfl, ended, by simp, by simp,
      fun number shown => ?_⟩
    have member := (Shows.of_trace grown).mp shown
    simp at member
  obtain ⟨l', here', created, taken⟩ := destroy_in_vain Modules.once false 2 _ t w vain
  obtain rfl : l = l' := Option.some.inj (here.symm.trans here')
  obtain ⟨downs, others⟩ := taken rfl
  rw [← module] at empty
  refine ⟨w, l, vain, here, (downs .drop (.inr rfl)).1 empty, fun c held => ?_⟩
  exact (others Modules.once_tame c held).1

/-- An addon whose create failed is destroyed, and another addon of its module loses its root. -/
theorem destroy_takes_other :
    let env := Exports.env Modules.once false 2
    let t : TableId := ⟨1, 0⟩
    ∃ w u l c, InVain env (fun _ => false) t w ∧ w.loaded.get? t = some l ∧
      w.contexts.get? (.module l.module) = some c ∧ c.root.site.table = ⟨0, 0⟩ ∧
      w.handles? ⟨0, 0⟩ = some (some .root, none) ∧
      perform env t l .destroy w = .ok (.ok .done) u ∧
      w.Shows u (.rootDropped c.root.object) ∧ u.contexts.get? (.module l.module) = none ∧
      u.handles? ⟨0, 0⟩ = some (none, none) := by
  intro env t
  let root : Root := ⟨⟨⟨0, 0⟩, 0⟩, ⟨"once", ⟨0, 0⟩⟩, none⟩
  let shared (path path' : CString) (trace : List (Event Unit)) : World Bool Unit :=
    { memory := fun m => if m = "once" then true else false
      loaded := [
        (⟨0, 0⟩, { module := "once", libPath := path, host := {}, addonBase := 1,
                   addonTable := .full "once", isCreated := true }),
        (t, { module := "once", libPath := path', host := {} })]
      contexts := [(.module "once", { root })]
      facade := ⟨some .sink, some .debug⟩
      sink := some ⟨0, 0⟩
      made := fun s => if s = ⟨0, 0⟩ then 1 else 0
      trace }
  obtain ⟨path, path', trace, began⟩ : ∃ path path' trace,
      run env [.load ⟨0, 0⟩ "once" {} "once.so", .load t "once" {} "once.so",
        .operate ⟨0, 0⟩ (.create "1.0")] { memory := fun _ => false } =
          .ok () (shared path path' trace) := ⟨_, _, _, rfl⟩
  obtain ⟨w, u, l, q, q', api, ended, grown, here, held, shown, destroyed, later, gone, silent⟩ :
      ∃ w u l q q' api, run env [.operate t (.create "1.0")] (shared path path' trace) = .ok () w ∧
        w.trace = [.host t q, .building ⟨t, 0⟩ ⟨"once", t⟩, .host t q',
          .entered "once" (.create (some t) api)] ++ (shared path path' trace).trace ∧
        w.loaded.get? t = some l ∧ w.contexts.get? (.module l.module) = some { root } ∧
        w.handles? ⟨0, 0⟩ = some (some .root, none) ∧
        perform env t l .destroy w = .ok (.ok .done) u ∧
        u.trace = [.rootDropped root.object, .entered "once" .destroy] ++ w.trace ∧
        u.contexts.get? (.module l.module) = none ∧ u.handles? ⟨0, 0⟩ = some (none, none) :=
    ⟨_, _, _, _, _, _, rfl, rfl, rfl, rfl, rfl, rfl, rfl, rfl, rfl⟩
  refine ⟨w, u, l, _, ?_, here, held, rfl, shown, destroyed, ?_, gone, silent⟩
  · refine ⟨{}, _, [], "1.0", _, _, began, rfl, rfl, rfl, ended, by simp, by simp,
      fun number shown => ?_⟩
    have member := (Shows.of_trace grown).mp shown
    simp at member
  · exact (Shows.of_trace later).mpr (by simp [root])

end LoadedAddon

end AddonBridge
