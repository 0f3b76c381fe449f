import AddonBridge.Proofs.Ownership
import AddonBridge.Proofs.Settling

/-!
# Calls keep everything owned

A call that creates no addon leaves everything owned, whatever is on its way around it: each act of
dispatching passes on what it was given, to the context, to the next act, or to its end. A request
attends to a context in use, with what its factories gave so far on the way.
-/

namespace AddonBridge

open Act Trace World

variable {σ ν α : Type}

/-- A root that was not told yet that it is created is out of reach of calls. -/
def Frame.Sound (f : Frame) : Prop := ∀ r ∈ f.waiting, r ∈ f.guarded

theorem Frame.Sound.nil {flying : List Thing} {guarded reserved : List ObjectId} :
    Frame.Sound { flying, guarded, reserved } :=
  fun _ member => absurd member List.not_mem_nil

theorem Frame.Sound.guard {f : Frame} (sound : f.Sound) (r : ObjectId) :
    Frame.Sound { f with guarded := r :: f.guarded } :=
  fun s member => List.mem_cons_of_mem _ (sound s member)

namespace World

/-- Contexts in use are left as they were, and everything stays owned. -/
structure Conserves (w u : World σ ν) : Prop where
  spares : Spares none w u
  owned : ∀ f, f.Sound → Owned f w → Owned f u

variable {w u v : World σ ν}

theorem Conserves.refl (w : World σ ν) : w.Conserves w := ⟨.refl w, fun _ _ => id⟩

theorem Conserves.trans (first : w.Conserves u) (second : u.Conserves v) : w.Conserves v :=
  ⟨first.spares.trans second.spares,
    fun f sound owned => second.owned f sound (first.owned f sound owned)⟩

theorem Idle.conserves (idle : w.Idle u) : w.Conserves u :=
  ⟨idle.stirs.spares, fun _ _ owned => owned.idle idle⟩

theorem Conserves.congr (contexts : u.contexts = w.contexts) (busy : u.busy = w.busy)
    (locations : u.locations = w.locations) (made : u.made = w.made) (trace : u.trace = w.trace) :
    w.Conserves u :=
  ⟨⟨busy, locations, trace ▸ List.suffix_rfl, fun _ _ _ => by rw [contexts]⟩,
    fun _ _ owned => owned.congr contexts busy made trace⟩

theorem Conserves.neutral {e : Event ν} (h : e.IsNeutral) :
    w.Conserves { w with trace := e :: w.trace } :=
  ⟨⟨rfl, rfl, List.suffix_cons _ _, fun _ _ _ => rfl⟩, fun _ _ owned => owned.neutral h⟩

end World

abbrev Conserving : Change σ ν := Change.unlessAborted Conserves

theorem Conserving.law : Law (Conserving : Change σ ν) :=
  .of_preorder Conserves.refl fun _ _ _ => Conserves.trans

/-- Code that creates nothing can run in an environment, and keeps everything owned. -/
structure Env.Conserves (env : Env σ ν) : Prop where
  tame : env.modules.Follow .tame
  spares : env.Spares
  nested : ∀ c, c.isCreate = false → Obeys Conserving (env.nested c)

variable {env : Env σ ν} {f : Frame} {w u : World σ ν} {seat : Seat} {c : Context σ}
  {ts : List Thing}

namespace Env.Conserves

theorem keeps (conserves : env.Conserves) : env.Keeps Conserving .tame where
  law := Conserving.law
  talk _ _ idle _ := idle.conserves
  panic _ _ w _ := .refl w
  modules := conserves.tame
  nested := conserves.nested
  quiet := conserves.spares.quiet

theorem lastly_ensures (conserves : env.Conserves) {q : Program σ ν Empty α} (m : String)
    (follows : Conduct.tame.Silent q) (w : World σ ν) :
    Ensures (env.lastly m q) w (fun _ u => w.Conserves u) fun e _ => e = .aborted :=
  (Env.lastly_obeys conserves.keeps m follows).ensures
    (Env.lastly_quiet conserves.spares.quiet m q) w

end Env.Conserves

namespace Dispatch

/-! ### The end of objects -/

theorem dropInstance_owned (conserves : env.Conserves) (sound : f.Sound) (site : Site)
    {i : Instance σ} (owned : Owned { f with flying := .instance i.object :: f.flying } w) :
    Ensures (dropInstance env site i) w (fun _ u => Owned f u) fun e _ => e = .aborted := by
  rw [dropInstance, ensures_bind, ensures_record]
  exact (conserves.lastly_ensures _ ((conserves.tame.addon _).instanceDropped _ _ _) _).mono
    (fun _ _ kept => kept.owned f sound owned.instanceDropped) fun _ _ => id

theorem dropInstances_owned (conserves : env.Conserves) (sound : f.Sound) (site : Site)
    (is : List (Instance σ))
    (owned : Owned { f with flying := is.map (fun i => .instance i.object) ++ f.flying } w) :
    Ensures (dropInstances env site is) w (fun _ u => Owned f u) fun e _ => e = .aborted := by
  induction is generalizing w with
  | nil => exact owned
  | cons i is ih =>
    rw [dropInstances, ensures_bind]
    exact (dropInstance_owned
      (f := { f with flying := is.map (fun i => .instance i.object) ++ f.flying })
      conserves sound site owned).mono (fun _ _ dropped => ih dropped) fun _ _ => id

/-- A context that is on its way can be dropped when nothing else on its way goes back to it. -/
theorem dropContext_owned (conserves : env.Conserves) (sound : f.Sound)
    (owned : Owned
      { f with flying := c.things ++ f.flying, guarded := c.root.object :: f.guarded } w)
    (last : ∀ x ∈ f.flying, rootOf w.trace x.name ≠ c.root.object) :
    Ensures (dropContext env c) w (fun _ u => Owned f u) fun e _ => e = .aborted := by
  have sound' := sound.guard c.root.object
  have permits := conserves.spares.permits none
  have later {f' : Frame} {u : World σ ν} (owned' : Owned f' u) (grown : w.trace <:+ u.trace) :
      ∀ x ∈ f.flying, rootOf u.trace x.name ≠ c.root.object := by
    intro x member
    rw [owned'.rootOf_later grown (owned.of_flying (List.mem_append_right _ member)).1]
    exact last x member
  rw [dropContext_eq conserves.spares.quiet, ensures_bind]
  have arranged : ((env.modules.order.arrange c.instances.values).map
      (fun i => Thing.instance i.object) ++ .root c.root.object :: f.flying).Perm
        (c.things ++ f.flying) := by
    rw [Context.things, Registry.things_eq]
    exact List.perm_middle.trans (((env.modules.order.perm _).map _).append_right _ |>.cons _)
  have first := dropInstances_owned
    (f := { f with flying := .root c.root.object :: f.flying, guarded := c.root.object :: f.guarded })
    conserves sound' c.root.site _ (owned.perm arranged)
  refine (first.and (dropInstances_obeys permits w)).mono (fun _ u dropped => ?_)
    fun _ _ stopped => stopped.1
  obtain ⟨emptied, spared⟩ := dropped
  have grown := spared.returned.trace
  rw [dropRoot, ensures_bind, ensures_record]
  refine (conserves.lastly_ensures _ ((conserves.tame.addon _).dropped _) _).mono
    (fun _ v kept => ?_) fun _ _ stopped => stopped
  have dropped := kept.owned _ sound' (emptied.rootDropped (later emptied grown))
  exact dropped.unguard (later dropped (grown.trans ((List.suffix_cons _ _).trans kept.spares.trace)))

theorem destroy_owned (conserves : env.Conserves) (sound : f.Sound)
    (owned : Owned
      { f with flying := c.things ++ f.flying, guarded := c.root.object :: f.guarded } w)
    (last : ∀ x ∈ f.flying, rootOf w.trace x.name ≠ c.root.object) :
    Ensures (destroy env c) w (fun _ u => Owned f u) fun e _ => e = .aborted := by
  rw [destroy, ensures_ite]
  refine ⟨fun _ => ?_, fun _ => dropContext_owned conserves sound owned last⟩
  refine Log.debug_talks.before fun _ u idle => ?_
  refine dropContext_owned conserves sound (owned.idle idle) fun x member => ?_
  rw [(owned.idle idle).rootOf_later idle.stirs.trace
    (owned.of_flying (List.mem_append_right _ member)).1]
  exact last x member

/-! ### Requests -/

def Offer.things (o : Offer σ) : List Thing :=
  match o.created with
  | some (some i) => [.instance i.object]
  | _ => []

theorem Offer.drop_owned (conserves : env.Conserves) (sound : f.Sound) (site : Site) {o : Offer σ}
    (owned : Owned { f with flying := o.things ++ f.flying } w) :
    Ensures (o.drop env site) w (fun _ u => Owned f u) fun e _ => e = .aborted := by
  obtain ⟨status, created⟩ := o
  cases created with
  | none => exact owned
  | some created =>
    cases created with
    | none => exact owned
    | some i => exact dropInstance_owned conserves sound _ owned

/-- A request attends to the context in a seat that is in use. Things that it has on its way go back
to the root of the context. -/
structure Attends (f : Frame) (seat : Seat) (c : Context σ) (ts : List Thing) (w : World σ ν) :
    Prop where
  sound : f.Sound
  guarded : c.root.object ∈ f.guarded
  told : c.root.object ∉ f.waiting
  held : w.Holds seat
  here : w.contexts.get? seat = some c
  owned : Owned { f with flying := ts ++ f.flying } w
  kin : ∀ x ∈ ts, rootOf w.trace x.name = c.root.object

theorem Attends.conserves (h : Attends f seat c ts w) (kept : w.Conserves u) :
    Attends f seat c ts u := by
  have owned := kept.owned { f with flying := ts ++ f.flying } h.sound h.owned
  refine ⟨h.sound, h.guarded, h.told, h.held.of_busy kept.spares.busy, ?_, owned, fun x member => ?_⟩
  · rw [kept.spares.kept h.held, h.here]
  · rw [owned.rootOf_later kept.spares.trace (h.owned.of_flying (List.mem_append_left _ member)).1]
    exact h.kin x member

theorem Attends.called (h : Attends f seat c ts w) {x : Thing} (member : x ∈ c.things)
    (cb : Callback) (later : cb ≠ .created) :
    Attends f seat c ts { w with trace := .called x.name cb :: w.trace } := by
  refine ⟨h.sound, h.guarded, h.told, h.held, h.here,
    h.owned.called (mem_housing h.here member) later ?_, h.kin⟩
  rintro r rfl
  rw [Context.root_of_mem member]
  exact h.told

theorem Attends.reseat (h : Attends f seat c ts w) (c' : Context σ) (us : List Thing)
    (root : c'.root.object = c.root.object) (handles : c'.instances.entries.Distinct)
    (exchange : ∀ x, c'.things.count x + us.count x = c.things.count x + ts.count x) :
    Attends f seat c' us { w with contexts := w.contexts.set seat c' } := by
  have kin : ∀ x, 0 < c.things.count x + ts.count x → rootOf w.trace x.name = c.root.object := by
    intro x some
    by_cases member : x ∈ ts
    · exact h.kin x member
    · rw [List.count_eq_zero.mpr member] at some
      exact h.owned.kin seat c h.here x (List.count_pos_iff.mp some)
  have taken : ∀ x ∈ c'.things, rootOf w.trace x.name = c.root.object := by
    intro x member
    have here := List.count_pos_iff.mpr member
    exact kin x (by rw [← exchange]; omega)
  have given : ∀ x ∈ us, rootOf w.trace x.name = c.root.object := by
    intro x member
    have here := List.count_pos_iff.mpr member
    exact kin x (by rw [← exchange]; omega)
  refine ⟨h.sound, root ▸ h.guarded, root ▸ h.told, h.held, ?_, ?_, fun x member => ?_⟩
  · dsimp only
    rw [Assoc.get?_set, if_pos rfl]
  · refine h.owned.reseat h.here root handles (fun x => ?_) taken fun x member => ?_
    · have moved := exchange x
      rw [List.count_append, List.count_append]
      omega
    · rcases List.mem_append.mp member with member | member
      · rw [given x member]
        exact h.guarded
      · exact h.owned.flying x (List.mem_append_right _ member)
  · rw [root]
    exact given x member

theorem callback_attends (conserves : env.Conserves) {A : α → Prop}
    {q : Program σ ν Payload α} (m : String) (follows : Conduct.tame.Program A q)
    (h : Attends f seat c ts w) :
    Ensures (env.callback m q) w (fun _ u => Attends f seat c ts u)
      fun e u => e ≠ .aborted → Attends f seat c ts u :=
  (Env.callback_obeys conserves.keeps m follows w).mono (fun _ _ kept => h.conserves kept.returned)
    fun _ _ kept going => h.conserves (kept.stopped going)

theorem callRoot_attends (conserves : env.Conserves) {A : α → Prop} (cb : Callback)
    (later : cb ≠ .created) {q : Addon σ ν → Site → Program σ ν Payload α}
    (follows : ∀ a : Addon σ ν, a.Follows .tame → ∀ site, Conduct.tame.Program A (q a site))
    (h : Attends f seat c ts w) :
    Ensures (callRoot env c cb q) w (fun _ u => Attends f seat c ts u)
      fun e u => e ≠ .aborted → Attends f seat c ts u := by
  rw [callRoot, ensures_bind, ensures_record]
  exact callback_attends conserves _ (follows _ (conserves.tame.addon _) _)
    (h.called (x := .root c.root.object) List.mem_cons_self cb later)

theorem withContext_owned (conserves : env.Conserves) {A : α → Prop} (cb : Callback)
    (later : cb ≠ .created) {q : Addon σ ν → Site → Program σ ν Payload α}
    (follows : ∀ a : Addon σ ν, a.Follows .tame → ∀ site, Conduct.tame.Program A (q a site))
    {default : α} (h : Attends f seat c [] w) :
    Ensures (withContext seat default fun c => callRoot env c cb q) w (fun _ u => Owned f u)
      fun e u => e ≠ .aborted → Owned f u := by
  rw [withContext, ensures_bind, ensures_context?, h.here]
  exact (callRoot_attends conserves cb later follows h).mono (fun _ _ told => told.owned)
    fun _ _ stopped going => (stopped going).owned

theorem offer_attends (h : Attends f seat c [] w) (maker : Thing) (member : maker ∈ c.things)
    (o : Outcome σ) :
    Ensures (offer maker.name o) w (fun o u => Attends f seat c o.things u) fun _ _ => False := by
  unfold offer
  split
  · rw [ensures_bind, ensures_freshObject, ensures_bind, ensures_record]
    have root := h.owned.kin seat c h.here maker member
    have born := Owned.produced h.owned maker.name maker.name.table
      (root ▸ h.guarded) (root ▸ mem_housing h.here List.mem_cons_self)
    refine ⟨h.sound, h.guarded, h.told, h.held, h.here, born, fun x made => ?_⟩
    rw [List.mem_singleton.mp made, Thing.name, rootOf, if_pos rfl, root]
  · exact h
  · exact h

theorem askRoot_attends (conserves : env.Conserves) (r : Request) (h : Attends f seat c [] w) :
    Ensures (askRoot env c r) w (fun o u => Attends f seat c o.things u)
      fun e u => e ≠ .aborted → Attends f seat c [] u := by
  rw [askRoot, ensures_bind]
  refine (callRoot_attends conserves (.factory r) (by simp)
    (fun _ follows site => follows.factory site r) h).mono (fun o u called => ?_) fun _ _ => id
  exact (offer_attends called (.root c.root.object) List.mem_cons_self o).mono
    (fun _ _ => id) fun _ _ => False.elim

theorem askInstance_attends (conserves : env.Conserves) {i : Instance σ}
    (member : .instance i.object ∈ c.things) (r : Request) (h : Attends f seat c [] w) :
    Ensures (askInstance env c i r) w (fun o u => Attends f seat c o.things u)
      fun e u => e ≠ .aborted → Attends f seat c [] u := by
  rw [askInstance, ensures_bind, ensures_record]
  dsimp only
  rw [ensures_bind]
  have called := h.called member (.factory r) (by simp)
  refine (callback_attends conserves _
    ((conserves.tame.addon _).instanceFactory _ i.descriptor i.data r) called).mono
      (fun o u called => ?_) fun _ _ => id
  exact (offer_attends called _ member o).mono (fun _ _ => id) fun _ _ => False.elim

theorem askParent_attends (conserves : env.Conserves) (r : Request)
    (parent : Option InstanceHandle) (h : Attends f seat c [] w) :
    Ensures (askParent env c r parent) w
      (fun asked u => Attends f seat c (asked.elim [] Offer.things) u)
      fun e u => e ≠ .aborted → Attends f seat c [] u := by
  unfold askParent
  split
  · exact h
  · split
    · next i found =>
      rw [ensures_map]
      exact askInstance_attends conserves (Context.mem_things found) r h
    · exact Log.warn_talks.before fun _ _ idle => h.conserves idle.conserves

theorem raise_attends (d : Defect) (h : Attends f seat c ts w) :
    Ensures (Log.raise d : Act σ ν α) w (fun _ _ => False)
      fun e u => e = .unwinding (.defect d) ∧ Attends f seat c ts u := by
  rw [Log.raise, ensures_bind, ensures_record]
  refine Log.error_talks.before fun _ u idle => ?_
  rw [ensures_throw]
  have found : Conserves w { w with trace := .raised d :: w.trace } := .neutral True.intro
  exact ⟨rfl, h.conserves (found.trans idle.conserves)⟩

theorem raise_owned (d : Defect) (h : Attends f seat c [] w) :
    Ensures (Log.raise d : Act σ ν α) w (fun _ u => Owned f u)
      fun e u => e ≠ .aborted → Owned f u :=
  (raise_attends d h).mono (fun _ _ => False.elim) fun _ _ stopped _ => stopped.2.owned

theorem register_owned (conserves : env.Conserves) {i : Instance σ}
    (h : Attends f seat c [.instance i.object] w) :
    Ensures (register env seat i) w (fun _ u => Owned f u) fun e _ => e = .aborted := by
  rw [register, withContext, ensures_bind, ensures_context?, h.here]
  dsimp only
  rw [ensures_bind, ensures_setContext]
  have stored := h.reseat { c with instances := c.instances.insert i } _ rfl
    (h.owned.handles seat c h.here).set (c.count_insert i)
  split
  · next replaced found =>
    rw [found] at stored
    rw [ensures_bind]
    exact (dropInstance_owned conserves h.sound _ stored.owned).mono (fun _ _ => id) fun _ _ => id
  · next none =>
    rw [none] at stored
    exact stored.owned

theorem settle_owned (conserves : env.Conserves) (site : Site) (r : Request) {o : Offer σ}
    (h : Attends f seat c o.things w) :
    Ensures (settle env seat site r o) w (fun _ u => Owned f u)
      fun e u => e ≠ .aborted → Owned f u := by
  refine settle_exits h.here (fun _ u idle => ?_) (fun d _ => ?_)
    (fun i _ created _ u idle => ?_) fun d _ created _ _ u idle => ?_
  · have h := h.conserves idle.conserves
    exact (Offer.drop_owned conserves h.sound site h.owned).aborts fun _ _ => id
  · refine Ensures.after (Q := fun _ _ => False) ?_ (fun _ _ => False.elim)
      fun u (h : Attends f seat c o.things u) => Offer.drop_owned conserves h.sound site h.owned
    refine (raise_attends d h).mono (fun _ _ => id) fun _ u raised _ => ?_
    obtain ⟨-, h⟩ := raised
    exact h
  · have h := h.conserves idle.conserves
    rw [Offer.things, created] at h
    have registered := register_owned (i := { i with descriptor := i.descriptor.stamp r.id })
      conserves h
    exact registered.aborts fun _ _ owned => owned
  · have h := h.conserves idle.conserves
    rw [Offer.things, created] at h
    exact (h.reseat { c with root := { c.root with single := some (d.stamp r.id) } } _ rfl
      (h.owned.handles seat c h.here) fun _ => rfl).owned

/-- A request for an instance leaves everything owned, also when it panics. -/
theorem createInstance_owned (conserves : env.Conserves) (ty : AddonType) (id : String)
    (host : HostHandle) (version : String) (parent : Option InstanceHandle)
    (h : Attends f seat c [] w) :
    Ensures (createInstance env seat ty id host version parent) w (fun _ u => Owned f u)
      fun e u => e ≠ .aborted → Owned f u := by
  have answered {f : Frame} {u : World σ ν} (r : Request) (h : Attends f seat c [] u) :
      Ensures (do settle env seat c.root.site r (← askRoot env c r)) u (fun _ v => Owned f v)
        fun e v => e ≠ .aborted → Owned f v := by
    rw [ensures_bind]
    exact (askRoot_attends conserves r h).mono (fun _ _ asked => settle_owned conserves _ r asked)
      fun _ _ stopped going => (stopped going).owned
  rw [createInstance, withContext, ensures_bind, ensures_context?, h.here]
  dsimp only
  refine HostAccess.firstInstance_talks.before fun first u idle => ?_
  rw [ensures_bind]
  refine (askParent_attends conserves _ parent (h.conserves idle.conserves)).mono
    (fun asked v h => ?_) fun _ _ stopped going => (stopped going).owned
  cases asked with
  | none => exact answered _ h
  | some o =>
    dsimp only
    rw [ensures_ite]
    refine ⟨fun _ => ?_, fun _ => settle_owned conserves _ _ h⟩
    have passed : Attends { f with flying := o.things ++ f.flying } seat c [] v :=
      ⟨h.sound, h.guarded, h.told, h.held, h.here, h.owned, by simp⟩
    have drop {u : World σ ν} (owned : Owned { f with flying := o.things ++ f.flying } u) :=
      Offer.drop_owned conserves h.sound c.root.site owned
    exact (answered _ passed).after (fun _ _ owned => drop owned) fun _ owned => drop owned

theorem destroyInstance_owned (conserves : env.Conserves) (ty : AddonType)
    (handle : Option InstanceHandle) (h : Attends f seat c [] w) :
    Ensures (destroyInstance env seat ty handle) w (fun _ u => Owned f u)
      fun e u => e ≠ .aborted → Owned f u := by
  rw [destroyInstance, withContext, ensures_bind, ensures_context?, h.here]
  dsimp only
  rw [ensures_ite]
  refine ⟨fun _ => h.owned, fun _ => ?_⟩
  split
  · exact h.owned
  · next j _ =>
    split
    · exact Log.error_talks.ensures fun _ _ idle => (h.conserves idle.conserves).owned
    · next i found =>
      rw [ensures_ite]
      refine ⟨fun _ => ?_, fun _ => ?_⟩
      · rw [ensures_bind, ensures_setContext]
        have handles := h.owned.handles seat c h.here
        have taken := h.reseat { c with instances := c.instances.erase j }
          [.instance i.object] rfl handles.erase (Context.count_erase handles found)
        have told := callRoot_attends conserves (.instanceDestroyed ty i.descriptor.id)
          (by simp) (fun _ follows site =>
            follows.instanceDestroyed site ty i.descriptor.id i.descriptor) taken
        refine told.after (fun _ _ told => ?_) fun _ told => ?_
        · exact dropInstance_owned conserves told.sound _ told.owned
        · exact dropInstance_owned conserves told.sound _ told.owned
      · exact raise_owned _ h

end Dispatch

end AddonBridge
