import AddonBridge.Proofs.Chronicle
import AddonBridge.Proofs.Creation
import AddonBridge.Proofs.Installing

/-!
# Panics of callbacks

A panic of a callback ends the call that it happens in, with the status of a permanent failure, and
leaves the module free. What is left of the call's work depends on the callback: `panics_contained`
says so of each of them.
-/

namespace AddonBridge

open Act World

variable {σ ν α : Type} {env : Env σ ν} {m : String} {w u v x : World σ ν} {c : Context σ}
  {p : Payload} {t : TableId} {api : Option CString}

/-- Modules whose addons panic as soon as they are built; some are not even built. -/
def Modules.brittle : Modules Unit Unit where
  addon m :=
    { build := fun _ => if m = "unbuilt" then .panic .other else .done (.ok none)
      created := fun _ => .panic .other
      status := fun _ => .panic .other
      setSetting := fun _ _ _ => .panic .other
      factory := fun _ _ => .panic .other
      instanceDestroyed := fun _ _ _ _ => .panic .other }

namespace World

/-- The slots are as they were, and so is what addons have put into their interfaces. -/
structure Intact (w u : World σ ν) : Prop where
  contexts : u.contexts = w.contexts
  busy : u.busy = w.busy
  loaded : w.SameCores u

theorem Intact.trans (first : w.Intact u) (second : u.Intact v) : w.Intact v :=
  ⟨second.contexts.trans first.contexts, second.busy.trans first.busy,
    fun s => (second.loaded s).trans (first.loaded s)⟩

theorem Stirs.intact (h : w.Stirs u) : w.Intact u := ⟨h.contexts, h.busy, h.loaded⟩

theorem Idle.gone (h : w.Idle u) : Trace.gone u.trace = Trace.gone w.trace := by
  obtain ⟨talk, grown, quiet⟩ := h.trace
  rw [grown, Trace.gone_append, Trace.gone, List.filterMap_eq_nil_iff.mpr, List.nil_append]
  intro e member
  cases e <;> first | rfl | exact (quiet _ member).elim

theorem Intact.unbind : u.Intact (if u.sink = some t then { u with sink := none } else u) := by
  split <;> exact ⟨rfl, rfl, fun _ => rfl⟩

end World

namespace Exports

/-! ### Panics while a root is built -/

theorem build_contained (tells : env.Tells) (addon : env.modules.native m = none)
    (ordinary : ∀ d, p ≠ .defect d)
    (logged : Log.debug ("Creating addon for host API version '" ++ CString.textOrEmpty api ++ "'")
      (w.creating m t api) = .ok () u)
    (panicked : Dispatch.build env m t u = .error (.unwinding p) v) (still : u.Still v) :
    Ensures (call env m (.create (some t) api)) w
      (fun answer x => answer = .status Status.permanentFailure.toRaw ∧ w.Intact x)
      fun _ _ => False := by
  have begun : w.Intact u := by
    have idle := (ensures_ok logged).mp (Log.debug_talks.idles _)
    exact .trans (u := w.creating m t api) ⟨rfl, rfl, fun _ => rfl⟩ idle.stirs.intact
  have built : u.Intact v :=
    (((ensures_error panicked).mp (Dispatch.build_obeys tells.permits u)).unwound.holds still).intact
  have constructed : construct env m t api
      (w.creating m t api) = .error (.unwinding p) v := by
    rw [construct, bind_of_ok logged, bind_of_error panicked]
  rw [ensures_call addon, callAddon, ensures_bind]
  refine guard_catches ?_
  dsimp only
  rw [ensures_bind, ensures_discard, Log.ensures_install, ensures_bind, ensures_setSink, ensures_bind,
    ensures_observe]
  refine (ensures_error constructed).mpr ?_
  dsimp only
  rw [ensures_bind, ensures_unbind, ensures_throw]
  exact .panic ordinary fun x idle =>
    ⟨rfl, begun.trans (built.trans (Intact.unbind.trans idle.stirs.intact))⟩

/-! ### Panics in the slot -/

theorem withSlot_contains {name : String} {default : α} {act : Act σ ν α} {K F C : World σ ν → Prop}
    (ordinary : ∀ d, p ≠ .defect d) (free : m ∉ w.busy)
    (here : w.contexts.get? (.module m) = some c)
    (stopped : Ensures act (w.inUse m) (fun _ _ => False)
      fun e x => (e = .unwinding p ∧ K x) ∨ (e = .aborted ∧ F x))
    (after : ∀ x y, K x → World.Idle { x with busy := x.busy.erase m } y → C y) :
    Ensures (withSlot m name default act) w (fun _ _ => False) (Guarded C F) := by
  refine withSlot_reaches free here ?_
  rw [ensures_holding]
  refine stopped.mono (fun _ _ => id) fun e x ended => ?_
  rcases ended with ⟨rfl, kept⟩ | ⟨rfl, aborted⟩
  · exact .panic ordinary fun y idle => after x y kept idle
  · exact aborted

theorem callRoot_contained (spares : env.Spares) (ordinary : ∀ d, p ≠ .defect d) (free : m ∉ w.busy)
    (here : w.contexts.get? (.module m) = some c) {name name' : String} {fallback default : α}
    (cb : Callback) (q : Addon σ ν → Site → Program σ ν Payload α)
    (panicked : Dispatch.withContext (.module m) default (fun c => Dispatch.callRoot env c cb q)
      (w.inUse m) = .error (.unwinding p) v) :
    Ensures (guard name fallback (withSlot m name' default (Dispatch.withContext (.module m) default
        fun c => Dispatch.callRoot env c cb q))) w
      (fun answer x => answer = fallback ∧ x.busy = w.busy ∧
        x.contexts.get? (.module m) = some c)
      fun _ _ => False := by
  have spared := (ensures_error panicked).mp
    (Dispatch.withRoot_obeys (spares.permits none) cb q (w.inUse m))
  have running : (w.inUse m).Holds (.module m) := List.mem_cons_self
  refine guard_catches ((withSlot_contains ordinary free here (K := (· = v))
    ((ensures_error panicked).mpr (.inl ⟨rfl, rfl⟩)) ?_).mono (fun _ _ => False.elim) fun _ _ => id)
  rintro x y rfl idle
  refine ⟨rfl, ?_, ?_⟩
  · rw [idle.busy, spared.unwound.busy, List.erase_cons_head]
  · rw [idle.contexts]
    exact spared.unwound.stays running here

/-! ### Panics of a root that was just installed -/

/-- A root that panics when it is told that it is created stays where it is, with its handles
shown. -/
theorem create_contained (tells : env.Tells) (addon : env.modules.native m = none)
    (free : m ∉ w.busy) (ordinary : ∀ d, p ≠ .defect d) {single : Option InstanceHandle}
    (constructed : construct env m t api (w.creating m t api) = .ok (.ok single) u)
    (shown : publish t (some .root) single u = .ok () v)
    (panicked : Dispatch.create env (.module m) (v.inUse m) = .error (.unwinding p) x)
    (still : (w.creating m t api).Still x) :
    Ensures (call env m (.create (some t) api)) w
      (fun answer y => answer = .status Status.permanentFailure.toRaw ∧ y.busy = w.busy ∧
        ∃ c, Constructed m t single c y ∧ y.handles? t = some c.handles)
      fun _ _ => False := by
  obtain ⟨c, ⟨here, site, bare, rfl⟩, registers⟩ := (ensures_ok constructed).mp
    (construct_installs (w := w.creating m t api) tells free)
  have before := ((ensures_ok constructed).mp
    (construct_obeys tells.spares.opens (w.creating m t api))).returned
  have released : m ∉ u.busy := by rwa [before.busy]
  obtain ⟨published, others⟩ := (ensures_ok shown).mp <| show Ensures (publish t _ _) u
      (fun _ v => v.handles? t = (u.handles? t).map (fun _ => c.handles) ∧
        v.busy = u.busy ∧ v.contexts = u.contexts ∧ v.trace = u.trace) fun _ _ => False by
    rw [publish, ensures_modifyLoaded]
    exact ⟨(handles?_publish t).trans (if_pos rfl), rfl, rfl, rfl⟩
  obtain ⟨busy, contexts, trace⟩ := others
  have spared := ((ensures_error panicked).mp (Dispatch.withRoot_obeys
    (tells.spares.permits none) .created (·.created ·) (v.inUse m))).unwound
  have stirred := ((ensures_error panicked).mp (Dispatch.withRoot_obeys
    tells.permits .created (·.created ·) (v.inUse m))).unwound
  have unstirred : x.handles? t = some c.handles := by
    obtain ⟨-, l, -, found, -⟩ := registers.holds
      (still.left (trace ▸ stirred.trace : u.trace <:+ x.trace))
    have grown : (w.creating m t api).trace <:+ v.trace := trace ▸ before.trace
    rw [handles?_congr (stirred.holds (still.right grown)).loaded]
    exact published.trans (by rw [handles?, found]; rfl)
  rw [ensures_call addon, callAddon, ensures_bind]
  refine guard_catches ?_
  dsimp only
  rw [ensures_bind, ensures_discard, Log.ensures_install, ensures_bind, ensures_setSink, ensures_bind,
    ensures_observe]
  refine (ensures_ok constructed).mpr ?_
  dsimp only
  rw [ensures_bind]
  refine (ensures_ok shown).mpr ((withSlot_contains (K := (· = x)) (c := c) ordinary
    (by rwa [busy]) (by rwa [contexts]) ((ensures_error panicked).mpr (.inl ⟨rfl, rfl⟩)) ?_).mono
      (fun _ _ => False.elim) fun _ _ => id)
  rintro _ y rfl idle
  refine ⟨rfl, ?_, c, ⟨?_, site, bare, rfl⟩, ?_⟩
  · rw [idle.busy, spared.busy, List.erase_cons_head, busy, before.busy]
    rfl
  · rw [idle.contexts]
    exact spared.stays (s := .module m) List.mem_cons_self (by rwa [contexts])
  · exact (handles?_congr idle.loaded t).trans unstirred

end Exports

namespace Dispatch

variable {seat : Seat}

/-! ### Panics of factories -/

theorem dropInstance_tells (tells : env.Tells) (site : Site) (i : Instance σ) (w : World σ ν) :
    Ensures (dropInstance env site i) w
      (fun _ u => Spares none w u ∧
        World.IfStill Idle { w with trace := .instanceDropped i.object i.descriptor :: w.trace } u)
      (fun e u => e = .aborted ∧ w.IfStill (fun _ _ => False) u) := by
  have spared : Ensures (dropInstance env site i) w _ _ :=
    dropInstance_obeys (tells.spares.permits none) w
  have quiet := dropInstance_quiet tells.spares.quiet site i w
  have told : Ensures (dropInstance env site i) w
      (fun _ u =>
        World.IfStill Idle { w with trace := .instanceDropped i.object i.descriptor :: w.trace } u)
      (fun _ u => w.IfStill (fun _ _ => False) u) := by
    have grown : w.trace <:+ .instanceDropped i.object i.descriptor :: w.trace :=
      List.suffix_cons _ _
    rw [dropInstance, ensures_bind, ensures_record]
    exact (tells.lastly_tells _ _ _).mono (fun _ _ => id) fun _ u unstill =>
      ⟨grown.trans unstill.trace, fun still => unstill.holds (still.right grown)⟩
  refine ((spared.and quiet).and told).mono (fun _ u ended => ?_) fun e u stopped => ?_
  · obtain ⟨⟨spared, -⟩, told⟩ := ended
    exact ⟨spared.returned, told⟩
  · obtain ⟨⟨-, aborted⟩, unstill⟩ := stopped
    exact ⟨aborted, unstill⟩

theorem Offer.drop_tells (tells : env.Tells) (site : Site) (o : Offer σ) (w : World σ ν) :
    Ensures (o.drop env site) w (fun _ u => Spares none w u)
      (fun e u => e = .aborted ∧ w.IfStill (fun _ _ => False) u) := by
  rw [Offer.drop_eq]
  cases o.instance? with
  | none => exact .refl w
  | some i => exact (dropInstance_tells tells site i w).mono (fun _ _ => And.left) fun _ _ => id

theorem createInstance_unwinds (tells : env.Tells) {ty : AddonType} {id version : String}
    {host : HostHandle} {parent : Option InstanceHandle}
    (here : w.contexts.get? seat = some c)
    (routed : route env c (requested w c ty id host version) parent w = .error (.unwinding p) v) :
    Ensures (createInstance env seat ty id host version parent) w (fun _ _ => False)
      fun e x => (e = .unwinding p ∧ Spares none w x) ∨ (e = .aborted ∧ ¬w.Still x) := by
  have spared := ((ensures_error routed).mp (route_spares tells.spares _ parent w)).unwound
  rw [createInstance, withContext, ensures_bind, ensures_context?, here]
  dsimp only
  rw [ensures_bind, HostAccess.firstInstance, ensures_bind, ensures_loaded?, ensures_pure,
    ensures_bind]
  dsimp only [requested] at routed
  -- The parent's factory panicked, or the root's did, which is asked if the parent's has nothing.
  rcases bind_error routed with parental | ⟨asked, u, parental, routed⟩
  · exact (ensures_error parental).mpr (.inl ⟨rfl, spared⟩)
  refine (ensures_ok parental).mpr ?_
  cases asked with
  | none =>
    rcases bind_error routed with answered | ⟨_, _, _, none⟩
    · rw [ensures_bind]
      exact (ensures_error answered).mpr (.inl ⟨rfl, spared⟩)
    · contradiction
  | some first =>
    dsimp only at routed ⊢
    split at routed
    · next unimplemented =>
      rw [if_pos unimplemented]
      rcases bind_error routed with answered | ⟨_, _, _, none⟩
      · rw [ensures_after, ensures_bind]
        refine (ensures_error answered).mpr ((Offer.drop_tells tells _ first v).mono ?_ ?_)
        · exact fun _ x dropped => .inl ⟨rfl, spared.trans dropped⟩
        · rintro _ x ⟨-, unstill⟩
          exact .inr ⟨rfl, fun still => unstill.holds (still.right spared.trace)⟩
      · contradiction
    · contradiction

/-! ### Panics of instances that are told to go -/

/-- An instance went, and nothing else did as far as code made no calls. -/
structure Went (i : Instance σ) (w u : World σ ν) : Prop where
  shown : w.Shows u (.instanceDropped i.object i.descriptor)
  alone : w.IfStill (fun w u => Trace.gone u.trace = .instance i.object :: Trace.gone w.trace) u

theorem Went.idle {i : Instance σ} (h : Went i w u) (idle : u.Idle v) : Went i w v where
  shown := h.shown.later idle.stirs.trace
  alone := ⟨h.alone.trace.trans idle.stirs.trace, fun still => by
    rw [idle.gone, h.alone.holds (still.left idle.stirs.trace)]⟩

theorem callRoot_tells (tells : env.Tells) (c : Context σ) (cb : Callback)
    (q : Addon σ ν → Site → Program σ ν Payload α) (w : World σ ν) :
    Ensures (callRoot env c cb q) w
      (fun _ u => World.IfStill Idle { w with trace := .called c.root.object cb :: w.trace } u)
      (fun _ u => World.IfStill Idle { w with trace := .called c.root.object cb :: w.trace } u) := by
  rw [callRoot, ensures_bind, ensures_record]
  exact (tells.exec_tells _ _ _ _).mono (fun _ _ => id) fun _ _ stopped => stopped.mono And.left

theorem destroyInstance_unwinds (tells : env.Tells) {ty : AddonType} {h : InstanceHandle}
    {i : Instance σ} (held : w.Holds seat) (here : w.contexts.get? seat = some c)
    (multiple : c.single = none) (proper : h ≠ .root) (found : c.instances.get? h = some i)
    (fits : i.descriptor.instanceType = ty)
    (panicked : callRoot env c (.instanceDestroyed ty i.descriptor.id)
      (·.instanceDestroyed · ty i.descriptor.id i.descriptor)
      { w with contexts := w.contexts.set seat { c with instances := c.instances.erase h } } =
        .error (.unwinding p) v) :
    Ensures (destroyInstance env seat ty (some h)) w (fun _ _ => False)
      fun e x => (e = .unwinding p ∧ x.busy = w.busy ∧
          x.contexts.get? seat = some { c with instances := c.instances.erase h } ∧ Went i w x) ∨
        (e = .aborted ∧ ¬w.Still x) := by
  have spared := ((ensures_error panicked).mp (callRoot_obeys (tells.spares.permits none) _
    (fun _ _ _ => Program.all_true _) _)).unwound
  have told := (ensures_error panicked).mp (callRoot_tells tells c _ _ _)
  have grown : w.trace <:+ v.trace := spared.trace
  have filtered : (some h).filter (!·.isRoot) = some h := by
    simp [Option.filter, InstanceHandle.isRoot, proper]
  rw [destroyInstance, withContext, ensures_bind, ensures_context?, here]
  dsimp only
  rw [ensures_ite, filtered]
  refine ⟨fun single => absurd single (by simp [multiple]), fun _ => ?_⟩
  dsimp only
  rw [found]
  dsimp only
  rw [ensures_ite]
  refine ⟨fun _ => ?_, fun other => absurd fits other⟩
  rw [ensures_bind, ensures_setContext, ensures_after]
  refine (ensures_error panicked).mpr
    ((dropInstance_tells tells c.root.site i v).mono (fun _ x dropped => ?_) ?_)
  · obtain ⟨after, alone⟩ := dropped
    have taken := spared.stays (s := seat) (c := { c with instances := c.instances.erase h })
      (held.of_busy rfl) (by simp [Assoc.get?_set])
    refine .inl ⟨rfl, after.busy.trans spared.busy,
      after.stays (held.of_busy spared.busy) taken, ?_, ?_⟩
    · have mark : v.Shows { v with trace := .instanceDropped i.object i.descriptor :: v.trace }
        (.instanceDropped i.object i.descriptor) := ⟨[_], rfl, List.mem_singleton.mpr rfl⟩
      exact (mark.later alone.trace).earlier grown
    · refine ⟨grown.trans after.trace, fun still => ?_⟩
      have before := (told.holds ((still.left after.trace).right (List.suffix_cons _ _))).gone
      have last := (alone.holds ((still.right grown).right (List.suffix_cons _ _))).gone
      rw [last, Trace.gone_instanceDropped, before]
      rfl
  · rintro _ x ⟨rfl, unstill⟩
    exact .inr ⟨rfl, fun still => unstill.holds (still.right grown)⟩

end Dispatch

namespace Exports

theorem createInstance_contained (tells : env.Tells) (addon : env.modules.native m = none)
    (free : m ∉ w.busy) (ordinary : ∀ d, p ≠ .defect d) {ty : AddonType}
    {id version : Option CString} {host : HostHandle} {out parent : UInt64} {entry : EntryCall}
    (request : entry = .createInstance ty id host version (some out) parent)
    (here : w.contexts.get? (.module m) = some c)
    (panicked : Dispatch.route env c
      (Dispatch.requested ((w.locating m entry).inUse m) c ty (CString.textOrEmpty id) host
        (CString.textOrEmpty version)) (InstanceHandle.ofRaw? parent)
      ((w.locating m entry).inUse m) = .error (.unwinding p) v) :
    Ensures (call env m entry) w
      (fun answer x => answer = .created Status.permanentFailure.toRaw (some 0) ∧
        x.busy = w.busy ∧ x.contexts.get? (.module m) = some c)
      fun e x => e = .aborted ∧ ¬(w.entered m entry).Still x := by
  subst request
  rw [ensures_call addon, callAddon, ensures_bind]
  unfold createInstance
  rw [ensures_withLocation]
  refine guard_exits ?_
  dsimp only
  rw [ensures_bind, ensures_writeLocation, locations_setLocations, setLocations_setLocations,
    ensures_bind]
  refine (withSlot_contains (w := w.locating m _) ordinary free here
    (Dispatch.createInstance_unwinds tells here panicked) ?_).mono
      (fun _ _ => False.elim) fun _ _ exited => exited
  intro x y spared idle
  have left : y.locations m = some 0 :: w.locations m := by
    rw [idle.locations, spared.locations]
    exact locations_setLocations ..
  refine ⟨by simp [left], ?_, ?_⟩
  · change y.busy = w.busy
    rw [idle.busy, spared.busy, List.erase_cons_head]
    rfl
  · change y.contexts.get? (.module m) = some c
    rw [idle.contexts]
    exact spared.stays (s := .module m) List.mem_cons_self here

theorem destroyInstance_contained (tells : env.Tells) (addon : env.modules.native m = none)
    (free : m ∉ w.busy) (ordinary : ∀ d, p ≠ .defect d) {h : InstanceHandle} {i : Instance σ}
    {raw : UInt64} {entry : EntryCall}
    (request : entry = .destroyInstance i.descriptor.instanceType raw)
    (handle : InstanceHandle.ofRaw? raw = some h) (proper : h ≠ .root)
    (here : w.contexts.get? (.module m) = some c) (multiple : c.single = none)
    (found : c.instances.get? h = some i)
    (panicked : Dispatch.callRoot env c (.instanceDestroyed i.descriptor.instanceType i.descriptor.id)
      (·.instanceDestroyed · i.descriptor.instanceType i.descriptor.id i.descriptor)
      { (w.entered m entry).inUse m with
        contexts := w.contexts.set (.module m) { c with instances := c.instances.erase h } } =
        .error (.unwinding p) v) :
    Ensures (call env m entry) w
      (fun answer x => answer = .done ∧ x.busy = w.busy ∧
        x.contexts.get? (.module m) = some { c with instances := c.instances.erase h } ∧
        Dispatch.Went i (w.entered m entry) x)
      fun e x => e = .aborted ∧ ¬(w.entered m entry).Still x := by
  subst request
  rw [ensures_call addon, callAddon, ensures_bind]
  refine guard_exits ?_
  rw [handle]
  refine (withSlot_contains (w := w.entered m _) ordinary free here
    (Dispatch.destroyInstance_unwinds tells List.mem_cons_self here multiple proper found rfl
      panicked) ?_).mono (fun _ _ => False.elim) fun _ _ => id
  rintro x y ⟨busy, taken, shown, alone⟩ idle
  refine ⟨rfl, ?_, ?_,
    .idle (u := { x with busy := x.busy.erase m }) ⟨shown, alone.trace, alone.holds⟩ idle⟩
  · rw [idle.busy, busy, List.erase_cons_head]
    rfl
  · rw [idle.contexts]
    exact taken

/-- What becomes of a module, and of the calls of its functions, when its code panics with a payload.
The calls come back, unless code that is dropped enters functions in turn. -/
structure Contains (env : Env σ ν) (m : String) (p : Payload) : Prop where
  /-- A root that cannot be built leaves everything as it was, also while the slot is in use. -/
  building : ∀ {w t api u v},
    Log.debug ("Creating addon for host API version '" ++ CString.textOrEmpty api ++ "'")
      (w.creating m t api) = .ok () u →
    Dispatch.build env m t u = .error (.unwinding p) v → u.Still v →
    Ensures (call env m (.create (some t) api)) w
      (fun answer x => answer = .status Status.permanentFailure.toRaw ∧ w.Intact x)
      fun _ _ => False
  /-- A root that panics when it is told that it is created stays, and its handles are shown. -/
  created : ∀ {w t api single u v x}, m ∉ w.busy →
    construct env m t api (w.creating m t api) = .ok (.ok single) u →
    publish t (some .root) single u = .ok () v →
    Dispatch.create env (.module m) (v.inUse m) = .error (.unwinding p) x →
    (w.creating m t api).Still x →
    Ensures (call env m (.create (some t) api)) w
      (fun answer y => answer = .status Status.permanentFailure.toRaw ∧ y.busy = w.busy ∧
        ∃ c, Constructed m t single c y ∧ y.handles? t = some c.handles)
      fun _ _ => False
  status : ∀ {w c v}, m ∉ w.busy → w.contexts.get? (.module m) = some c →
    Dispatch.status env (.module m) ((w.entered m .status).inUse m) = .error (.unwinding p) v →
    Ensures (call env m .status) w
      (fun answer x => answer = .status Status.permanentFailure.toRaw ∧ x.busy = w.busy ∧
        x.contexts.get? (.module m) = some c)
      fun _ _ => False
  setSetting : ∀ {w c v name value}, m ∉ w.busy → w.contexts.get? (.module m) = some c →
    Dispatch.setSetting env (.module m) name.text value
      ((w.entered m (.setSetting (some name) value)).inUse m) = .error (.unwinding p) v →
    Ensures (call env m (.setSetting (some name) value)) w
      (fun answer x => answer = .status Status.permanentFailure.toRaw ∧ x.busy = w.busy ∧
        x.contexts.get? (.module m) = some c)
      fun _ _ => False
  /-- A factory that panics, the parent's or the root's, gives no handle. -/
  factories : ∀ {w c v ty id host version out parent entry},
    entry = .createInstance ty id host version (some out) parent →
    m ∉ w.busy → w.contexts.get? (.module m) = some c →
    Dispatch.route env c
      (Dispatch.requested ((w.locating m entry).inUse m) c ty (CString.textOrEmpty id) host
        (CString.textOrEmpty version)) (InstanceHandle.ofRaw? parent)
      ((w.locating m entry).inUse m) = .error (.unwinding p) v →
    Ensures (call env m entry) w
      (fun answer x => answer = .created Status.permanentFailure.toRaw (some 0) ∧
        x.busy = w.busy ∧ x.contexts.get? (.module m) = some c)
      fun e x => e = .aborted ∧ ¬(w.entered m entry).Still x
  /-- An instance goes, and no other, though the root panics when it is told. -/
  notified : ∀ {w c v h i raw entry}, entry = .destroyInstance i.descriptor.instanceType raw →
    InstanceHandle.ofRaw? raw = some h → h ≠ .root →
    m ∉ w.busy → w.contexts.get? (.module m) = some c →
    c.single = none → c.instances.get? h = some i →
    Dispatch.callRoot env c (.instanceDestroyed i.descriptor.instanceType i.descriptor.id)
      (·.instanceDestroyed · i.descriptor.instanceType i.descriptor.id i.descriptor)
      { (w.entered m entry).inUse m with
        contexts := w.contexts.set (.module m) { c with instances := c.instances.erase h } } =
        .error (.unwinding p) v →
    Ensures (call env m entry) w
      (fun answer x => answer = .done ∧ x.busy = w.busy ∧
        x.contexts.get? (.module m) = some { c with instances := c.instances.erase h } ∧
        Dispatch.Went i (w.entered m entry) x)
      fun e x => e = .aborted ∧ ¬(w.entered m entry).Still x

/-- A panic that is not a defect ends the call in which it happens, which comes back with the status
of a permanent failure and leaves the slot free. -/
theorem panics_contained (modules : Modules σ ν) (unloading : Bool) (depth : Nat)
    (addon : modules.native m = none) (ordinary : ∀ d, p ≠ .defect d) :
    Contains (Exports.env modules unloading depth) m p := by
  have tells := env_tells modules unloading depth
  have addon : (Exports.env modules unloading depth).modules.native m = none := by
    rwa [env_modules]
  refine ⟨build_contained tells addon ordinary,
    fun free => create_contained tells addon free ordinary, ?_, ?_,
    fun request free => createInstance_contained tells addon free ordinary request,
    fun request handle proper free =>
      destroyInstance_contained tells addon free ordinary request handle proper⟩
  · intro w c v free here panicked
    rw [ensures_call addon, callAddon, ensures_bind]
    refine (callRoot_contained (w := w.entered m .status) tells.spares ordinary free here .status
      (·.status ·) panicked).mono (fun _ _ ended => ?_) fun _ _ => id
    rw [ended.1]
    exact ⟨rfl, ended.2⟩
  · intro w c v name value free here panicked
    rw [ensures_call addon, callAddon, ensures_bind]
    refine (callRoot_contained (w := w.entered m _) tells.spares ordinary free here
      (.setSetting name.text value) (·.setSetting · name.text value) panicked).mono
      (fun _ _ ended => ?_) fun _ _ => id
    rw [ended.1]
    exact ⟨rfl, ended.2⟩

theorem panics_contained_brittle :
    let t : TableId := ⟨0, 0⟩
    let i : Instance Unit := ⟨⟨t, 1⟩, ⟨⟨102⟩, "1.0", none⟩, ()⟩
    let c : Context Unit :=
      { root := ⟨⟨t, 0⟩, ⟨"brittle", t⟩, none⟩, instances := ({} : Registry _).insert i }
    let blank : World Unit Unit :=
      { memory := fun _ => ()
        loaded := [(t, { module := "brittle", libPath := .empty, host := {} })] }
    let w : World Unit Unit := { blank with contexts := [(.module "brittle", c)] }
    let env := Exports.env Modules.brittle false 1
    Ensures (call env "unbuilt" (.create (some t) none)) w
      (fun answer x => answer = .status Status.permanentFailure.toRaw ∧ w.Intact x)
      (fun _ _ => False) ∧
    Ensures (call env "brittle" (.create (some t) none)) blank
      (fun answer x => answer = .status Status.permanentFailure.toRaw ∧ x.busy = blank.busy ∧
        ∃ c, Constructed "brittle" t none c x ∧ x.handles? t = some c.handles)
      (fun _ _ => False) ∧
    Ensures (call env "brittle" .status) w
      (fun answer x => answer = .status Status.permanentFailure.toRaw ∧ x.busy = w.busy ∧
        x.contexts.get? (.module "brittle") = some c)
      (fun _ _ => False) ∧
    Ensures (call env "brittle" (.setSetting (some .empty) none)) w
      (fun answer x => answer = .status Status.permanentFailure.toRaw ∧ x.busy = w.busy ∧
        x.contexts.get? (.module "brittle") = some c)
      (fun _ _ => False) ∧
    (∀ entry, entry = .createInstance ⟨102⟩ none .null none (some 7) 0 →
      Ensures (call env "brittle" entry) w
        (fun answer x => answer = .created Status.permanentFailure.toRaw (some 0) ∧
          x.busy = w.busy ∧ x.contexts.get? (.module "brittle") = some c)
        fun e x => e = .aborted ∧ ¬(w.entered "brittle" entry).Still x) ∧
    ∀ entry, entry = .destroyInstance ⟨102⟩ 2 →
      Ensures (call env "brittle" entry) w
        (fun answer x => answer = .done ∧ x.busy = w.busy ∧
          x.contexts.get? (.module "brittle") =
            some { c with instances := c.instances.erase InstanceHandle.root.succ } ∧
          Dispatch.Went i (w.entered "brittle" entry) x)
        fun e x => e = .aborted ∧ ¬(w.entered "brittle" entry).Still x := by
  intro t i c blank w env
  have unbuilt := panics_contained (m := "unbuilt") (p := .other) Modules.brittle false 1 rfl nofun
  have brittle := panics_contained (m := "brittle") (p := .other) Modules.brittle false 1 rfl nofun
  have unused : "brittle" ∉ w.busy := List.not_mem_nil
  have here : w.contexts.get? (.module "brittle") = some c := rfl
  refine ⟨unbuilt.building rfl rfl fun m entry shown => ?_,
    brittle.created (u := _) (v := _) (x := _) List.not_mem_nil rfl rfl rfl fun m entry shown => ?_,
    brittle.status unused here rfl, brittle.setSetting unused here rfl, ?_, ?_⟩
  · exact absurd ((Shows.of_trace (l := [_]) rfl).mp shown) (by simp)
  · exact absurd ((Shows.of_trace (l := [_, _, _, _, _]) rfl).mp shown) (by simp)
  · rintro entry rfl
    exact brittle.factories rfl unused here rfl
  · rintro entry rfl
    exact brittle.notified (i := i) rfl rfl nofun unused here rfl rfl rfl

end Exports

end AddonBridge
