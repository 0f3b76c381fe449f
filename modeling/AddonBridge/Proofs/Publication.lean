import AddonBridge.Proofs.Attachment

/-!
# What interfaces show

While a slot holds a context, the interface that it is built on shows the handles of its root and of
its single instance. A context that is destroyed takes them away; one that another create replaces
does not (`run_stale`). `run_shown` says so of every run.
-/

namespace AddonBridge

open Act World

variable {σ ν : Type}

namespace World

/-- Interfaces show the handles of the contexts built on them, and nothing else. Of an exempt
interface nothing is said, and a stale one may go on showing a context that is gone. -/
structure Accurate (exempt stale : TableId → Prop) (w : World σ ν) : Prop where
  shown : ∀ seat c, w.contexts.get? seat = some c → ¬exempt c.root.site.table →
    w.handles? c.root.site.table = some c.handles
  cleared : ∀ t, ¬exempt t → ¬stale t → w.Deserted t → ∀ p, w.handles? t = some p → p = (none, none)
  proper : ∀ t p, w.handles? t = some p →
    p = (none, none) ∨ ∃ single : Option AddonType, p = (some .root, single.map fun _ => .root)

/-- Every context is in the slot of the module whose addon its interface was loaded for. -/
def Homed (w : World σ ν) : Prop :=
  ∀ seat c, w.contexts.get? seat = some c →
    (w.loaded.get? c.root.site.table).map (Seat.module ·.module) = some seat

variable {modules : Modules σ ν} {exempt stale : TableId → Prop} {w u v : World σ ν} {t : TableId}
  {m : String} {c : Context σ}

theorem Seated.homed (h : w.Seated modules) : w.Homed := by
  intro seat c here
  obtain ⟨m, rfl, -, created⟩ := h seat c here
  have home : (Seat.module ·.1) ∘ Loaded.standing = (Seat.module ·.module) := rfl
  rw [← home, ← Option.map_map, created, Option.map_some]

theorem Wanes.homed (h : w.Wanes u) (before : w.Homed) : u.Homed := by
  intro seat c' here
  obtain ⟨c, earlier, site⟩ := h.known seat c' here
  have home : (Seat.module ·.1) ∘ Loaded.standing = (Seat.module ·.module) := rfl
  rw [site, ← before seat c earlier, ← home, ← Option.map_map, h.loaded, Option.map_map]

theorem Homed.unique (h : w.Homed) {seat seat' : Seat} {c c' : Context σ}
    (here : w.contexts.get? seat = some c) (there : w.contexts.get? seat' = some c')
    (same : c'.root.site.table = c.root.site.table) : seat' = seat := by
  have home := h seat' c' there
  rw [same, h seat c here] at home
  exact (Option.some.inj home).symm

theorem Accurate.congr (h : w.Accurate exempt stale) (contexts : u.contexts = w.contexts)
    (handles : ∀ t, u.handles? t = w.handles? t) : u.Accurate exempt stale where
  shown seat c here known := by
    rw [handles]
    exact h.shown seat c (contexts ▸ here) known
  cleared t known fresh deserted p shown := by
    refine h.cleared t known fresh (fun seat c here => ?_) p (handles t ▸ shown)
    exact deserted seat c (contexts ▸ here)
  proper t p shown := h.proper t p (handles t ▸ shown)

theorem Accurate.widen {stale' : TableId → Prop} (h : w.Accurate exempt stale)
    (wider : ∀ t, stale t → stale' t) : w.Accurate exempt stale' where
  shown := h.shown
  cleared t known fresh := h.cleared t known fun stale => fresh (wider t stale)
  proper := h.proper

theorem Stirs.accurate (h : w.Stirs u) (before : w.Accurate exempt stale) :
    u.Accurate exempt stale :=
  before.congr h.contexts (handles?_congr h.loaded)

theorem Accurate.reseat {seat : Seat} {c' : Context σ} (h : w.Accurate exempt stale)
    (here : w.contexts.get? seat = some c) (site : c'.root.site = c.root.site)
    (single : c'.single = c.single) :
    Accurate exempt stale { w with contexts := w.contexts.set seat c' } where
  shown s d found known := by
    dsimp only at found
    rw [Assoc.get?_set] at found
    split at found
    · cases found
      rw [site] at known ⊢
      rw [show c'.handles = c.handles by rw [Context.handles, single]; rfl]
      exact h.shown seat c here known
    · exact h.shown s d found known
  cleared t known fresh deserted := by
    refine h.cleared t known fresh fun s d found => ?_
    by_cases at_seat : seat = s
    · subst at_seat
      rw [here] at found
      cases found
      rw [← site]
      exact deserted seat c' (by simp [Assoc.get?_set])
    · exact deserted s d (by simp [Assoc.get?_set, at_seat, found])
  proper := h.proper

/-- What becomes of the world under calls that create nothing: contexts may go, and interfaces show
what they should if they did. -/
structure Fades (w u : World σ ν) : Prop where
  wanes : w.Wanes u
  accurate : w.Homed → ∀ exempt stale, w.Accurate exempt stale → u.Accurate exempt stale

theorem Fades.refl (w : World σ ν) : w.Fades w := ⟨.refl w, fun _ _ _ => id⟩

theorem Fades.trans (first : w.Fades u) (second : u.Fades v) : w.Fades v where
  wanes := first.wanes.trans second.wanes
  accurate homed e s before :=
    second.accurate (first.wanes.homed homed) e s (first.accurate homed e s before)

theorem Stirs.fades (h : w.Stirs u) : w.Fades u := ⟨h.wanes, fun _ _ _ => h.accurate⟩

theorem Fades.modifyLoaded {f : Loaded → Loaded}
    (h : ∀ l, (f l).standing = l.standing ∧ (f l).handles = l.handles) :
    w.Fades { w with loaded := w.loaded.modify t f } where
  wanes := .modifyLoaded fun l => (h l).1
  accurate _ _ _ before := before.congr rfl (handles?_modify fun l => (h l).2)

/-! ### A context that goes -/

theorem Accurate.removed (h : w.Accurate exempt stale)
    (here : w.contexts.get? (.module m) = some c) :
    Accurate (fun t => exempt t ∨ t = c.root.site.table) stale
      { w with contexts := w.contexts.erase (.module m) } where
  shown seat d found known := by
    dsimp only at found
    rw [Assoc.get?_erase] at found
    split at found
    · contradiction
    · exact h.shown seat d found fun exempt => known (.inl exempt)
  cleared t known fresh deserted := by
    refine h.cleared t (fun exempt => known (.inl exempt)) fresh fun seat d found => ?_
    by_cases at_slot : .module m = seat
    · subst at_slot
      rw [here] at found
      cases found
      exact fun same => known (.inr same.symm)
    · exact deserted seat d (by simp [Assoc.get?_erase, at_slot, found])
  proper := h.proper

/-- An interface that shows nothing needs no exemption, once no context is built on it. -/
theorem Accurate.withdraw (h : w.Accurate (fun s => exempt s ∨ s = t) stale) (deserted : w.Deserted t) :
    Accurate exempt stale { w with
      loaded := w.loaded.modify t fun l => { l with
        addonBase := InstanceHandle.toRaw none, singleInstance := InstanceHandle.toRaw none } } where
  shown seat c here known := by
    have other : c.root.site.table ≠ t := deserted seat c here
    rw [handles?_publish, if_neg other.symm]
    exact h.shown seat c here (by simp [known, other])
  cleared s known fresh away p shown := by
    rw [handles?_publish] at shown
    split at shown
    · obtain ⟨-, -, rfl⟩ := Option.map_eq_some_iff.mp shown
      rfl
    · next other => exact h.cleared s (by simp [known, Ne.symm other]) fresh away p shown
  proper s p shown := by
    rw [handles?_publish] at shown
    split at shown
    · obtain ⟨-, -, rfl⟩ := Option.map_eq_some_iff.mp shown
      exact .inl rfl
    · exact h.proper s p shown

/-- An interface shows the context that its slot holds, once its handles are published. -/
theorem Accurate.publish (h : w.Accurate (fun s => exempt s ∨ s = t) stale) (homed : w.Homed)
    (here : w.contexts.get? (.module m) = some c) (table : c.root.site.table = t) :
    Accurate exempt stale { w with
      loaded := w.loaded.modify t fun l => { l with
        addonBase := InstanceHandle.toRaw (some .root)
        singleInstance := InstanceHandle.toRaw (c.single.map fun _ => .root) } } where
  shown seat d found known := by
    rw [handles?_publish]
    split
    · next same =>
      have same : d.root.site.table = c.root.site.table := by rw [table, same]
      obtain rfl := homed.unique here found same
      rw [here] at found
      cases found
      have home := homed _ c here
      rw [handles?]
      cases loaded : w.loaded.get? c.root.site.table with
      | none => simp [loaded] at home
      | some l => rfl
    · next other => exact h.shown seat d found (by simp [known, Ne.symm other])
  cleared s known fresh deserted p shown := by
    rw [handles?_publish] at shown
    split at shown
    · next same => exact absurd (table.trans same) (deserted _ c here)
    · next other => exact h.cleared s (by simp [known, Ne.symm other]) fresh deserted p shown
  proper s p shown := by
    rw [handles?_publish] at shown
    split at shown
    · obtain ⟨-, -, rfl⟩ := Option.map_eq_some_iff.mp shown
      exact .inr ⟨c.single, rfl⟩
    · exact h.proper s p shown

end World

abbrev Fading : Change σ ν := Change.unlessAborted Fades

theorem Fading.law : Law (Fading : Change σ ν) := .of_preorder Fades.refl fun _ _ _ => Fades.trans

variable {env : Env σ ν} {m : String} {t : TableId} {w : World σ ν}

/-- Code that creates nothing can run in an environment, and interfaces go on showing what they
should. -/
structure Env.Fades (env : Env σ ν) : Prop extends env.Wanes where
  faded : ∀ c, c.isCreate = false → Obeys Fading (env.nested c)

namespace Env.Fades

theorem permits (fades : env.Fades) : env.Permits Fading .tame where
  law := Fading.law
  talk _ _ idle _ := idle.stirs.fades
  panic _ _ w _ := .refl w
  modules := fades.tame
  nested := fades.faded
  quiet := fades.quiet
  stirs _ _ stirs _ := stirs.fades

theorem tends (fades : env.Fades) (seat : Seat) : env.Tends Fading .tame seat where
  toPermits := fades.permits
  raised _ _ _ := ⟨.of_contexts rfl rfl (.inl rfl) fun _ => rfl,
    fun _ _ _ before => before.congr rfl fun _ => rfl⟩
  reseat _ _ _ here _ site single _ :=
    ⟨.reseat here site, fun _ _ _ before => before.reseat here site single⟩

theorem destroy_obeys (fades : env.Fades) (m : String) : Obeys Fading (Exports.destroy env m) := by
  have permits := fades.permits
  have faded (w : World σ ν) : Ensures (Exports.destroy env m) w (fun _ u => w.Homed →
      ∀ exempt stale, w.Accurate exempt stale → u.Accurate exempt stale) fun e _ => e = .aborted := by
    refine Exports.guard_ensures ?_
    rw [ensures_bind]
    refine (Exports.take_ensures m w).mono (fun taken u ended => ?_) fun _ _ => False.elim
    cases taken with
    | none => exact fun _ _ _ => ended.1.stirs.accurate
    | some c =>
      obtain ⟨-, here, rfl⟩ := ended
      rw [ensures_bind]
      refine ((Dispatch.destroy_obeys permits).ensures (Dispatch.destroy_quiet fades.quiet c)
        _).aborts fun _ u dropped => ?_
      rw [ensures_bind, Exports.publish, ensures_modifyLoaded, ensures_unbind]
      intro homed exempt stale before
      have away : Homed { w with contexts := w.contexts.erase (.module m) } := by
        intro seat d found
        dsimp only at found
        rw [Assoc.get?_erase] at found
        split at found
        · contradiction
        · exact homed seat d found
      have deserted : u.Deserted c.root.site.table := by
        intro seat d found same
        obtain ⟨d', before, site⟩ := dropped.wanes.known seat d found
        dsimp only at before
        rw [Assoc.get?_erase] at before
        split at before
        · contradiction
        · next other => exact other (homed.unique here before (site ▸ same)).symm
      have withdrawn := (dropped.accurate away _ _ (before.removed here)).withdraw deserted
      split
      · exact withdrawn.congr rfl fun _ => rfl
      · exact withdrawn
  refine fun w => ((fades.destroy_ensures m w).and (faded w)).mono (fun _ u ended _ => ?_)
    fun _ _ stopped going => absurd (congrArg some stopped.1) going
  exact ⟨ended.1.1, ended.2⟩

theorem serves (fades : env.Fades) : env.Serves Fading (fun _ => Fading) .tame False where
  toKeeps := fades.permits.toKeeps
  seated m := (fades.tends (.module m)).lawful
  releases.held m w k u _ going h _ := by
    obtain ⟨waned, accurate⟩ := h going
    refine ⟨⟨by simp [waned.busy], waned.sink, waned.loaded, waned.known, waned.gone⟩, ?_⟩
    intro homed exempt stale before
    have after : u.Accurate exempt stale :=
      accurate homed exempt stale (before.congr rfl fun _ => rfl)
    exact after.congr rfl fun _ => rfl
  releases.halted _ _ _ _ _ stopped := absurd rfl stopped
  entered _ _ _ _ := ⟨.of_contexts rfl rfl (.inl rfl) fun _ => rfl,
    fun _ _ _ before => before.congr rfl fun _ => rfl⟩
  locates := .of_free Fading.law fun _ _ _ _ => ⟨.of_contexts rfl rfl (.inl rfl) fun _ => rfl,
    fun _ _ _ before => before.congr rfl fun _ => rfl⟩
  destroyed := fades.destroy_obeys
  created := False.elim
  relinked := False.elim

end Env.Fades

theorem Exports.env_fades {modules : Modules σ ν} (tame : modules.Follow .tame) (unloading : Bool)
    (depth : Nat) : (Exports.env modules unloading depth).Fades where
  toWanes := env_wanes tame unloading depth
  faded c h := env_obeys (p := .tame) False
    (fun _ (never : RawCall.isCreate _ = false) creates => by simp [never] at creates)
    (fun depth nested => Env.Fades.serves ⟨env_wanes tame unloading depth, nested⟩)
    Fading.law depth c h

/-! ### Creating -/

namespace World

variable {modules : Modules σ ν} {exempt stale : TableId → Prop} {w u : World σ ν} {c : Context σ}

/-- The interfaces that may be stale after a create: also the one of the context it replaces. -/
def Replacing (m : String) (w : World σ ν) (stale : TableId → Prop) (t : TableId) : Prop :=
  stale t ∨ ∃ c, w.contexts.get? (.module m) = some c ∧ c.root.site.table = t

theorem Accurate.install (h : w.Accurate exempt stale) {r : TableId → Prop}
    (replacing : ∀ s, w.Replacing m stale s → r s) (site : c.root.site = ⟨m, t⟩) :
    Accurate (fun s => exempt s ∨ s = t) r
      { w with contexts := w.contexts.set (.module m) c } where
  shown seat d found known := by
    dsimp only at found
    rw [Assoc.get?_set] at found
    split at found
    · cases found
      exact absurd (.inr (congrArg Site.table site)) known
    · exact h.shown seat d found fun exempt => known (.inl exempt)
  cleared s known fresh deserted := by
    refine h.cleared s (fun exempt => known (.inl exempt)) (fun stale => ?_) fun seat d found => ?_
    · exact fresh (replacing s (.inl stale))
    · by_cases at_slot : .module m = seat
      · subst at_slot
        exact fun same => fresh (replacing s (.inr ⟨d, found, same⟩))
      · exact deserted seat d (by simp [Assoc.get?_set, at_slot, found])
  proper := h.proper

/-- While a module's addon is being created, what may be stale once it is installed. -/
structure Readied (modules : Modules σ ν) (m : String) (t : TableId) (stale replaced : TableId → Prop)
    (w : World σ ν) : Prop where
  aimed : w.Aimed modules m t
  free : m ∉ w.busy
  accurate : w.Accurate (fun _ => False) stale
  replacing : ∀ s, w.Replacing m stale s → replaced s

variable {replaced : TableId → Prop}

theorem Fades.readied (h : w.Fades u) (before : w.Readied modules m t stale replaced) :
    u.Readied modules m t stale replaced where
  aimed := h.wanes.aimed before.aimed
  free := by rw [h.wanes.busy]; exact before.free
  accurate := h.accurate before.aimed.seated.homed _ _ before.accurate
  replacing s stale := before.replacing s <| stale.imp_right fun ⟨c', here, table⟩ => by
    obtain ⟨c, earlier, site⟩ := h.wanes.known _ c' here
    exact ⟨c, earlier, site ▸ table⟩

/-- A context was just put into a slot, and its interface does not show it yet. -/
structure Filled (modules : Modules σ ν) (m : String) (t : TableId) (c : Context σ)
    (replaced : TableId → Prop) (w : World σ ν) : Prop where
  here : w.contexts.get? (.module m) = some c
  site : c.root.site = ⟨m, t⟩
  seated : w.Seated modules
  accurate : w.Accurate (fun s => False ∨ s = t) replaced

end World

namespace Env.Fades

variable {α : Type} {act : Act σ ν α} {stale replaced : TableId → Prop} {c : Context σ}

theorem install_ensures (fades : env.Fades) (spares : env.Spares)
    (addon : env.modules.native m = none) (site : c.root.site = ⟨m, t⟩)
    (readied : w.Readied env.modules m t stale replaced) :
    Ensures (Exports.install env m c) w
      (fun installed u => installed = true ∧ u.Filled env.modules m t c replaced)
      fun e _ => e = .aborted := by
  have filled : (w.seating m c).Filled env.modules m t c replaced := by
    have accurate := readied.accurate.install readied.replacing site
    exact ⟨by simp [Assoc.get?_set], site, (readied.aimed.install addon site).1.seated,
      accurate.congr rfl fun _ => rfl⟩
  have released {u : World σ ν} (h : u.Filled env.modules m t c replaced) (busy : List String) :
      World.Filled env.modules m t c replaced { u with busy } :=
    ⟨h.here, h.site, h.seated, h.accurate.congr rfl fun _ => rfl⟩
  refine Exports.install_exits readied.free (fun old _ => ?_) fun _ => released filled _
  have quiet := Dispatch.dropContext_quiet fades.quiet old
  have faded := (Dispatch.dropContext_obeys (c := old) fades.permits).ensures quiet
  have spared := (Dispatch.dropContext_obeys (c := old) (spares.permits none)).ensures quiet
  refine ((faded _).and (spared _)).mono (fun _ u ended v idle => released ?_ _)
    fun _ _ stopped => stopped.1
  obtain ⟨faded, spared⟩ := ended
  have faded := faded.trans idle.stirs.fades
  exact ⟨by rw [idle.contexts, spared.kept (List.mem_cons_self ..), filled.here], site,
    faded.wanes.seated filled.seated, faded.accurate filled.seated.homed _ _ filled.accurate⟩

theorem registerFunctions_obeys (fades : env.Fades) :
    Obeys Fading (Exports.registerFunctions m t : Act σ ν Bool) :=
  Exports.registerFunctions_obeys Fading.law fades.permits.talk
    fun _ _ => .modifyLoaded fun _ => ⟨rfl, rfl⟩

theorem keeps_readied (obeyed : Obeys Fading act)
    (readied : w.Readied env.modules m t stale replaced) :
    Ensures act w (fun _ u => u.Readied env.modules m t stale replaced)
      fun e u => e ≠ .aborted → u.Readied env.modules m t stale replaced :=
  (obeyed w).mono (fun _ _ faded => faded.returned.readied readied)
    fun _ _ faded going => (faded.stopped going).readied readied

/-- What is built is installed and then only lacks its handles, or nothing is installed at all. -/
theorem construct_ensures (fades : env.Fades) (spares : env.Spares)
    (addon : env.modules.native m = none) (api : Option CString)
    (readied : w.Readied env.modules m t stale replaced) :
    Ensures (Exports.construct env m t api) w
      (fun built u => match built with
        | .ok single => ∃ c : Context σ, single = (c.single.map fun _ => .root) ∧
          u.Filled env.modules m t c replaced
        | .error _ => u.Readied env.modules m t stale replaced)
      fun e u => e ≠ .aborted → u.Readied env.modules m t stale replaced := by
  have permits := fades.permits
  have talk (u v : World σ ν) (idle : u.Idle v) (readied : u.Readied env.modules m t stale replaced) :
      v.Readied env.modules m t stale replaced := idle.stirs.fades.readied readied
  let placed (c : Context σ) (u : World σ ν) :=
    c.root.site = ⟨m, t⟩ ∧ u.Readied env.modules m t stale replaced
  refine Exports.construct_exits (B := placed) (R := placed) talk (fun u idle => ?_)
    (fun c u readied => ?_) (fun c u readied => ?_) fun c u v readied idle =>
      keeps_readied (Dispatch.dropContext_obeys permits) (talk u v idle readied.2)
  · refine ((keeps_readied (Dispatch.build_obeys permits) (talk w u idle readied)).and
      (Dispatch.build_shape env m t u)).mono (fun built v after => ?_) fun _ _ stopped => stopped.1
    obtain ⟨readied, shaped⟩ := after
    cases built with
    | error e => exact readied
    | ok c =>
      obtain ⟨single, rfl⟩ := shaped c rfl
      exact ⟨rfl, readied⟩
  · refine (keeps_readied fades.registerFunctions_obeys readied.2).mono
      (fun registered v after => ?_) fun _ _ => id
    rw [ite_self]
    exact ⟨readied.1, after⟩
  · refine (fades.install_ensures spares addon readied.1 readied.2).aborts fun installed v ended => ?_
    obtain ⟨rfl, filled⟩ := ended
    exact filled

/-- A create leaves every interface accurate, but for that of a context that it replaced. -/
theorem create_accurate (fades : env.Fades) (spares : env.Spares)
    (addon : env.modules.native m = none) (api : Option CString)
    (readied : World.Readied env.modules m t stale replaced (w.boundTo t)) :
    Ensures (Exports.create env m (some t) api) w
      (fun _ u => u.Accurate (fun _ => False) replaced) fun e _ => e = .aborted := by
  have law : Law (Fading : Change σ ν) := Fading.law
  have unbound {u : World σ ν} (readied : u.Readied env.modules m t stale replaced) :
      World.Accurate (fun _ => False) replaced
        (if u.sink = some t then { u with sink := none } else u) := by
    have accurate := readied.accurate.widen fun s stale => readied.replacing s (.inl stale)
    split
    · exact accurate.congr rfl fun _ => rfl
    · exact accurate
  refine Exports.create_exits (fun _ _ idle before => idle.stirs.accurate before) ?_
  refine (fades.construct_ensures spares addon api readied).mono (fun built u ended => ?_)
    fun _ _ stopped going => unbound (stopped going)
  cases built with
  | error status => exact unbound ended
  | ok single =>
    obtain ⟨c, rfl, filled⟩ := ended
    have homed := filled.seated.homed
    dsimp only
    rw [ensures_bind, Exports.publish, ensures_modifyLoaded]
    have published := filled.accurate.publish homed filled.here (congrArg Site.table filled.site)
    have told : Obeys Fading (Exports.withSlot m "create" .unknown
        (Dispatch.create env (.module m))) :=
      Exports.withSlot_obeys fades.serves (Dispatch.create_obeys (fades.tends (.module m)))
    have homed : World.Homed { u with
        loaded := u.loaded.modify t fun l => { l with
          addonBase := InstanceHandle.toRaw (some .root)
          singleInstance := InstanceHandle.toRaw (c.single.map fun _ => .root) } } :=
      Wanes.homed (.modifyLoaded fun _ => rfl) homed
    exact (told _).mono (fun _ _ faded => faded.returned.accurate homed _ _ published)
      fun _ _ faded going => (faded.stopped going).accurate homed _ _ published

end Env.Fades

/-! ### Moves of a host -/

namespace LoadedAddon

variable {l : Loaded} {stale : TableId → Prop}

/-- The interfaces that a move may make stale: of a context that a create finds in its slot. -/
def Replaced (w : World σ ν) : Move → TableId → Prop
  | .operate t (.create _), s => ∃ l c, w.loaded.get? t = some l ∧ l.isCreated = false ∧
      w.contexts.get? (.module l.module) = some c ∧ c.root.site.table = s
  | _, _ => False

theorem call_accurate (fades : env.Fades) {c : EntryCall} (other : ∀ t api, c ≠ .create t api)
    (homed : w.Homed) (accurate : w.Accurate (fun _ => False) stale) :
    Ensures (Exports.call env m c) w (fun _ u => u.Accurate (fun _ => False) stale)
      fun _ _ => True :=
  (Exports.call_obeys fades.serves m (fun t api same => absurd same (other t api)) w).mono
    (fun _ _ faded => faded.returned.accurate homed _ _ accurate) fun _ _ _ => True.intro

theorem create_accurate (fades : env.Fades) (spares : env.Spares)
    (addon : env.modules.native l.module = none) (api : String)
    (attached : w.Attached env.modules) (loaded : w.loaded.get? t = some l)
    (accurate : w.Accurate (fun _ => False) stale) :
    Ensures (create env t l api) w
      (fun _ u => u.Accurate (fun _ => False) fun s =>
        stale s ∨ Replaced w (.operate t (.create api)) s) fun _ _ => True := by
  have unchanged : w.Accurate (fun _ => False) fun s =>
      stale s ∨ Replaced w (.operate t (.create api)) s := accurate.widen fun _ => .inl
  refine create_exits unchanged fun fresh api' _ => ?_
  have modified := attached.modify (attached.seated.deserted loaded (.inl fresh))
    fun l => { l with isCreated := true }
  have kept := accurate.congr (u := (({ w with
    loaded := w.loaded.modify t fun l => { l with isCreated := true } } : World σ ν).entered
      l.module (.create (some t) (some api'))).boundTo t) rfl (handles?_modify fun _ => rfl)
  rw [Exports.ensures_call addon, Exports.callAddon, ensures_bind]
  refine (fades.create_accurate spares addon _
    ⟨⟨modified.seated, .inl rfl, ?_⟩, ?_, kept, ?_⟩).mono (fun _ _ after => after)
      fun _ _ _ => True.intro
  · simp [World.entered, Assoc.get?_modify, loaded, Loaded.standing]
  · simp [World.entered, attached.idle]
  · rintro s (old | ⟨c, here, table⟩)
    · exact .inl old
    · exact .inr ⟨l, c, loaded, fresh, here, table⟩

theorem destroy_accurate (fades : env.Fades) (attached : w.Attached env.modules)
    (accurate : w.Accurate (fun _ => False) stale) :
    Ensures (destroy env t l) w (fun _ u => u.Accurate (fun _ => False) stale) fun _ _ => True := by
  rw [destroy, ensures_ite]
  refine ⟨fun _ => ?_, fun _ => accurate⟩
  rw [ensures_bind, ensures_modifyLoaded, ensures_discard]
  refine call_accurate fades (by simp) (fun seat c here => ?_) ?_
  · rw [← attached.seated.homed seat c here]
    dsimp only
    rw [Assoc.get?_modify]
    split
    · cases w.loaded.get? c.root.site.table <;> rfl
    · rfl
  · exact accurate.congr rfl (handles?_modify fun _ => rfl)

/-- An interface that nothing is built on can be taken away, or get another addon. -/
theorem accurate_relink (accurate : w.Accurate (fun _ => False) stale) (deserted : w.Deserted t)
    {loaded : Assoc TableId Loaded} (others : ∀ s, t ≠ s → loaded.get? s = w.loaded.get? s)
    (bare : ∀ l, loaded.get? t = some l → l.handles = (none, none)) :
    Accurate (fun _ => False) stale { w with loaded } := by
  have same {s : TableId} (other : t ≠ s) : World.handles? { w with loaded } s = w.handles? s := by
    rw [handles?, handles?, others s other]
  have hidden {p : Option InstanceHandle × Option InstanceHandle}
      (shown : World.handles? { w with loaded } t = some p) : p = (none, none) := by
    obtain ⟨l, here, rfl⟩ := Option.map_eq_some_iff.mp shown
    exact bare l here
  refine ⟨fun seat c here known => ?_, fun s known fresh away p shown => ?_, fun s p shown => ?_⟩
  · rw [same (deserted seat c here).symm]
    exact accurate.shown seat c here known
  · by_cases here : t = s
    · exact hidden (here ▸ shown)
    · exact accurate.cleared s known fresh away p (same here ▸ shown)
  · by_cases here : t = s
    · exact .inl (hidden (here ▸ shown))
    · exact accurate.proper s p (same here ▸ shown)

theorem perform_accurate (fades : env.Fades) (spares : env.Spares)
    (addons : ∀ m, env.modules.native m = none) (operation : Operation)
    (attached : w.Attached env.modules) (loaded : w.loaded.get? t = some l)
    (accurate : w.Accurate (fun _ => False) stale) :
    Ensures (perform env t l operation) w (fun _ u => u.Accurate (fun _ => False) fun s =>
      stale s ∨ Replaced w (.operate t operation) s) fun _ _ => True := by
  have weaken {operation : Operation} {u : World σ ν} (h : u.Accurate (fun _ => False) stale) :
      u.Accurate (fun _ => False) fun s => stale s ∨ Replaced w (.operate t operation) s :=
    h.widen fun _ => .inl
  by_cases plain : operation.IsPlain
  · have obeyed : Obeys Fading (perform env t l operation) :=
      perform_obeys fades.serves (fun _ _ _ => .modifyLoaded fun _ => ⟨rfl, rfl⟩) plain
    exact (obeyed w).mono (fun _ u faded => weaken
      (faded.returned.accurate attached.seated.homed _ _ accurate)) fun _ _ _ => True.intro
  · cases operation with
    | create api =>
      rw [perform, ensures_bind]
      exact (create_accurate fades spares (addons _) api attached loaded accurate).mono
        (fun _ _ after => after) fun _ _ => id
    | destroy =>
      rw [perform, ensures_bind]
      exact (destroy_accurate fades attached accurate).mono (fun _ _ after => weaken after)
        fun _ _ => id
    | drop =>
      rw [perform, drop, ensures_bind, ensures_bind]
      refine ((destroy_accurate fades attached accurate).and
        (destroy_attached fades.toWanes spares attached loaded)).mono (fun _ u after => ?_)
        fun _ _ _ => True.intro
      obtain ⟨accurate, -, deserted⟩ := after
      refine weaken (accurate_relink accurate deserted (fun s other => ?_) fun l here => ?_)
      · rw [Assoc.get?_erase, if_neg other]
      · simp [Assoc.get?_erase] at here
    | _ => exact absurd True.intro plain

theorem step_accurate (fades : env.Fades) (spares : env.Spares)
    (addons : ∀ m, env.modules.native m = none) (move : Move) (attached : w.Attached env.modules)
    (accurate : w.Accurate (fun _ => False) stale) :
    Ensures (step env move) w (fun _ u => u.Accurate (fun _ => False) fun s =>
      stale s ∨ Replaced w move s) fun _ _ => True := by
  have unchanged : w.Accurate (fun _ => False) fun s => stale s ∨ Replaced w move s :=
    accurate.widen fun _ => .inl
  cases move with
  | load t module host libPath =>
    rw [step, ensures_bind, ensures_loaded?]
    cases loaded : w.loaded.get? t with
    | some l => exact unchanged
    | none =>
      have deserted : w.Deserted t := by
        rintro seat c here rfl
        have home := attached.seated.homed seat c here
        rw [loaded] at home
        contradiction
      dsimp only
      rw [ensures_discard, load]
      split
      · exact unchanged
      · refine accurate_relink unchanged deserted (fun s other => ?_) fun l here => ?_
        · rw [Assoc.get?_set, if_neg other]
        · rw [Assoc.get?_set, if_pos rfl] at here
          cases here
          rfl
  | operate t operation =>
    rw [step, ensures_bind, ensures_loaded?]
    cases loaded : w.loaded.get? t with
    | none => exact unchanged
    | some l =>
      dsimp only
      rw [ensures_discard]
      exact perform_accurate fades spares addons operation attached loaded accurate

/-- No create of a run finds a context in its slot that is built on an interface. -/
def Unshared (env : Env σ ν) (t : TableId) : List Move → World σ ν → Prop
  | [], _ => True
  | move :: moves, w =>
    ¬Replaced w move t ∧ ∀ u, step env move w = .ok () u → Unshared env t moves u

theorem run_accurate (fades : env.Fades) (spares : env.Spares)
    (addons : ∀ m, env.modules.native m = none) (moves : List Move)
    (attached : w.Attached env.modules) (accurate : w.Accurate (fun _ => False) stale)
    (kept : ∀ t, Unshared env t moves w ∨ stale t) :
    Ensures (run env moves) w (fun _ u => u.Accurate (fun _ => False) stale) fun _ _ => True := by
  induction moves generalizing w with
  | nil => exact accurate
  | cons move moves ih =>
    rw [run, ensures_bind]
    refine (((step_accurate fades spares addons move attached accurate).and
      (step_attached fades.toWanes spares move attached)).and (.eq _)).mono (fun _ u after => ?_)
      fun _ _ _ => True.intro
    obtain ⟨⟨accurate, attached, -⟩, ended⟩ := after
    refine ih attached (accurate.widen fun s either => ?_) ?_
    · -- An interface whose context is replaced later counts as stale from the start.
      rcases either with old | replaced
      · exact old
      · exact (kept s).resolve_left fun unshared => unshared.1 replaced
    · exact fun s => (kept s).imp_left fun unshared => unshared.2 u ended

theorem initial_accurate (memory : String → σ) (facade : Facade) (stale : TableId → Prop) :
    World.Accurate (fun _ => False) stale ({ memory, facade } : World σ ν) :=
  ⟨fun _ _ here => by simp at here, fun _ _ _ _ _ shown => by simp [handles?] at shown,
    fun _ _ shown => by simp [handles?] at shown⟩

/-- Whatever a host does with its addons, an interface shows the handle of the root and of the single
instance of the context that is built on it. If none is, it shows nothing, provided that no create
found a context in its slot that was built on that interface. -/
theorem run_shown (modules : Modules σ ν) (addons : ∀ m, modules.native m = none)
    (tame : modules.Follow .tame) (unloading : Bool) (depth : Nat) (memory : String → σ)
    (facade : Facade) (moves : List Move) :
    Ensures (run (Exports.env modules unloading depth) moves) { memory, facade }
      (fun _ w => ∀ t l, w.loaded.get? t = some l →
        (∀ m c, w.contexts.get? (.module m) = some c → c.root.site.table = t →
          l.handles = (some .root, c.single.map fun _ => .root)) ∧
        (l.handles = (none, none) ∨
          ∃ single : Option AddonType, l.handles = (some .root, single.map fun _ => .root)) ∧
        (Unshared (Exports.env modules unloading depth) t moves { memory, facade } →
          (∀ m c, w.contexts.get? (.module m) = some c → c.root.site.table ≠ t) →
          l.handles = (none, none)))
      fun stop _ => stop = .aborted := by
  have fades := Exports.env_fades tame unloading depth
  have spares := Exports.env_spares modules unloading depth
  have addons : ∀ m, (Exports.env modules unloading depth).modules.native m = none := by
    simpa using addons
  have start : World.Attached (Exports.env modules unloading depth).modules { memory, facade } :=
    initial_attached _ memory facade
  let Shared (t : TableId) : Prop :=
    ¬Unshared (Exports.env modules unloading depth) t moves { memory, facade }
  have accurate := run_accurate fades spares addons moves start
    (initial_accurate memory facade Shared) fun _ => Classical.em _
  have attached := run_ensures fades.quiet
    (fun move _ attached => step_attached fades.toWanes spares move attached) moves _ start
  refine (accurate.and attached).mono (fun _ w after => ?_) fun _ _ stopped => stopped.2
  obtain ⟨accurate, ⟨attached, -⟩⟩ := after
  intro t l loaded
  have shown : w.handles? t = some l.handles := by rw [handles?, loaded, Option.map_some]
  refine ⟨fun m c here table => ?_, accurate.proper t _ shown, fun unshared away => ?_⟩
  · subst table
    exact Option.some.inj (shown.symm.trans (accurate.shown _ c here id))
  · refine accurate.cleared t id (not_not_intro unshared) (fun seat c here => ?_) _ shown
    obtain ⟨m, rfl, -⟩ := attached.seated seat c here
    exact away m c here

/-- Two addons of one module: the second create replaces the context of the first, whose interface
goes on showing a root, even when it was destroyed itself. -/
theorem run_stale :
    ∃ w l, run (Exports.env Modules.decoders false 2)
        [.load ⟨0, 0⟩ "decoders" {} "decoders.so", .load ⟨1, 0⟩ "decoders" {} "decoders.so",
          .operate ⟨0, 0⟩ (.create "1.0"), .operate ⟨1, 0⟩ (.create "1.0"),
          .operate ⟨0, 0⟩ .destroy] { memory := fun _ => () } = .ok () w ∧
      w.loaded.get? ⟨0, 0⟩ = some l ∧ l.handles = (some .root, none) ∧
      ∀ seat c, w.contexts.get? seat = some c → c.root.site.table ≠ ⟨0, 0⟩ := by
  have ends : endsWith (run (Exports.env Modules.decoders false 2)
      [.load ⟨0, 0⟩ "decoders" {} "decoders.so", .load ⟨1, 0⟩ "decoders" {} "decoders.so",
        .operate ⟨0, 0⟩ (.create "1.0"), .operate ⟨1, 0⟩ (.create "1.0"),
        .operate ⟨0, 0⟩ .destroy]) { memory := fun _ => () } (fun _ w => w.contexts.isEmpty &&
      (w.loaded.get? ⟨0, 0⟩).any fun l => l.handles = (some .root, none)) := by
    decide +kernel
  obtain ⟨_, w, ended, read⟩ := exists_ended ends
  obtain ⟨empty, shown⟩ := Bool.and_eq_true_iff.mp read
  obtain ⟨l, loaded, shown⟩ := (Option.any_eq_true _ _).mp shown
  refine ⟨w, l, ended, loaded, of_decide_eq_true shown, fun seat c here => ?_⟩
  rw [List.isEmpty_iff.mp empty] at here
  exact absurd here nofun

/-- An addon shows its root while it is created, and nothing once it is destroyed. -/
theorem run_shown_decoders :
    let env := Exports.env Modules.decoders false 2
    let load : Move := .load ⟨0, 0⟩ "decoders" {} "decoders.so"
    let create : Move := .operate ⟨0, 0⟩ (.create "1.0")
    let destroy : Move := .operate ⟨0, 0⟩ .destroy
    let start : World Unit Unit := { memory := fun _ => () }
    (∃ w l, run env [load, create] start = .ok () w ∧ w.loaded.get? ⟨0, 0⟩ = some l ∧
      l.handles = (some .root, none)) ∧
    ∃ w l, run env [load, create, destroy] start = .ok () w ∧ w.loaded.get? ⟨0, 0⟩ = some l ∧
      l.handles = (none, none) := by
  have creates : endsWith (run (Exports.env Modules.decoders false 2)
      [.load ⟨0, 0⟩ "decoders" {} "decoders.so", .operate ⟨0, 0⟩ (.create "1.0")])
      { memory := fun _ => () } (fun _ w => (w.loaded.get? ⟨0, 0⟩).isSome &&
        (w.contexts.get? (.module "decoders")).any fun c =>
          c.root.site.table = ⟨0, 0⟩ ∧ c.single = none) := by
    decide +kernel
  have destroys : endsWith (run (Exports.env Modules.decoders false 2)
      [.load ⟨0, 0⟩ "decoders" {} "decoders.so", .operate ⟨0, 0⟩ (.create "1.0"),
        .operate ⟨0, 0⟩ .destroy]) { memory := fun _ => () }
      (fun _ v => (v.loaded.get? ⟨0, 0⟩).isSome && v.contexts.isEmpty) := by
    decide +kernel
  obtain ⟨_, w, created, read⟩ := exists_ended creates
  obtain ⟨_, v, destroyed, gone⟩ := exists_ended destroys
  intro env load create destroy start
  have tame := Modules.decoders_follow (p := .tame) fun _ _ => True.intro
  have shown := run_shown Modules.decoders (fun _ => rfl) tame false 2 (fun _ => ()) {}
  have ended {moves : List Move} {w : World Unit Unit} (h : run env moves start = .ok () w) :=
    (ensures_ok h).mp (shown moves)
  have unshared : Unshared env ⟨0, 0⟩ [load, create, destroy] start := by
    refine ⟨id, fun u loaded => ⟨?_, fun v _ => ⟨id, fun _ _ => True.intro⟩⟩⟩
    obtain ⟨-, rfl⟩ := EStateM.Result.ok.inj loaded
    rintro ⟨l, c, -, -, here, -⟩
    contradiction
  obtain ⟨shown, seated⟩ := Bool.and_eq_true_iff.mp read
  obtain ⟨l, loaded⟩ := Option.isSome_iff_exists.mp shown
  obtain ⟨c, here, built⟩ := (Option.any_eq_true _ _).mp seated
  obtain ⟨table, single⟩ := of_decide_eq_true built
  obtain ⟨shown', empty⟩ := Bool.and_eq_true_iff.mp gone
  obtain ⟨l', loaded'⟩ := Option.isSome_iff_exists.mp shown'
  refine ⟨⟨w, l, created, loaded, ?_⟩, ⟨v, l', destroyed, loaded', ?_⟩⟩
  · rw [(ended created ⟨0, 0⟩ l loaded).1 "decoders" c here table, single, Option.map_none]
  · refine (ended destroyed ⟨0, 0⟩ l' loaded').2.2 unshared fun m c here => ?_
    rw [List.isEmpty_iff.mp empty] at here
    exact absurd here nofun

end LoadedAddon

end AddonBridge
