import AddonBridge.Proofs.Refusal
import AddonBridge.Proofs.Registration

/-!
# What a successful create founds

A create that answers that all is well leaves a created addon behind, except for one whose root failed
to be built with just that status. `create_founds` says so, and that the next call of its host comes to
the root; `create_unfounded` shows the exception.
-/

namespace AddonBridge

open Act World

variable {σ ν : Type} {env : Env σ ν} {modules : Modules σ ν} {m n : String} {w u v : World σ ν}
  {t s : TableId}

/-- Of the calls that create addons, one that creates a module's own addon, or an addon on another
interface. -/
def EntryCall.Respects (modules : Modules σ ν) (m : String) (t : TableId) (n : String)
    (c : EntryCall) : Prop :=
  ∀ s api, c = .create s api → modules.native n = none ∧ (s = some t → n = m)

namespace World

/-- Contexts that are built on an interface are in one module's slot. -/
def Sole (m : String) (t : TableId) (w : World σ ν) : Prop :=
  ∀ seat c, w.contexts.get? seat = some c → c.root.site.table = t → seat = .module m

theorem Enrolled.relinked {g : Loaded → Loaded} (h : w.Enrolled m t)
    (same : s = t → ∀ l : Loaded, l.addonTable = .full m → (g l).addonTable = .full m) :
    Enrolled m t { w with loaded := w.loaded.modify s g } := by
  obtain ⟨l, loaded, functions⟩ := h
  rw [Enrolled]
  dsimp only
  rw [Assoc.get?_modify, loaded]
  split
  · next here => exact ⟨g l, rfl, same here l functions⟩
  · exact ⟨l, rfl, functions⟩

/-- What stays of an interface whose context is in a module's slot, when no other module creates an
addon on it: its functions, and while the slot is in use, the handles that it shows. -/
structure Upholds (m : String) (t : TableId) (w u : World σ ν) : Prop where
  busy : u.busy = w.busy
  sole : w.Sole m t → u.Sole m t
  enrolled : w.Enrolled m t → u.Enrolled m t
  handles : w.Sole m t → m ∈ w.busy → u.handles? t = w.handles? t

theorem Upholds.of_sited (busy : u.busy = w.busy) (loaded : u.loaded = w.loaded)
    (sited : w.Sited u) : Upholds m t w u where
  busy := busy
  sole sole seat c here table := by
    obtain ⟨c', earlier, site⟩ := sited seat c here
    exact sole seat c' earlier (by rw [site, table])
  enrolled h := by rwa [Enrolled, loaded]
  handles _ _ := by rw [handles?, loaded, handles?]

theorem Upholds.apart (busy : u.busy = w.busy) (loaded : u.loaded = w.loaded)
    (contexts : u.contexts = w.contexts) : Upholds m t w u :=
  .of_sited busy loaded (.same contexts)

theorem Upholds.trans (first : Upholds m t w u) (second : Upholds m t u v) : Upholds m t w v where
  busy := second.busy.trans first.busy
  sole sole := second.sole (first.sole sole)
  enrolled h := second.enrolled (first.enrolled h)
  handles sole running :=
    (second.handles (first.sole sole) (first.busy ▸ running)).trans (first.handles sole running)

theorem Upholds.relinked {g : Loaded → Loaded}
    (enrolled : s = t → ∀ l : Loaded, l.addonTable = .full m → (g l).addonTable = .full m)
    (handles : w.Sole m t → m ∈ w.busy → s = t → ∀ l, (g l).handles = l.handles) :
    Upholds m t w { w with loaded := w.loaded.modify s g } where
  busy := rfl
  sole := id
  enrolled h := h.relinked enrolled
  handles sole running := by
    by_cases same : s = t
    · exact handles?_modify (handles sole running same) t
    · rw [handles?]
      dsimp only
      rw [Assoc.get?_modify, if_neg same, handles?]

theorem Stirs.upholds (h : w.Stirs u) : Upholds m t w u where
  busy := h.busy
  sole sole seat c here := sole seat c (h.contexts ▸ here)
  enrolled := by
    rintro ⟨l, loaded, functions⟩
    have same := h.loaded t
    rw [loaded] at same
    obtain ⟨l', loaded', core⟩ := Option.map_eq_some_iff.mp same
    exact ⟨l', loaded', (congrArg Loaded.addonTable core).trans functions⟩
  handles _ _ := handles?_congr h.loaded t

theorem Upholds.lenient : Lenient (Upholds m t : World σ ν → World σ ν → Prop) where
  refl _ := .apart rfl rfl rfl
  trans _ _ _ := .trans
  stirs _ _ := Stirs.upholds
  raised _ _ := .apart rfl rfl rfl
  marked _ _ := .relinked (fun _ _ => id) fun _ _ _ _ => rfl
  reseat _ _ _ _ here _ site _ := .of_sited rfl rfl (.reseated here site)
  released n w u _ h :=
    ⟨by simp [h.busy], h.sole, h.enrolled, fun sole running =>
      h.handles sole (List.mem_cons_of_mem _ running)⟩
  moved _ _ _ := .apart rfl rfl rfl
  emptied w n _ := .of_sited rfl rfl (.erased w (.module n))
  withdrawn w n c u free here h := by
    have emptied : Upholds m t w { w with contexts := w.contexts.erase (.module n) } :=
      .of_sited rfl rfl (.erased w (.module n))
    have before := emptied.trans h
    refine ⟨before.busy, before.sole, fun enrolled =>
      (before.enrolled enrolled).relinked fun _ _ => id, fun sole running => ?_⟩
    -- The context that went was not in the slot that is in use, so it was built elsewhere.
    have other : c.root.site.table ≠ t := by
      intro same
      obtain ⟨⟩ := sole (.module n) c here same
      exact free running
    rw [handles?_publish, if_neg other, before.handles sole running]
  unbound _ := .apart rfl rfl rfl

theorem Upholds.creates (own : s = t → n = m) :
    Lenient.Creates (Upholds m t : World σ ν → World σ ν → Prop) n s where
  registered w u _ before :=
    before.trans (.relinked (fun same _ _ => by rw [own same]) fun _ _ _ _ => rfl)
  seated w u c mounting _ := by
    refine ⟨rfl, fun sole seat d here table => ?_, id, fun _ _ => rfl⟩
    dsimp only at here
    rw [Assoc.get?_set] at here
    split at here
    · next at_slot =>
      cases here
      obtain ⟨single, rfl⟩ := mounting.shape
      rw [← at_slot, own table]
    · exact sole seat d here table
  published w u single free before := by
    refine before.trans (.relinked (fun _ _ => id) fun _ running same => ?_)
    exact absurd (before.busy ▸ own same ▸ running) free

abbrev Upheld (modules : Modules σ ν) (m : String) (t : TableId) : World σ ν → World σ ν → Prop :=
  IfEnters (EntryCall.Respects modules m t) (Upholds m t)

theorem Upheld.lenient : Lenient (Upheld modules m t) := Upholds.lenient.ifEnters

theorem Upheld.creates (own : s = t → n = m) : Lenient.Creates (Upheld modules m t) n s :=
  (Upholds.creates own).ifEnters

structure Housed (m : String) (t : TableId) (c : Context σ) (w u : World σ ν) : Prop where
  here : u.contexts.get? (.module m) = some c
  object : c.root.object = ⟨t, w.made t⟩
  site : c.root.site = ⟨m, t⟩
  free : m ∉ u.busy

/-- An addon was created: its context is in its slot, and unless code created another module's addon on
its interface, that one shows the handles and has the functions. -/
structure Founded (modules : Modules σ ν) (m : String) (t : TableId) (c : Context σ)
    (w u : World σ ν) : Prop extends Housed m t c w u where
  shown : w.Sole m t → w.Enters (EntryCall.Respects modules m t) u →
    u.Enrolled m t ∧ u.handles? t = some c.handles

end World

/-- Code leaves alone what an addon's interface shows while its slot is in use, unless it creates another
module's addon on it. -/
structure Env.Upholds (env : Env σ ν) (m : String) (t : TableId) : Prop where
  tells : env.Tells
  within : env.Within (Upheld env.modules m t) {}

namespace Exports

theorem env_upholds (modules : Modules σ ν) (unloading : Bool) (depth : Nat) (m : String)
    (t : TableId) : (Exports.env modules unloading depth).Upholds m t where
  tells := env_tells modules unloading depth
  within := by
    rw [env_modules]
    refine Upheld.lenient.env_within (fun depth within n s api => ?_) depth
    have spares := env_spares modules unloading depth
    by_cases respects : EntryCall.Respects modules m t n (.create s api)
    · obtain ⟨addon, own⟩ := respects s api rfl
      refine Upheld.lenient.create_keeps within spares
        (fun _ _ => ⟨List.suffix_rfl, fun _ => .apart rfl rfl rfl⟩) (by rwa [env_modules])
        fun s' same => ?_
      subst same
      exact Upheld.creates fun same => own (congrArg some same)
    · exact call_disallowed spares respects

/-- A construct that fails and still says that all is well was told so by the addon. -/
theorem construct_fails_ok {api : Option CString}
    (h : construct env m t api w = .ok (.error .ok) u) :
    ∃ v x, Log.debug ("Creating addon for host API version '" ++ CString.textOrEmpty api ++ "'") w =
        .ok () v ∧ Dispatch.build env m t v = .ok (.error (.status .ok)) x := by
  unfold construct at h
  obtain ⟨_, v, said, h⟩ := bind_ok h
  obtain ⟨built, x, ran, h⟩ := bind_ok h
  cases built with
  | error e =>
    obtain ⟨_, _, _, h⟩ := bind_ok h
    cases e with
    | status s =>
      obtain ⟨⟩ := h
      exact ⟨v, x, said, ran⟩
    | _ => cases h
  | ok c =>
    obtain ⟨registered, _, _, h⟩ := bind_ok h
    split at h
    · obtain ⟨installed, _, _, h⟩ := bind_ok h
      split at h <;> cases h
    · obtain ⟨_, _, _, h⟩ := bind_ok h
      obtain ⟨_, _, _, h⟩ := bind_ok h
      cases h

theorem construct_founds (upholds : env.Upholds m t) {api : Option CString} :
    Ensures (construct env m t api) w
      (fun built u => ∀ single, built = .ok single →
        ∃ c : Context σ, single = (c.single.map fun _ => .root) ∧ w.Housed m t c u ∧
          w.IfEnters (EntryCall.Respects env.modules m t)
            (fun w u => w.Sole m t → u.Sole m t ∧ u.Enrolled m t) u)
      fun _ _ => True := by
  have spares := upholds.tells.spares
  have creates : Lenient.Creates (Upheld env.modules m t) m t := Upheld.creates fun _ => rfl
  let founds (c : Context σ) (u : World σ ν) : Prop :=
    w.Housed m t c u ∧ w.IfEnters (EntryCall.Respects env.modules m t)
      (fun w u => w.Sole m t → u.Sole m t ∧ u.Enrolled m t) u
  refine (construct_keeps (R := Upheld env.modules m t) (K := founds) spares
    (Upheld.lenient.permits upholds.within) (creates.registered w)
    fun c u mounting before => ?_).mono (fun built u ended => ?_) fun _ _ _ => True.intro
  · have kept := Upheld.lenient.install_keeps upholds.within
      (creates.seated w u c mounting)
    by_cases busy : m ∈ u.busy
    · refine kept.mono (fun installed v ended => ?_) fun _ _ stopped going =>
        Upheld.lenient.trans _ _ _ before (stopped going)
      obtain ⟨free, after⟩ := ended
      rw [if_neg fun done => free done busy]
      exact Upheld.lenient.trans _ _ _ before after
    · refine ((install_seats upholds.tells busy).and (kept.and
        (install_obeys spares.opens u))).mono (fun installed v ended => ?_) fun _ _ stopped going =>
          absurd stopped.1 going
      obtain ⟨⟨rfl, here, -⟩, ⟨-, after⟩, spared⟩ := ended
      obtain ⟨single, rfl⟩ := mounting.shape
      refine ⟨⟨here, rfl, rfl, ?_⟩, before.trace.trans after.trace, fun enters sole => ?_⟩
      · rwa [spared.returned.busy]
      · have upheld := after.holds (enters.right before.trace)
        exact ⟨upheld.sole ((before.holds (enters.left after.trace)).sole sole),
          upheld.enrolled mounting.enrolled⟩
  · rintro single rfl
    exact ended

theorem created_founds (upholds : env.Upholds m t) {c : Context σ} (free : m ∉ w.busy)
    (here : w.contexts.get? (.module m) = some c) {single : Option InstanceHandle} :
    Ensures (publish t (some .root) single >>= fun _ =>
        withSlot m "create" .unknown (Dispatch.create env (.module m))) w
      (fun _ u => u.contexts.get? (.module m) = some c ∧ u.busy = w.busy ∧
        w.IfEnters (EntryCall.Respects env.modules m t) (fun w u => w.Sole m t → w.Enrolled m t →
          u.Enrolled m t ∧ u.handles? t = some (some .root, single)) u)
      fun _ _ => True := by
  have spares := upholds.tells.spares
  rw [ensures_bind, publish, ensures_modifyLoaded]
  refine withSlot_reaches free here ((Ensures.holding (I := fun _ => True) ?_).mono (fun _ _ => id)
    fun _ _ _ => True.intro)
  have spared : Obeys (Sparing none) (Dispatch.create env (.module m)) :=
    Dispatch.withRoot_obeys (spares.permits none) .created (·.created ·)
  have upheld : Obeys (Change.unlessAborted (Upheld env.modules m t))
      (Dispatch.create env (.module m)) :=
    Dispatch.withRoot_obeys (Upheld.lenient.permits upholds.within) .created
      (·.created ·)
  refine ((spared _).and (upheld _)).mono (fun _ u ended => ?_) fun _ _ _ _ => True.intro
  obtain ⟨spared, upheld⟩ := ended
  have spared := spared.returned
  have upheld := upheld.returned
  refine ⟨spared.stays (s := .module m) List.mem_cons_self here, ?_, upheld.trace,
    fun enters sole enrolled => ?_⟩
  · simp [spared.busy]
  · have upheld := upheld.holds enters
    refine ⟨upheld.enrolled (enrolled.relinked fun _ _ => id), ?_⟩
    obtain ⟨l, loaded, -⟩ := enrolled
    have shown : (w.published t (some .root) single).handles? t = some (some .root, single) := by
      rw [handles?_publish, if_pos rfl, handles?, loaded, Option.map_some, Option.map_some]
    exact (upheld.handles sole List.mem_cons_self).trans shown

/-- The root of an addon was not built, and the error that says why says that all is well. -/
def FailsOk (env : Env σ ν) (m : String) (t : TableId) (api : Option CString) (w : World σ ν) :
    Prop :=
  ∃ v x, Log.debug ("Creating addon for host API version '" ++ CString.textOrEmpty api ++ "'")
      (w.creating m t api) = .ok () v ∧ Dispatch.build env m t v = .ok (.error (.status .ok)) x

theorem create_ok (upholds : ∀ t, env.Upholds m t) (addon : env.modules.native m = none)
    (table : Option TableId) (api : Option CString) (w : World σ ν) :
    Ensures (call env m (.create table api)) w
      (fun answer u => ∃ status : Status, answer = .status status.toRaw ∧
        (status = .ok → ∃ t, table = some t ∧
          (FailsOk env m t api w ∨ ∃ c, w.Founded env.modules m t c u)))
      fun e _ => e = .aborted := by
  rw [ensures_call addon, callAddon, ensures_bind]
  refine Ensures.mono (Q := fun status u => status = .ok → ∃ t, table = some t ∧
    (FailsOk env m t api w ∨ ∃ c, w.Founded env.modules m t c u)) (guard_ensures ?_)
    (fun status _ ended => ⟨status, rfl, ended⟩) fun _ _ => id
  cases table with
  | none => exact Log.error_talks.before fun _ _ _ => by simp
  | some t =>
    dsimp only
    rw [ensures_bind, ensures_discard, Log.ensures_install, ensures_bind, ensures_setSink, ensures_bind,
      ensures_observe]
    refine ((construct_founds (upholds t)).and (Ensures.eq _)).mono (fun built u ended => ?_)
      fun e u _ => ?_
    · obtain ⟨founds, ran⟩ := ended
      cases built with
      | ok single =>
        obtain ⟨c, rfl, housed, kept⟩ := founds single rfl
        refine (created_founds (upholds t) housed.free housed.here).mono (fun status v after _ => ?_)
          fun _ _ _ _ _ _ => by simp
        obtain ⟨here, busy, told⟩ := after
        refine ⟨t, rfl, .inr ⟨c, ⟨here, housed.object, housed.site, busy ▸ housed.free⟩,
          fun sole enters => ?_⟩⟩
        have enters : (w.creating m t api).Enters (EntryCall.Respects env.modules m t) v :=
          enters.right (List.suffix_cons _ _)
        obtain ⟨sole, enrolled⟩ := kept.holds (enters.left told.trace) sole
        exact told.holds (enters.right kept.trace) sole enrolled
      | error status =>
        dsimp only
        rw [ensures_bind, ensures_unbind]
        rintro rfl
        exact ⟨t, rfl, .inl (construct_fails_ok ran)⟩
    · cases e with
      | aborted => exact fun going => absurd rfl going
      | unwinding p => simp

end Exports

namespace LoadedAddon

theorem status_founded (spares : env.Spares) {c : Context σ} (addon : env.modules.native m = none)
    (founded : w.Founded env.modules m t c u)
    (standing : (u.loaded.get? t).map Loaded.standing = some (m, true)) (sole : w.Sole m t)
    (enters : w.Enters (EntryCall.Respects env.modules m t) u) :
    ∃ l, u.loaded.get? t = some l ∧
      Ensures (status env l) u (fun _ v => u.Shows v (.called c.root.object .status))
        fun e _ => e = .aborted := by
  obtain ⟨⟨l, loaded, functions⟩, -⟩ := founded.shown sole enters
  rw [loaded, Option.map_some, Option.some.injEq] at standing
  obtain ⟨rfl, created⟩ := Prod.mk.inj standing
  have found : registered l .getStatus = .ok l.module := by
    simp [registered, created, functions, AddonTable.full]
  refine ⟨l, loaded, ?_⟩
  rw [status, found, ensures_bind]
  change Ensures (send env (.ok (l.module, .status))) u _ _
  rw [send, ensures_bind]
  exact Exports.status_reaches spares addon ⟨founded.free, c, founded.here, rfl⟩

/-- A create of an addon that answers that all is well has left its context in the slot of its module,
unless the root could not be built and the error said just that. If no other context is built on the
interface and code created no other module's addon on it, it shows the handles of the context and has
every function of the module. Likewise for the operation of a host, whose next operation then comes to
the root. -/
theorem create_founds (modules : Modules σ ν) (unloading : Bool) (depth : Nat) :
    (∀ (m : String), modules.native m = none →
      ∀ (w : World σ ν) (table : Option TableId) (api : Option CString),
      Ensures (Exports.call (Exports.env modules unloading depth) m (.create table api)) w
        (fun answer u => answer = .status Status.ok.toRaw → ∃ t, table = some t ∧
          (Exports.FailsOk (Exports.env modules unloading depth) m t api w ∨
            ∃ c, w.Founded modules m t c u))
        fun stop _ => stop = .aborted) ∧
    ∀ (w : World σ ν) (t : TableId) (l : Loaded) (api : String), w.loaded.get? t = some l →
      modules.native l.module = none →
      Ensures (create (Exports.env modules unloading depth) t l api) w
        (fun answer u => answer = .ok .ok →
          (∃ api', CString.ofText? api = some api' ∧
            Exports.FailsOk (Exports.env modules unloading depth) l.module t (some api')
              { w with loaded := w.loaded.modify t fun l => { l with isCreated := true } }) ∨
          ∃ c, w.Founded modules l.module t c u ∧
            (w.Sole l.module t → w.Enters (EntryCall.Respects modules l.module t) u →
              ∃ l', u.loaded.get? t = some l' ∧
                Ensures (status (Exports.env modules unloading depth) l') u
                  (fun _ v => u.Shows v (.called c.root.object .status))
                  fun stop _ => stop = .aborted))
        fun stop _ => stop = .aborted := by
  have upholds (m : String) := Exports.env_upholds modules unloading depth m
  have addons {m : String} (addon : modules.native m = none) :
      (Exports.env modules unloading depth).modules.native m = none := by
    rwa [Exports.env_modules]
  refine ⟨fun m addon w table api => ?_, fun w t l api loaded addon => ?_⟩
  · refine (Exports.create_ok (upholds m) (addons addon) table api w).mono (fun answer u ended => ?_)
      fun _ _ => id
    rw [Exports.env_modules] at ended
    obtain ⟨status, rfl, founds⟩ := ended
    intro ok
    have same : status.toRaw = Status.ok.toRaw := CallAnswer.status.inj ok
    exact founds (by rw [← Status.ofRaw_toRaw status, same, Status.ofRaw_toRaw])
  · rw [create, ensures_ite]
    refine ⟨fun _ => by simp, fun _ => ?_⟩
    split
    · simp
    · next api' crossed =>
      rw [ensures_bind, ensures_modifyLoaded, ensures_bind]
      have spares := Exports.env_spares modules unloading depth
      have enrols := Exports.env_enrols modules unloading depth t
      refine ((Exports.create_ok (upholds l.module) (addons addon) (some t) (some api') _).and
        (Exports.call_enrols enrols spares l.module _ _)).mono (fun answer u ended => ?_)
          fun _ _ stopped => stopped.1
      rw [Exports.env_modules] at ended
      obtain ⟨⟨status, rfl, founds⟩, standing⟩ := ended
      intro ok
      have same : Status.ofRaw status.toRaw = .ok := Except.ok.inj ok
      obtain ⟨_, ⟨⟩, fails | ⟨c, founded⟩⟩ := founds (by rwa [Status.ofRaw_toRaw] at same)
      · exact .inl ⟨api', crossed, fails⟩
      · have kept : (u.loaded.get? t).map Loaded.standing = some (l.module, true) := by
          rw [standing.returned.standing t]
          simp [Assoc.get?_modify, loaded, Loaded.standing]
        refine .inr ⟨c, ⟨⟨founded.here, founded.object, founded.site, founded.free⟩,
          founded.shown⟩, fun sole enters => ?_⟩
        rw [← Exports.env_modules modules unloading depth] at founded enters
        exact status_founded spares (addons addon) founded kept sole enters

theorem create_founds_decoders :
    let env := Exports.env Modules.decoders false 2
    let blank : Loaded := { module := "decoders", libPath := .empty, host := {}, hostTable := none }
    let w : World Unit Unit := { memory := fun _ => (), loaded := [(⟨0, 0⟩, blank)] }
    Modules.decoders.native "decoders" = none ∧ w.loaded.get? ⟨0, 0⟩ = some blank ∧
    (∃ u c, Exports.call env "decoders" (.create (some ⟨0, 0⟩) none) w =
      .ok (.status Status.ok.toRaw) u ∧ w.Founded Modules.decoders "decoders" ⟨0, 0⟩ c u) ∧
    ∃ u c, create env ⟨0, 0⟩ blank "1.0" w = .ok (.ok .ok) u ∧
      w.Founded Modules.decoders "decoders" ⟨0, 0⟩ c u := by
  intro env blank w
  refine ⟨rfl, rfl, ?_⟩
  obtain ⟨called, operated⟩ := create_founds Modules.decoders false 2
  have called := called "decoders" rfl w (some ⟨0, 0⟩) none
  have operated := operated w ⟨0, 0⟩ blank "1.0" rfl rfl
  obtain ⟨u, answered⟩ : ∃ u, Exports.call env "decoders" (.create (some ⟨0, 0⟩) none) w =
    .ok (.status Status.ok.toRaw) u := ⟨_, rfl⟩
  obtain ⟨u', answered'⟩ : ∃ u, create env ⟨0, 0⟩ blank "1.0" w = .ok (.ok .ok) u := ⟨_, rfl⟩
  constructor
  · obtain ⟨_, ⟨⟩, ⟨_, _, _, built⟩ | ⟨c, founded⟩⟩ := (ensures_ok answered).mp called rfl
    · cases built
    · exact ⟨u, c, answered, founded⟩
  · obtain ⟨_, _, _, _, _, built⟩ | ⟨c, founded, -⟩ := (ensures_ok answered').mp operated rfl
    · cases built
    · exact ⟨u', c, answered', founded⟩

/-- An addon whose root cannot be built because all is well. -/
theorem create_unfounded :
    let modules : Modules Unit Unit :=
      { addon := fun _ => { build := fun _ => .done (.error (.status .ok)) } }
    let env := Exports.env modules false 2
    let t : TableId := ⟨0, 0⟩
    ∃ w u l, run env [.load t "calm" {} "calm.so"] { memory := fun _ => () } = .ok () w ∧
      w.loaded.get? t = some l ∧ create env t l "1.0" w = .ok (.ok .ok) u ∧
      u.contexts.get? (.module "calm") = none ∧ u.handles? t = some (none, none) ∧
      ∀ f, ¬u.Has t f := by
  intro modules env t
  exact ⟨_, _, _, rfl, rfl, rfl, rfl, rfl, fun f => nofun⟩

end LoadedAddon

end AddonBridge
