import AddonBridge.Proofs.Stillness

/-!
# What a create constructs

An addon that was constructed has its context in the slot of its module and its functions in the
interface; otherwise the slots are as they were. The slot of a constructed addon is known whatever
code did meanwhile, and the rest where code entered no function.
-/

namespace AddonBridge

open Act World

variable {σ ν δ : Type} [Panics δ] {env : Env σ ν δ} {m : String} {w u v : World σ ν}
  {c : Context σ} {t : TableId} {api : Option CString}

namespace World

/-- A create has bound log records to its interface, and is about to construct an addon. -/
abbrev creating (w : World σ ν) (m : String) (t : TableId) (api : Option CString) : World σ ν :=
  (w.entered m (.create (some t) api)).boundTo t

/-- A context was built on an interface, and is not installed yet. -/
structure Built (m : String) (t : TableId) (c : Context σ) (w u : World σ ν) : Prop where
  shape : ∃ single, c = { root := ⟨⟨t, w.made t⟩, ⟨m, t⟩, single⟩ }
  busy : u.busy = w.busy
  shown : w.Shows u (.built ⟨t, w.made t⟩)

def Enrolled (m : String) (t : TableId) (w : World σ ν) : Prop :=
  ∃ l, w.loaded.get? t = some l ∧ l.addonTable = .full m

structure Mounting (m : String) (t : TableId) (c : Context σ) (w u : World σ ν) : Prop
    extends Built m t c w u where
  enrolled : u.Enrolled m t

def Registers (m : String) (t : TableId) (w u : World σ ν) : Prop :=
  ∃ l l', w.loaded.get? t = some l ∧ u.loaded.get? t = some l' ∧
    l'.core = { l.core with addonTable := .full m }

theorem Registers.before (same : w.SameCores u) (h : Registers m t u v) : Registers m t w v := by
  obtain ⟨l, l', here, there, core⟩ := h
  have same := same t
  rw [here] at same
  obtain ⟨l₀, first, core₀⟩ := Option.map_eq_some_iff.mp same.symm
  exact ⟨l₀, l', first, there, by rw [core, core₀]⟩

theorem Registers.after (h : Registers m t w u) (same : u.SameCores v) : Registers m t w v := by
  obtain ⟨l, l', here, there, core⟩ := h
  have same := same t
  rw [there] at same
  obtain ⟨l₁, last, core₁⟩ := Option.map_eq_some_iff.mp same
  exact ⟨l, l₁, here, last, core₁.trans core⟩

def Linked (t : TableId) (m : String) (w : World σ ν) : Prop :=
  ∃ l, w.loaded.get? t = some l ∧ l.isCreated ∧ l.addonTable = .full m

theorem Linked.kept (h : Linked t m w) (same : w.SameCores u) : Linked t m u := by
  obtain ⟨l, there, created, functions⟩ := h
  have same := same t
  rw [there] at same
  obtain ⟨l', there', core⟩ := Option.map_eq_some_iff.mp same
  exact ⟨l', there', (congrArg Loaded.isCreated core).trans created,
    (congrArg Loaded.addonTable core).trans functions⟩

theorem Linked.publish {base single : UInt64} (h : Linked t m w) :
    Linked t m { w with loaded := w.loaded.modify t fun l =>
      { l with addonBase := base, singleInstance := single } } := by
  obtain ⟨l, there, created, functions⟩ := h
  exact ⟨{ l with addonBase := base, singleInstance := single },
    by simp [Assoc.get?_modify, there], created, functions⟩

theorem Registers.linked (h : Registers m t w u)
    (created : ∀ l, w.loaded.get? t = some l → l.isCreated) : Linked t m u := by
  obtain ⟨l, l', here, there, core⟩ := h
  exact ⟨l', there, (congrArg Loaded.isCreated core).trans (created l here),
    congrArg Loaded.addonTable core⟩

end World

namespace Exports

theorem registerFunctions_registers :
    Ensures (registerFunctions m t) w
      (fun registered u => u.busy = w.busy ∧ u.trace = w.trace ∧
        (registered → Registers m t w u) ∧ (¬registered → u = w))
      fun _ _ => False := by
  rw [registerFunctions, ensures_bind, ensures_loaded?]
  cases here : w.loaded.get? t with
  | none => exact ⟨rfl, rfl, nofun, fun _ => rfl⟩
  | some l =>
    dsimp only
    rw [ensures_ite]
    refine ⟨fun _ => ?_, fun _ => ⟨rfl, rfl, nofun, fun _ => rfl⟩⟩
    rw [ensures_bind, ensures_modifyLoaded]
    refine ⟨rfl, rfl, fun _ => ⟨l, { l with addonTable := .full m }, here, ?_, rfl⟩, by simp⟩
    simp [Assoc.get?_modify, here]

theorem install_seats [IsEmpty δ] (tells : env.Tells) (free : m ∉ w.busy) :
    Ensures (install env m c) w
      (fun installed u => installed = true ∧ u.contexts.get? (.module m) = some c ∧
        w.IfStill SameCores u)
      fun e _ => e = .aborted := by
  have spares := tells.spares
  have grown : w.trace <:+ (w.seating m c).trace := List.suffix_cons _ _
  refine install_exits free (fun old _ => ?_) fun _ =>
    ⟨by simp [Assoc.get?_set], grown, fun _ _ => rfl⟩
  have quiet := Dispatch.dropContext_quiet spares.quiet old
  have spared := (Dispatch.dropContext_obeys (c := old) (spares.permits none)).ensures quiet
  have stirred := (Dispatch.dropContext_obeys (c := old) tells.permits).ensures quiet
  refine ((spared _).and (stirred _)).mono (fun _ v dropped u idle => ?_) fun _ _ stopped => stopped.1
  obtain ⟨spared, stirred⟩ := dropped
  refine ⟨?_, (grown.trans stirred.trace).trans idle.stirs.trace, fun still s => ?_⟩
  · rw [idle.contexts]
    exact spared.stays (s := .module m) List.mem_cons_self (by simp [Assoc.get?_set])
  · have stirred := stirred.holds ((still.left idle.stirs.trace).right grown)
    exact (idle.loaded s).trans (stirred.loaded s)

/-- What a create has constructed: a context without instances, in the slot of its module. -/
def Constructed (m : String) (t : TableId) (single : Option InstanceHandle) (c : Context σ)
    (u : World σ ν) : Prop :=
  u.contexts.get? (.module m) = some c ∧ c.root.site = ⟨m, t⟩ ∧ c.instances = {} ∧
    single = c.single.map fun _ => .root

theorem construct_installs [IsEmpty δ] (tells : env.Tells) (free : m ∉ w.busy) :
    Ensures (construct env m t api) w
      (fun built u => match built with
        | .ok single => ∃ c, Constructed m t single c u ∧ w.IfStill (Registers m t) u
        | .error _ => w.IfStill Stirs u)
      fun e u => e ≠ .aborted → w.IfStill Stirs u := by
  have spares := tells.spares
  have stirs {u v : World σ ν} (first : w.IfStill Stirs u) (second : u.IfStill Stirs v) :
      w.IfStill Stirs v := first.trans (fun _ _ _ => Stirs.trans) second
  have talk (u v : World σ ν) (idle : u.Idle v) (stirred : w.IfStill Stirs u) :
      w.IfStill Stirs v := stirs stirred (idle.ifStill.mono Idle.stirs)
  let fresh (c : Context σ) (u : World σ ν) :=
    (c.root.site = ⟨m, t⟩ ∧ c.instances = {}) ∧ m ∉ u.busy
  refine (construct_exits (F := w.IfStill Stirs) (B := fun c u => fresh c u ∧ w.IfStill Stirs u)
    (R := fun c u => fresh c u ∧ w.IfStill (Registers m t) u)
    (K := fun c u => u.contexts.get? (.module m) = some c ∧
      (c.root.site = ⟨m, t⟩ ∧ c.instances = {}) ∧ w.IfStill (Registers m t) u)
    talk (fun u idle => ?_) (fun c u ended => ?_) (fun c u ended => ?_)
    fun c u v ended idle => ?_).mono (fun built u ended => ?_) fun _ _ => id
  · refine ((Dispatch.build_obeys (spares.permits none) u).and
      ((Dispatch.build_obeys tells.permits u).and (Dispatch.build_shape env m t u))).mono
        (fun built v after => ?_) fun e v stopped going => ?_
    · obtain ⟨spared, stirred, shaped⟩ := after
      have stirred := stirs (idle.ifStill.mono Idle.stirs) stirred.returned
      cases built with
      | error e => exact stirred
      | ok c =>
        obtain ⟨single, rfl⟩ := shaped c rfl
        exact ⟨⟨⟨rfl, rfl⟩, by rwa [spared.returned.busy, idle.busy]⟩, stirred⟩
    · exact stirs (idle.ifStill.mono Idle.stirs) (stopped.2.1.stopped going)
  · obtain ⟨⟨shaped, free⟩, stirred⟩ := ended
    refine registerFunctions_registers.mono (fun registered v ended => ?_) fun _ _ => False.elim
    obtain ⟨busy, trace, registers, unchanged⟩ := ended
    split
    · next done =>
      refine ⟨⟨shaped, by rwa [busy]⟩, trace ▸ stirred.trace, fun still => ?_⟩
      exact .before (stirred.holds (still.left (trace ▸ List.suffix_rfl))).loaded (registers done)
    · next refused =>
      obtain rfl := unchanged refused
      exact ⟨⟨shaped, free⟩, stirred⟩
  · obtain ⟨⟨shaped, free⟩, registers⟩ := ended
    refine (install_seats tells free).mono ?_ fun e _ stopped going => absurd stopped going
    rintro _ v ⟨rfl, here, cores⟩
    refine ⟨here, shaped, registers.trace.trans cores.trace, fun still => ?_⟩
    exact (registers.holds (still.left cores.trace)).after (cores.holds (still.right registers.trace))
  · refine ((Dispatch.dropContext_obeys tells.permits).ensures
      (Dispatch.dropContext_quiet spares.quiet _) v).mono (fun _ x dropped => ?_)
        fun e _ stopped going => absurd stopped going
    exact stirs (talk u v idle ended.2) dropped
  · cases built with
    | ok single =>
      obtain ⟨c, single, here, ⟨site, bare⟩, registers⟩ := ended
      exact ⟨c, ⟨here, site, bare, single⟩, registers⟩
    | error status => exact ended

theorem install_refuses {S : Change σ ν} {p : Conduct σ} (permits : env.Permits S p)
    (busy : m ∈ w.busy) :
    Ensures (install env m c) w (fun installed u => installed = false ∧ S w none u)
      fun e u => S w (some e) u := by
  rw [install, ensures_bind, ensures_isBusy, ensures_ite]
  refine ⟨fun _ => ?_, fun free => absurd busy (by simpa using free)⟩
  refine Log.error_talks.before fun _ u idle => ?_
  rw [ensures_bind]
  have dropped := (Dispatch.dropContext_obeys permits (c := c)).continues permits.law
    (permits.talk w u idle)
  exact dropped.mono (fun _ _ ended => ⟨rfl, ended⟩) fun _ _ => id

/-- A slot that takes a context shows it in the trace; one in use leaves things as they were. -/
theorem install_shows [IsEmpty δ] {R : World σ ν → World σ ν → Prop} {p : Conduct σ} (spares : env.Spares)
    (permits : env.Permits (Change.unlessAborted R) p) :
    Ensures (install env m c) w
      (fun installed u => if installed then w.Shows u (.installed c.root.object) else R w u)
      fun e u => e ≠ .aborted → R w u := by
  by_cases busy : m ∈ w.busy
  · refine (install_refuses permits busy).mono ?_ fun _ _ stopped => stopped.stopped
    rintro _ u ⟨rfl, dropped⟩
    exact dropped.returned
  · have mark : w.Shows (w.seating m c) (.installed c.root.object) :=
      ⟨[_], rfl, List.mem_singleton.mpr rfl⟩
    refine (install_exits (P := fun u => w.Shows u (.installed c.root.object)) busy
      (fun old _ => ?_) fun _ => ?_).aborts ?_
    · have spared := (Dispatch.dropContext_obeys (c := old) (spares.permits none)).ensures
        (Dispatch.dropContext_quiet spares.quiet old)
      refine (spared _).mono (fun _ u dropped v idle => ?_) fun _ _ => id
      exact (mark.later dropped.trace).later idle.stirs.trace
    · exact mark
    · rintro _ u ⟨rfl, shown⟩
      exact shown

theorem build_shows (spares : env.Spares) :
    Ensures (Dispatch.build env m t) w
      (fun built u => ∀ c, built = .ok c → w.Shows u (.built ⟨t, w.made t⟩)) fun _ _ => True := by
  rw [Dispatch.build, ensures_bind, ensures_freshObject, ensures_bind, ensures_record, ensures_bind]
  have ran := Env.callback_obeys (spares.permits none).toKeeps m
    (Program.all_true ((env.modules.addon m).build ⟨m, t⟩))
  refine (ran _).mono (fun built u ended => ?_) fun _ _ _ => True.intro
  cases built with
  | error e => simp
  | ok single =>
    rw [ensures_bind, ensures_record]
    intro _ _
    obtain ⟨es, grown⟩ := ended.returned.trace
    refine ⟨.built ⟨t, w.made t⟩ :: es ++ [.building ⟨t, w.made t⟩ ⟨m, t⟩], ?_, ?_⟩
    · simp [← grown]
    · simp

/-- What a construct keeps to that a law permits, when the law allows registering functions once a root
was built, and what its install brings about. -/
theorem construct_keeps {R : World σ ν → World σ ν → Prop} {K : Context σ → World σ ν → Prop}
    {p : Conduct σ} (spares : env.Spares) (permits : env.Permits (Change.unlessAborted R) p)
    (registered : ∀ u, w.Shows u (.built ⟨t, w.made t⟩) → R w u →
      R w { u with loaded := u.loaded.modify t fun l => { l with addonTable := .full m } })
    (installs : ∀ c u, w.Mounting m t c u → R w u →
      Ensures (install env m c) u (fun installed v => if installed then K c v else R w v)
        fun e v => e ≠ .aborted → R w v) :
    Ensures (construct env m t api) w
      (fun built u => match built with
        | .ok single => ∃ c : Context σ, single = (c.single.map fun _ => .root) ∧ K c u
        | .error _ => R w u)
      fun e u => e ≠ .aborted → R w u := by
  have both {u v : World σ ν} (first : R w u) (second : R u v) : R w v :=
    Change.unlessAborted.returned (permits.law.trans (k := none) (fun _ => first) fun _ => second)
  have talk (u v : World σ ν) (idle : u.Idle v) (before : R w u) : R w v :=
    both before (permits.talk u v idle).returned
  let built (c : Context σ) (u : World σ ν) := w.Built m t c u ∧ R w u
  let mounting (c : Context σ) (u : World σ ν) := w.Mounting m t c u ∧ R w u
  refine construct_exits (B := built) (R := mounting) talk (fun u idle => ?_)
    (fun c u before => ?_) (fun c u before => installs c u before.1 before.2)
    fun c u v before idle => ?_
  · have begun := (permits.talk w u idle).returned
    have made : (⟨t, u.made t⟩ : ObjectId) = ⟨t, w.made t⟩ := by rw [idle.made]
    refine ((Dispatch.build_obeys permits u).and ((Dispatch.build_obeys (spares.permits none) u).and
      ((Dispatch.build_shape env m t u).and (build_shows spares)))).mono (fun built v after => ?_)
        fun e v stopped going => both begun (stopped.1.stopped going)
    obtain ⟨obeyed, spared, shaped, shown⟩ := after
    cases built with
    | error e => exact both begun obeyed.returned
    | ok c =>
      have shaped := shaped c rfl
      have shown := shown c rfl
      rw [made] at shaped shown
      exact ⟨⟨shaped, spared.returned.busy.trans idle.busy, shown.earlier idle.stirs.trace⟩,
        both begun obeyed.returned⟩
  · obtain ⟨fresh, before⟩ := before
    rw [registerFunctions, ensures_bind, ensures_loaded?]
    cases here : u.loaded.get? t with
    | none => exact ⟨fresh, before⟩
    | some l =>
      dsimp only
      rw [ensures_ite]
      refine ⟨fun _ => ?_, fun _ => ⟨fresh, before⟩⟩
      rw [ensures_bind, ensures_modifyLoaded]
      obtain ⟨shape, busy, shown⟩ := fresh
      refine ⟨⟨⟨shape, busy, shown⟩, { l with addonTable := .full m }, ?_, rfl⟩,
        registered u shown before⟩
      simp [Assoc.get?_modify, here]
  · have dropped := Dispatch.dropContext_obeys permits (c := c) v
    exact dropped.mono (fun _ _ gone => both (talk u v idle before.2) gone.returned)
      fun _ _ stopped going => both (talk u v idle before.2) (stopped.stopped going)

theorem construct_settles [IsEmpty δ] {R : World σ ν → World σ ν → Prop} {p : Conduct σ} (spares : env.Spares)
    (permits : env.Permits (Change.unlessAborted R) p)
    (registered : ∀ w : World σ ν, R w { w with
      loaded := w.loaded.modify t fun l => { l with addonTable := .full m } }) :
    Ensures (construct env m t api) w
      (fun built u => match built with
        | .ok _ => w.Shows u (.installed ⟨t, w.made t⟩)
        | .error _ => R w u)
      fun e u => e ≠ .aborted → R w u := by
  have both {u v : World σ ν} (first : R w u) (second : R u v) : R w v :=
    Change.unlessAborted.returned (permits.law.trans (k := none) (fun _ => first) fun _ => second)
  refine (construct_keeps (K := fun _ u => w.Shows u (.installed ⟨t, w.made t⟩)) spares permits
    (fun u _ before => both before (registered u)) fun c u mounting before => ?_).mono
      (fun built u ended => ?_) fun _ _ => id
  · refine (install_shows spares permits).mono (fun installed v after => ?_)
      fun e v stopped going => both before (stopped going)
    obtain ⟨single, rfl⟩ := mounting.shape
    split at after
    · next done =>
      rw [if_pos done]
      exact after.earlier mounting.shown.grown
    · next refused =>
      rw [if_neg refused]
      exact both before after
  · cases built with
    | ok single => exact ended.choose_spec.2
    | error status => exact ended

end Exports

/-! ### Relations that creates keep to -/

namespace World.Lenient

variable {R : World σ ν → World σ ν → Prop} {p : Conduct σ}

theorem install_keeps (lenient : Lenient R) (within : env.Within R p)
    (seats : m ∉ w.busy → R (w.inUse m) (w.seating m c)) :
    Ensures (Exports.install env m c) w
      (fun installed u => (installed → m ∉ w.busy) ∧ R w u)
      fun e u => e ≠ .aborted → R w u := by
  have permits := lenient.permits within
  by_cases busy : m ∈ w.busy
  · refine (Exports.install_refuses permits busy).mono ?_ fun _ _ stopped => stopped.stopped
    rintro _ u ⟨rfl, dropped⟩
    exact ⟨nofun, dropped.returned⟩
  · have seats := seats busy
    refine (Exports.install_ends (P := R w) (I := R w) busy (fun old _ => ?_) fun _ => ?_).mono
      (fun _ _ ended => ⟨fun _ => busy, ended.2⟩) fun _ _ => id
    · refine (Dispatch.dropContext_obeys (c := old) permits _).mono (fun _ u dropped v idle => ?_)
        fun e u stopped going => ?_
      · have gone := lenient.trans _ _ _ dropped.returned (lenient.stirs u v idle.stirs)
        exact lenient.released m w v busy (lenient.trans _ _ _ seats gone)
      · exact lenient.released m w u busy (lenient.trans _ _ _ seats (stopped.stopped going))
    · have released := lenient.released m w _ busy seats
      simpa using released

/-- What a create does to the world beside running code. Each part is within the relation if what went
before it is. -/
structure Creates (R : World σ ν → World σ ν → Prop) (m : String) (t : TableId) : Prop where
  registered : ∀ w u, w.Shows u (.built ⟨t, w.made t⟩) → R w u →
    R w { u with loaded := u.loaded.modify t fun l => { l with addonTable := .full m } }
  seated : ∀ (w u : World σ ν) c, w.Mounting m t c u → m ∉ u.busy →
    R (u.inUse m) (u.seating m c)
  published : ∀ w u single, m ∉ w.busy → R w u → R w (u.published t (some .root) single)

theorem Creates.ifEnters {allowed : String → EntryCall → Prop} (creates : Creates R m t) :
    Creates (IfEnters allowed R) m t where
  registered w u shown before :=
    ⟨before.trace, fun enters => creates.registered w u shown (before.holds enters)⟩
  seated w u c mounting free := ⟨List.suffix_cons _ _, fun _ => creates.seated w u c mounting free⟩
  published w u single free before :=
    ⟨before.trace, fun enters => creates.published w u single free (before.holds enters)⟩

/-- An addon's create keeps to a relation that has room for what it does beside running code. -/
theorem create_keeps (lenient : Lenient R) (within : env.Within R p) (spares : env.Spares)
    (bound : ∀ w t, R w (World.boundTo w t)) (addon : env.modules.native m = none)
    {table : Option TableId} (creates : ∀ t, table = some t → Creates R m t) :
    Obeys (Change.unlessAborted R) (Exports.call env m (.create table api)) := by
  have law := lenient.law
  have permits := lenient.permits within
  have told : Obeys (Change.unlessAborted R)
      (Exports.withSlot m "create" .unknown (Dispatch.create env (.module m))) :=
    Exports.withSlot_obeys (lenient.serves within)
      (Dispatch.create_obeys (lenient.tends within (.module m)))
  have created : Obeys (Change.unlessAborted R) (Exports.create env m table api) := by
    refine Exports.create_permitted permits.toKeeps (fun w t _ => bound w t)
      (fun w _ => lenient.unbound w) fun t same w => ?_
    have creates := creates t same
    refine (Exports.construct_keeps (K := fun _ u => m ∉ w.busy ∧ R w u) spares permits
      (creates.registered w) fun c u mounting before => ?_).mono (fun built u ended => ?_)
        fun e _ stopped going => stopped (by simpa using going)
    · have installs := lenient.install_keeps within (creates.seated w u c mounting)
      refine installs.mono (fun installed v ended => ?_) fun _ _ stopped going =>
        lenient.trans _ _ _ before (stopped going)
      obtain ⟨free, after⟩ := ended
      have after := lenient.trans _ _ _ before after
      split
      · next done => exact ⟨mounting.busy ▸ free done, after⟩
      · exact after
    · cases built with
      | error status => exact fun _ => ended
      | ok single =>
        obtain ⟨-, -, free, after⟩ := ended
        dsimp only
        rw [ensures_bind, Exports.publish, ensures_modifyLoaded]
        exact told.continues law fun _ => creates.published w u single free after
  intro w
  rw [Exports.ensures_call addon]
  exact Obeys.continues law (.bind law created fun _ => .pure law _)
    fun _ => lenient.stirs _ _ (.record rfl)

end World.Lenient

namespace Exports

theorem announced_obeys (spares : env.Spares) {single : Option InstanceHandle} :
    Obeys (Sparing none) (do
      publish t (some .root) single
      withSlot m "create" .unknown (Dispatch.create env (.module m)) : Act σ ν Status) :=
  .bind (Sparing.law none) (publish_obeys spares.opens) fun _ =>
    withSlot_obeys spares.opens.serves (Dispatch.create_obeys (spares.tends (.module m)))

/-- A create shows in the trace the root that it installed, or comes to what a construct that failed
leads to once log records do not go to the interface any more. -/
theorem create_settles [IsEmpty δ] {R : World σ ν → World σ ν → Prop} {J : World σ ν → Prop} {p : Conduct σ}
    (spares : env.Spares) (permits : env.Permits (Change.unlessAborted R) p)
    (registered : ∀ w : World σ ν, R w { w with
      loaded := w.loaded.modify t fun l => { l with addonTable := .full m } })
    (talk : ∀ u v, u.Idle v → J u → J v)
    (failed : ∀ u, R (w.boundTo t) u →
      J (if u.sink = some t then { u with sink := none } else u)) :
    Ensures (create env m (some t) api) w
      (fun _ u => w.Shows u (.installed ⟨t, w.made t⟩) ∨ J u) fun e _ => e = .aborted := by
  refine create_exits (fun u v idle settled => ?_) ?_
  · exact settled.imp (·.later idle.stirs.trace) (talk u v idle)
  · refine (construct_settles (w := w.boundTo t) spares permits registered).mono
      (fun built u settled => ?_) fun e u stopped going => .inr (failed u (stopped going))
    cases built with
    | error status => exact .inr (failed u settled)
    | ok single =>
      have shown : w.Shows u (.installed ⟨t, w.made t⟩) := settled
      exact (announced_obeys spares u).mono (fun _ _ after => .inl (shown.later after.returned.trace))
        fun _ _ stopped going => .inl (shown.later (stopped.stopped going).trace)

theorem created_links (tells : env.Tells) (free : m ∉ w.busy)
    (here : w.contexts.get? (.module m) = some c) {base single : Option InstanceHandle}
    {name : String} {default : Status} :
    Ensures (publish t base single >>= fun _ =>
        withSlot m name default (Dispatch.create env (.module m))) w
      (fun _ u => w.IfStill (fun w u => w.Linked t m → u.Linked t m) u)
      fun e u => e ≠ .aborted → w.IfStill (fun w u => w.Linked t m → u.Linked t m) u := by
  rw [ensures_bind, publish, ensures_modifyLoaded]
  refine withSlot_reaches free here (Ensures.holding ?_)
  have told : Obeys Stirring (Dispatch.create env (.module m)) :=
    Dispatch.withRoot_obeys tells.permits .created (·.created ·)
  refine (told _).mono (fun _ u ended => ?_) fun e u stopped going => ?_
  · exact ⟨ended.returned.trace, fun still linked =>
      linked.publish.kept (ended.returned.holds still).loaded⟩
  · have stopped := stopped.stopped going
    exact ⟨stopped.trace, fun still linked => linked.publish.kept (stopped.holds still).loaded⟩

/-- A create that finds its slot empty and leaves a context in it has registered the functions of the
module. -/
theorem create_links [IsEmpty δ] (tells : env.Tells) (free : m ∉ w.busy)
    (empty : w.contexts.get? (.module m) = none)
    (created : ∀ l, w.loaded.get? t = some l → l.isCreated) :
    Ensures (create env m (some t) api) w
      (fun _ u => w.IfStill (fun _ u => (u.contexts.get? (.module m)).isSome → u.Linked t m) u)
      fun e _ => e = .aborted := by
  let Links (u : World σ ν) : Prop :=
    w.IfStill (fun _ u => (u.contexts.get? (.module m)).isSome → u.Linked t m) u
  have talk (u v : World σ ν) (idle : u.Idle v) (links : Links u) : Links v :=
    ⟨links.trace.trans idle.stirs.trace, fun still here =>
      (links.holds (still.left idle.stirs.trace) (idle.contexts ▸ here)).kept idle.loaded⟩
  -- Whatever fails, the slot stays empty.
  have failed {u : World σ ν} (stirred : World.IfStill Stirs (w.boundTo t) u) :
      Links (if u.sink = some t then { u with sink := none } else u) := by
    have vacant (still : w.Still u) (here : (u.contexts.get? (.module m)).isSome) :
        u.Linked t m := by
      rw [(stirred.holds still).contexts, empty] at here
      contradiction
    split <;> exact ⟨stirred.trace, vacant⟩
  refine create_exits talk (((construct_installs (w := w.boundTo t) tells free).and
    (construct_obeys tells.spares.opens (w.boundTo t))).mono (fun built u after => ?_)
      fun e u stopped going => failed (stopped.1 going))
  obtain ⟨constructed, spared⟩ := after
  cases built with
  | error status => exact failed constructed
  | ok single =>
    obtain ⟨c, ⟨here, -⟩, registers⟩ := constructed
    have released : m ∉ u.busy := by rwa [spared.returned.busy]
    have linked {v : World σ ν} (links : u.IfStill (fun u v => u.Linked t m → v.Linked t m) v) :
        Links v :=
      ⟨List.IsSuffix.trans registers.trace links.trace, fun still _ =>
        links.holds (still.right registers.trace)
          ((registers.holds (still.left links.trace)).linked created)⟩
    exact (created_links tells released here).mono (fun _ _ => linked)
      fun e v stopped going => linked (stopped going)

end Exports

end AddonBridge
