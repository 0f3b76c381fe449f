import AddonBridge.Proofs.Creation
import AddonBridge.Proofs.Handles

/-!
# Contexts with a single instance

A context whose root declares a single instance gives no instance back: what is registered stays, and
the root's descriptor keeps the first identifier that it gets. `single_stays` says so of every run.
-/

namespace AddonBridge

open Act World

variable {σ ν : Type} {w u v : World σ ν} {env : Env σ ν} {seat : Seat} {c : Context σ}

/-- A context is in a seat that nothing but its own requests writes. -/
structure World.Hosts (w : World σ ν) (seat : Seat) (c : Context σ) : Prop where
  held : w.Holds seat
  here : w.contexts.get? seat = some c

theorem World.Hosts.spared (has : w.Hosts seat c) (spared : Spares none w u) : u.Hosts seat c :=
  ⟨has.held.of_busy spared.busy, spared.stays has.held has.here⟩

namespace Dispatch

/-! ### Requests for instances -/

/-- What an answered request for an instance did to the context: nothing, or its handle is the root's
and the single instance was stamped, or a new instance was registered under its handle. -/
inductive Extends (c : Context σ) (ty : AddonType) (id : String) :
    Option InstanceHandle → Context σ → Prop where
  | refused : Extends c ty id none c
  | stamped (d : Descriptor) (single : c.root.single = some d) (fits : d.instanceType = ty) :
    Extends c ty id (some .root) { c with root := { c.root with single := some (d.stamp id) } }
  | registered (i : Instance σ) :
    Extends c ty id (some c.instances.next) { c with instances := c.instances.insert i }

theorem register_effect (spares : env.Spares) (held : w.Holds seat)
    (here : w.contexts.get? seat = some c) (i : Instance σ) :
    Ensures (register env seat i) w
      (fun h u => h = some c.instances.next ∧ w.trace <:+ u.trace ∧
        u.contexts.get? seat = some { c with instances := c.instances.insert i })
      fun e _ => e = .aborted := by
  have permits := spares.permits none
  rw [register, withContext, ensures_bind, ensures_context?, here]
  dsimp only
  rw [ensures_bind, ensures_setContext]
  split
  · next replaced _ =>
    rw [ensures_bind]
    refine ((dropInstance_obeys permits).ensures (dropInstance_quiet spares.quiet _ replaced)
      _).mono (fun _ u spared => ?_) fun _ _ => id
    refine ⟨rfl, spared.trace, ?_⟩
    rw [spared.kept held]
    simp [Assoc.get?_set]
  · exact ⟨rfl, List.suffix_rfl, by simp [Assoc.get?_set]⟩

theorem register_has (spares : env.Spares) (has : w.Hosts seat c) (i : Instance σ) :
    Ensures (register env seat i) w
      (fun h u => h = some c.instances.next ∧
        u.Hosts seat { c with instances := c.instances.insert i })
      fun e _ => e = .aborted := by
  refine ((register_effect spares has.held has.here i).and
    (register_obeys (spares.tends seat) w)).mono (fun h u ended => ?_) fun _ _ => And.left
  obtain ⟨⟨given, -, after⟩, spared⟩ := ended
  exact ⟨given, has.held.of_busy spared.returned.busy, after⟩

theorem Offer.drop_spares (spares : env.Spares) (site : Site) (o : Offer σ) (w : World σ ν) :
    Ensures (o.drop env site) w (fun _ u => Spares none w u) fun e _ => e = .aborted :=
  (Offer.drop_obeys (spares.permits none)).ensures (Offer.drop_quiet spares.quiet site o) w

theorem settle_extends (spares : env.Spares) (has : w.Hosts seat c) (site : Site) (r : Request)
    (o : Offer σ) :
    Ensures (settle env seat site r o) w
      (fun answer v => ∃ c', v.Hosts seat c' ∧ Extends c r.instanceType r.id answer.2 c')
      fun e v => e ≠ .aborted → v.Hosts seat c := by
  refine settle_exits has.here (fun _ u idle => ?_) (fun d _ => ?_)
    (fun i _ _ _ u idle => ?_) fun d _ _ single fits u idle => ?_
  · refine (Offer.drop_spares spares site o u).aborts fun _ v spared => ?_
    exact ⟨c, (has.spared idle.stirs.spares).spared spared, .refused⟩
  · refine Ensures.after (Q := fun _ _ => False) (J := (·.Hosts seat c)) ?_ (fun _ _ => False.elim)
      fun u has => ?_
    · refine (Log.raise_ensures d w).mono (fun _ _ => id) fun _ v raised _ => ?_
      exact has.spared raised.2
    · exact (Offer.drop_spares spares site o u).mono (fun _ _ => has.spared) fun _ _ => id
  · refine (register_has spares (has.spared idle.stirs.spares) _).aborts fun h v registered => ?_
    obtain ⟨rfl, has⟩ := registered
    exact ⟨_, has, .registered _⟩
  · have told : Spares none w u := idle.stirs.spares
    refine ⟨_, ⟨has.held.of_busy told.busy, ?_⟩, .stamped d single fits⟩
    simp [Assoc.get?_set]

/-- What settling any answer comes to, if it outlasts the instance that goes when another answer is
passed over, is what the request comes to. -/
theorem createInstance_settles (spares : env.Spares) (has : w.Hosts seat c) {ty : AddonType}
    {id : String} {host : HostHandle} {version : String} {parent : Option InstanceHandle}
    {Q : Status × Option InstanceHandle → World σ ν → Prop}
    (settled : ∀ (first : HostHandle) (o : Offer σ) (u : World σ ν), u.Hosts seat c →
      Ensures (settle env seat c.root.site ⟨ty, id, host, version, first, c.single⟩ o) u Q
        fun e v => e ≠ .aborted → v.Hosts seat c)
    (lasts : ∀ answer u v, Q answer u → Spares none u v → Q answer v) :
    Ensures (createInstance env seat ty id host version parent) w Q
      fun e v => e ≠ .aborted → v.Hosts seat c := by
  rw [createInstance, withContext, ensures_bind, ensures_context?, has.here]
  dsimp only
  refine HostAccess.firstInstance_talks.before fun first u idle => ?_
  have has : u.Hosts seat c := has.spared idle.stirs.spares
  have root {v : World σ ν} (has : v.Hosts seat c) :
      Ensures (do
          settle env seat c.root.site ⟨ty, id, host, version, first, c.single⟩
            (← askRoot env c ⟨ty, id, host, version, first, c.single⟩)) v Q
        fun e x => e ≠ .aborted → x.Hosts seat c := by
    rw [ensures_bind]
    refine (askRoot_obeys (spares.permits none) v).mono (fun o x spared => ?_)
      fun e x spared going => has.spared (spared.stopped going)
    exact settled first o x (has.spared spared.returned)
  rw [ensures_bind]
  refine (askParent_obeys (spares.permits none) u).mono (fun asked v spared => ?_)
    fun e v spared going => has.spared (spared.stopped going)
  have has := has.spared spared.returned
  cases asked with
  | none => exact root has
  | some o =>
    have dropped := Offer.drop_spares spares c.root.site o
    dsimp only
    rw [ensures_ite]
    refine ⟨fun _ => ?_, fun _ => settled first o v has⟩
    refine (root has).after (fun answer x ended => ?_) fun x has => ?_
    · exact (dropped x).mono (fun _ _ => lasts answer x _ ended) fun _ _ aborted => aborted
    · exact (dropped x).mono (fun _ _ => has.spared) fun _ _ aborted => aborted

theorem createInstance_extends (spares : env.Spares) (has : w.Hosts seat c) (ty : AddonType)
    (id : String) (host : HostHandle) (version : String) (parent : Option InstanceHandle) :
    Ensures (createInstance env seat ty id host version parent) w
      (fun answer v => ∃ c', v.Hosts seat c' ∧ Extends c ty id answer.2 c')
      fun e v => e ≠ .aborted → v.Hosts seat c := by
  refine createInstance_settles spares has
    (fun _ o _ has => settle_extends spares has c.root.site _ o) fun answer u v ended spared => ?_
  obtain ⟨c', has, extended⟩ := ended
  exact ⟨c', has.spared spared, extended⟩

/-- A context with a single instance does not give instances back, and tells nobody. -/
theorem destroyInstance_single (env : Env σ ν) (here : w.contexts.get? seat = some c)
    (single : c.single.isSome) (ty : AddonType) (handle : Option InstanceHandle) :
    destroyInstance env seat ty handle w = .ok () w := by
  have asked : (Act.context? seat : Act σ ν _) w = .ok (some c) w :=
    congrArg (EStateM.Result.ok · w) here
  rw [destroyInstance, withContext, bind_of_ok asked]
  dsimp only
  rw [if_pos single]
  rfl

/-! ### The default factory -/

/-- The root's factory is the default one, which only ever gives the single instance. -/
def DefaultFactory (env : Env σ ν) (c : Context σ) : Prop :=
  (env.modules.addon c.root.site.module).factory = fun _ r => .done r.shortcut

theorem askRoot_default (default : DefaultFactory env c) (r : Request) (w : World σ ν) :
    askRoot env c r w = .ok
      (if r.host = r.first ∧ r.single = some r.instanceType then ⟨.ok, some none⟩
        else ⟨.unknown, none⟩)
      { w with trace := .called c.root.object (.factory r) :: w.trace } := by
  have answered : callRoot env c (.factory r) (·.factory · r) w =
      .ok r.shortcut { w with trace := .called c.root.object (.factory r) :: w.trace } := by
    rw [callRoot, default]
    rfl
  rw [askRoot, bind_of_ok answered, Request.shortcut]
  split <;> rfl

theorem dropPassed_instance (spares : env.Spares) (c : Context σ) (passed : Option (Offer σ))
    (w : World σ ν) :
    Ensures (dropPassed env c passed) w (fun _ _ => True) fun e v =>
      e = .aborted ∧ AbortsDropping env c.root.site v ∧ (passed.bind (·.instance?)).isSome := by
  refine ((dropPassed_aborts spares c passed w).and (.eq _)).mono (fun _ _ _ => True.intro)
    fun e v stopped => ?_
  obtain ⟨⟨aborted, drops⟩, stopped⟩ := stopped
  refine ⟨aborted, drops, Option.isSome_iff_ne_none.mpr fun bare => ?_⟩
  cases passed with
  | none => cases stopped
  | some o =>
    rw [dropPassed, Offer.drop_eq, show o.instance? = none from bare] at stopped
    cases stopped

theorem route_declined {r : Request} {parent : Option InstanceHandle} {asked : Option (Offer σ)}
    {o : Offer σ} (parental : askParent env c r parent w = .ok asked u)
    (unhandled : ∀ o, asked = some o → o.status = .notImplemented)
    (answered : askRoot env c r u = .ok o v) : route env c r parent w = .ok (o, asked) v := by
  rw [route, bind_of_ok parental]
  cases asked with
  | none => exact bind_of_ok answered
  | some o' =>
    dsimp only
    rw [if_pos (unhandled o' rfl)]
    exact bind_of_ok answered

/-- The single instance is given when it is asked for as what it is. -/
theorem settle_single (has : w.Hosts seat c) {d : Descriptor} (single : c.root.single = some d)
    (site : Site) {r : Request} (fits : d.instanceType = r.instanceType) :
    Ensures (settle env seat site r ⟨.ok, some none⟩) w
      (fun answer _ => answer = (.ok, some .root)) fun _ _ => False := by
  refine settle_exits has.here nofun (fun d' flaw => ?_) nofun fun _ _ _ _ _ _ _ => rfl
  cases flaw with
  | missing _ created => cases created
  | mismatch _ _ created => cases created
  | noSingle _ _ none => rw [single] at none; cases none
  | singleMismatch d' _ _ some other =>
    rw [single] at some
    cases some
    exact absurd fits other

/-- What comes of a request that no parent's factory handles: the single instance if it is for its type
and for the first host handle, and a defect otherwise. Only the code of an instance that a parent gave
in vain can abort it. -/
def Defaults (env : Env σ ν) (seat : Seat) (c : Context σ) (ty : AddonType) (w : World σ ν) : Prop :=
  ∀ asked_ty id host version parent asked u,
    askParent env c (requested w c asked_ty id host version) parent w = .ok asked u →
    (∀ o, asked = some o → o.status = .notImplemented) →
    Ensures (createInstance env seat asked_ty id host version parent) w
      (fun answer _ => answer = (.ok, some .root) ∧
        asked_ty = ty ∧ host = (requested w c asked_ty id host version).first)
      (fun e v => match e with
        | .unwinding p => p = .defect (.missingInstance asked_ty .unknown) ∧
          ¬(asked_ty = ty ∧ host = (requested w c asked_ty id host version).first)
        | .aborted => AbortsDropping env c.root.site v ∧ (asked.bind (·.instance?)).isSome)

theorem createInstance_default (spares : env.Spares) (has : w.Hosts seat c)
    (default : DefaultFactory env c) {d : Descriptor} (single : c.root.single = some d)
    (mode : c.single = some d.instanceType) : Defaults env seat c d.instanceType w := by
  intro ty id host version parent asked u parental unhandled
  have spared := (ensures_ok parental).mp (askParent_obeys (spares.permits none) w)
  have before := has.spared spared.returned
  have answered := askRoot_default default (requested w c ty id host version) u
  obtain ⟨u', same, after⟩ : ∃ u' : World σ ν, u' = { u with
      trace := .called c.root.object (.factory (requested w c ty id host version)) :: u.trace } ∧
      u'.Hosts seat c := ⟨_, rfl, before.held, before.here⟩
  rw [← same] at answered
  have dropped (v : World σ ν) := dropPassed_instance spares c asked v
  have wanted : (requested w c ty id host version).host = (requested w c ty id host version).first ∧
      (requested w c ty id host version).single =
        some (requested w c ty id host version).instanceType ↔
      ty = d.instanceType ∧ host = (requested w c ty id host version).first := by
    change host = _ ∧ c.single = some ty ↔ _
    rw [mode, Option.some.injEq, eq_comm (a := ty), and_comm]
  refine createInstance_routed has.here (route_declined parental unhandled answered) ?_
  rw [ensures_after]
  by_cases first : ty = d.instanceType ∧ host = (requested w c ty id host version).first
  · rw [if_pos (wanted.mpr first)]
    refine (settle_single after single _ first.1.symm).mono (fun answer v given => ?_) fun _ _ => False.elim
    refine (dropped v).mono (fun _ _ _ => ⟨given, first⟩) ?_
    rintro _ v ⟨rfl, stopped⟩
    exact stopped
  · rw [if_neg (mt wanted.mp first)]
    refine (Log.raise_ensures (.missingInstance ty .unknown) u').mono (fun _ _ => False.elim) ?_
    rintro _ v ⟨rfl, -⟩
    refine (dropped v).mono (fun _ _ _ => ⟨rfl, first⟩) ?_
    rintro _ v ⟨rfl, stopped⟩
    exact stopped

/-! ### Runs -/

/-- The identifier of a request that was answered with the root's handle. -/
def Step.rooted? (s : Step σ ν) : Option String :=
  match s.operation with
  | .createInstance _ id .. => if s.handle? = some .root then some id else none
  | _ => none

/-- The descriptor of a single instance after a run: the first request that it answered names it. -/
def identified (d : Descriptor) (steps : List (Step σ ν)) : Descriptor :=
  { d with id? := d.id?.or (steps.findSome? Step.rooted?) }

variable {root : Root} {d : Descriptor} {steps : List (Step σ ν)}

theorem identified_snoc (s : Step σ ν) :
    identified d (steps ++ [s]) = match s.rooted? with
      | some id => (identified d steps).stamp id
      | none => identified d steps := by
  rw [identified, List.findSome?_append, List.findSome?_singleton, ← Option.or_assoc]
  cases s.rooted? with
  | none => rw [Option.or_none, identified]
  | some id =>
    change _ = Descriptor.stamp { d with id? := d.id?.or (steps.findSome? Step.rooted?) } id
    unfold Descriptor.stamp
    cases d.id?.or (steps.findSome? Step.rooted?) <;> rfl

/-- What a request did to a context with a single instance, which only requests for instances change. -/
def Stayed (c : Context σ) (seat : Seat) (s : Step σ ν) : Prop :=
  ∃ c' ty id, s.after.Hosts seat c' ∧ Extends c ty id s.handle? c' ∧
    ∀ h, s.handle? = some h →
      ∃ host version parent, s.operation = .createInstance ty id host version parent

theorem Stayed.unchanged {s : Step σ ν} (has : s.after.Hosts seat c) (nothing : s.handle? = none) :
    Stayed c seat s := by
  refine ⟨c, ⟨0⟩, "", has, ?_, ?_⟩
  · rw [nothing]
    exact .refused
  · rw [nothing]
    exact nofun

theorem withContext_has {α : Type} {default : α} {f : Context σ → Act σ ν α}
    (spared : Obeys (Sparing none) (f c)) (has : w.Hosts seat c) :
    Ensures (withContext seat default f) w (fun _ v => v.Hosts seat c)
      fun e v => e ≠ .aborted → v.Hosts seat c := by
  rw [withContext, ensures_bind, ensures_context?, has.here]
  exact (spared w).mono (fun _ _ spared => has.spared spared.returned)
    fun _ _ spared going => has.spared (spared.stopped going)

theorem perform_stayed (spares : env.Spares) (has : w.Hosts seat c) (single : c.single.isSome)
    (operation : Operation) :
    Ensures (perform env seat operation) w
      (fun answer u => Stayed c seat ⟨operation, .ok answer, w, u⟩)
      fun e u => ∀ p, e = .unwinding p → Stayed c seat ⟨operation, .error p, w, u⟩ := by
  cases operation with
  | create =>
    rw [perform, ensures_map]
    exact (withContext_has (callRoot_spares spares c _ _) has).mono (fun _ _ has => .unchanged has rfl)
      fun e _ kept p same => .unchanged (kept (same ▸ unwinding_ne)) rfl
  | status =>
    rw [perform, ensures_map]
    exact (withContext_has (callRoot_spares spares c _ _) has).mono (fun _ _ has => .unchanged has rfl)
      fun e _ kept p same => .unchanged (kept (same ▸ unwinding_ne)) rfl
  | setSetting name value =>
    rw [perform, ensures_map]
    exact (withContext_has (callRoot_spares spares c _ _) has).mono (fun _ _ has => .unchanged has rfl)
      fun e _ kept p same => .unchanged (kept (same ▸ unwinding_ne)) rfl
  | createInstance ty id host version parent =>
    rw [perform, ensures_map]
    refine (createInstance_extends spares has ty id host version parent).mono
      (fun answer u extended => ?_) fun e u kept p same => .unchanged (kept (same ▸ unwinding_ne)) rfl
    obtain ⟨c', has, extended⟩ := extended
    exact ⟨c', ty, id, has, extended, fun _ _ => ⟨host, version, parent, rfl⟩⟩
  | destroyInstance ty handle =>
    rw [perform, ensures_map, ensures_ok (destroyInstance_single env has.here single ty handle)]
    exact .unchanged has rfl

theorem observed_stayed (spares : env.Spares) (has : w.Hosts seat c) (single : c.single.isSome)
    {operation : Operation} {answer : Except Payload Answer}
    (ended : Act.observe (perform env seat operation) w = .ok answer u) :
    Stayed c seat ⟨operation, answer, w, u⟩ :=
  Ensures.observed (R := fun answer u => Stayed c seat ⟨operation, answer, w, u⟩) ended
    (perform_stayed spares has single operation)

/-- The handle that a request gave for a new instance, and that instance. -/
def Step.new? (seat : Seat) (s : Step σ ν) : Option (InstanceHandle × Instance σ) :=
  match s.handle? with
  | some h => if h = .root then none else (resolve s.after seat h).map (h, ·)
  | none => none

/-- The handles that were given for new instances, with their instances. -/
def given (seat : Seat) (steps : List (Step σ ν)) : List (InstanceHandle × Instance σ) :=
  steps.filterMap (·.new? seat)

/-- What holds of a context with a single instance and of the requests that were made to it. -/
structure Staying (seat : Seat) (root : Root) (d : Descriptor) (steps : List (Step σ ν))
    (w : World σ ν) : Prop where
  context : ∃ c, w.Hosts seat c ∧ c.root = { root with single := some (identified d steps) } ∧
    c.single = some d.instanceType ∧ c.instances.entries = given seat steps ∧
    c.instances.next.raw.toNat = 2 + (given seat steps).length
  distinct : Assoc.Distinct (given seat steps)
  bounded : ∀ p ∈ given seat steps, p.1.raw.toNat < 2 + (given seat steps).length
  new : ∀ s ∈ steps, ∀ h, s.handle? = some h → h ≠ .root → ∃ i, s.new? seat = some (h, i)
  fits : ∀ s ∈ steps, ∀ ty id host version parent,
    s.operation = .createInstance ty id host version parent → s.handle? = some .root →
      ty = d.instanceType

theorem Step.rooted?_of_handle {s : Step σ ν} (other : s.handle? ≠ some .root) : s.rooted? = none := by
  unfold rooted?
  split
  · exact if_neg other
  · rfl

theorem Staying.unused {h : InstanceHandle} (staying : Staying seat root d steps w)
    (next : h.raw.toNat = 2 + (given seat steps).length) :
    Assoc.get? (given seat steps) h = none := by
  refine Assoc.get?_eq_none_iff.mpr fun p member taken => ?_
  have below := staying.bounded p member
  rw [taken, next] at below
  exact absurd below (Nat.lt_irrefl _)

theorem Staying.unregistered {s : Step σ ν} {c : Context σ} (staying : Staying seat root d steps w)
    (has : s.after.Hosts seat c) (same : c.root = { root with single := some (identified d (steps ++ [s])) })
    (mode : c.single = some d.instanceType) (entries : c.instances.entries = given seat steps)
    (next : c.instances.next.raw.toNat = 2 + (given seat steps).length)
    (nothing_new : ∀ h, s.handle? = some h → h = .root)
    (fits : ∀ ty id host version parent, s.operation = .createInstance ty id host version parent →
      s.handle? = some .root → ty = d.instanceType) :
    Staying seat root d (steps ++ [s]) s.after := by
  have unchanged : given seat (steps ++ [s]) = given seat steps := by
    have none_new : s.new? seat = none := by
      unfold Step.new?
      split
      · next h gave => exact if_pos (nothing_new h gave)
      · rfl
    simp [given, none_new]
  refine ⟨⟨c, has, same, mode, by rw [unchanged, entries], by rw [unchanged, next]⟩,
    by rw [unchanged]; exact staying.distinct, by rw [unchanged]; exact staying.bounded, ?_, ?_⟩
  · intro t member h gave proper
    rcases List.mem_append.mp member with earlier | last
    · exact staying.new t earlier h gave proper
    · cases List.mem_singleton.mp last
      exact absurd (nothing_new h gave) proper
  · intro t member
    rcases List.mem_append.mp member with earlier | last
    · exact staying.fits t earlier
    · cases List.mem_singleton.mp last
      exact fits

theorem Staying.registered {s : Step σ ν} {c : Context σ} {i : Instance σ}
    (staying : Staying seat root d steps w)
    (has : s.after.Hosts seat { c with instances := c.instances.insert i })
    (same : c.root = { root with single := some (identified d steps) })
    (mode : c.single = some d.instanceType) (entries : c.instances.entries = given seat steps)
    (next : c.instances.next.raw.toNat = 2 + (given seat steps).length)
    (gave : s.handle? = some c.instances.next)
    (few : (given seat (steps ++ [s])).length + 2 < UInt64.size) :
    Staying seat root d (steps ++ [s]) s.after := by
  have proper : c.instances.next ≠ .root := by
    intro first
    rw [first] at next
    exact absurd next (by simp [InstanceHandle.root]; omega)
  have found : resolve s.after seat c.instances.next = some i := by
    simp [resolve, has.here, Registry.get?_insert]
  have new : s.new? seat = some (c.instances.next, i) := by simp [Step.new?, gave, proper, found]
  have grown : given seat (steps ++ [s]) = given seat steps ++ [(c.instances.next, i)] := by
    simp [given, new]
  have unused := staying.unused next
  have length : (given seat (steps ++ [s])).length = (given seat steps).length + 1 := by
    rw [grown, List.length_append, List.length_singleton]
  refine ⟨⟨_, has, ?_, mode, ?_, ?_⟩, ?_, ?_, ?_, ?_⟩
  · rw [identified_snoc, Step.rooted?_of_handle (by simpa [gave] using proper)]
    exact same
  · rw [grown, ← Assoc.set_new unused, ← entries]
    rfl
  · rw [length, Registry.insert, succ_toNat, next]
    · omega
    · rw [next]
      omega
  · rw [grown, ← Assoc.set_new unused]
    exact staying.distinct.set
  · intro p member
    rw [grown] at member
    rcases List.mem_append.mp member with earlier | last
    · exact Nat.lt_of_lt_of_le (staying.bounded p earlier) (by omega)
    · rw [List.mem_singleton.mp last, next]
      omega
  · intro t member h other foreign
    rcases List.mem_append.mp member with earlier | last
    · exact staying.new t earlier h other foreign
    · cases List.mem_singleton.mp last
      cases gave.symm.trans other
      exact ⟨i, new⟩
  · intro t member ty id host version parent asked rooted
    rcases List.mem_append.mp member with earlier | last
    · exact staying.fits t earlier ty id host version parent asked rooted
    · cases List.mem_singleton.mp last
      exact absurd (Option.some.inj (gave.symm.trans rooted)) proper

theorem Staying.snoc {s : Step σ ν} (staying : Staying seat root d steps w)
    (stayed : ∀ c, w.Hosts seat c → c.single.isSome → Stayed c seat s)
    (few : (given seat (steps ++ [s])).length + 2 < UInt64.size) :
    Staying seat root d (steps ++ [s]) s.after := by
  obtain ⟨c, has, same, mode, entries, next⟩ := staying.context
  obtain ⟨c', ty, id, after, extended, asked⟩ := stayed c has (by rw [mode]; rfl)
  generalize gave : s.handle? = h at extended asked
  cases extended with
  | refused =>
    refine staying.unregistered after ?_ mode entries next (by simp [gave]) (by simp [gave])
    rw [identified_snoc, Step.rooted?_of_handle (by simp [gave])]
    exact same
  | registered i => exact staying.registered after same mode entries next gave few
  | stamped d' single fits =>
    obtain ⟨host, version, parent, operation⟩ := asked .root rfl
    have rooted : s.rooted? = some id := by simp [Step.rooted?, operation, gave]
    have present : identified d steps = d' := by
      rw [same] at single
      exact Option.some.inj single
    refine staying.unregistered after ?_ mode entries next (by simp [gave]) ?_
    · rw [identified_snoc, rooted, present, same]
    · intro ty' _ _ _ _ again _
      cases operation.symm.trans again
      rw [← fits, ← present, identified]

theorem Ran.staying (spares : env.Spares) {start : World σ ν} (held : start.Holds seat)
    (fresh : start.contexts.get? seat = some { root }) (single : root.single = some d)
    (ran : Ran env seat start steps w) (few : (given seat steps).length + 2 < UInt64.size) :
    Staying seat root d steps w := by
  induction ran with
  | nil =>
    have unnamed : identified d ([] : List (Step σ ν)) = d := by
      rw [identified, List.findSome?_nil, Option.or_none]
    refine ⟨⟨_, ⟨held, fresh⟩, ?_, ?_, rfl, rfl⟩, List.nodup_nil, ?_, ?_, ?_⟩
    · rw [unnamed, ← single]
    · simp [single]
    · exact fun _ member => absurd member List.not_mem_nil
    · exact fun _ member => absurd member List.not_mem_nil
    · exact fun _ member => absurd member List.not_mem_nil
  | snoc earlier operation ended ih =>
    refine (ih (Nat.lt_of_le_of_lt ?_ few)).snoc (fun c has single => ?_) few
    · rw [given, given, List.filterMap_append, List.length_append]
      omega
    · exact observed_stayed spares has single ended

/-- What holds of a context that had a single instance when it was driven by some requests. -/
structure Stays (env : Env σ ν) (seat : Seat) (root : Root) (d : Descriptor)
    (steps : List (Step σ ν)) (w : World σ ν) : Prop where
  /-- To destroy an instance changes nothing, tells nobody and always comes back. -/
  destroys : ∀ ty handle, destroyInstance env seat ty handle w = .ok () w
  registered : ∀ s ∈ steps, ∀ h, s.handle? = some h → h ≠ .root →
    ∃ i, resolve s.after seat h = some i ∧ resolve w seat h = some i
  /-- The single instance is only given to those who ask for its type. -/
  fits : ∀ s ∈ steps, ∀ ty id host version parent,
    s.operation = .createInstance ty id host version parent → s.handle? = some .root →
      ty = d.instanceType
  /-- The descriptor has the identifier that it came with, or else that of the first request that was
  answered with the root. -/
  context : ∃ c, w.contexts.get? seat = some c ∧
    c.root = { root with single := some { d with
      id? := d.id?.or (steps.findSome? Step.rooted?) } } ∧
    (DefaultFactory env c → Defaults env seat c d.instanceType w)

end Dispatch

end AddonBridge
