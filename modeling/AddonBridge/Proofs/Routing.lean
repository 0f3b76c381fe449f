import AddonBridge.Proofs.Discretion

/-!
# Routing of requests for instances

Whose factories a request for an instance asks, in which order, and what it asks them, however the
context was driven before: the parent's if that is a live instance, and the root's unless the parent's
has an answer that counts. `createInstance_routes` says so of every request, answered or not, and says
that nobody else in the context is called.
-/

namespace AddonBridge

open Act World

variable {σ ν : Type} {env : Env σ ν} {seat : Seat} {c c' : Context σ} {w u v : World σ ν}

namespace Dispatch

/-! ### Runs -/

/-- What a request makes of the context: an answer is that of the last factory asked. -/
inductive Turns (env : Env σ ν) (w : World σ ν) (c : Context σ) :
    Operation → Except Payload Answer → Context σ → Prop where
  | kept {operation : Operation} {answer : Except Payload Answer}
    (other : ∀ ty handle, operation ≠ .destroyInstance ty handle) :
    Turns env w c operation answer c
  | obtained {ty : AddonType} {id version : String} {host : HostHandle}
    {parent handle : Option InstanceHandle} {status : Status} {asked : List ObjectId}
    {passed : Option (Offer σ)} {o : Offer σ} {u : World σ ν} {c' : Context σ}
    (order : Asked env c (requested w c ty id host version) parent w asked passed (.ok o u))
    (obtained : Obtains c id o (status, handle) c') :
    Turns env w c (.createInstance ty id host version parent) (.ok (.instance status handle)) c'
  | destroyed {answer : Except Payload Answer} (ty : AddonType) (handle : Option InstanceHandle) :
    Turns env w c (.destroyInstance ty handle) answer (removed c ty handle)

/-- A request leaves the root as it is, but for an identifier. -/
theorem Turns.root {operation : Operation} {answer : Except Payload Answer}
    (turns : Turns env w c operation answer c') :
    c'.root.object = c.root.object ∧ c'.root.site = c.root.site ∧ c'.single = c.single := by
  cases turns with
  | kept other => exact ⟨rfl, rfl, rfl⟩
  | obtained order obtained => cases obtained <;> exact ⟨rfl, rfl, rfl⟩
  | destroyed ty handle =>
    unfold removed
    split
    · exact ⟨rfl, rfl, rfl⟩
    · split
      · split <;> exact ⟨rfl, rfl, rfl⟩
      · exact ⟨rfl, rfl, rfl⟩

theorem perform_turns (hushes : env.Hushes) (tidy : w.Tidy) (held : w.Holds seat)
    (here : w.contexts.get? seat = some c) (operation : Operation) :
    Ensures (perform env seat operation) w
      (fun answer u => ∃ c', u.contexts.get? seat = some c' ∧ Turns env w c operation (.ok answer) c')
      fun e u => ∀ p, e = .unwinding p →
        ∃ c', u.contexts.get? seat = some c' ∧ Turns env w c operation (.error p) c' := by
  have rooted (other : ∀ ty handle, operation ≠ .destroyInstance ty handle) (cb : Callback)
      (q : Addon σ ν → Site → Program σ ν Payload Status) :
      Ensures (Answer.status <$> withContext seat .unknown fun c => callRoot env c cb q) w
        (fun answer u => ∃ c', u.contexts.get? seat = some c' ∧ Turns env w c operation (.ok answer) c')
        fun e u => ∀ p, e = .unwinding p →
          ∃ c', u.contexts.get? seat = some c' ∧ Turns env w c operation (.error p) c' := by
    rw [ensures_map]
    exact (withContext_effect (callRoot_spares hushes.spares c cb q) held here).mono
      (fun _ _ here => ⟨c, here, .kept other⟩)
      fun e _ kept p same => ⟨c, kept (same ▸ unwinding_ne), .kept other⟩
  cases operation with
  | create => exact rooted (by simp) _ _
  | status => exact rooted (by simp) _ _
  | setSetting name value => exact rooted (by simp) _ _
  | createInstance ty id host version parent =>
    rw [perform, ensures_map]
    have begun : Under seat c [] w [] none w := .start tidy held here (by simp)
    refine (createInstance_under hushes ty id host version parent begun).mono
      (fun answer u ended => ?_) fun e u stopped p same => ?_
    · obtain ⟨_, _, _, _, order, -, c', obtained, under⟩ := ended
      exact ⟨c', under.ongoing.here, .obtained order obtained⟩
    · obtain ⟨_, _, _, -, -, under⟩ := stopped
      exact ⟨c, (under.going (by simp [same])).here, .kept (by simp)⟩
  | destroyInstance ty handle =>
    rw [perform, ensures_map]
    exact (destroyInstance_effect hushes.spares held here ty handle).mono
      (fun _ _ here => ⟨_, here, .destroyed ty handle⟩)
      fun e _ kept p same => ⟨_, kept (same ▸ unwinding_ne), .destroyed ty handle⟩

theorem perform_hushes (hushes : env.Hushes) (seat : Seat) (operation : Operation) :
    Obeys (Hushing (some seat)) (perform env seat operation) := by
  have lawful := lawful_hushes hushes seat
  cases operation with
  | create => exact .map (withRoot_hushes hushes _ _)
  | status => exact .map lawful.status
  | setSetting name value => exact .map (lawful.setSetting _ _)
  | createInstance ty id host version parent => exact .map (lawful.createInstance _ _ _ _ _)
  | destroyInstance ty handle => exact .map (lawful.destroyInstance _ _)

/-- A context with the root that it was built with is in a seat that nothing else writes, in a world
in which every name stands for one object. -/
structure Standing (seat : Seat) (root : Root) (w : World σ ν) (c : Context σ) : Prop where
  tidy : w.Tidy
  held : w.Holds seat
  here : w.contexts.get? seat = some c
  object : c.root.object = root.object
  site : c.root.site = root.site
  single : c.single = root.single.map (·.instanceType)

variable {root : Root} {start : World σ ν} {steps : List (Step σ ν)}

theorem Standing.step (hushes : env.Hushes) (standing : Standing seat root w c)
    {operation : Operation} {answer : Except Payload Answer}
    (ended : Act.observe (perform env seat operation) w = .ok answer u) :
    ∃ c', Standing seat root u c' ∧ Turns env w c operation answer c' := by
  have stands {answer : Except Payload Answer} {k : Option Stop} {u : World σ ν}
      (hushed : Hushing (some seat) w k u) (going : k ≠ some .aborted)
      (turned : ∃ c', u.contexts.get? seat = some c' ∧ Turns env w c operation answer c') :
      ∃ c', Standing seat root u c' ∧ Turns env w c operation answer c' := by
    obtain ⟨c', here, turns⟩ := turned
    obtain ⟨object, site, single⟩ := turns.root
    have tidy := (hushed.hushes standing.tidy fun _ same => Option.some.inj same ▸ standing.held).tidy
    exact ⟨c', ⟨tidy going, standing.held.of_busy (hushed.spares going).busy, here,
      object.trans standing.object, site.trans standing.site, single.trans standing.single⟩, turns⟩
  refine Ensures.observed
    (R := fun answer u => ∃ c', Standing seat root u c' ∧ Turns env w c operation answer c') ended
    (((perform_hushes hushes seat operation w).and
    (perform_turns hushes standing.tidy standing.held standing.here operation)).mono ?_ ?_)
  · exact fun answer u after => stands after.1 returned_ne after.2
  · rintro e u stopped p rfl
    exact stands stopped.1 (by simp) (stopped.2 p rfl)

theorem Ran.standing (hushes : env.Hushes) (tidy : start.Tidy) (held : start.Holds seat)
    (fresh : start.contexts.get? seat = some { root }) (ran : Ran env seat start steps w) :
    ∃ c, Standing seat root w c := by
  induction ran with
  | nil => exact ⟨_, tidy, held, fresh, rfl, rfl, rfl⟩
  | snoc earlier operation ended ih =>
    obtain ⟨c, standing⟩ := ih
    obtain ⟨c', standing, -⟩ := standing.step hushes ended
    exact ⟨c', standing⟩

/-! ### Requests for instances -/

/-- Nobody is called in a context that stands in a seat but by its requests. -/
theorem Standing.under (standing : Standing seat root w c) : Under seat c c.names w [] none w :=
  .start standing.tidy standing.held standing.here fun _ member =>
    .inr ⟨seat, c, standing.held, by simp, standing.here, member⟩

theorem Under.heard {calls : List (ObjectId × Callback)} {k : Option Stop}
    (under : Under seat c' c.names w calls k u) (own : ∀ p ∈ calls, p.1 ∈ c.names) :
    w.Hears c.names u calls := by
  have all : calls.filter (·.1 ∈ c.names) = calls :=
    List.filter_eq_self.mpr fun p member => by simpa using own p member
  exact all ▸ under.hears

/-- A request was put to the factories that are to be asked, and nobody else in the context was
called. -/
def Consulted (env : Env σ ν) (c : Context σ) (r : Request) (parent : Option InstanceHandle)
    (w : World σ ν) (passed : Option (Offer σ)) (result : EStateM.Result Stop (World σ ν) (Offer σ))
    (v : World σ ν) : Prop :=
  ∃ asked, Asked env c r parent w asked passed result ∧
    w.Hears c.names v (asked.map (·, .factory r))

theorem Asked.consulted {r : Request} {parent : Option InstanceHandle} {asked : List ObjectId}
    {passed : Option (Offer σ)} {result : EStateM.Result Stop (World σ ν) (Offer σ)}
    {k : Option Stop} (h : Asked env c r parent w asked passed result)
    (under : Under seat c' c.names w (asked.map (·, .factory r)) k v) :
    Consulted env c r parent w passed result v :=
  ⟨asked, h, under.heard (List.forall_mem_map.mpr h.own)⟩

/-- However a context was driven, a request for an instance asks the factory of the parent if that is
a live instance and not the root, and the root's if there is no such parent or its answer implements
nothing. Each is asked once and the same, and nobody else in the context is called. The last answer
says what the host is told and what is registered; what comes with an answer that implements nothing
is dropped. A request that stops early leaves the context as it was. -/
theorem createInstance_routes (modules : Modules σ ν) (unloading : Bool) (depth : Nat) (seat : Seat)
    (root : Root) (start w : World σ ν) (steps : List (Step σ ν)) (tidy : start.Tidy)
    (held : start.Holds seat) (fresh : start.contexts.get? seat = some { root })
    (ran : Ran (Exports.env modules unloading depth) seat start steps w) :
    ∃ c, Standing seat root w c ∧ ∀ ty id host version parent,
      Ensures
        (createInstance (Exports.env modules unloading depth) seat ty id host version parent) w
        (fun answer v => ∃ passed o u c',
          Consulted (Exports.env modules unloading depth) c (requested w c ty id host version) parent
            w passed (.ok o u) v ∧
          Obtains c id o answer c' ∧ v.contexts.get? seat = some c' ∧
          ∀ p ∈ o :: passed.toList, p.Discarded w v)
        fun e v => ∃ passed result,
          Consulted (Exports.env modules unloading depth) c (requested w c ty id host version) parent
            w passed result v ∧
          (e ≠ .aborted → v.contexts.get? seat = some c ∧ ∀ p ∈ passed.toList, p.Discarded w v) := by
  have hushes := Exports.env_hushes modules unloading depth
  obtain ⟨c, standing⟩ := ran.standing hushes tidy held fresh
  refine ⟨c, standing, fun ty id host version parent => ?_⟩
  refine (createInstance_under hushes ty id host version parent standing.under).mono
    (fun answer v ended => ?_) fun e v stopped => ?_
  · obtain ⟨asked, passed, o, u, order, discarded, c', obtained, under⟩ := ended
    exact ⟨passed, o, u, c', order.consulted under, obtained, under.ongoing.here, discarded⟩
  · obtain ⟨asked, passed, result, order, discarded, under⟩ := stopped
    exact ⟨passed, result, order.consulted under, fun going =>
      ⟨(under.going (by simpa using going)).here, discarded going⟩⟩

/-- An instance that makes no others is passed over for the root. -/
theorem createInstance_routes_decoder :
    let root : Root := ⟨⟨⟨0, 0⟩, 0⟩, ⟨"decoders", ⟨0, 0⟩⟩, none⟩
    let start : World Unit Unit :=
      { memory := fun _ => (), contexts := [(.direct 0, { root })], made := fun _ => 1 }
    let env := Exports.env Modules.decoders false 1
    let h := InstanceHandle.root.succ
    start.Tidy ∧ ∃ w s c, Ran env (.direct 0) start [s] w ∧ s.handle? = some h ∧
      w.contexts.get? (.direct 0) = some c ∧
      Ensures (createInstance env (.direct 0) ⟨102⟩ "b" .null "1.0" (some h)) w
        (fun answer v => answer = (.ok, some h.succ) ∧ ∃ i, c.instances.get? h = some i ∧
          w.Hears c.names v ([i.object, root.object].map
            (·, .factory (requested w c ⟨102⟩ "b" .null "1.0"))))
        fun _ _ => False := by
  intro root start env h
  have tidy : start.Tidy := .lone rfl (by decide)
  have none_ran : Ran env (.direct 0) start [] start := .nil
  have ran := none_ran.snoc (.createInstance ⟨102⟩ "a" .null "1.0" none) rfl
  obtain ⟨c, standing, routes⟩ :=
    createInstance_routes Modules.decoders false 1 (.direct 0) root start _ _ tidy True.intro rfl ran
  refine ⟨tidy, _, _, c, ran, rfl, standing.here, ?_⟩
  refine ((routes ⟨102⟩ "b" .null "1.0" (some h)).and (.eq _)).mono (fun answer v ended => ?_)
    fun _ _ stopped => by cases stopped.2
  obtain ⟨⟨passed, o, u, c', ⟨asked, order, heard⟩, -⟩, same⟩ := ended
  cases same
  cases standing.here
  refine ⟨rfl, ?_⟩
  cases order with
  | root orphan idle => cases orphan h rfl (by decide)
  | parent given proper live able =>
    cases given
    cases live
    exact absurd rfl (able _ _ rfl)
  | fallback given proper live passed unable =>
    cases given
    exact ⟨_, live, heard⟩

end Dispatch

end AddonBridge
