import AddonBridge.Proofs.Defects
import AddonBridge.Proofs.Routing

/-!
# Removal of instances

A request to destroy an instance comes to nothing, to a defect, or to the removal of just that
instance, of which the root is told before it goes. `destroyInstance_partitions` says so of every
request, however the context was driven before, and says which request registered the instance, and
that a handle whose instance was removed stands for nothing from then on.
-/

namespace AddonBridge

open Act World

variable {σ ν : Type} {env : Env σ ν} {seat : Seat} {c c' : Context σ} {w u v : World σ ν}
  {h n : InstanceHandle} {i : Instance σ}

/-! ### Handles that are not given again -/

namespace InstanceHandle

/-- A handle is not given for another instance when it comes before the next one, or else it is the
last that there is. -/
def Spent (h next : InstanceHandle) : Prop := h.raw.toNat < next.raw.toNat ∨ h.succ = h

theorem succ_cases (h : InstanceHandle) : h.succ = h ∨ h.succ.raw.toNat = h.raw.toNat + 1 := by
  by_cases small : h.raw.toNat + 1 < UInt64.size
  · exact .inr (Dispatch.succ_toNat small)
  · have bound : h.raw.toNat < UInt64.size := h.raw.toNat_lt
    have wraps : h.raw + 1 = 0 := UInt64.toNat_inj.mp <| by
      rw [UInt64.toNat_add, UInt64.toNat_one, show h.raw.toNat + 1 = 2 ^ 64 by
        simp only [UInt64.size] at small bound
        omega]
      rfl
    exact .inl (dif_pos wraps)

theorem Spent.succ (spent : h.Spent n) : h.Spent n.succ := by
  refine spent.imp_left fun below => ?_
  rcases n.succ_cases with same | next
  · rwa [same]
  · omega

theorem Spent.next (n : InstanceHandle) : n.Spent n.succ := by
  rcases n.succ_cases with same | next
  · exact .inr same
  · exact .inl (by omega)

theorem Spent.last (spent : n.Spent n) : n.succ = n :=
  spent.resolve_left (Nat.lt_irrefl _)

end InstanceHandle

/-! ### Panics that are no defects -/

/-- An act does not unwind with a defect. -/
def Faultless : Change σ ν := fun _ k _ => ∀ d, k ≠ some (.unwinding (.defect d))

theorem Faultless.law : Law (Faultless : Change σ ν) where
  refl _ _ := by simp
  trans _ second := second
  cleanup first _ := first
  cleanup_aborted _ _ _ := by simp
  caught _ _ _ := by simp
  fatal _ _ := by simp

theorem Faultless.permits (quiet : env.IsQuiet) (modules : env.modules.Follow .honest) :
    env.Permits Faultless .honest where
  law := Faultless.law
  talk _ _ _ _ := by simp
  panic q honest _ d same := honest d (by simpa using same)
  modules := modules
  nested c _ w := (quiet c w).mono (fun _ _ _ _ => by simp) fun _ _ aborted _ => by simp [aborted]
  quiet := quiet
  stirs _ _ _ _ := by simp

namespace Dispatch

theorem destroyInstance_faultless (quiet : env.IsQuiet) (modules : env.modules.Follow .honest)
    {ty : AddonType} (here : w.contexts.get? seat = some c) (multiple : c.single = none)
    (proper : h ≠ .root) (live : c.instances.get? h = some i)
    (fits : i.descriptor.instanceType = ty) :
    Ensures (destroyInstance env seat ty (some h)) w (fun _ _ => True)
      fun e _ => ∀ d, e ≠ .unwinding (.defect d) := by
  refine destroyInstance_live here multiple proper live (fun _ => ?_) (absurd fits ·)
  have permits := Faultless.permits quiet modules
  have told := callRoot_obeys permits (c := c) (.instanceDestroyed ty i.descriptor.id)
    fun _ follows site => follows.instanceDestroyed site ty i.descriptor.id i.descriptor
  refine (Obeys.after permits.law told (dropInstance_obeys permits)
    (dropInstance_quiet quiet _ _) _).mono (fun _ _ _ => True.intro) fun e _ faultless d same => ?_
  exact faultless d (by rw [same])

/-! ### What a request comes to -/

/-- An instance left the registry and nothing else did; the root was told, and the instance went after
that. -/
structure Removed (seat : Seat) (c : Context σ) (h : InstanceHandle) (i : Instance σ)
    (w v : World σ ν) : Prop where
  context : v.contexts.get? seat = some { c with instances := c.instances.erase h }
  resolves : ∀ j, resolve v seat j = if h = j then none else resolve w seat j
  dismissed : Dismissed c i w v

/-- What requests to destroy an instance come to, for a context without a single instance. -/
structure Removes (env : Env σ ν) (seat : Seat) (c : Context σ) (w : World σ ν) : Prop where
  nothing : ∀ ty handle,
    (∀ h, handle = some h → h ≠ .root → c.instances.get? h = none) →
    Ensures (destroyInstance env seat ty handle) w (fun _ v => w.Idle v) fun _ _ => False
  mismatch : ∀ ty h i, c.instances.get? h = some i → i.descriptor.instanceType ≠ ty →
    Ensures (destroyInstance env seat ty (some h)) w (fun _ _ => False) fun e v =>
      e = .unwinding (.defect (.destroyedTypeMismatch ty i.descriptor.instanceType)) ∧
      World.Idle { w with
        trace := .raised (.destroyedTypeMismatch ty i.descriptor.instanceType) :: w.trace } v
  /-- The root may panic when it is told, but not with a defect, unless of its own making. -/
  removal : ∀ ty h i, c.instances.get? h = some i → i.descriptor.instanceType = ty →
    Ensures (destroyInstance env seat ty (some h)) w
      (fun _ v => Removed seat c h i w v ∧
        w.Hears c.names v [(c.root.object, .instanceDestroyed ty i.descriptor.id)])
      fun e v => (e ≠ .aborted → Removed seat c h i w v) ∧
        w.Hears c.names v [(c.root.object, .instanceDestroyed ty i.descriptor.id)] ∧
        (env.modules.Follow .honest → ∀ d, e ≠ .unwinding (.defect d))

theorem Standing.removes (hushes : env.Hushes) {root : Root} (standing : Standing seat root w c)
    (multiple : root.single = none)
    (proper : ∀ h i, c.instances.get? h = some i → h ≠ .root) : Removes env seat c w := by
  have several : c.single = none := by rw [standing.single, multiple, Option.map_none]
  refine ⟨fun ty handle absent => destroyInstance_idle standing.here (.inr absent),
    fun ty h i live => destroyInstance_mismatch standing.here several (proper h i live) live,
    fun ty h i live fits => ?_⟩
  have after {k : Option Stop} {v : World σ ν}
      (under : Under seat { c with instances := c.instances.erase h } c.names w
        [(c.root.object, .instanceDestroyed ty i.descriptor.id)] k v) (going : k ≠ some .aborted)
      (dismissed : Dismissed c i w v) : Removed seat c h i w v := by
    have here := (under.going going).here
    refine ⟨here, fun j => ?_, dismissed⟩
    rw [resolve, resolve, here, standing.here]
    exact Registry.get?_erase c.instances h j
  have faultless := Ensures.all fun honest : env.modules.Follow .honest =>
    destroyInstance_faultless hushes.spares.quiet honest standing.here several (proper h i live) live
      fits
  refine ((destroyInstance_under hushes standing.under several (proper h i live) live fits).and
    faultless).mono (fun _ v ended => ?_) fun e v stopped => ?_
  · obtain ⟨⟨under, dismissed⟩, -⟩ := ended
    exact ⟨after under returned_ne dismissed, under.heard (c.root_own _)⟩
  · obtain ⟨⟨under, dismissed⟩, faultless⟩ := stopped
    exact ⟨fun going => after under (by simpa using going) (dismissed going), under.heard (c.root_own _),
      faultless⟩

/-! ### What was registered and what was removed -/

/-- A request that registered an instance under a handle: the last factory asked gave the instance,
which was stamped with the identifier of the request. -/
structure Step.Registers (env : Env σ ν) (seat : Seat) (s : Step σ ν) (h : InstanceHandle)
    (i : Instance σ) (id : String) : Prop where
  asked : ∃ ty host version parent status, s.operation = .createInstance ty id host version parent ∧
    s.answer = .ok (.instance status (some h)) ∧
    ∃ c asked passed o u j, s.before.contexts.get? seat = some c ∧
      Asked env c (requested s.before c ty id host version) parent s.before asked passed (.ok o u) ∧
      o.created = some (some j) ∧ i = { j with descriptor := j.descriptor.stamp id }
  identified : env.modules.Follow .owning → i.descriptor.id = id
  stands : resolve s.after seat h = some i

/-- A request to destroy a live instance that has the type it asks for. -/
def Step.Destroys (seat : Seat) (s : Step σ ν) (h : InstanceHandle) : Prop :=
  ∃ i, resolve s.before seat h = some i ∧
    s.operation = .destroyInstance i.descriptor.instanceType (some h)

/-- What holds of the registry of a context and of the requests that were made to it. -/
structure Accounted (env : Env σ ν) (seat : Seat) (steps : List (Step σ ν)) (c : Context σ) :
    Prop where
  next : InstanceHandle.root.raw.toNat < c.instances.next.raw.toNat
  live : ∀ h i, c.instances.get? h = some i → h ≠ .root ∧ h.Spent c.instances.next ∧
    ∃ s ∈ steps, ∃ id, s.Registers env seat h i id
  gone : ∀ pre s post h, steps = pre ++ s :: post → s.Destroys seat h →
    h.Spent c.instances.next ∧
      (c.instances.get? h = none ∨ h.succ = h ∧ ∃ x ∈ post, x.handle? = some h)

theorem Asked.fresh (spares : env.Spares) (own : env.modules.Follow .owning) {r : Request}
    {parent : Option InstanceHandle} {asked : List ObjectId} {passed : Option (Offer σ)}
    {o : Offer σ} (order : Asked env c r parent w asked passed (.ok o u)) (created : o.created = some (some i)) :
    i.descriptor.id? = none := by
  generalize result : EStateM.Result.ok o u = r' at order
  cases order with
  | root orphan idle =>
    exact (((ensures_ok result.symm).mp (askRoot_fresh spares own r _)).2 i created).1
  | parent given proper live able =>
    exact (((ensures_ok result.symm).mp (askInstance_fresh spares own _ r _)).2 i created).1
  | fallback given proper live answered unable =>
    exact (((ensures_ok result.symm).mp (askRoot_fresh spares own r _)).2 i created).1

variable {operation : Operation} {answer : Except Payload Answer} {steps : List (Step σ ν)}

theorem Turns.next (turns : Turns env w c operation answer c') :
    c'.instances.next = c.instances.next ∨ c'.instances.next = c.instances.next.succ := by
  cases turns with
  | kept other => exact .inl rfl
  | obtained order obtained =>
    cases obtained with
    | refused unable => exact .inl rfl
    | registered i able created => exact .inr rfl
    | stamped d able created single => exact .inl rfl
  | destroyed ty handle => exact .inl (removed_frame c ty handle).2.2

theorem removed_sub {ty : AddonType} {handle : Option InstanceHandle}
    (found : (removed c ty handle).instances.get? h = some i) : c.instances.get? h = some i := by
  unfold removed at found
  split at found
  · exact found
  split at found
  · split at found
    · rw [Registry.get?_erase] at found
      split at found
      · contradiction
      · exact found
    · exact found
  · exact found

/-- What is in the registry after a request was there before, or the request registered it. -/
theorem Turns.entry (spares : env.Spares) (here : w.contexts.get? seat = some c)
    (here' : u.contexts.get? seat = some c') (turns : Turns env w c operation answer c')
    (found : c'.instances.get? h = some i) :
    c.instances.get? h = some i ∨
      h = c.instances.next ∧ c'.instances.next = c.instances.next.succ ∧
        Step.handle? (⟨operation, answer, w, u⟩ : Step σ ν) = some h ∧
        ∃ id, Step.Registers env seat ⟨operation, answer, w, u⟩ h i id := by
  cases turns with
  | kept other => exact .inl found
  | obtained order obtained =>
    cases obtained with
    | refused unable => exact .inl found
    | stamped d able created single => exact .inl found
    | registered j able created =>
      have stands := found
      rw [Registry.get?_insert] at found
      split at found
      · next same =>
        subst same
        cases found
        refine .inr ⟨rfl, rfl, rfl, _, ⟨_, _, _, _, _, rfl, rfl, c, _, _, _, _, j, here, order,
          created, rfl⟩, fun own => ?_, ?_⟩
        · simp [Descriptor.id, Descriptor.stamp, order.fresh spares own created]
        · rw [resolve, here']
          exact stands
      · exact .inl found
  | destroyed ty handle =>
    exact .inl (removed_sub found)

theorem Turns.destroys {ty : AddonType} (turns : Turns env w c (.destroyInstance ty (some h)) answer c')
    (multiple : c.single = none) (proper : h ≠ .root) (live : c.instances.get? h = some i)
    (fits : i.descriptor.instanceType = ty) : c'.instances.get? h = none := by
  cases turns with
  | kept other => exact absurd rfl (other ty (some h))
  | destroyed ty handle =>
    rw [removed, multiple, if_neg (by simp), Option.filter_some,
      if_pos (by simpa [InstanceHandle.isRoot] using proper)]
    dsimp only
    rw [if_pos (by simpa [live] using fits), Registry.get?_erase, if_pos rfl]

theorem Turns.spent (turns : Turns env w c operation answer c') (spent : h.Spent c.instances.next) :
    h.Spent c'.instances.next := by
  rcases turns.next with same | next
  · rwa [same]
  · rw [next]
    exact spent.succ

/-- A handle that stood for nothing only comes back if it is the last that there is. -/
theorem Turns.gone (spares : env.Spares) (here : w.contexts.get? seat = some c)
    (here' : u.contexts.get? seat = some c') (turns : Turns env w c operation answer c')
    (spent : h.Spent c.instances.next)
    (gone : c.instances.get? h = none ∨ h.succ = h ∧ ∃ x ∈ steps, x.handle? = some h) :
    c'.instances.get? h = none ∨ h.succ = h ∧
      ∃ x ∈ steps ++ [(⟨operation, answer, w, u⟩ : Step σ ν)], x.handle? = some h := by
  cases found : c'.instances.get? h with
  | none => exact .inl rfl
  | some i =>
    refine .inr ?_
    rcases turns.entry spares here here' found with old | ⟨rfl, -, gave, -⟩
    · rcases gone with absent | ⟨saturated, x, member, gave⟩
      · rw [absent] at old
        contradiction
      · exact ⟨saturated, x, List.mem_append_left _ member, gave⟩
    · exact ⟨spent.last, _, List.mem_append_right _ (List.mem_singleton.mpr rfl), gave⟩

theorem Accounted.snoc (spares : env.Spares) (accounted : Accounted env seat steps c)
    (multiple : c.single = none) (here : w.contexts.get? seat = some c)
    (here' : u.contexts.get? seat = some c') (turns : Turns env w c operation answer c') :
    Accounted env seat (steps ++ [⟨operation, answer, w, u⟩]) c' := by
  have proper : c.instances.next ≠ .root := by
    intro same
    exact absurd accounted.next (same ▸ Nat.lt_irrefl _)
  refine ⟨?_, fun h i found => ?_, fun pre s post h split destroys => ?_⟩
  · rcases turns.next with same | next
    · exact same ▸ accounted.next
    · have grown := c.instances.next.succ_cases
      have before := accounted.next
      rw [next]
      rcases grown with same | grown
      · rwa [same]
      · omega
  · rcases turns.entry spares here here' found with old | ⟨rfl, next, -, id, registers⟩
    · obtain ⟨proper, spent, s, member, id, registers⟩ := accounted.live h i old
      exact ⟨proper, turns.spent spent, s, List.mem_append_left _ member, id, registers⟩
    · exact ⟨proper, next ▸ .next _, _, List.mem_append_right _ (List.mem_singleton.mpr rfl), id,
        registers⟩
  -- The request that removed the instance is the last one, or the last one comes after it.
  · rcases post.eq_nil_or_concat with rfl | ⟨earlier, last, rfl⟩
    · obtain ⟨rfl, same⟩ := List.append_inj' split rfl
      cases same
      obtain ⟨i, live, rfl⟩ := destroys
      rw [resolve, here] at live
      obtain ⟨proper, spent, -⟩ := accounted.live h i live
      exact ⟨turns.spent spent, .inl (turns.destroys multiple proper live rfl)⟩
    · have shorter : steps ++ [⟨operation, answer, w, u⟩] = (pre ++ s :: earlier) ++ [last] := by
        simpa using split
      obtain ⟨rfl, same⟩ := List.append_inj' shorter rfl
      cases same
      obtain ⟨spent, gone⟩ := accounted.gone pre s earlier h rfl destroys
      rw [List.concat_eq_append]
      exact ⟨turns.spent spent, turns.gone spares here here' spent gone⟩

theorem Ran.accounted (hushes : env.Hushes) {root : Root} {start : World σ ν} (tidy : start.Tidy)
    (held : start.Holds seat) (fresh : start.contexts.get? seat = some { root })
    (multiple : root.single = none) (ran : Ran env seat start steps w) :
    ∃ c, Standing seat root w c ∧ Accounted env seat steps c := by
  induction ran with
  | nil =>
    have begins : InstanceHandle.root.raw.toNat < InstanceHandle.root.succ.raw.toNat := by decide
    refine ⟨_, ⟨tidy, held, fresh, rfl, rfl, rfl⟩, begins, fun h i found => ?_,
      fun pre s post h split => ?_⟩
    · cases found
    · simp at split
  | snoc earlier operation ended ih =>
    obtain ⟨c, standing, accounted⟩ := ih
    obtain ⟨c', standing', turns⟩ := standing.step hushes ended
    have several : c.single = none := by rw [standing.single, multiple, Option.map_none]
    exact ⟨c', standing', accounted.snoc hushes.spares several standing.here standing'.here turns⟩

end Dispatch

end AddonBridge
