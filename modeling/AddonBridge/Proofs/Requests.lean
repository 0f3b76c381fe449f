import AddonBridge.Proofs.Creation
import AddonBridge.Proofs.Hearing
import AddonBridge.Proofs.Ownership

/-!
# Requests, call by call

Whom a request for an instance asks, what its answers come to, and what a request to destroy one
does, each followed through its acts: who is called on the way is told for all the objects of the
context together.
-/

namespace AddonBridge.Dispatch

open Act World

variable {σ ν α : Type} {env : Env σ ν} {seat : Seat} {c : Context σ} {among : List ObjectId}
  {w u v : World σ ν} {calls : List (ObjectId × Callback)} {j k : Option Stop} {r : Request}
  {o : Offer σ} {i : Instance σ}

/-! ### Answers -/

/-- The name of the instance in an answer was given out meanwhile, and is in no context. -/
def Offer.New (w u : World σ ν) (o : Offer σ) : Prop :=
  ∀ i, o.instance? = some i → ¬w.Reserves i.object ∧ u.Reserves i.object

/-- The instance in an answer that implements nothing was dropped, and is in no context. -/
def Offer.Discarded (w u : World σ ν) (o : Offer σ) : Prop :=
  o.status = .notImplemented → ∀ i, o.instance? = some i →
    w.Shows u (.instanceDropped i.object i.descriptor) ∧ u.Reserves i.object

theorem Offer.Discarded.earlier (grown : w.trace <:+ u.trace) (h : o.Discarded u v) :
    o.Discarded w v := by
  intro unable i created
  obtain ⟨dropped, away⟩ := h unable i created
  exact ⟨dropped.earlier grown, away⟩

theorem Offer.Discarded.later (grown : u.trace <:+ v.trace)
    (reserves : ∀ x, u.Reserves x → v.Reserves x) (h : o.Discarded w u) : o.Discarded w v := by
  intro unable i created
  obtain ⟨dropped, away⟩ := h unable i created
  exact ⟨dropped.later grown, reserves _ away⟩

theorem dropInstance_under (hushes : env.Hushes) (site : Site) (i : Instance σ)
    (h : Under seat c among w calls k u) (live : k ≠ some .aborted) :
    Ensures (dropInstance env site i) u
      (fun _ v => Under seat c among w calls k v ∧
        .instanceDropped i.object i.descriptor :: u.trace <:+ v.trace)
      (fun e v => e = .aborted ∧ Under seat c among w calls (some e) v) := by
  rw [dropInstance, ensures_bind, ensures_record]
  have dropped : Under seat c among w calls none _ :=
    h.continues live (.record (e := .instanceDropped i.object i.descriptor) fun _ => rfl)
  refine ((Env.lastly_obeys hushes.keeps _ (Program.all_true _) _).and
    (Env.lastly_quiet hushes.spares.quiet _ _ _)).mono (fun _ v ended => ?_) fun e v stopped => ?_
  · have hushed := ended.1
    exact ⟨(dropped.continues returned_ne hushed).relax fun _ => returned_ne, (hushed.spares returned_ne).trace⟩
  · exact ⟨stopped.2, dropped.continues returned_ne stopped.1⟩

theorem Offer.drop_under (hushes : env.Hushes) (c : Context σ) (o : Offer σ) {d : Context σ}
    (h : Under seat d among w calls k u) (live : k ≠ some .aborted) :
    Ensures (o.drop env c.root.site) u
      (fun _ v => Under seat d among w calls k v ∧ u.trace <:+ v.trace ∧
        (∀ x, u.Reserves x → v.Reserves x) ∧
        ∀ i, o.instance? = some i → u.Shows v (.instanceDropped i.object i.descriptor))
      (fun e v => e = .aborted ∧ Under seat d among w calls (some e) v) := by
  refine ((Offer.drop_hushes hushes c.root.site o u).and
    (Offer.drop_aborts hushes.spares c o u)).mono (fun _ v ended => ?_) fun e v stopped => ?_
  · obtain ⟨hushed, -, dropped⟩ := ended
    have reserves := (hushed.hushed (h.going live).tidy).reserves returned_ne
    refine ⟨(h.continues live hushed).relax fun _ => returned_ne, (hushed.spares returned_ne).trace, reserves,
      fun i created => dropped i ?_⟩
    rw [created]
    exact List.mem_singleton.mpr rfl
  · exact ⟨stopped.2.1, h.continues live stopped.1⟩

/-! ### Asking -/

theorem callRoot_under (hushes : env.Hushes) (c : Context σ) {d : Context σ}
    (h : Under seat d among w calls none u) (cb : Callback)
    (q : Addon σ ν → Site → Program σ ν Payload α) :
    Ensures (callRoot env c cb q) u
      (fun _ v => Under seat d among w (calls ++ [(c.root.object, cb)]) none v)
      fun e v => Under seat d among w (calls ++ [(c.root.object, cb)]) (some e) v := by
  rw [callRoot, ensures_bind, ensures_record]
  exact (h.called c.root.object cb).runs (Env.callback_obeys hushes.keeps _ (Program.all_true _))

theorem offer_under (h : Under seat c among w calls none u) (maker : ObjectId) (o : Outcome σ) :
    Ensures (offer maker o) u (fun a v => Under seat c among w calls none v ∧ a.New w v)
      fun _ _ => False := by
  have before := h.ongoing
  unfold offer
  split
  · rw [ensures_bind, ensures_freshObject, ensures_bind, ensures_record]
    refine ⟨h.continues returned_ne (.quiet (l := [_]) rfl rfl rfl
      (Owned.made_le u maker.table) rfl ?_), ?_⟩
    · exact fun e member _ => List.mem_singleton.mp member ▸ rfl
    · rintro i ⟨⟩
      refine ⟨fun reserved => ?_, by simp, fun s d there member => ?_⟩
      · exact absurd (before.reserves _ reserved).named (Nat.lt_irrefl _)
      · exact absurd (before.tidy.numbered s d there _ member) (Nat.lt_irrefl _)
  · exact ⟨h, fun i created => by cases created⟩
  · exact ⟨h, fun i created => by cases created⟩

theorem askRoot_under (hushes : env.Hushes) (r : Request) (h : Under seat c among w calls none u) :
    Ensures (askRoot env c r) u
      (fun o v => Under seat c among w (calls ++ [(c.root.object, .factory r)]) none v ∧ o.New w v)
      fun e v => Under seat c among w (calls ++ [(c.root.object, .factory r)]) (some e) v := by
  rw [askRoot, ensures_bind]
  refine (callRoot_under hushes c h _ _).mono (fun o v told => ?_) fun _ _ => id
  exact (offer_under told _ o).mono (fun _ _ => id) fun _ _ => False.elim

theorem askInstance_under (hushes : env.Hushes) (i : Instance σ) (r : Request)
    (h : Under seat c among w calls none u) :
    Ensures (askInstance env c i r) u
      (fun o v => Under seat c among w (calls ++ [(i.object, .factory r)]) none v ∧ o.New w v)
      fun e v => Under seat c among w (calls ++ [(i.object, .factory r)]) (some e) v := by
  rw [askInstance, ensures_bind, ensures_record]
  dsimp only
  rw [ensures_bind]
  refine ((h.called i.object (.factory r)).runs
    (Env.callback_obeys hushes.keeps _ (Program.all_true _))).mono (fun o v told => ?_) fun _ _ => id
  exact (offer_under told _ o).mono (fun _ _ => id) fun _ _ => False.elim

/-- A defect does not come back, whatever is done after it. -/
theorem raise_never (d : Defect) (cleanup : Act σ ν Unit) (w : World σ ν) :
    Ensures (Act.after (Log.raise d : Act σ ν α) cleanup) w (fun _ _ => False) fun _ _ => True := by
  rw [ensures_after]
  refine (Log.raise_ensures d w).mono (fun _ _ => False.elim) fun e v stopped => ?_
  obtain ⟨rfl, -⟩ := stopped
  exact (Ensures.trivial _).mono (fun _ _ _ => True.intro) fun _ _ _ => True.intro

theorem register_under (hushes : env.Hushes) (h : Under seat c among w calls none u)
    (unused : ¬w.Reserves i.object) (reserved : u.Reserves i.object) :
    Ensures (register env seat i) u
      (fun a v => a = some c.instances.next ∧
        Under seat { c with instances := c.instances.insert i } among w calls none v)
      fun e v => Under seat c among w calls (some e) v := by
  have before := h.ongoing
  have away := reserved.vacant seat c before.here
  rw [register, withContext, ensures_bind, ensures_context?, before.here]
  dsimp only
  rw [ensures_bind, ensures_setContext]
  have placed := h.reseat { c with instances := c.instances.insert i }
    (Context.nodup_names_insert (before.tidy.distinct seat c before.here) away) fun x member => by
      rcases Context.mem_names_insert member with old | rfl
      · exact .inl old
      · exact .inr ⟨unused, reserved⟩
  split
  · next replaced _ =>
    rw [ensures_bind]
    refine ((placed.runs (dropInstance_hushes hushes _ replaced)).and
      (dropInstance_quiet hushes.spares.quiet _ replaced _)).mono (fun _ v ended => ?_) ?_
    · exact ⟨rfl, ended.1⟩
    · rintro e v ⟨stopped, rfl⟩
      exact stopped.aborted
  · exact ⟨rfl, placed⟩

/-- An answer is settled without another callback. -/
theorem settle_under (hushes : env.Hushes) (h : Under seat c among w calls none u)
    (new : o.New w u) :
    Ensures (settle env seat c.root.site r o) u
      (fun a v => o.Discarded u v ∧
        ∃ c', Obtains c r.id o a c' ∧ Under seat c' among w calls none v)
      fun e v => Under seat c among w calls (some e) v := by
  have before := h.ongoing
  refine settle_exits before.here (fun passed v idle => ?_) (fun d _ => ?_)
    (fun i able created _ v idle => ?_) fun d able created single _ v idle => ?_
  · have told : Hushing none u none v := .idle idle
    have named := (told.hushed before.tidy).reserves returned_ne
    refine (Offer.drop_under hushes c o (h.continues returned_ne told) returned_ne).mono
      (fun _ x dropped => ?_) fun _ _ stopped => stopped.2
    obtain ⟨under, -, reserves, dropped⟩ := dropped
    refine ⟨fun _ i created => ⟨(dropped i created).earlier idle.stirs.trace, ?_⟩,
      c, .refused passed, under⟩
    exact reserves _ (named _ (new i created).2)
  · have raised := Obeys.after Hushing.law (raise_hushes (α := Status × Option InstanceHandle) d)
      (Offer.drop_hushes hushes c.root.site o) (Offer.drop_quiet hushes.spares.quiet _ o) u
    exact ((raise_never d _ u).and raised).mono (fun _ _ ended => ended.1.elim) fun _ _ stopped =>
      h.continues returned_ne stopped.2
  · have told : Hushing none u none v := .idle idle
    obtain ⟨unused, reserved⟩ := new i (by simp [Offer.instance?, created])
    have reserved := (told.hushed before.tidy).reserves returned_ne _ reserved
    refine (register_under (i := { i with descriptor := i.descriptor.stamp r.id }) hushes
      (h.continues returned_ne told) unused reserved).mono (fun a x ended => ?_) fun _ _ => id
    obtain ⟨rfl, under⟩ := ended
    exact ⟨fun unable => absurd unable able, _, .registered i able created, under⟩
  · have told := h.continues returned_ne (.idle idle)
    refine ⟨fun unable => absurd unable able, _, .stamped d able created single, ?_⟩
    exact told.reseat _ (told.ongoing.tidy.distinct seat c told.ongoing.here) fun _ => .inl

/-! ### Requests for instances -/

/-- The root's answer is settled. -/
theorem answered_under (hushes : env.Hushes) (r : Request) (h : Under seat c among w calls none u) :
    Ensures (do settle env seat c.root.site r (← askRoot env c r)) u
      (fun a v => ∃ o x, askRoot env c r u = .ok o x ∧ o.Discarded w v ∧
        ∃ c', Obtains c r.id o a c' ∧
          Under seat c' among w (calls ++ [(c.root.object, .factory r)]) none v)
      fun e v => Under seat c among w (calls ++ [(c.root.object, .factory r)]) (some e) v := by
  rw [ensures_bind]
  refine ((askRoot_under hushes r h).and (.eq _)).mono (fun o x asked => ?_) fun _ _ => And.left
  obtain ⟨⟨under, new⟩, ended⟩ := asked
  refine (settle_under hushes under new).mono (fun a v settled => ?_) fun _ _ => id
  obtain ⟨discarded, obtained⟩ := settled
  exact ⟨o, x, ended, discarded.earlier under.ongoing.spares.trace, obtained⟩

/-- The root is asked after an answer that is passed over, whose instance goes when it is done. -/
theorem fallback_under (hushes : env.Hushes) (r : Request) (h : Under seat c among w calls none u)
    (new : o.New w u) :
    Ensures (Act.after (do settle env seat c.root.site r (← askRoot env c r))
        (o.drop env c.root.site)) u
      (fun a v => ∃ o' x, askRoot env c r u = .ok o' x ∧ (∀ p ∈ [o', o], p.Discarded w v) ∧
        ∃ c', Obtains c r.id o' a c' ∧
          Under seat c' among w (calls ++ [(c.root.object, .factory r)]) none v)
      fun e v => (e ≠ .aborted → o.Discarded w v) ∧
        Under seat c among w (calls ++ [(c.root.object, .factory r)]) (some e) v := by
  have before := h.ongoing.spares.trace
  have discards {d : Context σ} {x v : World σ ν} (after : Ongoing seat d among u x)
      (reserves : ∀ y, x.Reserves y → v.Reserves y)
      (dropped : ∀ i, o.instance? = some i →
        x.Shows v (.instanceDropped i.object i.descriptor)) : o.Discarded w v :=
    fun _ i created => ⟨(dropped i created).earlier (before.trans after.spares.trace),
      reserves _ (after.reserves _ (new i created).2)⟩
  rw [ensures_after]
  refine (answered_under hushes r h.restart).mono (fun a x answered => ?_) fun e x stopped => ?_
  · obtain ⟨o', y, ended, discarded, c', obtained, under⟩ := answered
    refine (Offer.drop_under hushes c o under returned_ne).mono (fun _ v gone => ?_) ?_
    · obtain ⟨after, grown, reserves, dropped⟩ := gone
      refine ⟨o', y, ended, ?_, c', obtained, h.trans after⟩
      simp only [List.forall_mem_cons, List.not_mem_nil, false_imp_iff, implies_true, and_true]
      exact ⟨(discarded.earlier before).later grown reserves,
        discards under.ongoing reserves dropped⟩
    · rintro e v ⟨rfl, aborted⟩
      exact ⟨fun going => absurd rfl going, h.trans aborted.aborted⟩
  · cases e with
    | aborted => exact ⟨fun going => absurd rfl going, h.trans stopped⟩
    | unwinding q =>
      refine (Offer.drop_under hushes c o stopped (by simp)).mono (fun _ v gone => ?_) ?_
      · obtain ⟨after, -, reserves, dropped⟩ := gone
        exact ⟨fun _ => discards (stopped.going (by simp)) reserves dropped, h.trans after⟩
      · rintro e v ⟨rfl, aborted⟩
        exact ⟨fun going => absurd rfl going, h.trans aborted⟩

/-- A request was answered: the last answer was settled, and what comes with one that implements
nothing is gone. -/
def Answered (env : Env σ ν) (seat : Seat) (c : Context σ) (among : List ObjectId) (r : Request)
    (parent : Option InstanceHandle) (w : World σ ν) (a : Status × Option InstanceHandle)
    (v : World σ ν) : Prop :=
  ∃ asked passed o u, Asked env c r parent w asked passed (.ok o u) ∧
    (∀ p ∈ o :: passed.toList, p.Discarded w v) ∧
    ∃ c', Obtains c r.id o a c' ∧ Under seat c' among w (asked.map (·, .factory r)) none v

/-- A request stopped early: the context is as it was, and an answer that was passed over is gone. -/
def Unanswered (env : Env σ ν) (seat : Seat) (c : Context σ) (among : List ObjectId) (r : Request)
    (parent : Option InstanceHandle) (w : World σ ν) (e : Stop) (v : World σ ν) : Prop :=
  ∃ asked passed result, Asked env c r parent w asked passed result ∧
    (e ≠ .aborted → ∀ p ∈ passed.toList, p.Discarded w v) ∧
    Under seat c among w (asked.map (·, .factory r)) (some e) v

/-- The factory of a live parent is asked first. -/
theorem parent_under (hushes : env.Hushes) (r : Request) (h : Under seat c among w [] none w)
    {p : InstanceHandle} (proper : p ≠ .root) (live : c.instances.get? p = some i) :
    Ensures (askInstance env c i r >>= fun o =>
        if o.status = .notImplemented then
          Act.after (do settle env seat c.root.site r (← askRoot env c r)) (o.drop env c.root.site)
        else settle env seat c.root.site r o) w
      (Answered env seat c among r (some p) w) (Unanswered env seat c among r (some p) w) := by
  rw [ensures_bind]
  refine ((askInstance_under hushes i r h).and (.eq _)).mono (fun o u asked => ?_) fun e u stopped => ?_
  · obtain ⟨⟨under, new⟩, ended⟩ := asked
    rw [ensures_ite]
    refine ⟨fun unable => ?_, fun able => ?_⟩
    · have fallback {result : EStateM.Result Stop (World σ ν) (Offer σ)}
          (ended' : askRoot env c r u = result) :
          Asked env c r (some p) w [i.object, c.root.object] (some o) result :=
        ended' ▸ .fallback rfl proper live ended unable
      refine (fallback_under hushes r under new).mono (fun a v answered => ?_) fun e v stopped => ?_
      · obtain ⟨o', x, ended', discarded, obtained⟩ := answered
        exact ⟨_, some o, o', x, fallback ended', discarded, obtained⟩
      · obtain ⟨discarded, stopped⟩ := stopped
        exact ⟨_, some o, _, fallback rfl, by simpa using discarded, stopped⟩
    · have asked : Asked env c r (some p) w [i.object] none (.ok o u) := by
        refine ended ▸ .parent rfl proper live fun o' u' same => ?_
        cases ended.symm.trans same
        exact able
      refine (settle_under hushes under new).mono (fun a v settled => ?_) fun e v stopped => ?_
      · obtain ⟨discarded, obtained⟩ := settled
        refine ⟨_, none, o, u, asked, ?_, obtained⟩
        simpa using discarded.earlier under.ongoing.spares.trace
      · exact ⟨_, none, _, asked, by simp, stopped⟩
  · refine ⟨_, none, _, .parent rfl proper live fun o' u' same => ?_, by simp, stopped.1⟩
    cases stopped.2.symm.trans same

/-- A request asks the factories in turn, and settles the answer of the last one. -/
theorem createInstance_under (hushes : env.Hushes) (ty : AddonType) (id : String)
    (host : HostHandle) (version : String) (parent : Option InstanceHandle)
    (h : Under seat c among w [] none w) :
    Ensures (createInstance env seat ty id host version parent) w
      (Answered env seat c among (requested w c ty id host version) parent w)
      (Unanswered env seat c among (requested w c ty id host version) parent w) := by
  rw [createInstance, withContext, ensures_bind, ensures_context?, h.ongoing.here]
  dsimp only
  rw [ensures_bind, HostAccess.firstInstance, ensures_bind, ensures_loaded?, ensures_pure,
    ensures_bind]
  change Ensures (askParent env c (requested w c ty id host version) parent) w _ _
  rcases designated c parent with ⟨p, i, rfl, proper, live⟩ | orphan
  · rw [askParent_live proper live, ensures_map]
    have asked := parent_under hushes (requested w c ty id host version) h proper live
    rwa [ensures_bind] at asked
  · refine (askParent_orphan orphan).mono (fun asked u ended => ?_) fun _ _ => False.elim
    obtain ⟨rfl, idle⟩ := ended
    refine (answered_under hushes _ (h.continues returned_ne (.idle idle))).mono
      (fun a v answered => ?_) fun e v stopped => ?_
    · obtain ⟨o, x, ended, discarded, obtained⟩ := answered
      exact ⟨[c.root.object], none, o, x, ended ▸ .root orphan idle, by simpa using discarded,
        obtained⟩
    · exact ⟨[c.root.object], none, _, .root orphan idle, by simp, stopped⟩

/-! ### Requests to destroy an instance -/

/-- The root was told that an instance goes, and the instance went after that. -/
def Dismissed (c : Context σ) (i : Instance σ) (w u : World σ ν) : Prop :=
  ∃ es es', u.trace = es' ++ .instanceDropped i.object i.descriptor :: es ++
    .called c.root.object (.instanceDestroyed i.descriptor.instanceType i.descriptor.id) :: w.trace

theorem Dismissed.of_grown {x : World σ ν}
    (told : .called c.root.object (.instanceDestroyed i.descriptor.instanceType i.descriptor.id) ::
      w.trace <:+ u.trace)
    (dropped : .instanceDropped i.object i.descriptor :: u.trace <:+ x.trace) :
    Dismissed c i w x := by
  obtain ⟨es, told⟩ := told
  obtain ⟨es', dropped⟩ := dropped
  exact ⟨es, es', by rw [← dropped, ← told, List.append_assoc, List.cons_append]⟩

theorem destroyInstance_idle {ty : AddonType} {handle : Option InstanceHandle}
    (here : w.contexts.get? seat = some c)
    (nothing : c.single.isSome ∨ ∀ h, handle = some h → h ≠ .root → c.instances.get? h = none) :
    Ensures (destroyInstance env seat ty handle) w (fun _ v => w.Idle v) fun _ _ => False := by
  rw [destroyInstance, withContext, ensures_bind, ensures_context?, here]
  dsimp only
  rw [ensures_ite]
  refine ⟨fun _ => .refl w, fun multiple => ?_⟩
  have absent := nothing.resolve_left multiple
  split
  · exact .refl w
  · next h asked =>
    obtain ⟨given, proper⟩ := Option.filter_eq_some_iff.mp asked
    rw [absent h given (by simpa [InstanceHandle.isRoot] using proper)]
    exact Log.error_talks.ensures fun _ _ => id

variable {h : InstanceHandle} {ty : AddonType}

/-- What a request to destroy a live instance comes to, for a context without a single instance. -/
theorem destroyInstance_live {Q : Unit → World σ ν → Prop} {E : Stop → World σ ν → Prop}
    (here : w.contexts.get? seat = some c) (multiple : c.single = none) (proper : h ≠ .root)
    (live : c.instances.get? h = some i)
    (fits : i.descriptor.instanceType = ty → Ensures
      (Act.after (callRoot env c (.instanceDestroyed ty i.descriptor.id)
        (·.instanceDestroyed · ty i.descriptor.id i.descriptor)) (dropInstance env c.root.site i))
      { w with contexts := w.contexts.set seat { c with instances := c.instances.erase h } } Q E)
    (other : i.descriptor.instanceType ≠ ty →
      Ensures (Log.raise (.destroyedTypeMismatch ty i.descriptor.instanceType)) w Q E) :
    Ensures (destroyInstance env seat ty (some h)) w Q E := by
  rw [destroyInstance, withContext, ensures_bind, ensures_context?, here]
  dsimp only
  rw [ensures_ite]
  refine ⟨fun single => by simp [multiple] at single, fun _ => ?_⟩
  rw [Option.filter_some, if_pos (by simpa [InstanceHandle.isRoot] using proper)]
  dsimp only
  rw [live]
  dsimp only
  rw [ensures_ite]
  exact ⟨fun same => fits same, fun differs => other differs⟩

theorem destroyInstance_mismatch (here : w.contexts.get? seat = some c) (multiple : c.single = none)
    (proper : h ≠ .root) (live : c.instances.get? h = some i)
    (other : i.descriptor.instanceType ≠ ty) :
    Ensures (destroyInstance env seat ty (some h)) w (fun _ _ => False) fun e v =>
      e = .unwinding (.defect (.destroyedTypeMismatch ty i.descriptor.instanceType)) ∧
      World.Idle { w with
        trace := .raised (.destroyedTypeMismatch ty i.descriptor.instanceType) :: w.trace } v := by
  refine destroyInstance_live here multiple proper live (absurd · other) fun _ => ?_
  rw [Log.raise, ensures_bind, ensures_record]
  exact Log.error_talks.before fun _ v idle => ⟨rfl, idle⟩

/-- An instance of the right type leaves the registry, its root is told, and then it goes. -/
theorem destroyInstance_under (hushes : env.Hushes) (before : Under seat c among w [] none w)
    (multiple : c.single = none) (proper : h ≠ .root) (live : c.instances.get? h = some i)
    (fits : i.descriptor.instanceType = ty) :
    Ensures (destroyInstance env seat ty (some h)) w
      (fun _ v => Under seat { c with instances := c.instances.erase h } among w
        [(c.root.object, .instanceDestroyed ty i.descriptor.id)] none v ∧ Dismissed c i w v)
      fun e v => Under seat { c with instances := c.instances.erase h } among w
        [(c.root.object, .instanceDestroyed ty i.descriptor.id)] (some e) v ∧
        (e ≠ .aborted → Dismissed c i w v) := by
  have here := before.ongoing.here
  refine destroyInstance_live here multiple proper live (fun _ => ?_) (absurd fits ·)
  have fewer := c.names_erase h
  have taken := before.reseat { c with instances := c.instances.erase h }
    ((before.ongoing.tidy.distinct seat c here).sublist fewer) fun x member =>
      .inl (fewer.subset member)
  subst fits
  have told := taken.called c.root.object
    (.instanceDestroyed i.descriptor.instanceType i.descriptor.id)
  rw [ensures_after, callRoot, ensures_bind, ensures_record]
  refine (Env.callback_obeys hushes.keeps _ (Program.all_true _) _).mono (fun _ u hushed => ?_)
    fun e u hushed => ?_
  · have notified := (hushed.spares returned_ne).trace
    refine (dropInstance_under hushes _ i (told.continues returned_ne hushed) returned_ne).mono
      (fun _ v ended => ⟨ended.1, .of_grown notified ended.2⟩) ?_
    rintro e v ⟨rfl, stopped⟩
    exact ⟨stopped, fun going => absurd rfl going⟩
  · cases e with
    | aborted => exact ⟨told.continues returned_ne hushed, fun going => absurd rfl going⟩
    | unwinding q =>
      have notified := (hushed.spares (by simp)).trace
      refine (dropInstance_under hushes _ i (told.continues returned_ne hushed) (by simp)).mono
        (fun _ v ended => ⟨ended.1, fun _ => .of_grown notified ended.2⟩) ?_
      rintro e v ⟨rfl, stopped⟩
      exact ⟨stopped, fun going => absurd rfl going⟩

/-! ### Any request -/

/-- A request under which nobody is called but objects of its context. -/
def Spoke (seat : Seat) (c : Context σ) (among : List ObjectId) (w : World σ ν) (k : Option Stop)
    (u : World σ ν) : Prop :=
  ∃ calls c', (∀ p ∈ calls, p.1 ∈ c.names) ∧ Under seat c' among w calls k u

theorem withContext_hushes {default : α} {g : Context σ → Act σ ν α}
    (spares : Obeys (Sparing (some seat)) (withContext seat default g))
    (spoke : ∀ among w c, Under seat c among w [] none w →
      Ensures (withContext seat default g) w (fun _ u => Spoke seat c among w none u)
        fun e u => Spoke seat c among w (some e) u) :
    Obeys (Hushing (some seat)) (withContext seat default g) := by
  intro w
  cases here : w.contexts.get? seat with
  | none =>
    rw [withContext, ensures_bind, ensures_context?, here]
    exact .refl w
  | some c =>
    have hushing {k : Option Stop} {u : World σ ν}
        (spared : k ≠ some .aborted → Spares (some seat) w u)
        (spoke : ∀ among, w.Tidy → w.Holds seat → (∀ x ∈ among, Guards none w x) →
          Spoke seat c among w k u) : Hushing (some seat) w k u := by
      refine ⟨spared, fun tidy held => ?_⟩
      have held := held seat rfl
      obtain ⟨_, _, -, under⟩ := spoke [] tidy held (by simp)
      obtain ⟨es, grown, -⟩ := under.hears
      refine ⟨fun live => (under.going live).tidy, fun live => (under.going live).reserves,
        ⟨es, grown.symm⟩, fun x guarded => ?_⟩
      obtain ⟨calls, _, own, under⟩ := spoke [x] tidy held (by simpa using guarded.weaken)
      have away : x ∉ c.names := by
        rcases guarded with reserved | ⟨s, d, -, other, there, within⟩
        · exact reserved.vacant seat c here
        · exact fun inside => other (congrArg some (tidy.apart seat s c d x here there inside within))
      have none_heard : calls.filter (·.1 ∈ [x]) = [] := by
        refine List.filter_eq_nil_iff.mpr fun p member => ?_
        simpa using fun same : p.1 = x => away (same ▸ own p member)
      exact none_heard ▸ under.hears
    have all := Ensures.all fun among => Ensures.all fun tidy : w.Tidy =>
      Ensures.all fun held : w.Holds seat => Ensures.all fun guards : ∀ x ∈ among, Guards none w x =>
        spoke among w c (.start tidy held here guards)
    exact ((spares w).and all).mono (fun _ u ended => hushing ended.1 ended.2)
      fun e u stopped => hushing stopped.1 stopped.2

theorem withRoot_spoke (hushes : env.Hushes) (cb : Callback) (default : α)
    (q : Addon σ ν → Site → Program σ ν Payload α) (h : Under seat c among w [] none w) :
    Ensures (withContext seat default fun c => callRoot env c cb q) w
      (fun _ u => Spoke seat c among w none u) fun e u => Spoke seat c among w (some e) u := by
  rw [withContext, ensures_bind, ensures_context?, h.ongoing.here]
  exact (callRoot_under hushes c h cb q).mono (fun _ _ under => ⟨_, c, c.root_own cb, under⟩)
    fun _ _ under => ⟨_, c, c.root_own cb, under⟩

end AddonBridge.Dispatch
