import AddonBridge.Proofs.Defects
import AddonBridge.Proofs.Reentry
import AddonBridge.Proofs.Settling

/-!
# Creation defects

Which answers of factories are defects, and what is left of a request that comes to one: the context
is as it was, and what was produced is gone. `createInstance_defects` says so of every context and
every answer, and says which calls abort.
-/

namespace AddonBridge

open Act World

variable {σ ν : Type} {w u v : World σ ν} {env : Env σ ν} {seat : Seat} {c : Context σ}

namespace Dispatch

/-- Asks the factories for an instance. Gives the answer that counts, and the one passed over. -/
def route (env : Env σ ν) (c : Context σ) (r : Request) (parent : Option InstanceHandle) :
    Act σ ν (Offer σ × Option (Offer σ)) := do
  match ← askParent env c r parent with
  | none => return (← askRoot env c r, none)
  | some o =>
    if o.status = .notImplemented then return (← askRoot env c r, some o)
    else return (o, none)

/-! ### Drops and defects -/

theorem dropInstance_ensures (spares : env.Spares) (site : Site) (i : Instance σ) (w : World σ ν) :
    Ensures (dropInstance env site i) w
      (fun _ v => Spares none w v ∧ w.Shows v (.instanceDropped i.object i.descriptor))
      (fun e v => e = .aborted ∧ dropInstance env site i w = .error e v) := by
  have permits := spares.permits none
  have dropped : Ensures (dropInstance env site i) w
      (fun _ v => Spares none w v ∧ w.Shows v (.instanceDropped i.object i.descriptor))
      fun _ _ => True := by
    rw [dropInstance, ensures_bind, ensures_record]
    refine (Env.lastly_obeys permits.toKeeps _ ((permits.modules.addon _).instanceDropped _ _ _)
      _).mono (fun _ v kept => ?_) fun _ _ _ => True.intro
    have kept := kept.returned
    exact ⟨.trans (Stirs.record rfl).spares kept, .later ⟨[_], rfl, by simp⟩ kept.trace⟩
  have quiet := dropInstance_quiet spares.quiet site i w
  refine ((dropped.and quiet).and (.eq _)).mono (fun _ v ended => ?_) fun e v stopped => ?_
  · obtain ⟨⟨dropped, -⟩, -⟩ := ended
    exact dropped
  · obtain ⟨⟨-, aborted⟩, here⟩ := stopped
    exact ⟨aborted, here⟩

/-! ### What becomes of an answer -/

def AbortsDropping (env : Env σ ν) (site : Site) (v : World σ ν) : Prop :=
  ∃ i w, dropInstance env site i w = .error .aborted v

/-- How a request ends that stops early: in a defect of the answer, with the context in use as it was
and the instances gone that were produced, or because the code of an instance that goes aborts. -/
def Spoilt (env : Env σ ν) (c : Context σ) (ty : AddonType) (o : Offer σ)
    (produced : List (Instance σ)) (w : World σ ν) (e : Stop) (v : World σ ν) : Prop :=
  match e with
  | .unwinding p => Spares none w v ∧ (∃ d, p = .defect d ∧ Flaw c.root.single ty o d) ∧
      ∀ i ∈ produced, w.Shows v (.instanceDropped i.object i.descriptor)
  | .aborted => AbortsDropping env c.root.site v

def Settled (c : Context σ) (ty : AddonType) (o : Offer σ) (a : Status × Option InstanceHandle) :
    Prop :=
  a.1 = o.status ∧ (a.2.isSome ↔ o.status ≠ .notImplemented) ∧ ∀ d, ¬Flaw c.root.single ty o d

theorem dropInstance_aborts (spares : env.Spares) (c : Context σ) (i : Instance σ) (w : World σ ν) :
    Ensures (dropInstance env c.root.site i) w
      (fun _ v => Spares none w v ∧ w.Shows v (.instanceDropped i.object i.descriptor))
      (fun e v => e = .aborted ∧ AbortsDropping env c.root.site v) := by
  refine (dropInstance_ensures spares c.root.site i w).mono (fun _ _ => id) ?_
  rintro _ v ⟨rfl, stopped⟩
  exact ⟨rfl, i, w, stopped⟩

theorem register_aborts (spares : env.Spares) (here : w.contexts.get? seat = some c)
    (i : Instance σ) :
    Ensures (register env seat i) w (fun h _ => h.isSome)
      (fun e v => e = .aborted ∧ AbortsDropping env c.root.site v) := by
  rw [register, withContext, ensures_bind, ensures_context?, here]
  dsimp only
  rw [ensures_bind, ensures_setContext]
  split
  · rw [ensures_bind]
    exact (dropInstance_aborts spares c _ _).mono (fun _ _ _ => rfl) fun _ _ => id
  · exact rfl

theorem Offer.drop_aborts (spares : env.Spares) (c : Context σ) (o : Offer σ) (w : World σ ν) :
    Ensures (o.drop env c.root.site) w
      (fun _ v => Spares none w v ∧ ∀ i ∈ o.instance?.toList,
        w.Shows v (.instanceDropped i.object i.descriptor))
      (fun e v => e = .aborted ∧ AbortsDropping env c.root.site v) := by
  rw [Offer.drop_eq]
  cases o.instance? with
  | none => exact ⟨.refl w, by simp⟩
  | some i =>
    refine (dropInstance_aborts spares c i w).mono (fun _ v gone => ?_) fun _ _ => id
    obtain ⟨spared, dropped⟩ := gone
    exact ⟨spared, by simpa using dropped⟩

/-- An answer is registered or is a defect, and nothing else. -/
theorem settle_ensures (spares : env.Spares) (here : w.contexts.get? seat = some c) (r : Request)
    (o : Offer σ) :
    Ensures (settle env seat c.root.site r o) w (fun a _ => Settled c r.instanceType o a)
      (Spoilt env c r.instanceType o o.instance?.toList w) := by
  refine settle_exits here (fun passed u _ => ?_) (fun d flaw => ?_)
    (fun i asked created fits u idle => ?_) fun d asked created single fits u idle => ?_
  · refine (Offer.drop_aborts spares c o u).mono (fun _ _ _ => ?_) ?_
    · exact ⟨rfl, by simp [passed], fun d flaw => by cases flaw <;> contradiction⟩
    · rintro _ v ⟨rfl, stopped⟩
      exact stopped
  · rw [ensures_after]
    refine (Log.raise_ensures d w).mono (fun _ _ => False.elim) ?_
    rintro _ u ⟨rfl, kept⟩
    refine (Offer.drop_aborts spares c o u).mono (fun _ v gone => ?_) ?_
    · obtain ⟨spared, dropped⟩ := gone
      refine ⟨kept.trans spared, ⟨d, rfl, flaw⟩, fun i member => ?_⟩
      exact (dropped i member).earlier kept.trace
    · rintro _ v ⟨rfl, stopped⟩
      exact stopped
  · refine (register_aborts spares (idle.contexts ▸ here) _).mono (fun h _ given => ?_) ?_
    · refine ⟨rfl, by simp [given, asked], fun d flaw => ?_⟩
      cases flaw <;> simp_all
    · rintro _ v ⟨rfl, stopped⟩
      exact stopped
  · refine ⟨rfl, by simp [asked], fun d flaw => ?_⟩
    cases flaw <;> simp_all

/-! ### Requests -/

def dropPassed (env : Env σ ν) (c : Context σ) : Option (Offer σ) → Act σ ν Unit
  | some o => o.drop env c.root.site
  | none => pure ()

def producedBy (o : Offer σ) (passed : Option (Offer σ)) : List (Instance σ) :=
  o.instance?.toList ++ (passed.bind (·.instance?)).toList

theorem dropPassed_aborts (spares : env.Spares) (c : Context σ) (passed : Option (Offer σ))
    (w : World σ ν) :
    Ensures (dropPassed env c passed) w
      (fun _ v => Spares none w v ∧ ∀ i ∈ (passed.bind (·.instance?)).toList,
        w.Shows v (.instanceDropped i.object i.descriptor))
      (fun e v => e = .aborted ∧ AbortsDropping env c.root.site v) := by
  cases passed with
  | none => exact ⟨.refl w, by simp⟩
  | some o => exact Offer.drop_aborts spares c o w

/-- A request is settled with the answer that counts; then the one passed over goes. -/
theorem createInstance_routed {Q : Status × Option InstanceHandle → World σ ν → Prop}
    {E : Stop → World σ ν → Prop} {ty : AddonType} {id version : String} {host : HostHandle}
    {parent : Option InstanceHandle} {o : Offer σ} {passed : Option (Offer σ)}
    (here : w.contexts.get? seat = some c)
    (routed : route env c (requested w c ty id host version) parent w = .ok (o, passed) u)
    (ended : Ensures (Act.after (settle env seat c.root.site (requested w c ty id host version) o)
      (dropPassed env c passed)) u Q E) :
    Ensures (createInstance env seat ty id host version parent) w Q E := by
  obtain ⟨asked, u', parental, routed⟩ := bind_ok routed
  rw [createInstance, withContext, ensures_bind, ensures_context?, here]
  dsimp only
  rw [ensures_bind, HostAccess.firstInstance, ensures_bind, ensures_loaded?, ensures_pure,
    ensures_bind]
  dsimp only [requested] at parental routed ended
  rw [ensures_ok parental]
  cases asked with
  | none =>
    obtain ⟨o', u'', answered, same⟩ := bind_ok routed
    cases same
    rw [ensures_bind, ensures_ok answered]
    rw [ensures_after] at ended
    exact ended.mono (fun _ _ done => done) fun e _ stopped => by cases e <;> exact stopped
  | some first =>
    dsimp only at routed ⊢
    rw [ensures_ite]
    refine ⟨fun unimplemented => ?_, fun implemented => ?_⟩
    · rw [if_pos unimplemented] at routed
      obtain ⟨o', u'', answered, same⟩ := bind_ok routed
      cases same
      rw [ensures_after, ensures_bind, ensures_ok answered]
      rw [ensures_after] at ended
      exact ended
    · rw [if_neg implemented] at routed
      cases routed
      rw [ensures_after] at ended
      exact ended.mono (fun _ _ done => done) fun e _ stopped => by cases e <;> exact stopped

theorem route_spares (spares : env.Spares) (r : Request) (parent : Option InstanceHandle) :
    Obeys (Sparing none) (route env c r parent) := by
  have permits := spares.permits none
  have law : Law (Sparing none : Change σ ν) := Sparing.law none
  refine .bind law (askParent_obeys permits) fun asked => ?_
  cases asked with
  | none => exact .bind law (askRoot_obeys permits) fun _ => .pure law _
  | some o => exact .ite (.bind law (askRoot_obeys permits) fun _ => .pure law _) (.pure law _)

/-- A request whose answer is known is settled, or spoilt by a defect of that answer. -/
theorem createInstance_ensures (spares : env.Spares) {ty : AddonType} {id version : String}
    {host : HostHandle} {parent : Option InstanceHandle} {o : Offer σ} {passed : Option (Offer σ)}
    (held : w.Holds seat) (here : w.contexts.get? seat = some c)
    (routed : route env c (requested w c ty id host version) parent w = .ok (o, passed) u) :
    Ensures (createInstance env seat ty id host version parent) w (fun a _ => Settled c ty o a)
      (fun e v => Spoilt env c ty o (producedBy o passed) u e v ∧
        (e ≠ .aborted → v.contexts.get? seat = some c)) := by
  have before : Spares none w u := by
    have obeyed := route_spares (c := c) spares (requested w c ty id host version) parent w
    exact ((ensures_ok routed).mp obeyed).returned
  have here' := before.stays held here
  have held := held.of_busy before.busy
  refine createInstance_routed here routed ?_
  rw [ensures_after]
  refine (settle_ensures spares here' _ o).mono (fun a u' settled => ?_) fun e u' spoilt => ?_
  · refine (dropPassed_aborts spares c passed u').mono (fun _ _ _ => settled) ?_
    rintro _ v ⟨rfl, stopped⟩
    exact ⟨stopped, fun going => absurd rfl going⟩
  · cases e with
    | aborted => exact ⟨spoilt, fun going => absurd rfl going⟩
    | unwinding p =>
      obtain ⟨kept, flaw, dropped⟩ := spoilt
      refine (dropPassed_aborts spares c passed u').mono (fun _ v gone => ?_) ?_
      · obtain ⟨spared, others⟩ := gone
        refine ⟨⟨kept.trans spared, flaw, fun i member => ?_⟩, fun _ => ?_⟩
        · rcases List.mem_append.mp member with counted | other
          · exact (dropped i counted).later spared.trace
          · exact (others i other).earlier kept.trace
        · exact (kept.trans spared).stays held here'
      · rintro _ v ⟨rfl, stopped⟩
        exact ⟨stopped, fun going => absurd rfl going⟩

end Dispatch

end AddonBridge
