import AddonBridge.Proofs.Dispatching

/-!
# How a request is answered

Whom a request for an instance asks, which answers of factories have a flaw, and the exits of a
request: nothing implements what was asked for, the answer is a defect, a new instance is registered,
or the single instance was meant.
-/

namespace AddonBridge.Dispatch

open Act

variable {σ ν δ : Type} {env : Env σ ν δ} {seat : Seat} {c : Context σ} {i : Instance σ}
  {w : World σ ν}

/-! ### Asking -/

def requested (w : World σ ν) (c : Context σ) (ty : AddonType) (id : String) (host : HostHandle)
    (version : String) : Request :=
  ⟨ty, id, host, version, ((w.loaded.get? c.root.site.table).map (·.firstInstance)).getD .null,
    c.single⟩

/-- A handle designates a live instance, or it is null, the root's or not registered. -/
theorem designated (c : Context σ) (handle : Option InstanceHandle) :
    (∃ h i, handle = some h ∧ h ≠ .root ∧ c.instances.get? h = some i) ∨
      ∀ h, handle = some h → h ≠ .root → c.instances.get? h = none := by
  refine Classical.or_iff_not_imp_left.mpr fun nobody h given proper => ?_
  exact Option.eq_none_iff_forall_ne_some.mpr fun i found => nobody ⟨h, i, given, proper, found⟩

/-- How a request goes through the factories: whose are asked, the first one first, which answer is
passed over, and how the last asking ends. -/
inductive Asked (env : Env σ ν δ) (c : Context σ) (r : Request) (parent : Option InstanceHandle)
    (w : World σ ν) :
    List ObjectId → Option (Offer σ) → EStateM.Result Stop (World σ ν) (Offer σ) → Prop where
  | root {u : World σ ν}
    (orphan : ∀ h, parent = some h → h ≠ .root → c.instances.get? h = none) (idle : w.Idle u) :
    Asked env c r parent w [c.root.object] none (askRoot env c r u)
  | parent {h : InstanceHandle} {i : Instance σ} (given : parent = some h) (proper : h ≠ .root)
    (live : c.instances.get? h = some i)
    (able : ∀ o u, askInstance env c i r w = .ok o u → o.status ≠ .notImplemented) :
    Asked env c r parent w [i.object] none (askInstance env c i r w)
  | fallback {h : InstanceHandle} {i : Instance σ} {o : Offer σ} {u : World σ ν}
    (given : parent = some h) (proper : h ≠ .root) (live : c.instances.get? h = some i)
    (passed : askInstance env c i r w = .ok o u) (unable : o.status = .notImplemented) :
    Asked env c r parent w [i.object, c.root.object] (some o) (askRoot env c r u)

theorem askParent_live {h : InstanceHandle} (proper : h ≠ .root)
    (live : c.instances.get? h = some i) :
    askParent env c r (some h) = some <$> askInstance env c i r := by
  simp [askParent, Option.filter, InstanceHandle.isRoot, proper, live]

theorem askParent_orphan {parent : Option InstanceHandle}
    (orphan : ∀ h, parent = some h → h ≠ .root → c.instances.get? h = none) :
    Ensures (askParent env c r parent) w (fun asked u => asked = none ∧ w.Idle u)
      fun _ _ => False := by
  unfold askParent
  split
  · exact ⟨rfl, .refl w⟩
  · next h found =>
    obtain ⟨given, proper⟩ := Option.filter_eq_some_iff.mp found
    rw [orphan h given (by simpa [InstanceHandle.isRoot] using proper)]
    exact Log.warn_talks.before fun _ u idle => ⟨rfl, idle⟩

/-! ### Settling -/

variable [Panics δ]

def Offer.instance? (o : Offer σ) : Option (Instance σ) := o.created.join

theorem Offer.drop_eq (o : Offer σ) (env : Env σ ν δ) (site : Site) :
    o.drop env site = match o.instance? with
      | some i => dropInstance env site i
      | none => pure () := by
  rcases o with ⟨status, _ | _ | i⟩ <;> rfl

/-- What is wrong with an answer, for a root with a single instance or without. -/
inductive Flaw (single : Option Descriptor) (ty : AddonType) (o : Offer σ) : Defect → Prop where
  | missing (asked : o.status ≠ .notImplemented) (created : o.created = none) :
    Flaw single ty o (.missingInstance ty o.status)
  | mismatch (i : Instance σ) (asked : o.status ≠ .notImplemented)
    (created : o.created = some (some i)) (other : i.descriptor.instanceType ≠ ty) :
    Flaw single ty o (.createdTypeMismatch ty i.descriptor.instanceType)
  | noSingle (asked : o.status ≠ .notImplemented) (created : o.created = some none)
    (none : single = none) : Flaw single ty o (.missingInstance ty o.status)
  | singleMismatch (d : Descriptor) (asked : o.status ≠ .notImplemented)
    (created : o.created = some Option.none) (some : single = some d) (other : d.instanceType ≠ ty) :
    Flaw single ty o (.createdTypeMismatch ty d.instanceType)

theorem Flaw.able {single : Option Descriptor} {ty : AddonType} {o : Offer σ} {d : Defect}
    (flaw : Flaw single ty o d) : o.status ≠ .notImplemented := by
  cases flaw <;> assumption

variable {site : Site} {r : Request} {o : Offer σ}
  {Q : Status × Option InstanceHandle → World σ ν → Prop} {E : Stop → World σ ν → Prop}

/-- A defect is raised, and then an instance goes if there is one. -/
theorem raise_bare {d : Defect} (bare : o.instance? = none)
    (h : Ensures (after (Log.raise d) (o.drop env site)) w Q E) :
    Ensures (Log.raise d) w Q E := by
  rw [Offer.drop_eq, bare, ensures_after] at h
  refine h.mono (fun _ _ => id) fun e u stopped => ?_
  cases e with
  | aborted => exact stopped
  | unwinding p => exact stopped

theorem settle_exits (here : w.contexts.get? seat = some c)
    (refused : o.status = .notImplemented → ∀ u, w.Idle u →
      Ensures (o.drop env site) u (fun _ v => Q (o.status, none) v) E)
    (flawed : ∀ d, Flaw c.root.single r.instanceType o d →
      Ensures (after (Log.raise d) (o.drop env site)) w Q E)
    (registered : ∀ i, o.status ≠ .notImplemented → o.created = some (some i) →
      i.descriptor.instanceType = r.instanceType → ∀ u, w.Idle u →
      Ensures (register env seat { i with descriptor := i.descriptor.stamp r.id }) u
        (fun h v => Q (o.status, h) v) E)
    (stamped : ∀ d, o.status ≠ .notImplemented → o.created = some none →
      c.root.single = some d → d.instanceType = r.instanceType → ∀ u, w.Idle u →
      Q (o.status, some .root) { u with
        contexts := u.contexts.set seat
          { c with root := { c.root with single := some (d.stamp r.id) } } }) :
    Ensures (settle env seat site r o) w Q E := by
  rw [settle, ensures_ite]
  refine ⟨fun passed => ?_, fun asked => ?_⟩
  · refine Log.debug_talks.before fun _ u idle => ?_
    rw [ensures_bind]
    exact refused passed u idle
  split
  · next created =>
    exact raise_bare (by simp [Offer.instance?, created]) (flawed _ (.missing asked created))
  · next i created =>
    rw [ensures_ite]
    refine ⟨fun fits => ?_, fun other => ?_⟩
    · refine warnStamped_talks.before fun _ u idle => ?_
      rw [ensures_bind]
      exact registered i asked created fits u idle
    · have raised := flawed _ (.mismatch i asked created other)
      rwa [Offer.drop, created] at raised
  · next created =>
    have bare : o.instance? = none := by simp [Offer.instance?, created]
    rw [ensures_bind, ensures_context?, here]
    dsimp only [Option.bind]
    split
    · next single => exact raise_bare bare (flawed _ (.noSingle asked created single))
    · next d single =>
      rw [ensures_ite]
      refine ⟨fun fits => ?_, fun other => ?_⟩
      · refine warnStamped_talks.before fun _ u idle => ?_
        rw [ensures_bind, ensures_modifyContext, Assoc.modify, idle.contexts, here]
        have done := stamped d asked created single fits u idle
        rwa [idle.contexts] at done
      · exact raise_bare bare (flawed _ (.singleMismatch d asked created single other))

/-- What comes of an answer: what the host is told, and the context after it. -/
inductive Obtains (c : Context σ) (id : String) (o : Offer σ) :
    Status × Option InstanceHandle → Context σ → Prop where
  | refused (unable : o.status = .notImplemented) : Obtains c id o (o.status, none) c
  | registered (i : Instance σ) (able : o.status ≠ .notImplemented)
    (created : o.created = some (some i)) :
    Obtains c id o (o.status, some c.instances.next)
      { c with instances :=
          c.instances.insert { i with descriptor := i.descriptor.stamp id } }
  | stamped (d : Descriptor) (able : o.status ≠ .notImplemented) (created : o.created = some none)
    (single : c.root.single = some d) :
    Obtains c id o (o.status, some .root)
      { c with root := { c.root with single := some (d.stamp id) } }

end AddonBridge.Dispatch
