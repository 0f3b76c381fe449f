import AddonBridge.Machine.Dispatch
import AddonBridge.Proofs.Code

/-!
# Dispatching within a law

What dispatching does beside running code: it names objects, leaves a trace, and exchanges the
instances of one context. A law that allows this is obeyed by every request to a context, whatever
its code does and however the request ends.
-/

namespace AddonBridge

variable {σ ν δ α : Type} [Panics δ]

def Event.raised? : Event ν → Option Defect
  | .raised d => some d
  | _ => none

theorem Event.IsTalk.raised? {e : Event ν} (h : e.IsTalk) : e.raised? = none := by
  cases e <;> first | rfl | exact h.elim

namespace World

def defects (w : World σ ν) : List Defect := w.trace.filterMap Event.raised?

/-- What dispatching does outside the seat, short of finding a defect. -/
structure Stirs (w u : World σ ν) : Prop where
  contexts : u.contexts = w.contexts
  busy : u.busy = w.busy
  facade : w.facade.Grows u.facade
  sink : u.sink = w.sink
  locations : u.locations = w.locations
  loaded : ∀ t, (u.loaded.get? t).map Loaded.core = (w.loaded.get? t).map Loaded.core
  trace : w.trace <:+ u.trace
  defects : u.defects = w.defects

theorem Idle.stirs {w u : World σ ν} (h : w.Idle u) : w.Stirs u := by
  obtain ⟨talk, grown, quiet⟩ := h.trace
  have none_raised : talk.filterMap Event.raised? = [] :=
    List.filterMap_eq_nil_iff.mpr fun e member => (quiet e member).raised?
  refine ⟨h.contexts, h.busy, h.facade, h.sink, h.locations, h.loaded, ⟨talk, grown.symm⟩, ?_⟩
  rw [World.defects, grown, List.filterMap_append, none_raised, List.nil_append, World.defects]

theorem Stirs.record {w : World σ ν} {e : Event ν} (h : e.raised? = none) :
    w.Stirs { w with trace := e :: w.trace } :=
  ⟨rfl, rfl, .refl _, rfl, rfl, fun _ => rfl, List.suffix_cons _ _, List.filterMap_cons_none h⟩

theorem Stirs.made {w : World σ ν} {made : TableId → Nat} : w.Stirs { w with made } :=
  ⟨rfl, rfl, .refl _, rfl, rfl, fun _ => rfl, List.suffix_rfl, rfl⟩

end World

open Act

structure Env.Permits (env : Env σ ν δ) (S : Change σ ν) (p : Conduct σ) : Prop
    extends Env.Keeps env S p where
  stirs : ∀ w u, w.Stirs u → S w none u

/-- Requests to the context in a seat can be dispatched, and obey a law. -/
structure Env.Tends (env : Env σ ν δ) (S : Change σ ν) (p : Conduct σ) (seat : Seat) : Prop
    extends Env.Permits env S p where
  raised : ∀ w d, S w (some (.unwinding (.defect d))) { w with trace := .raised d :: w.trace }
  /-- The context in the seat may change, but its root only in the descriptor. -/
  reseat : ∀ w c c', w.contexts.get? seat = some c → c'.root.object = c.root.object →
    c'.root.site = c.root.site → c'.single = c.single →
    S w none { w with contexts := w.contexts.set seat c' }

namespace Dispatch

variable {env : Env σ ν δ} {S : Change σ ν} {p : Conduct σ} {seat : Seat} {A : α → Prop}

theorem withContext_obeys (law : Law S) {default : α} {f : Context σ → Act σ ν α}
    (h : ∀ w c, w.contexts.get? seat = some c →
      Ensures (f c) w (fun _ u => S w none u) (fun e u => S w (some e) u)) :
    Obeys S (withContext seat default f) := by
  intro w
  rw [withContext, ensures_bind, ensures_context?]
  split
  · next c found => exact h w c found
  · exact law.refl w

theorem record_obeys (permits : env.Permits S p) {e : Event ν} (h : e.raised? = none) :
    Obeys S (Act.record e) :=
  fun _ => permits.stirs _ _ (.record h)

theorem freshObject_obeys (permits : env.Permits S p) {t : TableId} : Obeys S (freshObject t) :=
  fun _ => permits.stirs _ _ .made

theorem raise_obeys (tends : env.Tends S p seat) {d : Defect} :
    Obeys S (Log.raise d : Act σ ν α) := by
  intro w
  simp only [Log.raise, ensures_bind, ensures_record, ensures_throw]
  exact Log.error_talks.ensures fun _ u told =>
    tends.law.cleanup (tends.raised w d) (tends.talk _ u told)

/-! ### The end of objects -/

theorem dropInstance_quiet [IsEmpty δ] (quiet : env.IsQuiet) (site : Site) (i : Instance σ) :
    Quiet (dropInstance env site i) :=
  .bind (fun _ => True.intro) fun _ => Env.lastly_quiet quiet _ _

theorem dropInstances_quiet [IsEmpty δ] (quiet : env.IsQuiet) (site : Site) (is : List (Instance σ)) :
    Quiet (dropInstances env site is) := by
  induction is with
  | nil => exact fun _ => True.intro
  | cons i is ih => exact .bind (dropInstance_quiet quiet site i) fun _ => ih

theorem dropRoot_quiet [IsEmpty δ] (quiet : env.IsQuiet) (r : Root) : Quiet (dropRoot env r) :=
  .bind (fun _ => True.intro) fun _ => Env.lastly_quiet quiet _ _

/-- Where code that drops does not panic, the root of a context goes after the instances. -/
theorem dropContext_eq [IsEmpty δ] (quiet : env.IsQuiet) (c : Context σ) :
    dropContext env c =
      dropInstances env c.root.site (env.modules.order.arrange c.instances.values) >>= fun _ =>
        dropRoot env c.root :=
  (dropInstances_quiet quiet _ _).after_eq _

theorem dropContext_quiet [IsEmpty δ] (quiet : env.IsQuiet) (c : Context σ) : Quiet (dropContext env c) :=
  .after (dropInstances_quiet quiet _ _) (dropRoot_quiet quiet _)

theorem destroy_quiet [IsEmpty δ] (quiet : env.IsQuiet) (c : Context σ) : Quiet (destroy env c) := by
  unfold destroy
  split
  · exact .bind Log.debug_talks.quiet fun _ => dropContext_quiet quiet c
  · exact dropContext_quiet quiet c

theorem Offer.drop_quiet [IsEmpty δ] (quiet : env.IsQuiet) (site : Site) (o : Offer σ) :
    Quiet (o.drop env site) := by
  unfold Offer.drop
  split
  · exact dropInstance_quiet quiet _ _
  · exact fun _ => True.intro

theorem dropInstance_obeys (permits : env.Permits S p) {site : Site} {i : Instance σ} :
    Obeys S (dropInstance env site i) :=
  .bind permits.law (record_obeys permits rfl) fun _ =>
    Env.lastly_obeys permits.toKeeps _ ((permits.modules.addon _).instanceDropped _ _ _)

theorem dropInstances_obeys (permits : env.Permits S p) {site : Site} {is : List (Instance σ)} :
    Obeys S (dropInstances env site is) := by
  induction is with
  | nil => exact .pure permits.law ()
  | cons i is ih => exact .bind permits.law (dropInstance_obeys permits) fun _ => ih

theorem dropRoot_obeys (permits : env.Permits S p) {r : Root} : Obeys S (dropRoot env r) :=
  .bind permits.law (record_obeys permits rfl) fun _ =>
    Env.lastly_obeys permits.toKeeps _ ((permits.modules.addon _).dropped _)

theorem dropContext_obeys (permits : env.Permits S p) {c : Context σ} :
    Obeys S (dropContext env c) :=
  Env.after_obeys permits.toKeeps (dropInstances_obeys permits) (dropRoot_obeys permits) fun _ =>
    dropRoot_quiet permits.quiet _

theorem destroy_obeys (permits : env.Permits S p) {c : Context σ} : Obeys S (destroy env c) :=
  .ite (.bind permits.law (Log.debug_talks.obeys permits.talk) fun _ => dropContext_obeys permits)
    (dropContext_obeys permits)

theorem Offer.drop_obeys (permits : env.Permits S p) {site : Site} {o : Offer σ} :
    Obeys S (o.drop env site) := by
  unfold Offer.drop
  split
  · exact dropInstance_obeys permits
  · exact .pure permits.law ()

/-! ### Callbacks and requests -/

theorem build_obeys (permits : env.Permits S p) {m : String} {t : TableId} :
    Obeys S (build env m t) := by
  refine .bind permits.law (freshObject_obeys permits) fun o =>
    .bind permits.law (record_obeys permits rfl) fun _ =>
      .bind permits.law (Env.callback_obeys permits.toKeeps m ((permits.modules.addon m).build _))
        fun built => ?_
  cases built with
  | ok single => exact .bind permits.law (record_obeys permits rfl) fun _ => .pure permits.law _
  | error e => exact .pure permits.law _

omit [Panics δ] in
/-- A context that was built has no instances yet. -/
theorem build_shape (env : Env σ ν δ) (m : String) (t : TableId) (w : World σ ν) :
    Ensures (build env m t) w
      (fun built _ => ∀ c, built = .ok c → ∃ single, c = { root := ⟨⟨t, w.made t⟩, ⟨m, t⟩, single⟩ })
      fun _ _ => True := by
  rw [build, ensures_bind, ensures_freshObject, ensures_bind, ensures_record, ensures_bind]
  refine (Ensures.trivial _).mono (fun built u _ => ?_) fun _ _ _ => True.intro
  cases built with
  | ok single =>
    rw [ensures_bind, ensures_record]
    rintro c ⟨⟩
    exact ⟨single, rfl⟩
  | error e => exact nofun

theorem callRoot_obeys (permits : env.Permits S p) {c : Context σ} (cb : Callback)
    {q : Addon σ ν δ → Site → Program σ ν Payload α}
    (h : ∀ a, a.Follows p → ∀ site, p.Program A (q a site)) :
    Obeys S (callRoot env c cb q) :=
  .bind permits.law (record_obeys permits rfl) fun _ =>
    Env.callback_obeys permits.toKeeps _ (h _ (permits.modules.addon _) _)

/-- A request that is for the root alone. -/
theorem withRoot_obeys (permits : env.Permits S {}) {default : α} (cb : Callback)
    (q : Addon σ ν δ → Site → Program σ ν Payload α) :
    Obeys S (withContext seat default fun c => callRoot env c cb q) :=
  withContext_obeys permits.law fun w _ _ =>
    callRoot_obeys permits cb (fun _ _ _ => Program.all_true _) w

theorem offer_obeys (permits : env.Permits S p) {maker : ObjectId} {o : Outcome σ} :
    Obeys S (offer maker o) := by
  unfold offer
  split
  · exact .bind permits.law (freshObject_obeys permits) fun _ =>
      .bind permits.law (record_obeys permits rfl) fun _ => .pure permits.law _
  · exact .pure permits.law _
  · exact .pure permits.law _

theorem askRoot_obeys (permits : env.Permits S p) {c : Context σ} {r : Request} :
    Obeys S (askRoot env c r) :=
  .bind permits.law
    (callRoot_obeys permits (.factory r) fun _ follows site => follows.factory site r) fun _ =>
    offer_obeys permits

theorem askInstance_obeys (permits : env.Permits S p) {c : Context σ} {i : Instance σ}
    {r : Request} : Obeys S (askInstance env c i r) :=
  .bind permits.law (record_obeys permits rfl) fun _ =>
    .bind permits.law
      (Env.callback_obeys permits.toKeeps _ ((permits.modules.addon _).instanceFactory _ _ _ _))
      fun _ => offer_obeys permits

theorem askParent_obeys (permits : env.Permits S p) {c : Context σ} {r : Request}
    {parent : Option InstanceHandle} : Obeys S (askParent env c r parent) := by
  unfold askParent
  split
  · exact .pure permits.law _
  · split
    · exact .map (askInstance_obeys permits)
    · exact .bind permits.law (Log.warn_talks.obeys permits.talk) fun _ => .pure permits.law _

theorem warnStamped_talks {d : Descriptor} {id : String} :
    Talks (warnStamped d id : Act σ ν Unit) :=
  .ite Log.warn_talks .pure

theorem register_obeys (tends : env.Tends S p seat) {i : Instance σ} :
    Obeys S (register env seat i) := by
  refine withContext_obeys tends.law fun w c found => ?_
  rw [ensures_bind, ensures_setContext]
  have stored := tends.reseat w c { c with instances := c.instances.insert i } found rfl rfl rfl
  refine Obeys.continues tends.law ?_ stored
  dsimp only
  split
  · exact .bind tends.law (dropInstance_obeys tends.toPermits) fun _ => .pure tends.law _
  · exact .pure tends.law _

theorem settle_obeys (tends : env.Tends S p seat) {site : Site} {r : Request} {o : Offer σ} :
    Obeys S (settle env seat site r o) := by
  refine .ite ?_ ?_
  · exact .bind tends.law (Log.debug_talks.obeys tends.talk) fun _ =>
      .bind tends.law (Offer.drop_obeys tends.toPermits) fun _ => .pure tends.law _
  split
  · exact raise_obeys tends
  · refine .ite ?_ ?_
    · exact .bind tends.law (warnStamped_talks.obeys tends.talk) fun _ =>
        .bind tends.law (register_obeys tends) fun _ => .pure tends.law _
    · exact Env.after_obeys tends.toKeeps (raise_obeys tends) (dropInstance_obeys tends.toPermits)
        fun _ => dropInstance_quiet tends.quiet _ _
  · refine .bind tends.law (Idles.context?.obeys tends.talk) fun here => ?_
    split
    · exact raise_obeys tends
    · refine .ite ?_ (raise_obeys tends)
      refine .bind tends.law (warnStamped_talks.obeys tends.talk) fun _ =>
        .bind tends.law (fun w => ?_) fun _ => .pure tends.law _
      rw [ensures_modifyContext]
      unfold Assoc.modify
      split
      · next c found => exact tends.reseat w c _ found rfl rfl rfl
      · exact tends.law.refl w

theorem create_obeys (tends : env.Tends S p seat) : Obeys S (create env seat) :=
  withContext_obeys tends.law fun w _ _ =>
    callRoot_obeys tends.toPermits _ (fun _ follows site => follows.created site) w

theorem status_obeys (tends : env.Tends S p seat) : Obeys S (status env seat) :=
  withContext_obeys tends.law fun w _ _ =>
    callRoot_obeys tends.toPermits _ (fun _ follows site => follows.status site) w

theorem setSetting_obeys (tends : env.Tends S p seat) {name : String}
    {value : Option SettingValue} : Obeys S (setSetting env seat name value) :=
  withContext_obeys tends.law fun w _ _ =>
    callRoot_obeys tends.toPermits _ (fun _ follows site => follows.setSetting site name value) w

theorem createInstance_obeys (tends : env.Tends S p seat) {ty : AddonType} {id version : String}
    {host : HostHandle} {parent : Option InstanceHandle} :
    Obeys S (createInstance env seat ty id host version parent) := by
  refine withContext_obeys tends.law fun w c _ => ?_
  refine Obeys.bind (S := S) tends.law (HostAccess.firstInstance_talks.obeys tends.talk)
    (fun first => .bind tends.law (askParent_obeys tends.toPermits) fun asked => ?_) w
  cases asked with
  | none => exact .bind tends.law (askRoot_obeys tends.toPermits) fun _ => settle_obeys tends
  | some o =>
    refine .ite ?_ (settle_obeys tends)
    exact Env.after_obeys tends.toKeeps
      (.bind tends.law (askRoot_obeys tends.toPermits) fun _ => settle_obeys tends)
      (Offer.drop_obeys tends.toPermits) fun _ => Offer.drop_quiet tends.quiet _ _

theorem destroyInstance_obeys (tends : env.Tends S p seat) {ty : AddonType}
    {handle : Option InstanceHandle} : Obeys S (destroyInstance env seat ty handle) := by
  refine withContext_obeys tends.law fun w c found => ?_
  rw [ensures_ite]
  refine ⟨fun _ => tends.law.refl w, fun _ => ?_⟩
  split
  · exact tends.law.refl w
  · next h _ =>
    split
    · exact Log.error_talks.obeys tends.talk w
    · next i _ =>
      rw [ensures_ite]
      refine ⟨fun _ => ?_, fun _ => raise_obeys tends w⟩
      rw [ensures_bind, ensures_setContext]
      have taken := tends.reseat w c { c with instances := c.instances.erase h } found rfl rfl rfl
      have told := callRoot_obeys tends.toPermits (c := c)
        (.instanceDestroyed ty i.descriptor.id) fun _ follows site =>
          follows.instanceDestroyed site ty i.descriptor.id i.descriptor
      exact (Env.after_obeys tends.toKeeps told (dropInstance_obeys tends.toPermits) fun _ =>
        dropInstance_quiet tends.quiet _ _).continues tends.law taken

end Dispatch

end AddonBridge
