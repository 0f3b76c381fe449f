import AddonBridge.Proofs.Maps
import AddonBridge.Proofs.Reentry
import AddonBridge.Proofs.Settling

/-!
# Handles and instances

A context is driven by requests, one after the other, and a panic of any of them is caught. The
entries of its registry are then the handles that were given out and not taken back, each with the
instance that it was given out for; `handles_resolve` says so request by request.
-/

namespace AddonBridge

open Act World

variable {σ ν δ : Type} {w u v : World σ ν} {env : Env σ ν δ} {seat : Seat} {c : Context σ}

/-- Factories give instances that own their descriptors: nobody has identified them yet. -/
def Conduct.owning : Conduct σ :=
  { outcomes := fun o => ∀ d data, o.created = some (.new d data) → d.id? = none }

namespace Dispatch

section Requests

variable [Panics δ]

/-! ### What a request does to the context -/

/-- The instance in an answer was just produced, and has no identifier. -/
def Fresh (w u : World σ ν) (o : Offer σ) : Prop :=
  ∀ i, o.created = some (some i) → i.descriptor.id? = none ∧
    ∃ maker, w.Shows u (.produced i.object maker)

theorem Fresh.later {o : Offer σ} (h : Fresh w u o) (grown : u.trace <:+ v.trace) :
    Fresh w v o :=
  fun i created => by
    obtain ⟨unidentified, maker, shown⟩ := h i created
    exact ⟨unidentified, maker, shown.later grown⟩

theorem Fresh.earlier {o : Offer σ} (grown : w.trace <:+ u.trace) (h : Fresh u v o) :
    Fresh w v o :=
  fun i created => by
    obtain ⟨unidentified, maker, shown⟩ := h i created
    exact ⟨unidentified, maker, shown.earlier grown⟩

def Offers (act : Act σ ν (Offer σ)) : Prop :=
  ∀ w, Ensures act w (fun o u => Spares none w u ∧ Fresh w u o)
    fun e u => e ≠ .aborted → Spares none w u

theorem offer_fresh {maker : ObjectId} {o : Outcome σ} (own : Conduct.owning.outcomes o)
    (w : World σ ν) :
    Ensures (offer maker o) w (fun o u => Spares none w u ∧ Fresh w u o) fun _ _ => False := by
  unfold offer
  split
  · next d data created =>
    rw [ensures_bind, ensures_freshObject, ensures_bind, ensures_record]
    refine ⟨⟨rfl, rfl, List.suffix_cons _ _, fun _ _ _ => rfl⟩, ?_⟩
    rintro i ⟨⟩
    exact ⟨own d data created, maker, [_], rfl, by simp⟩
  · exact ⟨.refl w, nofun⟩
  · exact ⟨.refl w, nofun⟩

theorem answered_fresh (spares : env.Spares) (own : env.modules.Follow .owning) (m : String)
    (maker : ObjectId) {q : Program σ ν Payload (Outcome σ)}
    (follows : Conduct.owning.Program Conduct.owning.outcomes q) (before : Spares none w u) :
    Ensures (env.callback m q) u
      (fun o v => Ensures (offer maker o) v (fun o x => Spares none w x ∧ Fresh w x o)
        fun e x => e ≠ .aborted → Spares none w x)
      fun e v => e ≠ .aborted → Spares none w v := by
  have permits := spares.permitted own none
  refine (Env.callback_ensures permits.toKeeps m follows u).mono (fun o v ended => ?_)
    fun e v stopped going => before.trans (stopped.stopped going)
  obtain ⟨owning, spared⟩ := ended
  have before := before.trans spared.returned
  refine (offer_fresh owning v).mono (fun o x after => ?_) fun _ _ => False.elim
  obtain ⟨spared, fresh⟩ := after
  exact ⟨before.trans spared, fresh.earlier before.trace⟩

theorem askRoot_fresh (spares : env.Spares) (own : env.modules.Follow .owning) (r : Request) :
    Offers (askRoot env c r) := by
  intro w
  rw [askRoot, ensures_bind, callRoot, ensures_bind, ensures_record]
  exact answered_fresh spares own _ _ ((own.addon _).factory _ r) (Stirs.record rfl).spares

theorem askInstance_fresh (spares : env.Spares) (own : env.modules.Follow .owning)
    (i : Instance σ) (r : Request) : Offers (askInstance env c i r) := by
  intro w
  rw [askInstance, ensures_bind, ensures_record]
  dsimp only
  rw [ensures_bind]
  exact answered_fresh spares own _ _ ((own.addon _).instanceFactory _ _ _ r)
    (Stirs.record rfl).spares

/-- What an answer of a factory came to in a context: it has no flaw, what it gave was just produced, and
the context is what it led to. -/
structure Granted (c : Context σ) (ty : AddonType) (id : String) (o : Offer σ)
    (answer : Status × Option InstanceHandle) (seat : Seat) (w v : World σ ν) : Prop where
  flawless : ∀ d, ¬Flaw c.root.single ty o d
  fresh : Fresh w v o
  obtained : ∃ c', Obtains c id o answer c' ∧ v.contexts.get? seat = some c'

theorem Granted.later {ty : AddonType} {id : String} {o : Offer σ}
    {answer : Status × Option InstanceHandle} (h : Granted c ty id o answer seat w u)
    (held : u.Holds seat) (spared : Spares none u v) : Granted c ty id o answer seat w v := by
  obtain ⟨c', obtained, here⟩ := h.obtained
  exact ⟨h.flawless, h.fresh.later spared.trace, c', obtained, spared.stays held here⟩

/-- Where the next handle is not in use, registering an instance drops none. -/
theorem register_new (here : w.contexts.get? seat = some c)
    (unused : c.instances.get? c.instances.next = none) (i : Instance σ) :
    Ensures (register env seat i) w
      (fun h u => h = some c.instances.next ∧ u.trace = w.trace ∧
        u.contexts.get? seat = some { c with instances := c.instances.insert i })
      fun _ _ => False := by
  rw [register, withContext, ensures_bind, ensures_context?, here]
  dsimp only
  rw [ensures_bind, ensures_setContext, unused]
  exact ⟨rfl, rfl, by simp [Assoc.get?_set]⟩

theorem Offer.drop_spared (spares : env.Spares) (site : Site) (o : Offer σ) (w : World σ ν) :
    Ensures (o.drop env site) w (fun _ v => Spares none w v)
      fun e v => e ≠ .aborted → Spares none w v :=
  (Offer.drop_obeys (spares.permits none) w).mono (fun _ _ spared => spared.returned)
    fun _ _ spared going => spared.stopped going

/-- What a fresh answer comes to. A panic leaves the context as it was. -/
theorem settle_grants (spares : env.Spares) (held : u.Holds seat)
    (here : u.contexts.get? seat = some c) (unused : c.instances.get? c.instances.next = none)
    {o : Offer σ} (fresh : Fresh w u o) (site : Site) (r : Request) :
    Ensures (settle env seat site r o) u
      (fun answer v => Granted c r.instanceType r.id o answer seat w v)
      fun e v => e ≠ .aborted → v.contexts.get? seat = some c := by
  have kept {v : World σ ν} (spared : Spares none u v) : v.contexts.get? seat = some c :=
    spared.stays held here
  refine settle_exits here (fun passed v idle => ?_) (fun d _ => ?_)
    (fun i able created fits v idle => ?_) fun d able created single fits v idle => ?_
  · have told : Spares none u v := idle.stirs.spares
    refine (Offer.drop_spared spares site o v).mono (fun _ x dropped => ?_) fun _ x dropped going => ?_
    · have dropped := told.trans dropped
      exact ⟨fun _ flaw => flaw.able passed, fresh.later dropped.trace, c, .refused passed,
        kept dropped⟩
    · exact kept (told.trans (dropped going))
  · refine Ensures.finally (Q := fun _ _ => False) (J := fun v => Spares none u v) ?_
      (fun _ _ => False.elim) fun v spared => ?_
    · refine (Log.raise_ensures d u).mono (fun _ _ => id) fun _ v raised _ => ?_
      exact raised.2
    · exact (Offer.drop_spared spares site o v).mono (fun _ _ after => kept (spared.trans after))
        fun _ _ _ => True.intro
  · have told : Spares none u v := idle.stirs.spares
    refine (register_new (kept told) unused _).mono (fun h x registered => ?_) fun _ _ => False.elim
    obtain ⟨rfl, same, after⟩ := registered
    refine ⟨?_, fresh.later (same ▸ told.trace), _, .registered i able created, after⟩
    rintro d (_ | ⟨j, _, given, other⟩ | ⟨_, given, _⟩ | ⟨_, _, given, _, _⟩)
    · simp_all
    · cases created.symm.trans given
      exact other fits
    · cases created.symm.trans given
    · cases created.symm.trans given
  · refine ⟨?_, fresh.later idle.stirs.trace, _, .stamped d able created single, ?_⟩
    · rintro _ (_ | ⟨_, _, given, _⟩ | ⟨_, _, none⟩ | ⟨d', _, _, some, other⟩)
      · simp_all
      · cases created.symm.trans given
      · cases single.symm.trans none
      · cases single.symm.trans some
        exact other fits
    · simp [Assoc.get?_set]

/-- The root's answer is settled. -/
theorem askRoot_grants (spares : env.Spares) (own : env.modules.Follow .owning)
    (held : u.Holds seat) (here : u.contexts.get? seat = some c)
    (unused : c.instances.get? c.instances.next = none) (grown : w.trace <:+ u.trace)
    (site : Site) (r : Request) :
    Ensures (do settle env seat site r (← askRoot env c r)) u
      (fun answer v => v.Holds seat ∧
        ∃ o x, askRoot env c r u = .ok o x ∧ Granted c r.instanceType r.id o answer seat w v)
      fun e v => e ≠ .aborted → v.Holds seat ∧ v.contexts.get? seat = some c := by
  rw [ensures_bind]
  refine ((askRoot_fresh spares own r u).and (.eq _)).mono (fun o v asked => ?_)
    fun e v stopped going => ?_
  · obtain ⟨⟨spared, fresh⟩, ended⟩ := asked
    have here := spared.stays held here
    have held := held.of_busy spared.busy
    refine ((settle_grants spares held here unused (fresh.earlier grown) site r).and
      (settle_obeys (spares.tends seat) v)).mono (fun answer x ended' => ?_)
        fun e x stopped going => ?_
    · obtain ⟨granted, tended⟩ := ended'
      exact ⟨held.of_busy tended.returned.busy, o, v, ended, granted⟩
    · obtain ⟨kept, tended⟩ := stopped
      exact ⟨held.of_busy (tended.stopped going).busy, kept going⟩
  · have spared := stopped.1 going
    exact ⟨held.of_busy spared.busy, spared.stays held here⟩

/-- A request was answered: the last factory that it asked gave what it came to. -/
def Grants (env : Env σ ν δ) (seat : Seat) (c : Context σ) (r : Request)
    (parent : Option InstanceHandle) (w : World σ ν) (answer : Status × Option InstanceHandle)
    (v : World σ ν) : Prop :=
  ∃ asked passed o u, Asked env c r parent w asked passed (.ok o u) ∧
    Granted c r.instanceType r.id o answer seat w v

/-- A request panicked: it did nothing to the context, or what an answer came to. -/
def Breaks (c : Context σ) (r : Request) (seat : Seat) (w v : World σ ν) : Prop :=
  v.contexts.get? seat = some c ∨ ∃ o answer, Granted c r.instanceType r.id o answer seat w v

/-- The factory of a live parent is asked first. An answer of it that is passed over is dropped in the
end, and may panic then. -/
theorem parent_grants (spares : env.Spares) (own : env.modules.Follow .owning)
    (held : w.Holds seat) (here : w.contexts.get? seat = some c)
    (unused : c.instances.get? c.instances.next = none) (r : Request) {p : InstanceHandle}
    {i : Instance σ} (proper : p ≠ .root) (live : c.instances.get? p = some i) :
    Ensures (askInstance env c i r >>= fun o =>
        if o.status = .notImplemented then
          Act.after (do settle env seat c.root.site r (← askRoot env c r)) (o.drop env c.root.site)
        else settle env seat c.root.site r o) w
      (Grants env seat c r (some p) w) fun e v => e ≠ .aborted → Breaks c r seat w v := by
  rw [ensures_bind]
  refine ((askInstance_fresh spares own i r w).and (.eq _)).mono (fun o u asked => ?_)
    fun e u stopped going => .inl ((stopped.1 going).stays held here)
  obtain ⟨⟨spared, fresh⟩, ended⟩ := asked
  have here := spared.stays held here
  have held := held.of_busy spared.busy
  rw [ensures_ite]
  refine ⟨fun unable => ?_, fun able => ?_⟩
  · rw [ensures_after]
    refine (askRoot_grants spares own held here unused spared.trace c.root.site r).mono
      (fun answer x answered => ?_) fun e x stopped => ?_
    · obtain ⟨held, o', y, ended', granted⟩ := answered
      refine (Offer.drop_spared spares c.root.site o x).mono (fun _ v dropped => ?_)
        fun e v dropped going => .inr ⟨o', answer, granted.later held (dropped going)⟩
      have asked : Asked env c r (some p) w [i.object, c.root.object] (some o)
          (askRoot env c r u) :=
        .fallback rfl proper live ended unable
      exact ⟨_, some o, o', y, ended' ▸ asked, granted.later held dropped⟩
    · cases e with
      | aborted => exact fun going => absurd rfl going
      | unwinding q =>
        obtain ⟨held, here⟩ := stopped unwinding_ne
        exact (Offer.drop_spared spares c.root.site o x).mono
          (fun _ _ dropped _ => .inl (dropped.stays held here)) fun _ _ _ going => absurd rfl going
  · refine (settle_grants spares held here unused fresh c.root.site r).mono
      (fun answer v granted => ?_) fun e v kept going => .inl (kept going)
    have asked : Asked env c r (some p) w [i.object] none (askInstance env c i r w) := by
      refine .parent rfl proper live fun o' u' same => ?_
      cases ended.symm.trans same
      exact able
    exact ⟨_, none, o, u, ended ▸ asked, granted⟩

theorem createInstance_grants (spares : env.Spares) (own : env.modules.Follow .owning)
    (held : w.Holds seat) (here : w.contexts.get? seat = some c)
    (unused : c.instances.get? c.instances.next = none) (ty : AddonType) (id : String)
    (host : HostHandle) (version : String) (parent : Option InstanceHandle) :
    Ensures (createInstance env seat ty id host version parent) w
      (Grants env seat c (requested w c ty id host version) parent w)
      fun e v => e ≠ .aborted → Breaks c (requested w c ty id host version) seat w v := by
  rw [createInstance, withContext, ensures_bind, ensures_context?, here]
  dsimp only
  rw [ensures_bind, HostAccess.firstInstance, ensures_bind, ensures_loaded?, ensures_pure,
    ensures_bind]
  change Ensures (askParent env c (requested w c ty id host version) parent) w _ _
  rcases designated c parent with ⟨p, i, rfl, proper, live⟩ | orphan
  · rw [askParent_live proper live, ensures_map]
    have asked :=
      parent_grants spares own held here unused (requested w c ty id host version) proper live
    rwa [ensures_bind] at asked
  · refine (askParent_orphan orphan).mono (fun asked u ended => ?_) fun _ _ => False.elim
    obtain ⟨rfl, idle⟩ := ended
    have spared : Spares none w u := idle.stirs.spares
    refine (askRoot_grants spares own (held.of_busy spared.busy) (spared.stays held here) unused
      spared.trace c.root.site (requested w c ty id host version)).mono
        (fun answer v answered => ?_) fun e v kept going => .inl (kept going).2
    obtain ⟨-, o, x, ended, granted⟩ := answered
    have asked : Asked env c (requested w c ty id host version) parent w [c.root.object] none
        (askRoot env c (requested w c ty id host version) u) := .root orphan idle
    exact ⟨_, none, o, x, ended ▸ asked, granted⟩

/-- The context after a request to destroy an instance, which a panic does not bring back. -/
def removed (c : Context σ) (ty : AddonType) (handle : Option InstanceHandle) : Context σ :=
  if c.single.isSome then c
  else match handle.filter (!·.isRoot) with
    | some h =>
      if (c.instances.get? h).any (·.descriptor.instanceType = ty) then
        { c with instances := c.instances.erase h }
      else c
    | none => c

theorem callRoot_spares (spares : env.Spares) {α : Type} (c : Context σ) (cb : Callback)
    (q : Addon σ ν δ → Site → Program σ ν Payload α) :
    Obeys (Sparing none) (callRoot env c cb q) :=
  have permits := spares.permits none
  .bind permits.law (record_obeys permits rfl) fun _ =>
    Env.callback_obeys permits.toKeeps _ (Program.all_true _)

theorem keeps_context {α : Type} {act : Act σ ν α} (spared : Obeys (Sparing none) act)
    (held : w.Holds seat) (here : w.contexts.get? seat = some c) :
    Ensures act w (fun _ v => v.contexts.get? seat = some c)
      fun e v => e ≠ .aborted → v.contexts.get? seat = some c := by
  refine (spared w).mono (fun _ v spared => ?_) fun e v spared going => ?_
  · exact spared.returned.stays held here
  · exact (spared.stopped going).stays held here

theorem destroyInstance_effect (spares : env.Spares) (held : w.Holds seat)
    (here : w.contexts.get? seat = some c) (ty : AddonType) (handle : Option InstanceHandle) :
    Ensures (destroyInstance env seat ty handle) w
      (fun _ v => v.contexts.get? seat = some (removed c ty handle))
      fun e v => e ≠ .aborted → v.contexts.get? seat = some (removed c ty handle) := by
  have permits := spares.permits none
  rw [destroyInstance, withContext, ensures_bind, ensures_context?, here]
  dsimp only
  rw [ensures_ite, removed]
  refine ⟨fun single => ?_, fun multiple => ?_⟩
  · rw [if_pos single]
    exact here
  rw [if_neg multiple]
  cases handle.filter (!·.isRoot) with
  | none => exact here
  | some h =>
    dsimp only
    cases found : c.instances.get? h with
    | none => exact keeps_context (Log.error_talks.obeys permits.talk) held here
    | some i =>
      dsimp only
      rw [ensures_ite]
      refine ⟨fun fits => ?_, fun other => ?_⟩
      · rw [if_pos (by simpa using fits), ensures_bind, ensures_setContext]
        refine keeps_context (Env.after_obeys permits.toKeeps (callRoot_spares spares c _ _)
          (dropInstance_obeys permits) fun _ => dropInstance_quiet spares.quiet _ _) ?_ ?_
        · exact held.of_busy rfl
        · simp [Assoc.get?_set]
      · rw [if_neg (by simpa using other)]
        refine (Log.raise_ensures _ w).mono (fun _ _ => False.elim) fun _ v stopped _ => ?_
        obtain ⟨-, spared⟩ := stopped
        exact spared.stays held here

/-! ### Runs -/

inductive Operation where
  | create
  | status
  | setSetting (name : String) (value : Option SettingValue)
  | createInstance (instanceType : AddonType) (id : String) (host : HostHandle) (version : String)
      (parent : Option InstanceHandle)
  | destroyInstance (instanceType : AddonType) (handle : Option InstanceHandle)
  deriving DecidableEq

inductive Answer where
  | done
  | status (status : Status)
  | instance (status : Status) (handle : Option InstanceHandle)
  deriving DecidableEq

def perform (env : Env σ ν δ) (seat : Seat) : Operation → Act σ ν Answer
  | .create => .status <$> create env seat
  | .status => .status <$> status env seat
  | .setSetting name value => .status <$> setSetting env seat name value
  | .createInstance ty id host version parent =>
    (fun answer => .instance answer.1 answer.2) <$>
      createInstance env seat ty id host version parent
  | .destroyInstance ty handle => (fun _ => .done) <$> destroyInstance env seat ty handle

/-- A request that was made: what it gave back or panicked with, and the worlds around it. -/
structure Step (σ ν : Type) where
  operation : Operation
  answer : Except Payload Answer
  before : World σ ν
  after : World σ ν

/-- Requests to the context in a seat, made one after the other; every panic is caught. -/
inductive Ran (env : Env σ ν δ) (seat : Seat) (start : World σ ν) :
    List (Step σ ν) → World σ ν → Prop where
  | nil : Ran env seat start [] start
  | snoc {steps : List (Step σ ν)} {w u : World σ ν} {answer : Except Payload Answer}
    (earlier : Ran env seat start steps w) (operation : Operation)
    (ended : Act.observe (perform env seat operation) w = .ok answer u) :
    Ran env seat start (steps ++ [⟨operation, answer, w, u⟩]) u

def resolve (w : World σ ν) (seat : Seat) (h : InstanceHandle) : Option (Instance σ) :=
  (w.contexts.get? seat).bind (·.instances.get? h)

namespace Step

def handle? (s : Step σ ν) : Option InstanceHandle :=
  match s.operation, s.answer with
  | .createInstance .., .ok (.instance _ h) => h
  | _, _ => none

/-- The handle under which a request registered an instance, and that instance: what the next handle of
the context stands for after the request, which it stood for nothing before. -/
def registered? (seat : Seat) (s : Step σ ν) : Option (InstanceHandle × Instance σ) :=
  match s.operation, s.before.contexts.get? seat with
  | .createInstance .., some c =>
    (resolve s.after seat c.instances.next).map (c.instances.next, ·)
  | _, _ => none

/-- The request takes an instance of a type back; a context with a single instance takes none. -/
def takes (single : Option AddonType) (ty : AddonType) (h : InstanceHandle) (s : Step σ ν) : Bool :=
  single.isNone && s.operation = .destroyInstance ty (some h)

end Step

/-- The instances that were registered and not taken back, under their handles. -/
def live (seat : Seat) (single : Option AddonType) :
    List (Step σ ν) → List (InstanceHandle × Instance σ)
  | [] => []
  | s :: later =>
    (s.registered? seat).toList.filter
      (fun p => !later.any (·.takes single p.2.descriptor.instanceType p.1)) ++ live seat single later

theorem live_append (single : Option AddonType) (earlier later : List (Step σ ν)) :
    live seat single (earlier ++ later) =
      (live seat single earlier).filter
        (fun p => !later.any (·.takes single p.2.descriptor.instanceType p.1)) ++
        live seat single later := by
  induction earlier with
  | nil => simp [live]
  | cons t earlier ih =>
    rw [List.cons_append, live, live, ih, List.filter_append, List.filter_filter, List.append_assoc]
    congr 2
    funext p
    simp [Bool.and_comm]

theorem live_snoc (single : Option AddonType) (steps : List (Step σ ν)) (s : Step σ ν) :
    live seat single (steps ++ [s]) =
      (live seat single steps).filter (fun p => !s.takes single p.2.descriptor.instanceType p.1) ++
        (s.registered? seat).toList := by
  rw [live_append]
  simp [live]

/-- The instances that were registered, under their handles. -/
def registered (seat : Seat) (steps : List (Step σ ν)) : List (InstanceHandle × Instance σ) :=
  steps.filterMap (·.registered? seat)

theorem live_sublist (single : Option AddonType) (steps : List (Step σ ν)) :
    (live seat single steps).Sublist (registered seat steps) := by
  induction steps with
  | nil => exact .slnil
  | cons s steps ih =>
    rw [live, registered, List.filterMap_cons]
    cases s.registered? seat with
    | none => simpa [registered] using ih
    | some p =>
      exact List.Sublist.append (List.filter_sublist (l := [p])) ih

/-- What a request did to the context. -/
def Stepped (env : Env σ ν δ) (seat : Seat) (c : Context σ) (w : World σ ν) (operation : Operation)
    (answer : Except Payload Answer) (u : World σ ν) : Prop :=
  match operation, answer with
  | .createInstance ty id host version parent, .ok (.instance status h) =>
    Grants env seat c (requested w c ty id host version) parent w (status, h) u
  | .createInstance ty id host version _, .error _ =>
    Breaks c (requested w c ty id host version) seat w u
  | .destroyInstance ty handle, _ => u.contexts.get? seat = some (removed c ty handle)
  | _, _ => u.contexts.get? seat = some c

theorem perform_obeys {S : Change σ ν} {p : Conduct σ} (tends : env.Tends S p seat)
    (operation : Operation) : Obeys S (perform env seat operation) := by
  have lawful := tends.lawful
  cases operation with
  | create => exact .map (create_obeys tends)
  | status => exact .map lawful.status
  | setSetting name value => exact .map (lawful.setSetting _ _)
  | createInstance ty id host version parent => exact .map (lawful.createInstance _ _ _ _ _)
  | destroyInstance ty handle => exact .map (lawful.destroyInstance _ _)

theorem withContext_effect {α : Type} {default : α} {f : Context σ → Act σ ν α}
    (spared : Obeys (Sparing none) (f c)) (held : w.Holds seat)
    (here : w.contexts.get? seat = some c) :
    Ensures (withContext seat default f) w (fun _ v => v.contexts.get? seat = some c)
      fun e v => e ≠ .aborted → v.contexts.get? seat = some c := by
  rw [withContext, ensures_bind, ensures_context?, here]
  exact keeps_context spared held here

theorem perform_effect (spares : env.Spares) (own : env.modules.Follow .owning)
    (held : w.Holds seat) (here : w.contexts.get? seat = some c)
    (unused : c.instances.get? c.instances.next = none) (operation : Operation) :
    Ensures (perform env seat operation) w
      (fun answer u => Stepped env seat c w operation (.ok answer) u)
      fun e u => ∀ p, e = .unwinding p → Stepped env seat c w operation (.error p) u := by
  cases operation with
  | create =>
    rw [perform, ensures_map]
    exact (withContext_effect (callRoot_spares spares c _ _) held here).mono (fun _ _ => id)
      fun e _ kept p same => kept (same ▸ unwinding_ne)
  | status =>
    rw [perform, ensures_map]
    exact (withContext_effect (callRoot_spares spares c _ _) held here).mono (fun _ _ => id)
      fun e _ kept p same => kept (same ▸ unwinding_ne)
  | setSetting name value =>
    rw [perform, ensures_map]
    exact (withContext_effect (callRoot_spares spares c _ _) held here).mono (fun _ _ => id)
      fun e _ kept p same => kept (same ▸ unwinding_ne)
  | createInstance ty id host version parent =>
    rw [perform, ensures_map]
    exact (createInstance_grants spares own held here unused ty id host version parent).mono
      (fun _ _ granted => granted) fun e _ broken p same => broken (same ▸ unwinding_ne)
  | destroyInstance ty handle =>
    rw [perform, ensures_map]
    exact (destroyInstance_effect spares held here ty handle).mono
      (fun _ _ => id) fun e _ kept p same => kept (same ▸ unwinding_ne)

theorem observed_effect (spares : env.Spares) (own : env.modules.Follow .owning)
    (held : w.Holds seat) (here : w.contexts.get? seat = some c)
    (unused : c.instances.get? c.instances.next = none) {operation : Operation}
    {answer : Except Payload Answer}
    (ended : Act.observe (perform env seat operation) w = .ok answer u) :
    u.Holds seat ∧ Stepped env seat c w operation answer u := by
  refine Ensures.observed
    (R := fun answer u => u.Holds seat ∧ Stepped env seat c w operation answer u) ended
    (((perform_effect spares own held here unused operation).and
      (perform_obeys (spares.tends seat) operation w)).mono (fun answer u after => ?_) ?_)
  · obtain ⟨stepped, spared⟩ := after
    exact ⟨held.of_busy spared.returned.busy, stepped⟩
  · rintro e u ⟨stepped, spared⟩ p rfl
    exact ⟨held.of_busy spared.unwound.busy, stepped p rfl⟩

end Requests

/-! ### The invariant of a run -/

/-- An answered request for an instance found the next handle unused, and did to the context what the
last factory that it asked came to. -/
def Sound (env : Env σ ν δ) (seat : Seat) (single : Option AddonType) (s : Step σ ν) : Prop :=
  ∀ ty id host version parent status h,
    s.operation = .createInstance ty id host version parent →
    s.answer = .ok (.instance status h) →
    ∃ c, s.before.contexts.get? seat = some c ∧ c.root.single.map (·.instanceType) = single ∧
      c.instances.next ≠ .root ∧ c.instances.get? c.instances.next = none ∧
      Grants env seat c (requested s.before c ty id host version) parent s.before (status, h) s.after

/-- The root of a context declares a single instance of a type or none, and the entries of its
registry are the instances that its requests registered and did not take back. -/
structure Accounts (seat : Seat) (single : Option AddonType) (steps : List (Step σ ν))
    (c : Context σ) : Prop where
  fixed : c.single = single
  declared : c.root.single.map (·.instanceType) = single
  entries : c.instances.entries = live seat single steps
  next : c.instances.next.raw.toNat = 2 + (registered seat steps).length

/-- What holds of a context and of the requests that were made to it. -/
structure Tracked (env : Env σ ν δ) (seat : Seat) (single : Option AddonType)
    (steps : List (Step σ ν)) (w : World σ ν) : Prop where
  held : w.Holds seat
  context : ∃ c, w.contexts.get? seat = some c ∧ Accounts seat single steps c
  numbers : (registered seat steps).map (·.1.raw.toNat) =
    List.range' 2 (registered seat steps).length
  sound : ∀ s ∈ steps, Sound env seat single s

variable {single : Option AddonType} {steps : List (Step σ ν)}

theorem Tracked.registered_distinct (tracked : Tracked env seat single steps w) :
    Assoc.Distinct (registered seat steps) := by
  have numbered : (((registered seat steps).map (·.1)).map (·.raw.toNat)).Nodup := by
    rw [List.map_map]
    exact tracked.numbers ▸ List.nodup_range'
  exact List.Pairwise.of_map _ (fun a b other same => other (by rw [same])) numbered

theorem Tracked.registered_bounds (tracked : Tracked env seat single steps w) :
    ∀ p ∈ registered seat steps,
      2 ≤ p.1.raw.toNat ∧ p.1.raw.toNat < 2 + (registered seat steps).length := by
  intro p member
  have number : p.1.raw.toNat ∈ List.range' 2 (registered seat steps).length :=
    tracked.numbers ▸ List.mem_map.mpr ⟨p, member, rfl⟩
  exact List.mem_range'_1.mp number

theorem Tracked.distinct (tracked : Tracked env seat single steps w) :
    Assoc.Distinct (live seat single steps) :=
  tracked.registered_distinct.sublist ((live_sublist single steps).map _)

theorem Tracked.proper (tracked : Tracked env seat single steps w) :
    ∀ p ∈ live seat single steps, p.1 ≠ .root := by
  intro p member root
  have bounds := tracked.registered_bounds p ((live_sublist single steps).subset member)
  rw [root] at bounds
  exact absurd bounds.1 (by decide)

/-- The next handle of a context was not given before. -/
theorem Tracked.unused (tracked : Tracked env seat single steps w)
    (accounts : Accounts seat single steps c) : c.instances.get? c.instances.next = none := by
  refine Assoc.get?_eq_none_iff.mpr fun p member same => ?_
  rw [accounts.entries] at member
  have bounds := tracked.registered_bounds p ((live_sublist single steps).subset member)
  rw [same, accounts.next] at bounds
  exact absurd bounds.2 (Nat.lt_irrefl _)

theorem Accounts.next_proper (accounts : Accounts seat single steps c) :
    c.instances.next ≠ .root := by
  intro root
  have next := accounts.next
  rw [root] at next
  exact absurd next (by simp [InstanceHandle.root]; omega)

theorem removed_frame (c : Context σ) (ty : AddonType) (handle : Option InstanceHandle) :
    (removed c ty handle).single = c.single ∧ (removed c ty handle).root = c.root ∧
      (removed c ty handle).instances.next = c.instances.next := by
  unfold removed
  split
  · exact ⟨rfl, rfl, rfl⟩
  · split
    · split <;> exact ⟨rfl, rfl, rfl⟩
    · exact ⟨rfl, rfl, rfl⟩

theorem removed_entries {ty : AddonType} {handle : Option InstanceHandle} {s : Step σ ν}
    (distinct : c.instances.entries.Distinct) (proper : ∀ p ∈ c.instances.entries, p.1 ≠ .root)
    (asked : s.operation = .destroyInstance ty handle) :
    (removed c ty handle).instances.entries =
      c.instances.entries.filter fun p => !s.takes c.single p.2.descriptor.instanceType p.1 := by
  have untouched (h : ∀ p ∈ c.instances.entries,
      s.takes c.single p.2.descriptor.instanceType p.1 = false) :
      c.instances.entries = c.instances.entries.filter
        fun p => !s.takes c.single p.2.descriptor.instanceType p.1 :=
    (List.filter_eq_self.mpr fun p member => by simp [h p member]).symm
  have takes_iff {p : InstanceHandle × Instance σ} :
      s.takes c.single p.2.descriptor.instanceType p.1 = true ↔
        c.single = none ∧ ty = p.2.descriptor.instanceType ∧ handle = some p.1 := by
    simp [Step.takes, asked, Option.isNone_iff_eq_none]
  unfold removed
  split
  · next single =>
    refine untouched fun p _ => Bool.eq_false_iff.mpr fun taken => ?_
    simp [(takes_iff.mp taken).1] at single
  · next multiple =>
    have multiple : c.single = none := Option.not_isSome_iff_eq_none.mp multiple
    split
    · next h asked_for =>
      obtain ⟨rfl, -⟩ := Option.filter_eq_some_iff.mp asked_for
      split
      · next fits =>
        refine List.filter_congr fun p member => ?_
        have found : p.1 = h → ty = p.2.descriptor.instanceType := by
          rintro rfl
          have found : c.instances.get? p.1 = some p.2 := Assoc.get?_of_mem distinct member
          simpa [found, eq_comm] using fits
        have taken : s.takes c.single p.2.descriptor.instanceType p.1 = true ↔ p.1 = h :=
          takes_iff.trans ⟨fun taken => (Option.some.inj taken.2.2).symm,
            fun same => ⟨multiple, found same, congrArg some same.symm⟩⟩
        rw [Bool.eq_iff_iff, Bool.not_eq_true', Bool.eq_false_iff, decide_eq_true_iff]
        exact (not_congr taken).symm
      · next other =>
        refine untouched fun p member => Bool.eq_false_iff.mpr fun taken => other ?_
        obtain ⟨-, rfl, same⟩ := takes_iff.mp taken
        cases same
        have found : c.instances.get? p.1 = some p.2 := Assoc.get?_of_mem distinct member
        simp [found]
    · next nothing =>
      refine untouched fun p member => Bool.eq_false_iff.mpr fun taken => ?_
      obtain ⟨-, -, rfl⟩ := takes_iff.mp taken
      simp [InstanceHandle.isRoot, proper p member] at nothing

theorem Tracked.kept {s : Step σ ν} (tracked : Tracked env seat single steps w)
    (held : u.Holds seat) (nothing_new : s.registered? seat = none) (sound : Sound env seat single s)
    (here : u.contexts.get? seat = some c) (same : c.single = single)
    (root : c.root.single.map (·.instanceType) = single)
    (entries : c.instances.entries = (live seat single steps).filter
      fun p => !s.takes single p.2.descriptor.instanceType p.1)
    (next : c.instances.next.raw.toNat = 2 + (registered seat steps).length) :
    Tracked env seat single (steps ++ [s]) u := by
  have registered_same : registered seat (steps ++ [s]) = registered seat steps := by
    simp [registered, nothing_new]
  refine ⟨held, ⟨c, here, same, root, ?_, ?_⟩, ?_, ?_⟩
  · rw [live_snoc, entries, nothing_new, Option.toList_none, List.append_nil]
  · rw [registered_same, next]
  · rw [registered_same, tracked.numbers]
  · intro t member
    rcases List.mem_append.mp member with earlier | last
    · exact tracked.sound t earlier
    · rwa [List.mem_singleton.mp last]

theorem not_takes {operation : Operation} {answer : Except Payload Answer}
    (other : ∀ ty handle, operation ≠ .destroyInstance ty handle)
    (p : InstanceHandle × Instance σ) :
    Step.takes single p.2.descriptor.instanceType p.1
      (⟨operation, answer, w, u⟩ : Step σ ν) = false := by
  simp [Step.takes, other]

theorem succ_toNat {h : InstanceHandle} (small : h.raw.toNat + 1 < UInt64.size) :
    h.succ.raw.toNat = h.raw.toNat + 1 := by
  have added : (h.raw + 1).toNat = h.raw.toNat + 1 := by
    rw [UInt64.toNat_add, UInt64.toNat_one, Nat.mod_eq_of_lt small]
  have positive : h.raw + 1 ≠ 0 := fun zero => by simp [zero] at added
  rw [InstanceHandle.succ, dif_neg positive, added]

theorem Tracked.grown {s : Step σ ν} {i : Instance σ}
    (tracked : Tracked env seat single steps w) (held : u.Holds seat)
    (accounts : Accounts seat single steps c)
    (here : u.contexts.get? seat = some { c with instances := c.instances.insert i })
    (new : s.registered? seat = some (c.instances.next, i)) (sound : Sound env seat single s)
    (kept : ∀ p : InstanceHandle × Instance σ,
      s.takes single p.2.descriptor.instanceType p.1 = false)
    (few : (registered seat (steps ++ [s])).length + 2 < UInt64.size) :
    Tracked env seat single (steps ++ [s]) u := by
  have grown : registered seat (steps ++ [s]) = registered seat steps ++ [(c.instances.next, i)] := by
    simp [registered, new]
  rw [grown, List.length_append, List.length_singleton] at few
  refine ⟨held, ⟨_, here, accounts.fixed, accounts.declared, ?_, ?_⟩, ?_, ?_⟩
  · have unused := tracked.unused accounts
    rw [live_snoc, List.filter_eq_self.mpr fun p _ => by simp [kept p], new, ← accounts.entries]
    exact Assoc.set_new unused
  · rw [grown, List.length_append, List.length_singleton, Registry.insert, succ_toNat, accounts.next]
    · omega
    · rw [accounts.next]
      omega
  · rw [grown, List.map_append, tracked.numbers, List.length_append, List.length_singleton,
      List.range'_concat, List.map_singleton, accounts.next, Nat.one_mul]
  · intro t member
    rcases List.mem_append.mp member with earlier | last
    · exact tracked.sound t earlier
    · rwa [List.mem_singleton.mp last]

/-- A request for an instance came to what an answer of a factory does to the context, whether or not
its own answer reached the host. -/
theorem Tracked.granted {s : Step σ ν} (tracked : Tracked env seat single steps w)
    (held : u.Holds seat) (accounts : Accounts seat single steps c)
    (here : w.contexts.get? seat = some c) {ty : AddonType} {id : String} {host : HostHandle}
    {version : String} {parent : Option InstanceHandle}
    (asked : s.operation = .createInstance ty id host version parent) (before : s.before = w)
    (after : s.after = u) {o : Offer σ} {answer : Status × Option InstanceHandle}
    (granted : Granted c ty id o answer seat w u) (sound : Sound env seat single s)
    (few : (registered seat (steps ++ [s])).length + 2 < UInt64.size) :
    Tracked env seat single (steps ++ [s]) u := by
  obtain ⟨c', obtained, has⟩ := granted.obtained
  have unused := tracked.unused accounts
  have kept (p : InstanceHandle × Instance σ) :
      s.takes single p.2.descriptor.instanceType p.1 = false := by
    simp [Step.takes, asked]
  have new : s.registered? seat =
      (c'.instances.get? c.instances.next).map (c.instances.next, ·) := by
    simp [Step.registered?, asked, before, after, here, resolve, has]
  have entries : c.instances.entries = (live seat single steps).filter
      fun p => !s.takes single p.2.descriptor.instanceType p.1 := by
    rw [accounts.entries, List.filter_eq_self.mpr fun p _ => by simp [kept p]]
  cases obtained with
  | refused unable =>
    refine tracked.kept held ?_ sound has accounts.fixed accounts.declared entries accounts.next
    rw [new, unused, Option.map_none]
  | registered i able created =>
    refine tracked.grown held accounts has ?_ sound kept few
    rw [new, Registry.get?_insert, if_pos rfl, Option.map_some]
  | stamped d able created single' =>
    refine tracked.kept held ?_ sound has accounts.fixed ?_ entries accounts.next
    · rw [new, unused, Option.map_none]
    · have root := accounts.declared
      rw [single'] at root
      exact root

/-- An answered request that gave a handle other than the root's registered an instance under it. -/
theorem Sound.new {s : Step σ ν} (sound : Sound env seat single s) {h : InstanceHandle}
    (given : s.handle? = some h) (proper : h ≠ .root) : ∃ i, s.registered? seat = some (h, i) := by
  obtain ⟨operation, answer, before, after⟩ := s
  unfold Step.handle? at given
  split at given
  · next ty id host version parent status h' asked answered =>
    subst given
    obtain ⟨c, here, -, -, -, granted⟩ := sound _ _ _ _ _ _ _ asked answered
    obtain ⟨_, _, o, _, -, granted⟩ := granted
    obtain ⟨c', obtained, has⟩ := granted.obtained
    dsimp only at asked here has
    subst asked
    cases obtained with
    | registered i able created =>
      refine ⟨{ i with descriptor := i.descriptor.stamp id }, ?_⟩
      simp [Step.registered?, here, resolve, has, Registry.get?_insert]
      rfl
    | stamped d able created single => exact absurd rfl proper
  · contradiction

theorem Tracked.resolves {pre post : List (Step σ ν)} {s : Step σ ν} {h : InstanceHandle}
    {i : Instance σ} (tracked : Tracked env seat single (pre ++ s :: post) w)
    (new : s.registered? seat = some (h, i)) :
    (∀ x ∈ pre, x.handle? ≠ some h) ∧
      resolve w seat h =
        if post.any (·.takes single i.descriptor.instanceType h) then none else some i := by
  obtain ⟨c, here, accounts⟩ := tracked.context
  have distinct := tracked.distinct
  have split : registered seat (pre ++ s :: post) =
      registered seat pre ++ (h, i) :: registered seat post := by
    simp [registered, new]
  obtain ⟨before, after⟩ := (split ▸ tracked.registered_distinct).split
  have proper : h ≠ .root := by
    rintro rfl
    have bounds := tracked.registered_bounds (.root, i) (by simp [split])
    exact absurd (show 2 ≤ InstanceHandle.root.raw.toNat from bounds.1) (by decide)
  refine ⟨fun x member gave => ?_, ?_⟩
  · obtain ⟨j, new⟩ := (tracked.sound x (List.mem_append_left _ member)).new gave proper
    exact before (h, j) (List.mem_filterMap.mpr ⟨x, member, new⟩) rfl
  · rw [resolve, here, Option.bind, Registry.get?, accounts.entries]
    rw [live_append, live, new] at distinct ⊢
    split
    · next taken =>
      refine Assoc.get?_eq_none_iff.mpr fun p member => ?_
      simp only [Option.toList_some, List.mem_append, List.mem_filter, List.mem_singleton] at member
      rcases member with ⟨earlier, -⟩ | ⟨rfl, kept⟩ | later
      · exact before p ((live_sublist single pre).subset earlier)
      · simp [taken] at kept
      · exact after p ((live_sublist single post).subset later)
    · next kept =>
      refine Assoc.get?_of_mem distinct ?_
      simp only [Option.toList_some, List.mem_append, List.mem_filter, List.mem_singleton]
      exact .inr (.inl ⟨True.intro, by simpa using kept⟩)

variable [Panics δ]

theorem Tracked.snoc (spares : env.Spares) (own : env.modules.Follow .owning)
    (tracked : Tracked env seat single steps w) {operation : Operation}
    {answer : Except Payload Answer}
    (ended : Act.observe (perform env seat operation) w = .ok answer u)
    (few : (registered seat (steps ++ [⟨operation, answer, w, u⟩])).length + 2 < UInt64.size) :
    Tracked env seat single (steps ++ [⟨operation, answer, w, u⟩]) u := by
  obtain ⟨c, here, accounts⟩ := tracked.context
  have unused := tracked.unused accounts
  obtain ⟨held, stepped⟩ := observed_effect spares own tracked.held here unused ended
  have kept (other : ∀ ty handle, operation ≠ .destroyInstance ty handle)
      (nothing_new : Step.registered? seat (⟨operation, answer, w, u⟩ : Step σ ν) = none)
      (sound : Sound env seat single ⟨operation, answer, w, u⟩)
      (after : u.contexts.get? seat = some c) :
      Tracked env seat single (steps ++ [⟨operation, answer, w, u⟩]) u := by
    refine tracked.kept held nothing_new sound after accounts.fixed accounts.declared ?_
      accounts.next
    rw [accounts.entries, List.filter_eq_self.mpr fun p _ => by
      rw [not_takes other p, Bool.not_false]]
  cases operation with
  | create => exact kept (by simp) rfl (by simp [Sound]) stepped
  | status => exact kept (by simp) rfl (by simp [Sound]) stepped
  | setSetting name value => exact kept (by simp) rfl (by simp [Sound]) stepped
  | destroyInstance ty handle =>
    obtain ⟨single_kept, root_kept, next_kept⟩ := removed_frame c ty handle
    refine tracked.kept held rfl (by simp [Sound]) stepped
      (single_kept.trans accounts.fixed) (root_kept ▸ accounts.declared) ?_ (next_kept ▸ accounts.next)
    rw [← accounts.entries, ← accounts.fixed]
    exact removed_entries (accounts.entries ▸ tracked.distinct) (accounts.entries ▸ tracked.proper)
      rfl
  | createInstance ty id host version parent =>
    have left (after : u.contexts.get? seat = some c) : Step.registered? seat
        (⟨.createInstance ty id host version parent, answer, w, u⟩ : Step σ ν) = none := by
      simp [Step.registered?, here, resolve, after, unused]
    rcases answer with p | _ | _ | ⟨status, h⟩
    · rcases stepped with same | ⟨o, told, granted⟩
      · exact kept (by simp) (left same) (by simp [Sound]) same
      · exact tracked.granted held accounts here rfl rfl rfl granted (by simp [Sound])
          few
    · exact kept (by simp) (left stepped) (by simp [Sound]) stepped
    · exact kept (by simp) (left stepped) (by simp [Sound]) stepped
    · have grants := stepped
      obtain ⟨asked, passed, o, v, -, granted⟩ := stepped
      refine tracked.granted held accounts here rfl rfl rfl granted ?_ few
      rintro _ _ _ _ _ _ _ ⟨⟩ ⟨⟩
      exact ⟨c, here, accounts.declared, accounts.next_proper, unused, grants⟩

theorem Ran.tracked (spares : env.Spares) (own : env.modules.Follow .owning) {root : Root}
    {start : World σ ν} (held : start.Holds seat)
    (fresh : start.contexts.get? seat = some { root }) (ran : Ran env seat start steps w)
    (few : (registered seat steps).length + 2 < UInt64.size) :
    Tracked env seat (root.single.map (·.instanceType)) steps w := by
  induction ran with
  | nil =>
    exact ⟨held, ⟨_, fresh, rfl, rfl, rfl, rfl⟩, rfl,
      fun _ member => absurd member List.not_mem_nil⟩
  | snoc earlier operation ended ih =>
    refine (ih (Nat.lt_of_le_of_lt ?_ few)).snoc spares own ended few
    rw [registered, registered, List.filterMap_append, List.length_append]
    omega

/-- However a context is driven, a request for an instance that is answered passes on what the last
factory that it asked gave. The answer is the root's handle only if that factory meant the single
instance, and the root declared one of the requested type. A new instance is registered under a handle
that is not the root's and was not given before. The handle stands for that instance, which has the
requested type and identifier, until a request takes the instance back, and for nothing from then on.
The registry holds as many instances as were registered and not taken back. -/
theorem handles_resolve (modules : Modules σ ν δ) (own : modules.Follow .owning) (unloading : Bool)
    (depth : Nat) (seat : Seat) (root : Root) (start w : World σ ν) (steps : List (Step σ ν))
    (held : start.Holds seat) (fresh : start.contexts.get? seat = some { root })
    (ran : Ran (Exports.env modules unloading depth) seat start steps w)
    (few : (registered seat steps).length + 2 < UInt64.size) :
    (∀ pre s post ty id host version parent status answer, steps = pre ++ s :: post →
      s.operation = .createInstance ty id host version parent →
      s.answer = .ok (.instance status answer) →
      ∃ c asked passed o u, s.before.contexts.get? seat = some c ∧
        Asked (Exports.env modules unloading depth) c (requested s.before c ty id host version)
          parent s.before asked passed (.ok o u) ∧
        status = o.status ∧
        ((answer = none ∧ o.status = .notImplemented ∧
            ∀ j, resolve s.after seat j = resolve s.before seat j) ∨
          (answer = some .root ∧ o.status ≠ .notImplemented ∧ o.created = some none ∧
            root.single.map (·.instanceType) = some ty ∧
            ∀ j, resolve s.after seat j = resolve s.before seat j) ∨
          ∃ h i maker, answer = some h ∧ o.status ≠ .notImplemented ∧
            o.created = some (some i) ∧ s.before.Shows s.after (.produced i.object maker) ∧
            h ≠ .root ∧ (∀ x ∈ pre, x.handle? ≠ some h) ∧ i.descriptor.instanceType = ty ∧
            (i.descriptor.stamp id).id? = some id ∧
            resolve s.after seat h = some { i with descriptor := i.descriptor.stamp id } ∧
            resolve w seat h =
              if root.single = none ∧ ∃ x ∈ post, x.operation = .destroyInstance ty (some h) then none
              else some { i with descriptor := i.descriptor.stamp id })) ∧
    ∃ c, w.contexts.get? seat = some c ∧
      c.instances.size = (live seat (root.single.map (·.instanceType)) steps).length := by
  have spares := Exports.env_spares modules unloading depth
  have own : (Exports.env modules unloading depth).modules.Follow .owning := by
    rwa [Exports.env_modules]
  have tracked := ran.tracked spares own held fresh few
  refine ⟨?_, ?_⟩
  · rintro pre s post ty id host version parent status answer rfl called answered
    have sound := tracked.sound s (by simp)
    obtain ⟨c, here, declared, proper, unused, asked, passed, o, u, through, granted⟩ :=
      sound _ _ _ _ _ _ _ called answered
    obtain ⟨c', obtained, has⟩ := granted.obtained
    refine ⟨c, asked, passed, o, u, here, through, ?_⟩
    cases obtained with
    | refused unable => exact ⟨rfl, .inl ⟨rfl, unable, fun j => by simp [resolve, here, has]⟩⟩
    | stamped d able created single =>
      have fits : d.instanceType = ty := by
        by_contra other
        exact granted.flawless _ (.singleMismatch d able created single other)
      refine ⟨rfl, .inr (.inl ⟨rfl, able, created, ?_, fun j => by simp [resolve, here, has]⟩)⟩
      rw [← declared, single, Option.map_some, fits]
    | registered i able created =>
      have fits : i.descriptor.instanceType = ty := by
        by_contra other
        exact granted.flawless _ (.mismatch i able created other)
      obtain ⟨unidentified, maker, shown⟩ := granted.fresh i created
      have found : resolve s.after seat c.instances.next =
          some { i with descriptor := i.descriptor.stamp id } := by
        simp [resolve, has, Registry.get?_insert]
        rfl
      have new : s.registered? seat =
          some (c.instances.next, { i with descriptor := i.descriptor.stamp id }) := by
        simp [Step.registered?, called, here, found]
      obtain ⟨unseen, resolved⟩ := tracked.resolves new
      refine ⟨rfl, .inr (.inr ⟨_, i, maker, rfl, able, created, shown, proper, unseen, fits, ?_,
        found, ?_⟩)⟩
      · simp [Descriptor.stamp, unidentified]
      · rw [resolved]
        congr 1
        simp only [List.any_eq_true, Step.takes, Bool.and_eq_true, Option.isNone_iff_eq_none,
          Option.map_eq_none_iff, decide_eq_true_eq, Descriptor.stamp, fits]
        refine propext ⟨?_, ?_⟩
        · rintro ⟨x, member, multiple, taken⟩
          exact ⟨multiple, x, member, taken⟩
        · rintro ⟨multiple, x, member, taken⟩
          exact ⟨x, member, multiple, taken⟩
  · obtain ⟨c, here, accounts⟩ := tracked.context
    exact ⟨c, here, by rw [Registry.size, accounts.entries]⟩

theorem handles_resolve_decoder :
    let root : Root := ⟨⟨⟨0, 0⟩, 0⟩, ⟨"decoders", ⟨0, 0⟩⟩, none⟩
    let start : World Unit Unit := { memory := fun _ => (), contexts := [(.direct 0, { root })] }
    let h := InstanceHandle.root.succ
    ∃ w s t, Ran (Exports.env Modules.decoders false 1) (.direct 0) start [s, t] w ∧
      s.operation = .createInstance ⟨102⟩ "a" .null "1.0" none ∧
      s.answer = .ok (.instance .ok (some h)) ∧
      t.operation = .destroyInstance ⟨102⟩ (some h) ∧
      (∃ i : Instance Unit, i.descriptor.id? = some "a" ∧
        resolve s.after (.direct 0) h = some i) ∧
      resolve w (.direct 0) h = none := by
  intro root start h
  have none_ran : Ran (Exports.env Modules.decoders false 1) (.direct 0) start [] start := .nil
  have ran := (none_ran.snoc (.createInstance ⟨102⟩ "a" .null "1.0" none) rfl).snoc
    (.destroyInstance ⟨102⟩ (some h)) rfl
  refine ⟨_, _, _, ran, rfl, rfl, rfl, ?_⟩
  have own : Modules.decoders.Follow .owning :=
    Modules.decoders_follow fun _ unidentified d _ created => unidentified d created
  obtain ⟨resolved, -⟩ := handles_resolve Modules.decoders own false 1 (.direct 0) root start _ _
    True.intro rfl ran
    (Nat.lt_of_le_of_lt (Nat.add_le_add_right (List.length_filterMap_le _ _) 2) (by decide))
  obtain ⟨c, asked, passed, o, u, -, -, -, came⟩ := resolved [] _ _ _ _ _ _ _ _ _ rfl rfl rfl
  rcases came with ⟨nothing, -⟩ | ⟨single, -⟩ | ⟨_, i, maker, same, -, -, -, -, -, -, rest⟩
  · exact absurd nothing (by decide)
  · exact absurd single (by decide)
  · cases same
    obtain ⟨identified, found, gone⟩ := rest
    refine ⟨⟨_, identified, found⟩, gone.trans (if_pos ⟨rfl, _, List.mem_singleton.mpr rfl, rfl⟩)⟩

end Dispatch

end AddonBridge
