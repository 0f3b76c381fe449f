import AddonBridge.Proofs.Discipline

/-!
# What code asks of hosts

Beside running code, a module's functions change nothing that a host keeps of its strings, and reach
hosts with log records alone. A relation between worlds that log records and the commands of code
sustain is therefore sustained by every call and by every move of a host, whichever way it ends.
-/

namespace AddonBridge

open Act

variable {σ ν δ ε α β : Type}

/-! ### Code by its commands -/

/-- Every command that a program can come to. -/
def Program.Asks (C : Command σ ν → Prop) : Program σ ν ε α → Prop
  | .done _ | .panic _ => True
  | .step c next => C c ∧ ∀ r, (next r).Asks C

structure Addon.Asks (C : Command σ ν → Prop) (a : Addon σ ν δ) : Prop where
  build : ∀ site, (a.build site).Asks C
  created : ∀ site, (a.created site).Asks C
  status : ∀ site, (a.status site).Asks C
  setSetting : ∀ site name value, (a.setSetting site name value).Asks C
  factory : ∀ site r, (a.factory site r).Asks C
  instanceFactory : ∀ site d data r, (a.instanceFactory site d data r).Asks C
  instanceDestroyed : ∀ site ty id d, (a.instanceDestroyed site ty id d).Asks C
  instanceDropped : ∀ site d data, (a.instanceDropped site d data).Asks C
  dropped : ∀ site, (a.dropped site).Asks C

structure NativeAddon.Asks (C : Command σ ν → Prop) (n : NativeAddon σ ν) : Prop where
  create : ∀ t api, (n.create t api).Asks C
  started : ∀ t, (n.started t).Asks C
  destroy : n.destroy.Asks C
  status : n.status.Asks C
  setSetting : ∀ name value, (n.setSetting name value).Asks C
  createInstance : ∀ ty id host version out parent,
    (n.createInstance ty id host version out parent).Asks C
  destroyInstance : ∀ ty handle, (n.destroyInstance ty handle).Asks C

structure Modules.Ask (C : Command σ ν → Prop) (ms : Modules σ ν δ) : Prop where
  addon : ∀ m, (ms.addon m).Asks C
  native : ∀ m n, ms.native m = some n → n.Asks C

/-! ### Relations that acts sustain -/

/-- What a host keeps of its strings and its table. -/
def Loaded.supply (l : Loaded) : UInt64 × Option HostTable := (l.outstanding, l.hostTable)

/-- A relation between the worlds before and after an act, whichever way it ends. -/
abbrev Sustaining (R : World σ ν → World σ ν → Prop) : Change σ ν := fun w _ u => R w u

variable {R : World σ ν → World σ ν → Prop} {C : Command σ ν → Prop} {env : Env σ ν δ}

/-- What log records leave, and what leaves the supplies of hosts and is no matter of theirs. -/
structure Act.Sound (R : World σ ν → World σ ν → Prop) : Prop where
  refl : ∀ w, R w w
  trans : ∀ w u v, R w u → R u v → R w v
  aside : ∀ w u, u.loaded = w.loaded → u.trace = w.trace → R w u
  record : ∀ w e, (∀ t q, e ≠ .host t q) → R w { w with trace := e :: w.trace }
  relink : ∀ w t f, (∀ l, Loaded.supply (f l) = l.supply) →
    R w { w with loaded := w.loaded.modify t f }
  toHost : ∀ t level message, Obeys (Sustaining R) (Log.toHost t level message)

/-- Code whose commands are among `C` can run and sustain a relation. -/
structure Env.Sustains (env : Env σ ν δ) (R : World σ ν → World σ ν → Prop)
    (C : Command σ ν → Prop) : Prop extends Act.Sound R where
  modules : env.modules.Ask C
  commands : ∀ m c, C c → Obeys (Sustaining R) (env.perform m c)

theorem Sustaining.observe {act : Act σ ν α} (h : Obeys (Sustaining R) act) :
    Obeys (Sustaining R) (Act.observe act) := by
  intro w
  rw [ensures_observe]
  refine (h w).mono (fun _ _ => id) fun e u ended => ?_
  cases e <;> exact ended

namespace Act.Sound

variable (sound : Act.Sound R)
include sound

theorem law : Law (Sustaining R) where
  refl := sound.refl
  trans := sound.trans _ _ _
  cleanup := sound.trans _ _ _
  cleanup_aborted := sound.trans _ _ _
  caught h _ := h
  fatal := id

theorem after {act : Act σ ν α} {cleanup : Act σ ν Unit} (h : Obeys (Sustaining R) act)
    (hc : Obeys (Sustaining R) cleanup) : Obeys (Sustaining R) (Act.after act cleanup) := by
  refine .bind sound.law (Sustaining.observe h) fun r => ?_
  cases r with
  | ok a => exact .bind sound.law hc fun _ => .pure sound.law a
  | error q =>
    refine .bind sound.law (Sustaining.observe hc) fun r => ?_
    cases r <;> exact fun w => sound.refl w

theorem modify {f : World σ ν → World σ ν} (loaded : ∀ w, (f w).loaded = w.loaded)
    (trace : ∀ w, (f w).trace = w.trace) : Obeys (Sustaining R) (modify f : Act σ ν PUnit) :=
  fun w => sound.aside w (f w) (loaded w) (trace w)

theorem holding {m : String} {act : Act σ ν α} (h : Obeys (Sustaining R) act) :
    Obeys (Sustaining R) (Act.holding m act) :=
  .bind sound.law (sound.modify (fun _ => rfl) fun _ => rfl) fun _ =>
    sound.after h (sound.modify (fun _ => rfl) fun _ => rfl)

theorem context? {s : Seat} : Obeys (Sustaining R) (Act.context? s : Act σ ν _) :=
  fun w => sound.refl w

theorem loaded? {t : TableId} : Obeys (Sustaining R) (Act.loaded? t : Act σ ν _) :=
  fun w => sound.refl w

theorem isBusy {m : String} : Obeys (Sustaining R) (Act.isBusy m : Act σ ν _) :=
  fun w => sound.refl w

theorem unbind {t : TableId} : Obeys (Sustaining R) (Act.unbind t : Act σ ν Unit) := by
  intro w
  rw [ensures_unbind]
  split
  · exact sound.aside w _ rfl rfl
  · exact sound.refl w

theorem setContext {s : Seat} {c : Context σ} :
    Obeys (Sustaining R) (Act.setContext s c : Act σ ν Unit) :=
  fun w => sound.aside w _ rfl rfl

theorem freshObject {t : TableId} : Obeys (Sustaining R) (Act.freshObject t : Act σ ν ObjectId) :=
  fun w => sound.aside w _ rfl rfl

theorem event {e : Event ν} (own : ∀ t q, e ≠ .host t q) :
    Obeys (Sustaining R) (Act.record e : Act σ ν Unit) :=
  fun w => sound.record w e own

theorem toSink {level : LogLevel} {message : String} :
    Obeys (Sustaining R) (Log.toSink level message : Act σ ν Unit) := by
  refine .bind sound.law (fun w => sound.refl w) fun w => ?_
  cases w.sink with
  | some t => exact .map (sound.toHost t level message)
  | none => exact .pure sound.law _

theorem emit {level : RecordLevel} {message : String} :
    Obeys (Sustaining R) (Log.emit level message : Act σ ν Unit) :=
  .bind sound.law (fun w => sound.refl w) fun _ => .ite sound.toSink (.pure sound.law _)

theorem logger : Obeys (Sustaining R) (Log.install : Act σ ν Bool) :=
  fun w => sound.aside w _ rfl rfl

theorem withLocation {m : String} {out : Option UInt64} {act : Act σ ν α}
    (h : Obeys (Sustaining R) act) : Obeys (Sustaining R) (Act.withLocation m out act) :=
  .bind sound.law (sound.modify (fun _ => rfl) fun _ => rfl) fun _ =>
    .bind sound.law h fun _ w => sound.aside w _ rfl rfl

theorem writeLocation {m : String} {value : UInt64} :
    Obeys (Sustaining R) (Act.writeLocation m value : Act σ ν Unit) :=
  sound.modify (fun _ => rfl) fun _ => rfl

theorem raise {d : Defect} : Obeys (Sustaining R) (Log.raise d : Act σ ν α) :=
  .bind sound.law (sound.event nofun) fun _ => .bind sound.law sound.emit fun _ w => sound.refl w

theorem guard {operation : String} {fallback : α} {act : Act σ ν α} (h : Obeys (Sustaining R) act) :
    Obeys (Sustaining R) (Exports.guard operation fallback act) := by
  refine .bind sound.law (Sustaining.observe h) fun r => ?_
  have logged (message : String) :
      Obeys (Sustaining R) (Log.error message >>= fun _ => pure fallback : Act σ ν α) :=
    .bind sound.law sound.emit fun _ => .pure sound.law _
  rcases r with (message | d | _) | a
  · exact logged _
  · exact .bind sound.law sound.toSink fun _ w => sound.refl w
  · exact logged _
  · exact .pure sound.law a

theorem withSlot {m operation : String} {default : α} {act : Act σ ν α}
    (h : Obeys (Sustaining R) act) :
    Obeys (Sustaining R) (Exports.withSlot m operation default act) := by
  have refused (message : String) :
      Obeys (Sustaining R) (Log.error message >>= fun _ => pure default : Act σ ν α) :=
    .bind sound.law sound.emit fun _ => .pure sound.law _
  refine .bind sound.law sound.isBusy fun _ => .ite (refused _) ?_
  refine .bind sound.law sound.context? fun c => ?_
  cases c with
  | some c => exact sound.holding h
  | none => exact refused _

theorem withContext {seat : Seat} {default : α} {f : Context σ → Act σ ν α}
    (h : ∀ c, Obeys (Sustaining R) (f c)) :
    Obeys (Sustaining R) (Dispatch.withContext seat default f) := by
  refine .bind sound.law sound.context? fun c => ?_
  cases c with
  | some c => exact h c
  | none => exact .pure sound.law default

theorem publish {t : TableId} {base single : Option InstanceHandle} :
    Obeys (Sustaining R) (Exports.publish t base single : Act σ ν Unit) :=
  fun w => sound.relink w t _ fun _ => rfl

theorem offer {maker : ObjectId} {o : Outcome σ} :
    Obeys (Sustaining R) (Dispatch.offer maker o : Act σ ν _) := by
  unfold Dispatch.offer
  split
  · exact .bind sound.law sound.freshObject fun _ =>
      .bind sound.law (sound.event nofun) fun _ => .pure sound.law _
  · exact .pure sound.law _
  · exact .pure sound.law _

theorem warnStamped {d : Descriptor} {id : String} :
    Obeys (Sustaining R) (Dispatch.warnStamped d id : Act σ ν Unit) :=
  .ite sound.emit (.pure sound.law _)

theorem take {m : String} : Obeys (Sustaining R) (Exports.take m : Act σ ν _) := by
  refine .bind sound.law sound.isBusy fun _ =>
    .ite (.bind sound.law sound.emit fun _ => .pure sound.law _) ?_
  refine .bind sound.law sound.context? fun c => ?_
  cases c with
  | some c =>
    exact .bind sound.law (sound.modify (fun _ => rfl) fun _ => rfl) fun _ =>
      .pure sound.law _
  | none => exact .bind sound.law sound.emit fun _ => .pure sound.law _

theorem registerFunctions {m : String} {t : TableId} :
    Obeys (Sustaining R) (Exports.registerFunctions m t : Act σ ν _) := by
  refine .bind sound.law sound.loaded? fun l => ?_
  cases l with
  | some l =>
    exact .ite (.bind sound.law (fun w => sound.relink w t _ fun _ => rfl) fun _ =>
      .pure sound.law _) (.pure sound.law _)
  | none => exact .pure sound.law _

end Act.Sound

/-! ### Code -/

namespace Env.Sustains

variable (sustains : env.Sustains R C)
include sustains

theorem exec {payload : ε → Payload} (m : String) {q : Program σ ν ε α} (asks : q.Asks C) :
    Obeys (Sustaining R) (env.exec m payload q) := by
  induction q with
  | done a => exact .pure sustains.law a
  | panic e => exact fun w => sustains.refl w
  | step c next ih =>
    exact .bind sustains.law (sustains.commands m c asks.1) fun r => ih r (asks.2 r)

theorem callback {m : String} {q : Program σ ν Payload α} (asks : q.Asks C) :
    Obeys (Sustaining R) (env.callback m q) := sustains.exec m asks

theorem quietly {m : String} {q : Program σ ν Empty α} (asks : q.Asks C) :
    Obeys (Sustaining R) (env.quietly m q) := sustains.exec m asks

theorem callRoot {c : Context σ} (cb : Callback) {q : Addon σ ν δ → Site → Program σ ν Payload α}
    (asks : ∀ a, a.Asks C → ∀ site, (q a site).Asks C) :
    Obeys (Sustaining R) (Dispatch.callRoot env c cb q) :=
  .bind sustains.law (sustains.event nofun) fun _ =>
    sustains.callback (asks _ (sustains.modules.addon _) _)

theorem build {m : String} {t : TableId} : Obeys (Sustaining R) (Dispatch.build env m t) := by
  refine .bind sustains.law sustains.freshObject fun o =>
    .bind sustains.law (sustains.event nofun) fun _ =>
      .bind sustains.law (sustains.callback ((sustains.modules.addon m).build _)) fun built => ?_
  cases built with
  | ok single => exact .bind sustains.law (sustains.event nofun) fun _ => .pure sustains.law _
  | error e => exact .pure sustains.law _

theorem askRoot {c : Context σ} {r : Request} : Obeys (Sustaining R) (Dispatch.askRoot env c r) :=
  .bind sustains.law (sustains.callRoot (.factory r) fun _ asks site => asks.factory site r)
    fun _ => sustains.offer

theorem askParent {c : Context σ} {r : Request} {parent : Option InstanceHandle} :
    Obeys (Sustaining R) (Dispatch.askParent env c r parent) := by
  unfold Dispatch.askParent
  split
  · exact .pure sustains.law _
  · split
    · exact .map <| .bind sustains.law (sustains.event nofun) fun _ =>
        .bind sustains.law (sustains.callback ((sustains.modules.addon _).instanceFactory _ _ _ _))
          fun _ => sustains.offer
    · exact .bind sustains.law sustains.emit fun _ => .pure sustains.law _

theorem callNative {m : String} {n : NativeAddon σ ν} (asks : n.Asks C) {c : EntryCall} :
    Obeys (Sustaining R) (Exports.callNative env m n c) := by
  cases c with
  | create t api =>
    refine .bind sustains.law (sustains.quietly (asks.create t api)) fun published => ?_
    cases published with
    | inl raw => exact .pure sustains.law _
    | inr published =>
      exact .bind sustains.law (fun w => sustains.relink w _ _ fun _ => rfl) fun _ =>
        .bind sustains.law (sustains.quietly (asks.started _)) fun _ => .pure sustains.law _
  | destroy =>
    exact .bind sustains.law (sustains.quietly asks.destroy) fun _ => .pure sustains.law _
  | status => exact .bind sustains.law (sustains.quietly asks.status) fun _ => .pure sustains.law _
  | setSetting name value =>
    exact .bind sustains.law (sustains.quietly (asks.setSetting _ _)) fun _ => .pure sustains.law _
  | createInstance ty id host version out parent =>
    exact .bind sustains.law (sustains.quietly (asks.createInstance _ _ _ _ _ _)) fun _ =>
      .pure sustains.law _
  | destroyInstance ty handle =>
    exact .bind sustains.law (sustains.quietly (asks.destroyInstance _ _)) fun _ =>
      .pure sustains.law _
  | typeVersion ty => exact .pure sustains.law _
  | minVersion ty => exact .pure sustains.law _

/-! ### Dispatching -/

variable [Panics δ]

theorem lastly {m : String} {q : Program σ ν δ α} (asks : q.Asks C) :
    Obeys (Sustaining R) (env.lastly m q) := sustains.exec m asks

theorem dropInstance {site : Site} {i : Instance σ} :
    Obeys (Sustaining R) (Dispatch.dropInstance env site i) :=
  .bind sustains.law (sustains.event nofun) fun _ =>
    sustains.lastly ((sustains.modules.addon _).instanceDropped _ _ _)

theorem dropInstances {site : Site} {is : List (Instance σ)} :
    Obeys (Sustaining R) (Dispatch.dropInstances env site is) := by
  induction is with
  | nil => exact .pure sustains.law ()
  | cons i is ih => exact .bind sustains.law sustains.dropInstance fun _ => ih

theorem dropContext {c : Context σ} : Obeys (Sustaining R) (Dispatch.dropContext env c) :=
  sustains.after sustains.dropInstances <| .bind sustains.law (sustains.event nofun) fun _ =>
    sustains.lastly ((sustains.modules.addon _).dropped _)

theorem destroyContext {c : Context σ} : Obeys (Sustaining R) (Dispatch.destroy env c) :=
  .ite (.bind sustains.law sustains.emit fun _ => sustains.dropContext) sustains.dropContext

theorem dropOffer {site : Site} {o : Dispatch.Offer σ} :
    Obeys (Sustaining R) (o.drop env site) := by
  unfold Dispatch.Offer.drop
  split
  · exact sustains.dropInstance
  · exact .pure sustains.law ()

theorem register {seat : Seat} {i : Instance σ} :
    Obeys (Sustaining R) (Dispatch.register env seat i) := by
  refine sustains.withContext fun c => .bind sustains.law sustains.setContext fun _ => ?_
  dsimp only
  split
  · exact .bind sustains.law sustains.dropInstance fun _ => .pure sustains.law _
  · exact .pure sustains.law _

theorem settle {seat : Seat} {site : Site} {r : Request} {o : Dispatch.Offer σ} :
    Obeys (Sustaining R) (Dispatch.settle env seat site r o) := by
  refine .ite ?_ ?_
  · exact .bind sustains.law sustains.emit fun _ =>
      .bind sustains.law sustains.dropOffer fun _ => .pure sustains.law _
  split
  · exact sustains.raise
  · refine .ite ?_ (sustains.after sustains.raise sustains.dropInstance)
    exact .bind sustains.law sustains.warnStamped fun _ =>
      .bind sustains.law sustains.register fun _ => .pure sustains.law _
  · refine .bind sustains.law sustains.context? fun here => ?_
    split
    · exact sustains.raise
    · refine .ite ?_ sustains.raise
      exact .bind sustains.law sustains.warnStamped fun _ =>
        .bind sustains.law (sustains.modify (fun _ => rfl) fun _ => rfl) fun _ =>
          .pure sustains.law _

theorem createInstance {seat : Seat} {ty : AddonType} {id version : String} {host : HostHandle}
    {parent : Option InstanceHandle} :
    Obeys (Sustaining R) (Dispatch.createInstance env seat ty id host version parent) := by
  refine sustains.withContext fun c => .bind sustains.law ?_ fun first =>
    .bind sustains.law sustains.askParent fun asked => ?_
  · exact .bind sustains.law sustains.loaded? fun _ => .pure sustains.law _
  · have root (r : Request) : Obeys (Sustaining R) (do
        Dispatch.settle env seat c.root.site r (← Dispatch.askRoot env c r)) :=
      .bind sustains.law sustains.askRoot fun _ => sustains.settle
    cases asked with
    | none => exact root _
    | some o => exact .ite (sustains.after (root _) sustains.dropOffer) sustains.settle

theorem destroyInstance {seat : Seat} {ty : AddonType} {handle : Option InstanceHandle} :
    Obeys (Sustaining R) (Dispatch.destroyInstance env seat ty handle) := by
  refine sustains.withContext fun c => .ite (.pure sustains.law ()) ?_
  split
  · exact .pure sustains.law ()
  · split
    · exact sustains.emit
    · refine .ite (.bind sustains.law sustains.setContext fun _ => ?_) sustains.raise
      exact sustains.after
        (sustains.callRoot _ fun _ asks site => asks.instanceDestroyed site _ _ _)
        sustains.dropInstance

/-! ### Serving calls -/

theorem install {m : String} {c : Context σ} :
    Obeys (Sustaining R) (Exports.install env m c) := by
  refine .bind sustains.law sustains.isBusy fun _ => .ite ?_ ?_
  · exact .bind sustains.law sustains.emit fun _ =>
      .bind sustains.law sustains.dropContext fun _ => .pure sustains.law _
  · refine .bind sustains.law (sustains.holding ?_) fun _ => .pure sustains.law _
    refine .bind sustains.law sustains.context? fun old =>
      .bind sustains.law sustains.setContext fun _ =>
        .bind sustains.law (sustains.event nofun) fun _ => ?_
    cases old with
    | some old => exact .bind sustains.law sustains.dropContext fun _ => sustains.emit
    | none => exact .pure sustains.law _

theorem construct {m : String} {t : TableId} {api : Option CString} :
    Obeys (Sustaining R) (Exports.construct env m t api) := by
  refine .bind sustains.law sustains.emit fun _ => .bind sustains.law sustains.build fun built => ?_
  cases built with
  | error e => exact .bind sustains.law sustains.emit fun _ => .pure sustains.law _
  | ok c =>
    refine .bind sustains.law sustains.registerFunctions fun _ => .ite ?_ ?_
    · exact .bind sustains.law sustains.install fun _ =>
        .ite (.pure sustains.law _) (.pure sustains.law _)
    · exact .bind sustains.law sustains.emit fun _ =>
        .bind sustains.law sustains.dropContext fun _ => .pure sustains.law _

theorem create {m : String} {table : Option TableId} {api : Option CString} :
    Obeys (Sustaining R) (Exports.create env m table api) := by
  refine sustains.guard ?_
  cases table with
  | none => exact .bind sustains.law sustains.emit fun _ => .pure sustains.law _
  | some t =>
    refine .bind sustains.law (.map sustains.logger) fun _ =>
      .bind sustains.law (sustains.modify (fun _ => rfl) fun _ => rfl) fun _ =>
        .bind sustains.law (Sustaining.observe sustains.construct) fun built => ?_
    rcases built with q | status | single
    · exact .bind sustains.law sustains.unbind fun _ w => sustains.refl w
    · exact .bind sustains.law sustains.unbind fun _ => .pure sustains.law _
    · exact .bind sustains.law sustains.publish fun _ =>
        sustains.withSlot (sustains.withContext fun _ =>
          sustains.callRoot _ fun _ asks site => asks.created site)

theorem destroy {m : String} : Obeys (Sustaining R) (Exports.destroy env m) := by
  refine sustains.guard (.bind sustains.law sustains.take fun c => ?_)
  cases c with
  | none => exact .pure sustains.law _
  | some c =>
    exact .bind sustains.law sustains.destroyContext fun _ =>
      .bind sustains.law sustains.publish fun _ => sustains.unbind

theorem callAddon {m : String} {c : EntryCall} :
    Obeys (Sustaining R) (Exports.callAddon env m c) := by
  cases c with
  | create t api => exact .bind sustains.law sustains.create fun _ => .pure sustains.law _
  | destroy => exact .bind sustains.law sustains.destroy fun _ => .pure sustains.law _
  | status =>
    refine .bind sustains.law
      (sustains.guard (sustains.withSlot (sustains.withContext fun _ => ?_))) fun _ =>
        .pure sustains.law _
    exact sustains.callRoot _ fun _ asks site => asks.status site
  | setSetting name value =>
    refine .bind sustains.law (sustains.guard ?_) fun _ => .pure sustains.law _
    cases name with
    | none => exact .bind sustains.law sustains.emit fun _ => .pure sustains.law _
    | some name =>
      refine sustains.withSlot (sustains.withContext fun _ => ?_)
      exact sustains.callRoot _ fun _ asks site => asks.setSetting site _ _
  | createInstance ty id host version out parent =>
    refine .bind sustains.law (sustains.withLocation (sustains.guard ?_)) fun _ =>
      .pure sustains.law _
    cases out with
    | none => exact .bind sustains.law sustains.emit fun _ => .pure sustains.law _
    | some out =>
      refine .bind sustains.law sustains.writeLocation fun _ =>
        .bind sustains.law (sustains.withSlot sustains.createInstance) fun answer => ?_
      obtain ⟨status, _ | h⟩ := answer
      · exact .pure sustains.law _
      · exact .bind sustains.law sustains.writeLocation fun _ => .pure sustains.law _
  | destroyInstance ty handle =>
    exact .bind sustains.law (sustains.guard (sustains.withSlot sustains.destroyInstance)) fun _ =>
      .pure sustains.law _
  | typeVersion ty => exact .pure sustains.law _
  | minVersion ty => exact .pure sustains.law _

theorem call {m : String} {c : EntryCall} : Obeys (Sustaining R) (Exports.call env m c) := by
  refine .bind sustains.law (sustains.event nofun) fun _ => ?_
  split
  · next n native => exact sustains.callNative (sustains.modules.native m n native)
  · exact sustains.callAddon

theorem callRaw {c : RawCall} : Obeys (Sustaining R) (Exports.callRaw env c) := by
  unfold Exports.callRaw
  split
  · split
    · exact .bind sustains.law (fun w => sustains.relink w _ _ fun _ => rfl) fun _ => sustains.call
    · exact sustains.call
  · refine .bind sustains.law ?_ fun found => ?_
    · unfold Exports.registered?
      split
      · refine .bind sustains.law sustains.loaded? fun l => ?_
        cases l <;> exact .pure sustains.law _
      · exact .pure sustains.law _
    · cases found with
      | some m => exact sustains.call
      | none => exact .pure sustains.law _

end Env.Sustains

/-- Nested calls sustain what the other commands of code sustain, at every depth. -/
theorem Exports.env_sustains [Panics δ] (sound : Act.Sound R) {modules : Modules σ ν δ}
    (asks : modules.Ask C)
    (commands : ∀ (env : Env σ ν δ) m c, C c → (∀ call, c ≠ .call call) →
      Obeys (Sustaining R) (env.perform m c)) (unloading : Bool) (depth : Nat) :
    (Exports.env modules unloading depth).Sustains R C := by
  have within (env : Env σ ν δ) (same : env.modules = modules)
      (nested : ∀ c, Obeys (Sustaining R) (env.nested c)) : env.Sustains R C := by
    refine { sound with modules := same ▸ asks, commands := fun m c allowed => ?_ }
    by_cases h : ∃ call, c = .call call
    · obtain ⟨call, rfl⟩ := h
      exact nested call
    · exact commands env m c allowed fun call same => h ⟨call, same⟩
  induction depth with
  | zero => exact within _ rfl fun c => .pure sound.law _
  | succ depth ih =>
    refine within _ rfl fun c => ?_
    change Obeys (Sustaining R)
      (if (unloading && c.isCreate) = true then pure .unloading else callRaw _ c)
    exact .ite (.pure sound.law _) ih.callRaw

/-! ### Moves of a host -/

namespace LoadedAddon

variable [Panics δ] (sustains : env.Sustains R C)
  (drops : ∀ w t, R w { w with loaded := w.loaded.erase t })
  (loads : ∀ w t (module : String) (libPath : CString) (host : Host),
    R w { w with loaded := w.loaded.set t { module, libPath, host } })

include sustains drops in
theorem perform_sustains (t : TableId) (l : Loaded) (operation : Operation) :
    Obeys (Sustaining R) (perform env t l operation) := by
  intro w
  have after (u : World σ ν) : R u (operation.after t u) := by
    cases operation with
    | drop => exact drops u t
    | _ => exact sustains.refl u
  refine perform_exits (fun e _ => sustains.refl w) (fun _ _ => ?_) fun m c _ => ?_
  · cases operation with
    | setFirstInstance host => exact sustains.relink w t _ fun _ => rfl
    | drop => exact drops w t
    | _ => exact sustains.refl w
  · have before : R w (operation.before t w) := by
      cases operation with
      | create | destroy | drop => exact sustains.relink w t _ fun _ => rfl
      | _ => exact sustains.refl w
    refine (sustains.call (operation.before t w)).mono (fun a u called => ?_) fun e u called => ?_
    · exact sustains.trans _ _ _ (sustains.trans _ _ _ before called) (after u)
    · exact sustains.trans _ _ _ before called

include sustains drops loads

theorem step_sustains (move : Move) : Obeys (Sustaining R) (step env move) := by
  cases move with
  | load t module host libPath =>
    refine .bind sustains.law sustains.loaded? fun l => ?_
    cases l with
    | none =>
      refine .map ?_
      unfold load
      split
      · exact .pure sustains.law _
      · exact .bind sustains.law (fun w => loads w t module _ host) fun _ => .pure sustains.law _
    | some l => exact .pure sustains.law _
  | operate t operation =>
    refine .bind sustains.law sustains.loaded? fun l => ?_
    cases l with
    | none => exact .pure sustains.law _
    | some l => exact .map (perform_sustains sustains drops t l operation)

theorem run_sustains (moves : List Move) : Obeys (Sustaining R) (run env moves) :=
  run_obeys sustains.law fun move _ => step_sustains sustains drops loads move

end LoadedAddon

end AddonBridge
