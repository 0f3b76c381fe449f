import Mathlib.Data.List.Forall2
import AddonBridge.Proofs.Handles
import AddonBridge.Proofs.Stillness

/-!
# One context in two seats

A request asks its seat for the context and for nothing else. So two worlds that are the same but for
the seats that contexts are in stay so when the same request is made in both of them, each in its own
seat, as long as code enters no functions.
-/

namespace AddonBridge

open Act World

variable {σ ν ε α β : Type} {seat seat' : Seat}

def Event.isEntry : Event ν → Bool
  | .entered .. => true
  | _ => false

namespace World

variable {w w' : World σ ν}

/-- What happened, but for the calls that led to it. -/
def story (w : World σ ν) : List (Event ν) := w.trace.filter (!·.isEntry)

/-- The addon in a module's slot is created, as far as code can tell. -/
def Created (w : World σ ν) (m : String) : Prop :=
  m ∈ w.busy ∨ (w.contexts.get? (.module m)).isSome

/-- Two worlds are the same but for their seats: a context is in one seat here, and in another one
there. -/
structure Mirrors (seat seat' : Seat) (w w' : World σ ν) : Prop where
  memory : w.memory = w'.memory
  loaded : w.loaded = w'.loaded
  facade : w.facade = w'.facade
  sink : w.sink = w'.sink
  made : w.made = w'.made
  story : w.story = w'.story
  context : ∃ c, w.contexts.get? seat = some c ∧ w'.contexts.get? seat' = some c
  created : ∀ m, w.Created m ↔ w'.Created m

theorem heard_of_story (w : World σ ν) (t : TableId) :
    w.heard t = w.story.filterMap (Event.query? t) := by
  rw [heard, story, List.filterMap_filter]
  congr 1
  funext e
  cases e <;> rfl

theorem Mirrors.matches (mirrors : Mirrors seat seat' w w') : w'.Matches w where
  loaded := mirrors.loaded
  facade := mirrors.facade
  sink := mirrors.sink
  heard t := by rw [heard_of_story, heard_of_story, mirrors.story]

theorem Created.set {c c' : Context σ} (here : w.contexts.get? seat = some c) (m : String) :
    Created { w with contexts := w.contexts.set seat c' } m ↔ w.Created m := by
  unfold Created
  dsimp only
  rw [Assoc.get?_set]
  split
  · next same => simp [← same, here]
  · rfl

theorem Mirrors.set (mirrors : Mirrors seat seat' w w') (c : Context σ) :
    Mirrors seat seat' { w with contexts := w.contexts.set seat c }
      { w' with contexts := w'.contexts.set seat' c } := by
  obtain ⟨c', here, there⟩ := mirrors.context
  refine { mirrors with context := ⟨c, ?_, ?_⟩, created := fun m => ?_ }
  · simp [Assoc.get?_set]
  · simp [Assoc.get?_set]
  · exact (Created.set here m).trans ((mirrors.created m).trans (Created.set there m).symm)

theorem Mirrors.said (mirrors : Mirrors seat seat' w w') (loaded : Assoc TableId Loaded)
    (talk : List (Event ν)) : Mirrors seat seat' (w.said loaded talk) (w'.said loaded talk) where
  memory := mirrors.memory
  loaded := rfl
  facade := mirrors.facade
  sink := mirrors.sink
  made := mirrors.made
  story := by
    have same := mirrors.story
    unfold World.story World.said at *
    rw [List.filter_append, List.filter_append, same]
  context := mirrors.context
  created := mirrors.created

end World

namespace Act

/-- Where the second act comes back without functions having been entered, the first one comes back with
the same answer from every world that is related, and leaves one that is related again. -/
def Shadows (R : World σ ν → World σ ν → Prop) (act act' : Act σ ν α) : Prop :=
  ∀ w', Ensures act' w'
    (fun a u' => w'.IfStill (fun w' u' => ∀ w, R w w' → ∃ u, act w = .ok a u ∧ R u u') u')
    fun _ _ => True

namespace Shadows

variable {R : World σ ν → World σ ν → Prop} {act act' : Act σ ν α}

theorem pure {a : α} : Shadows R (Pure.pure a : Act σ ν α) (Pure.pure a) :=
  fun _ => ⟨List.suffix_rfl, fun _ w related => ⟨w, rfl, related⟩⟩

theorem bind {f f' : α → Act σ ν β} (first : Shadows R act act')
    (rest : ∀ a, Shadows R (f a) (f' a)) : Shadows R (act >>= f) (act' >>= f') := by
  intro w'
  rw [ensures_bind]
  refine (first w').mono (fun a v' led => ?_) fun _ _ _ => True.intro
  refine (rest a v').mono (fun b u' next => ?_) fun _ _ _ => True.intro
  refine ⟨led.trace.trans next.trace, fun still w related => ?_⟩
  obtain ⟨v, ended, related⟩ := led.holds (still.left next.trace) w related
  obtain ⟨u, ended', related⟩ := next.holds (still.right led.trace) v related
  exact ⟨u, (bind_of_ok ended).trans ended', related⟩

theorem map {f : α → β} (h : Shadows R act act') : Shadows R (f <$> act) (f <$> act') := by
  rw [← bind_pure_comp, ← bind_pure_comp]
  exact .bind h fun _ => .pure

theorem ite {c : Prop} [Decidable c] {x x' y y' : Act σ ν α} (hx : Shadows R x x')
    (hy : Shadows R y y') : Shadows R (if c then x else y) (if c then x' else y') := by
  split
  · exact hx
  · exact hy

/-- Nothing is to show of an act that does not come back. -/
theorem of_stops (stops : ∀ w', Ensures act' w' (fun _ _ => False) fun _ _ => True) :
    Shadows R act act' :=
  fun w' => (stops w').mono (fun _ _ => False.elim) fun _ _ => id

theorem after {cleanup cleanup' : Act σ ν Unit} (h : Shadows R act act')
    (hc : Shadows R cleanup cleanup') :
    Shadows R (Act.after act cleanup) (Act.after act' cleanup') := by
  intro w'
  rw [ensures_after]
  refine (h w').mono (fun a v' led => ?_) fun e v' _ => ?_
  · refine (hc v').mono (fun _ u' next => ?_) fun _ _ _ => True.intro
    refine ⟨led.trace.trans next.trace, fun still w related => ?_⟩
    obtain ⟨v, ended, related⟩ := led.holds (still.left next.trace) w related
    obtain ⟨u, cleaned, related⟩ := next.holds (still.right led.trace) v related
    refine ⟨u, ?_, related⟩
    have observed : Act.observe act w = .ok (.ok a) v := by rw [observe_eq, ended]
    rw [Act.after, bind_of_ok observed]
    exact bind_of_ok (f := fun _ => Pure.pure a) cleaned
  · cases e with
    | aborted => exact True.intro
    | unwinding p => exact (Ensures.trivial _).mono (fun _ _ => id) fun _ _ => id

/-- Acts that are done one after the other, each for an element of a list. -/
theorem mapM {ι κ : Type} {f : ι → Act σ ν α} {f' : κ → Act σ ν α} {is : List ι} {ks : List κ}
    (h : List.Forall₂ (fun i k => Shadows R (f i) (f' k)) is ks) :
    Shadows R (is.mapM f) (ks.mapM f') := by
  induction h with
  | nil => exact .pure
  | cons first _ ih =>
    rw [List.mapM_cons, List.mapM_cons]
    exact .bind first fun _ => .bind ih fun _ => .pure

/-! ### Acts on worlds that mirror each other -/

theorem record {e : Event ν} :
    Shadows (Mirrors seat seat') (Act.record e : Act σ ν Unit) (Act.record e) := by
  refine fun w' => ⟨List.suffix_cons _ _, fun _ w mirrors => ⟨_, rfl, ?_⟩⟩
  exact { mirrors.said w.loaded [e] with loaded := mirrors.loaded }

theorem freshObject {t : TableId} :
    Shadows (Mirrors seat seat') (Act.freshObject t : Act σ ν ObjectId) (Act.freshObject t) := by
  refine fun w' => ⟨List.suffix_rfl, fun _ w mirrors => ?_⟩
  refine ⟨{ w with made := fun u => if u = t then w'.made t + 1 else w'.made u }, ?_,
    { mirrors with made := rfl }⟩
  rw [← mirrors.made]
  rfl

theorem modifyLoaded {t : TableId} {f : Loaded → Loaded} :
    Shadows (Mirrors seat seat') (Act.modifyLoaded t f : Act σ ν Unit) (Act.modifyLoaded t f) := by
  refine fun w' => ⟨List.suffix_rfl, fun _ w mirrors => ⟨_, rfl, { mirrors with loaded := ?_ }⟩⟩
  dsimp only
  rw [mirrors.loaded]

theorem context? :
    Shadows (Mirrors seat seat') (Act.context? seat : Act σ ν _) (Act.context? seat') := by
  refine fun w' => ⟨List.suffix_rfl, fun _ w mirrors => ⟨w, ?_, mirrors⟩⟩
  obtain ⟨c, here, there⟩ := mirrors.context
  rw [there, ← here]
  rfl

theorem setContext {c : Context σ} :
    Shadows (Mirrors seat seat') (Act.setContext seat c : Act σ ν Unit) (Act.setContext seat' c) :=
  fun _ => ⟨List.suffix_rfl, fun _ _ mirrors => ⟨_, rfl, mirrors.set c⟩⟩

theorem modifyContext {f : Context σ → Context σ} :
    Shadows (Mirrors seat seat') (Act.modifyContext seat f : Act σ ν Unit)
      (Act.modifyContext seat' f) := by
  refine fun w' => ⟨List.suffix_rfl, fun _ w mirrors => ⟨_, rfl, ?_⟩⟩
  obtain ⟨c, here, there⟩ := mirrors.context
  have set := mirrors.set (f c)
  simp only [Assoc.modify, here, there]
  exact set

theorem talks {act : Act σ ν α} (h : Talks act) : Shadows (Mirrors seat seat') act act := by
  intro w'
  obtain ⟨a, loaded, talk, idle, ends⟩ := h w'
  refine (ensures_ok (ends w' (.refl w'))).mpr ⟨idle.stirs.trace, fun _ w mirrors => ?_⟩
  exact ⟨_, ends w mirrors.matches, mirrors.said loaded talk⟩

theorem install : Shadows (Mirrors seat seat') (Log.install : Act σ ν Bool) Log.install := by
  refine fun w' => ⟨List.suffix_rfl, fun _ w mirrors => ?_⟩
  have same : w.facade.installed = w'.facade.installed := congrArg _ mirrors.facade
  refine ⟨{ w with facade := w'.facade.installed }, ?_, { mirrors with facade := rfl }⟩
  rw [← same]
  rfl

end Shadows

end Act

/-! ### Code -/

/-- Nested calls do the same in both worlds, as far as they do not enter functions. -/
def Env.Echoes (env : Env σ ν) (seat seat' : Seat) : Prop :=
  ∀ c, Shadows (Mirrors seat seat') (env.nested c) (env.nested c)

namespace Exports

theorem callRaw_shadows {env : Env σ ν} (opens : env.Opens Growing (fun _ => Growing) {})
    (c : RawCall) : Shadows (Mirrors seat seat') (callRaw env c) (callRaw env c) := by
  have called (m : String) (c : EntryCall) :
      Shadows (Mirrors seat seat') (call env m c) (call env m c) := fun w' =>
    (call_unstill opens m c w').mono (fun _ _ unstill => unstill.mono False.elim)
      fun _ _ _ => True.intro
  cases c with
  | entry m c =>
    unfold callRaw
    dsimp only
    split
    · exact .bind .modifyLoaded fun _ => called m _
    · exact called m c
  | registered table c =>
    refine .bind (.talks registered?_talks) fun found => ?_
    cases found with
    | some m => exact called m c
    | none => exact .pure

theorem env_echoes (modules : Modules σ ν) (unloading : Bool) (depth : Nat) (seat seat' : Seat) :
    (Exports.env modules unloading depth).Echoes seat seat' := by
  intro c
  cases depth with
  | zero => exact .pure
  | succ depth =>
    exact .ite .pure (callRaw_shadows (env_opens_growing modules unloading depth) c)

end Exports

namespace Env.Echoes

variable {env : Env σ ν}

theorem isCreated (m : String) :
    Shadows (Mirrors seat seat') (Env.isCreated m : Act σ ν Bool) (Env.isCreated m) := by
  refine fun w' => ⟨List.suffix_rfl, fun _ w mirrors => ⟨w, ?_, mirrors⟩⟩
  have same : (decide (m ∈ w.busy) || (w.contexts.get? (.module m)).isSome) =
      (decide (m ∈ w'.busy) || (w'.contexts.get? (.module m)).isSome) := by
    rw [Bool.eq_iff_iff]
    simpa [World.Created] using mirrors.created m
  rw [← same]
  rfl

theorem perform (echoes : env.Echoes seat seat') (m : String) (c : Command σ ν) :
    Shadows (Mirrors seat seat') (env.perform m c) (env.perform m c) := by
  match c with
  | .recall => 
    refine fun w' => ⟨List.suffix_rfl, fun _ w mirrors => ⟨w, ?_, mirrors⟩⟩
    rw [← mirrors.memory]
    rfl
  | .remember data =>
    refine fun w' => ⟨List.suffix_rfl, fun _ w mirrors => ⟨_, rfl, { mirrors with memory := ?_ }⟩⟩
    dsimp only
    rw [mirrors.memory]
  | .note n => exact .record
  | .emit level message => exact .talks Log.emit_talks
  | .install => exact .install
  | .isCreated m => exact isCreated m
  | .host t c => exact .talks (HostAccess.call_talks c)
  | .table t useBase keep c => exact .talks HostAccess.callTable_talks
  | .patch t p => exact .talks HostAccess.patch_talks
  | .call c => exact echoes c

theorem exec (echoes : env.Echoes seat seat') (m : String) (payload : ε → Payload)
    (q : Program σ ν ε α) :
    Shadows (Mirrors seat seat') (env.exec m payload q) (env.exec m payload q) := by
  induction q with
  | done a => exact .pure
  | panic e => exact .of_stops fun _ => True.intro
  | step c next ih => exact .bind (echoes.perform m c) ih

end Env.Echoes

namespace Dispatch

theorem withContext_shadows {default : α} {f f' : Context σ → Act σ ν α}
    (h : ∀ c, Shadows (Mirrors seat seat') (f c) (f' c)) :
    Shadows (Mirrors seat seat') (withContext seat default f) (withContext seat' default f') := by
  refine .bind .context? fun found => ?_
  cases found with
  | some c => exact h c
  | none => exact .pure

theorem raise_shadows (d : Defect) :
    Shadows (Mirrors seat seat') (Log.raise d : Act σ ν α) (Log.raise d) :=
  .of_stops fun w' => (Log.raise_ensures d w').mono (fun _ _ => id) fun _ _ _ => True.intro

theorem offer_shadows (maker : ObjectId) (o : Outcome σ) :
    Shadows (Mirrors seat seat') (offer maker o : Act σ ν _) (offer maker o) := by
  unfold offer
  split
  · exact .bind .freshObject fun _ => .bind .record fun _ => .pure
  · exact .pure
  · exact .pure

variable {env : Env σ ν} (echoes : env.Echoes seat seat') {c : Context σ} {site : Site}
  {i : Instance σ} {o : Offer σ} {r : Request} {parent : Option InstanceHandle}
include echoes

theorem dropInstance_shadows :
    Shadows (Mirrors seat seat') (dropInstance env site i) (dropInstance env site i) :=
  .bind .record fun _ => echoes.exec _ _ _

theorem callRoot_shadows (cb : Callback) (q : Addon σ ν → Site → Program σ ν Payload α) :
    Shadows (Mirrors seat seat') (callRoot env c cb q) (callRoot env c cb q) :=
  .bind .record fun _ => echoes.exec _ _ _

theorem Offer.drop_shadows : Shadows (Mirrors seat seat') (o.drop env site) (o.drop env site) := by
  unfold Offer.drop
  split
  · exact dropInstance_shadows echoes
  · exact .pure

theorem askRoot_shadows : Shadows (Mirrors seat seat') (askRoot env c r) (askRoot env c r) :=
  .bind (callRoot_shadows echoes _ _) fun _ => offer_shadows _ _

theorem askInstance_shadows :
    Shadows (Mirrors seat seat') (askInstance env c i r) (askInstance env c i r) :=
  .bind .record fun _ => .bind (echoes.exec _ _ _) fun _ => offer_shadows _ _

theorem askParent_shadows :
    Shadows (Mirrors seat seat') (askParent env c r parent) (askParent env c r parent) := by
  unfold askParent
  split
  · exact .pure
  · split
    · exact .map (askInstance_shadows echoes)
    · exact .bind (.talks Log.warn_talks) fun _ => .pure

theorem register_shadows :
    Shadows (Mirrors seat seat') (register env seat i) (register env seat' i) := by
  refine withContext_shadows fun c => .bind .setContext fun _ => ?_
  split
  · exact .bind (dropInstance_shadows echoes) fun _ => .pure
  · exact .pure

theorem settle_shadows :
    Shadows (Mirrors seat seat') (settle env seat site r o) (settle env seat' site r o) := by
  refine .ite ?_ ?_
  · exact .bind (.talks Log.debug_talks) fun _ => .bind (Offer.drop_shadows echoes) fun _ => .pure
  split
  · exact raise_shadows _
  · refine .ite ?_ ?_
    · exact .bind (.talks warnStamped_talks) fun _ => .bind (register_shadows echoes) fun _ => .pure
    · exact .after (raise_shadows _) (dropInstance_shadows echoes)
  · refine .bind .context? fun here => ?_
    split
    · exact raise_shadows _
    · refine .ite ?_ (raise_shadows _)
      exact .bind (.talks warnStamped_talks) fun _ => .bind .modifyContext fun _ => .pure

theorem status_shadows : Shadows (Mirrors seat seat') (status env seat) (status env seat') :=
  withContext_shadows fun _ => callRoot_shadows echoes _ _

theorem setSetting_shadows {name : String} {value : Option SettingValue} :
    Shadows (Mirrors seat seat') (setSetting env seat name value)
      (setSetting env seat' name value) :=
  withContext_shadows fun _ => callRoot_shadows echoes _ _

theorem createInstance_shadows {ty : AddonType} {id version : String} {host : HostHandle} :
    Shadows (Mirrors seat seat') (createInstance env seat ty id host version parent)
      (createInstance env seat' ty id host version parent) := by
  refine withContext_shadows fun c => .bind (.talks HostAccess.firstInstance_talks) fun first =>
    .bind (askParent_shadows echoes) fun asked => ?_
  have asksRoot (r : Request) : Shadows (Mirrors seat seat')
      (askRoot env c r >>= settle env seat c.root.site r)
      (askRoot env c r >>= settle env seat' c.root.site r) :=
    .bind (askRoot_shadows echoes) fun _ => settle_shadows echoes
  cases asked with
  | none => exact asksRoot _
  | some o => exact .ite (.after (asksRoot _) (Offer.drop_shadows echoes)) (settle_shadows echoes)

theorem destroyInstance_shadows {ty : AddonType} {handle : Option InstanceHandle} :
    Shadows (Mirrors seat seat') (destroyInstance env seat ty handle)
      (destroyInstance env seat' ty handle) := by
  refine withContext_shadows fun c => .ite .pure ?_
  dsimp only
  split
  · exact .pure
  · split
    · exact .talks Log.error_talks
    · refine .ite ?_ (raise_shadows _)
      exact .bind .setContext fun _ =>
        .after (callRoot_shadows echoes _ _) (dropInstance_shadows echoes)

/-- The same request comes to the same in both seats. -/
theorem perform_shadows (operation : Operation) :
    Shadows (Mirrors seat seat') (perform env seat operation) (perform env seat' operation) := by
  cases operation with
  | create => exact .map (withContext_shadows fun _ => callRoot_shadows echoes _ _)
  | status => exact .map (status_shadows echoes)
  | setSetting name value => exact .map (setSetting_shadows echoes)
  | createInstance ty id host version parent => exact .map (createInstance_shadows echoes)
  | destroyInstance ty handle => exact .map (destroyInstance_shadows echoes)

end Dispatch

end AddonBridge
