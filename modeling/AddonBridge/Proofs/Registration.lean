import AddonBridge.Proofs.Attachment
import AddonBridge.Proofs.Chronicle
import AddonBridge.Proofs.Installing

/-!
# Registered functions

The functions that an addon registers with its interface stay there for as long as the addon is
loaded, whatever becomes of it: a destroy does not take them back, and neither does the next create.
`run_registered` says when an operation finds its function missing, and `status_outdated` that one can
find a function which no creation registered since the last that was destroyed.
-/

namespace AddonBridge

open Act World

variable {σ ν δ : Type} {env : Env σ ν δ} {m : String} {w u v : World σ ν} {t s : TableId}
  {modules : Modules σ ν δ}

namespace World

/-- The module whose function is registered with an interface, if there is one. -/
def function? (w : World σ ν) (t : TableId) (f : AddonFunction) : Option String :=
  (w.loaded.get? t).bind (·.addonTable.function f)

def Has (w : World σ ν) (t : TableId) (f : AddonFunction) : Prop := (w.function? t f).isSome

theorem function?_congr
    (same : (u.loaded.get? t).map Loaded.core = (w.loaded.get? t).map Loaded.core)
    (f : AddonFunction) : u.function? t f = w.function? t f := by
  have cored (w : World σ ν) : w.function? t f =
      ((w.loaded.get? t).map Loaded.core).bind (·.addonTable.function f) := by
    unfold function?
    cases w.loaded.get? t <;> rfl
  rw [cored, same, ← cored]

theorem function?_modify (w : World σ ν) (s : TableId) (g : Loaded → Loaded) (t : TableId)
    (f : AddonFunction) :
    World.function? { w with loaded := w.loaded.modify s g } t f =
      if s = t then (w.loaded.get? t).bind fun l => (g l).addonTable.function f
      else w.function? t f := by
  unfold function?
  dsimp only
  rw [Assoc.get?_modify]
  split
  · cases w.loaded.get? t <;> rfl
  · rfl

theorem function?_untouched {g : Loaded → Loaded} (h : ∀ l, (g l).addonTable = l.addonTable)
    (f : AddonFunction) :
    World.function? { w with loaded := w.loaded.modify s g } t f = w.function? t f := by
  rw [function?_modify]
  split
  · unfold function?
    cases w.loaded.get? t with
    | none => rfl
    | some l => exact congrArg (·.function f) (h l)
  · rfl

/-- Something happened that can have registered functions with an interface: a root was built on it, or
a native module was asked to create its addon. -/
def Enlists (modules : Modules σ ν δ) (t : TableId) (w u : World σ ν) : Prop :=
  (∃ number, w.Shows u (.built ⟨t, number⟩)) ∨
    ∃ n s api, modules.native n ≠ none ∧ w.Shows u (.entered n (.create s api))

theorem Enlists.later (h : Enlists modules t w u) (grown : u.trace <:+ v.trace) :
    Enlists modules t w v := by
  rcases h with ⟨number, built⟩ | ⟨n, s, api, native, entered⟩
  · exact .inl ⟨number, built.later grown⟩
  · exact .inr ⟨n, s, api, native, entered.later grown⟩

theorem Enlists.earlier (grown : w.trace <:+ u.trace) (h : Enlists modules t u v) :
    Enlists modules t w v := by
  rcases h with ⟨number, built⟩ | ⟨n, s, api, native, entered⟩
  · exact .inl ⟨number, built.earlier grown⟩
  · exact .inr ⟨n, s, api, native, entered.earlier grown⟩

/-- An interface on which a context is built has every function. -/
def Served (t : TableId) (w : World σ ν) : Prop :=
  ∀ seat c, w.contexts.get? seat = some c → c.root.site.table = t → ∀ f, w.Has t f

/-- What becomes of the functions that are registered with an interface: they stay. -/
structure Retains (modules : Modules σ ν δ) (t : TableId) (w u : World σ ν) : Prop where
  trace : w.trace <:+ u.trace
  module : (u.loaded.get? t).map Loaded.module = (w.loaded.get? t).map Loaded.module
  kept : ∀ f, w.Has t f → u.Has t f
  gained : ∀ f, u.Has t f → w.Has t f ∨ Enlists modules t w u
  served : w.Served t → u.Served t

theorem Retains.trans (first : Retains modules t w u) (second : Retains modules t u v) :
    Retains modules t w v where
  trace := first.trace.trans second.trace
  module := second.module.trans first.module
  kept f has := second.kept f (first.kept f has)
  gained f has := by
    rcases second.gained f has with before | enlists
    · exact (first.gained f before).imp_right (·.later second.trace)
    · exact .inr (enlists.earlier first.trace)
  served before := second.served (first.served before)

theorem Retains.of_functions (grown : w.trace <:+ u.trace)
    (module : (u.loaded.get? t).map Loaded.module = (w.loaded.get? t).map Loaded.module)
    (same : ∀ f, u.function? t f = w.function? t f)
    (sited : w.Sited u) : Retains modules t w u where
  trace := grown
  module := module
  kept f has := by rwa [Has, same]
  gained f has := .inl (by rwa [Has, ← same])
  served before seat c here table f := by
    obtain ⟨c', earlier, site⟩ := sited seat c here
    rw [Has, same]
    exact before seat c' earlier (by rw [site, table]) f

theorem Retains.of_loaded (grown : w.trace <:+ u.trace)
    (same : u.loaded.get? t = w.loaded.get? t) (contexts : u.contexts = w.contexts) :
    Retains modules t w u :=
  .of_functions grown (by rw [same]) (fun f => by rw [function?, same, function?])
    (.same contexts)

theorem Retains.refl (w : World σ ν) : Retains modules t w w := .of_loaded List.suffix_rfl rfl rfl

theorem Retains.relinked {g : Loaded → Loaded}
    (h : ∀ l, (g l).addonTable = l.addonTable ∧ (g l).module = l.module) :
    Retains modules t w { w with loaded := w.loaded.modify s g } :=
  .of_functions List.suffix_rfl (Assoc.map_get?_modify _ s (fun l _ => (h l).2) t)
    (function?_untouched fun l => (h l).1) (.same rfl)

/-- Calls of functions leave what is registered with an interface, and do not touch what the host keeps
of its addons. -/
structure Enrols (modules : Modules σ ν δ) (t : TableId) (w u : World σ ν) : Prop
    extends Retains modules t w u where
  standing : ∀ s, (u.loaded.get? s).map Loaded.standing = (w.loaded.get? s).map Loaded.standing

theorem Enrols.trans (first : Enrols modules t w u) (second : Enrols modules t u v) :
    Enrols modules t w v :=
  ⟨first.toRetains.trans second.toRetains,
    fun s => (second.standing s).trans (first.standing s)⟩

theorem Enrols.of_sited (grown : w.trace <:+ u.trace) (loaded : u.loaded = w.loaded)
    (sited : w.Sited u) : Enrols modules t w u :=
  ⟨.of_functions grown (by rw [loaded]) (fun f => by rw [function?, loaded, function?]) sited,
    fun s => by rw [loaded]⟩

theorem Enrols.of_trace (grown : w.trace <:+ u.trace) (loaded : u.loaded = w.loaded)
    (contexts : u.contexts = w.contexts) : Enrols modules t w u :=
  .of_sited grown loaded (.same contexts)

theorem Enrols.relinked {g : Loaded → Loaded}
    (h : ∀ l, (g l).addonTable = l.addonTable ∧ (g l).standing = l.standing) :
    Enrols modules t w { w with loaded := w.loaded.modify s g } :=
  ⟨.relinked fun l => ⟨(h l).1, congrArg Prod.fst (h l).2⟩,
    Assoc.map_get?_modify _ s fun l _ => (h l).2⟩

theorem Stirs.enrols (h : w.Stirs u) : Enrols modules t w u := by
  have standing := h.wanes.loaded
  refine ⟨.of_functions h.trace ?_ (function?_congr (h.loaded t)) (.same h.contexts), standing⟩
  have module : Loaded.module = Prod.fst ∘ Loaded.standing := rfl
  rw [module, ← Option.map_map, standing, Option.map_map]

theorem Enrols.lenient : World.Lenient (Enrols modules t : World σ ν → World σ ν → Prop) where
  refl _ := .of_trace List.suffix_rfl rfl rfl
  trans _ _ _ := .trans
  stirs _ _ := Stirs.enrols
  raised _ _ := .of_trace (List.suffix_cons _ _) rfl rfl
  marked _ _ := .relinked fun _ => ⟨rfl, rfl⟩
  reseat _ _ _ _ here _ site _ := .of_sited List.suffix_rfl rfl (.reseated here site)
  released _ _ _ _ h := ⟨⟨h.trace, h.module, h.kept, h.gained, h.served⟩, h.standing⟩
  emptied w m _ := .of_sited List.suffix_rfl rfl (.erased w (.module m))
  withdrawn w m c u _ _ h := by
    have emptied : Enrols modules t w { w with contexts := w.contexts.erase (.module m) } :=
      .of_sited List.suffix_rfl rfl (.erased w (.module m))
    exact (emptied.trans h).trans (.relinked fun _ => ⟨rfl, rfl⟩)
  unbound _ := .of_trace List.suffix_rfl rfl rfl
  moved _ _ _ := .of_trace List.suffix_rfl rfl rfl

/-- Functions are registered with an interface, after something that accounts for it. -/
theorem Enrols.register {g : Loaded → Loaded} (h : Enrols modules t w u)
    (more : ∀ l f, (l.addonTable.function f).isSome → ((g l).addonTable.function f).isSome)
    (standing : ∀ l, (g l).standing = l.standing) (enlists : s = t → Enlists modules t w u) :
    Enrols modules t w { u with loaded := u.loaded.modify s g } := by
  have kept (f : AddonFunction) (has : u.Has t f) :
      World.Has { u with loaded := u.loaded.modify s g } t f := by
    rw [Has, function?_modify]
    split
    · rw [Has, function?] at has
      cases loaded : u.loaded.get? t with
      | none => simp [loaded] at has
      | some l => exact more l f (by simpa [loaded] using has)
    · exact has
  refine ⟨⟨h.trace, ?_, fun f has => kept f (h.kept f has), fun f has => ?_,
    fun before seat c here site f => kept f (h.served before seat c here site f)⟩, fun r => ?_⟩
  · have module (l : Loaded) : (g l).module = l.module := congrArg Prod.fst (standing l)
    exact (Assoc.map_get?_modify _ s (fun l _ => module l) t).trans h.module
  · by_cases same : s = t
    · exact .inr (enlists same)
    · rw [Has, function?_modify, if_neg same] at has
      exact h.gained f has
  · exact (Assoc.map_get?_modify _ s (fun l _ => standing l) r).trans (h.standing r)

/-- A slot takes a context whose interface, if it is the one in question, has every function. -/
theorem Enrols.seating {c : Context σ} (has : c.root.site.table = t → ∀ f, w.Has t f) :
    Enrols modules t (w.inUse m) (w.seating m c) where
  trace := List.suffix_cons _ _
  module := rfl
  kept _ := id
  gained _ := .inl
  standing _ := rfl
  served before seat d here site := by
    dsimp only at here
    rw [Assoc.get?_set] at here
    split at here
    · cases here
      exact has site
    · exact before seat d here site

theorem Enrols.creates (s : TableId) :
    Lenient.Creates (Enrols modules t : World σ ν → World σ ν → Prop) m s where
  registered w u shown before := by
    refine before.register (fun _ _ _ => rfl) (fun _ => rfl) ?_
    rintro rfl
    exact .inl ⟨_, shown⟩
  seated w u c mounting _ := by
    apply Enrols.seating
    intro site f
    obtain ⟨single, rfl⟩ := mounting.shape
    obtain ⟨l, loaded, functions⟩ := mounting.enrolled
    subst site
    rw [Has, function?, loaded]
    simp [functions, AddonTable.full]
  published _ _ _ _ before := before.trans (.relinked fun _ => ⟨rfl, rfl⟩)

end World

variable [Panics δ]

namespace Exports

/-- What a native module publishes it publishes while it is asked to create its addon. -/
theorem callNative_create_enrols (within : env.Within (Enrols env.modules t) {}) {n : NativeAddon σ ν}
    (native : env.modules.native m = some n) {table : Option TableId} {api : Option CString}
    (w : World σ ν) :
    Ensures (callNative env m n (.create table api)) (w.entered m (.create table api))
      (fun _ u => Enrols env.modules t w u) fun e u => e ≠ .aborted → Enrols env.modules t w u := by
  have ran {β : Type} (q : Program σ ν Empty β) (u : World σ ν) (before : Enrols env.modules t w u) :
      Ensures (env.quietly m q) u (fun _ v => u.trace <:+ v.trace ∧ Enrols env.modules t w v)
        fun e v => e ≠ .aborted → Enrols env.modules t w v := by
    have permits := Enrols.lenient.permits within
    have ran := Env.quietly_obeys permits.toKeeps m (Program.all_true q) u
    exact ran.mono (fun _ _ ended => ⟨ended.returned.trace, before.trans ended.returned⟩)
      fun _ _ stopped going => before.trans (stopped.stopped going)
  have mark : w.Shows (w.entered m (.create table api)) (.entered m (.create table api)) :=
    ⟨[_], rfl, List.mem_singleton.mpr rfl⟩
  have entered : Enrols env.modules t w (w.entered m (.create table api)) :=
    .of_trace (List.suffix_cons _ _) rfl rfl
  rw [callNative, ensures_bind]
  refine (ran (n.create table api) _ entered).mono (fun published u ended => ?_) fun _ _ => id
  obtain ⟨grown, before⟩ := ended
  cases published with
  | inl raw => exact before
  | inr published =>
    rw [ensures_bind, publishNative, ensures_modifyLoaded, ensures_bind]
    refine (ran _ _ ?_).mono (fun _ _ => And.right) fun _ _ => id
    refine before.register (fun l f registered => ?_) (fun _ => rfl) fun _ =>
      .inr ⟨m, table, api, by simp [native], mark.later grown⟩
    dsimp only
    split
    · rw [AddonTable.register]
      dsimp only
      split
      · rfl
      · exact registered
    · exact registered

theorem call_enrols (within : env.Within (Enrols env.modules t) {}) (spares : env.Spares)
    (m : String) (c : EntryCall) :
    Obeys (Change.unlessAborted (Enrols env.modules t)) (call env m c) := by
  refine Enrols.lenient.call_obeys within fun table api _ => ?_
  cases native : env.modules.native m with
  | some n =>
    intro w
    rw [call, ensures_bind, ensures_record, native]
    exact (callNative_create_enrols within native w).mono (fun _ _ ended _ => ended)
      fun _ _ stopped going => stopped (by simpa using going)
  | none =>
    exact Enrols.lenient.create_keeps within spares (fun _ _ => .of_trace List.suffix_rfl rfl rfl)
      native fun s _ => Enrols.creates s

theorem env_enrols (modules : Modules σ ν δ) (unloading : Bool) (depth : Nat) (t : TableId) :
    (Exports.env modules unloading depth).Within
      (Enrols (Exports.env modules unloading depth).modules t) {} := by
  rw [env_modules]
  refine Enrols.lenient.env_within (fun depth within m table api => ?_) depth
  have within : (Exports.env modules unloading depth).Within
      (Enrols (Exports.env modules unloading depth).modules t) {} := by rwa [env_modules]
  have called := call_enrols within (env_spares modules unloading depth) m (.create table api)
  rwa [env_modules] at called

end Exports

/-! ### Operations of a host -/

namespace LoadedAddon

/-- The function of the addon that an operation calls, if it calls one through the interface. -/
def Operation.function? : Operation → Option AddonFunction
  | .status => some .getStatus
  | .setSetting .. => some .setSetting
  | .createInstance .. => some .createInstance
  | .destroyInstance .. => some .destroyInstance
  | .create _ | .setFirstInstance _ | .destroy | .drop => none

variable {l : Loaded} {operation : Operation} {f : AddonFunction}

theorem perform_missing (created : l.isCreated) (calls : operation.function? = some f)
    (absent : l.addonTable.function f = none) :
    perform env t l operation w = .ok (.error (.missingAddonFunction f.name)) w := by
  have missing : registered l f = .error (.missingAddonFunction f.name) := by
    simp [registered, created, absent]
  cases operation <;> cases calls
  · rw [perform, status, missing]; rfl
  · rw [perform, setSetting, missing]; rfl
  · rw [perform, createInstance, missing]; rfl
  · rw [perform, destroyInstance, missing]; rfl

theorem encoded_cases (text : String) :
    (∃ c, encoded text = .ok c) ∨ encoded text = .error .nulString := by
  unfold encoded
  split
  · next c _ => exact .inl ⟨c, rfl⟩
  · exact .inr rfl

theorem send_shows (spares : env.Spares) (m : String) (entry : EntryCall) (w : World σ ν) :
    Ensures (send env (.ok (m, entry))) w
      (fun answer u => (∃ a, answer = .ok a) ∧ w.Shows u (.entered m entry))
      fun e _ => e = .aborted := by
  rw [send, ensures_bind]
  exact (Exports.call_shows spares m entry w).mono (fun a _ ended => ⟨⟨a, rfl⟩, ended.2⟩)
    fun _ _ => id

/-- An operation whose function is registered calls it, unless a text cannot cross the boundary. -/
theorem perform_registered (spares : env.Spares) (created : l.isCreated)
    (calls : operation.function? = some f) (present : l.addonTable.function f = some m) :
    Ensures (perform env t l operation) w
      (fun r u => r ≠ .error (.missingAddonFunction f.name) ∧
        (r = .error .nulString ∨
          ∃ entry, entry.registeredAs? = some f ∧ w.Shows u (.entered m entry)))
      fun e _ => e = .aborted := by
  have found : registered l f = .ok m := by simp [registered, created, present]
  have sent {β : Type} (entry : EntryCall) (same : entry.registeredAs? = some f)
      (read : CallAnswer → β) (tell : β → Result) :
      Ensures (send env (.ok (m, entry))) w
        (fun answer u => (answer.map read).map tell ≠ .error (.missingAddonFunction f.name) ∧
          ((answer.map read).map tell = .error .nulString ∨
            ∃ entry, entry.registeredAs? = some f ∧ w.Shows u (.entered m entry)))
        fun e _ => e = .aborted := by
    refine (send_shows spares m entry w).mono (fun answer u ended => ?_) fun _ _ => id
    obtain ⟨⟨a, rfl⟩, shown⟩ := ended
    exact ⟨by simp [Except.map], .inr ⟨entry, same, shown⟩⟩
  cases operation with
  | status =>
    cases calls
    rw [perform, status, found, ensures_bind, ensures_bind]
    exact sent .status rfl statusOf .status
  | setSetting name value =>
    cases calls
    rw [perform, setSetting, found, ensures_bind, ensures_bind]
    rcases encoded_cases name with ⟨name, crossed⟩ | refused
    · rw [crossed]
      exact sent (.setSetting (some name) (some value.stored)) rfl statusOf .status
    · rw [refused]
      exact ⟨by simp [Except.map], .inl rfl⟩
  | createInstance ty name host version parent =>
    cases calls
    rw [perform, createInstance, found, ensures_bind, ensures_bind]
    rcases encoded_cases name with ⟨name, crossed⟩ | refused
    · rcases encoded_cases version with ⟨version, crossed'⟩ | refused
      · rw [crossed, crossed']
        exact sent (.createInstance ty (some name) host (some version) (some 0)
          (InstanceHandle.toRaw parent)) rfl (fun a => (statusOf a, handleOf a))
          fun answer => .instance answer.1 answer.2
      · rw [crossed, refused]
        exact ⟨by simp [Except.map], .inl rfl⟩
    · rw [refused]
      exact ⟨by simp [Except.map], .inl rfl⟩
  | destroyInstance ty handle =>
    cases calls
    rw [perform, destroyInstance, found, ensures_bind, ensures_bind]
    exact sent (.destroyInstance ty handle.raw) rfl (fun _ => ()) fun _ => .done
  | _ => contradiction

/-- What moves leave of the functions that are registered with the interface of a loaded addon. -/
abbrev Retaining (modules : Modules σ ν δ) (t : TableId) : Change σ ν :=
  Change.unlessAborted fun w u => (w.loaded.get? t).isSome → Retains modules t w u

omit [Panics δ] in
theorem Retaining.law : Law (Retaining modules t : Change σ ν) := by
  refine .of_preorder (fun w _ => .refl w) fun w u v first second loaded => ?_
  have before := first loaded
  have here : (u.loaded.get? t).isSome := by
    rw [← Option.isSome_map, before.module, Option.isSome_map]
    exact loaded
  exact before.trans (second here)

omit [Panics δ] in
theorem Relinks.retaining {move : Move} (kept : move ≠ .operate t .drop) :
    Relinks (Retaining modules t : Change σ ν) move where
  loads w s l free _ loaded := by
    have apart : s ≠ t := by
      rintro rfl
      simp [free] at loaded
    have other : (w.loaded.set s l).get? t = w.loaded.get? t := by
      rw [Assoc.get?_set, if_neg apart]
    exact .of_loaded List.suffix_rfl other rfl
  creates _ _ _ _ := .relinked fun _ => ⟨rfl, rfl⟩
  destroys _ _ _ _ _ := .relinked fun _ => ⟨rfl, rfl⟩
  drops w s dropped _ _ := by
    have apart : s ≠ t := by
      rintro rfl
      exact kept dropped
    have other : (w.loaded.erase s).get? t = w.loaded.get? t := by
      rw [Assoc.get?_erase, if_neg apart]
    exact .of_loaded List.suffix_rfl other rfl
  shares _ _ _ _ _ := .relinked fun _ => ⟨rfl, rfl⟩

theorem run_retains (within : env.Within (Enrols env.modules t) {}) (spares : env.Spares)
    {moves : List Move} (kept : .operate t .drop ∉ moves) :
    Obeys (Retaining env.modules t) (run env moves) := by
  refine run_obeys Retaining.law fun move member => step_obeys Retaining.law (fun m c => ?_)
    (.retaining ?_)
  · exact (Exports.call_enrols within spares m c).mono fun _ _ _ enrolled going _ =>
      (enrolled going).toRetains
  · rintro rfl
    exact kept member

/-- Whatever a host does with its addons and whatever they call, functions that are registered with an
interface stay registered until its addon is dropped, through every destroy and every create. They
come from building a root on it or from a native module that is asked to create its addon, and while a
context is built on it, it has them all. An operation on the created addon finds its function missing
if the interface does not have it, and then does nothing; otherwise it calls the function of the module
that registered it, be it for a creation that is over. -/
theorem run_registered (modules : Modules σ ν δ) (unloading : Bool) (depth : Nat) (t : TableId)
    (w : World σ ν) (l : Loaded) (loaded : w.loaded.get? t = some l) (moves : List Move)
    (kept : .operate t .drop ∉ moves) :
    Ensures (run (Exports.env modules unloading depth) moves) w
      (fun _ u => ∃ l', u.loaded.get? t = some l' ∧ l'.module = l.module ∧
        (∀ f, w.Has t f → u.Has t f) ∧
        (∀ f, u.Has t f → w.Has t f ∨ Enlists modules t w u) ∧
        (w.Served t → u.Served t) ∧
        (l'.isCreated → ∀ operation f, operation.function? = some f →
          (u.function? t f = none →
            perform (Exports.env modules unloading depth) t l' operation u =
              .ok (.error (.missingAddonFunction f.name)) u) ∧
          ∀ m, u.function? t f = some m →
            Ensures (perform (Exports.env modules unloading depth) t l' operation) u
              (fun r v => r ≠ .error (.missingAddonFunction f.name) ∧
                (r = .error .nulString ∨
                  ∃ entry, entry.registeredAs? = some f ∧ u.Shows v (.entered m entry)))
              fun stop _ => stop = .aborted))
      fun stop _ => stop = .aborted := by
  have spares := Exports.env_spares modules unloading depth
  have within := Exports.env_enrols modules unloading depth t
  refine (((run_retains within spares kept).ensures (run_quiet spares.quiet moves)) w).mono
    (fun _ u retains => ?_) fun _ _ => id
  have retains := retains (by simp [loaded])
  rw [Exports.env_modules] at retains
  have module := retains.module
  rw [loaded] at module
  obtain ⟨l', here, same⟩ := Option.map_eq_some_iff.mp module
  have function (f : AddonFunction) : u.function? t f = l'.addonTable.function f := by
    rw [function?, here]
    rfl
  refine ⟨l', here, same, retains.kept, retains.gained, retains.served,
    fun created operation f calls => ⟨fun absent => ?_, fun m present => ?_⟩⟩
  · exact perform_missing created calls (by rw [← function, absent])
  · exact perform_registered spares created calls (by rw [← function, present])

/-- A create and a destroy later, every function is still registered. -/
theorem run_registered_once :
    let blank : Loaded := { module := "once", libPath := .empty, host := {}, hostTable := none }
    let w : World Bool Unit := { memory := fun _ => false, loaded := [(⟨0, 0⟩, blank)] }
    let moves : List Move := [.operate ⟨0, 0⟩ (.create "1.0"), .operate ⟨0, 0⟩ .destroy]
    w.loaded.get? ⟨0, 0⟩ = some blank ∧ .operate ⟨0, 0⟩ .drop ∉ moves ∧
    ∃ u, run (Exports.env Modules.once false 2) moves w = .ok () u ∧
      (∀ f, u.Has ⟨0, 0⟩ f) ∧ ∀ f, w.Has ⟨0, 0⟩ f ∨ Enlists Modules.once ⟨0, 0⟩ w u := by
  intro blank w moves
  have kept : Move.operate ⟨0, 0⟩ .drop ∉ moves := by simp [moves]
  refine ⟨rfl, kept, ?_⟩
  have registered := run_registered Modules.once false 2 ⟨0, 0⟩ w blank rfl moves kept
  obtain ⟨u, ended, has⟩ : ∃ u, run (Exports.env Modules.once false 2) moves w = .ok () u ∧
      ∀ f, u.Has ⟨0, 0⟩ f := ⟨_, rfl, fun _ => rfl⟩
  obtain ⟨-, -, -, -, gained, -⟩ := (ensures_ok ended).mp registered
  exact ⟨u, ended, has, fun f => gained f (has f)⟩

/-- After a destroy and a create that fails before anything is registered, the status is not missing:
the function that the first creation registered is called. -/
theorem status_outdated :
    let env := Exports.env Modules.once false 2
    let t : TableId := ⟨0, 0⟩
    ∃ w u v l, run env [.load t "once" {} "once.so", .operate t (.create "1.0"),
        .operate t .destroy] { memory := fun _ => false } = .ok () w ∧
      run env [.operate t (.create "1.0")] w = .ok () u ∧ ¬Enlists Modules.once t w u ∧
      u.loaded.get? t = some l ∧ l.isCreated ∧
      perform env t l .status u = .ok (.ok (.status .unknown)) v ∧
      u.Shows v (.entered "once" .status) := by
  have answer {r : Except HostError Result} (h : r.toOption = some (.status .unknown)) :
      r = .ok (.status .unknown) := by
    cases r with
    | error e => contradiction
    | ok a => exact congrArg _ (Option.some.inj h)
  have ends : endsWith (run (Exports.env Modules.once false 2)
      [.load ⟨0, 0⟩ "once" {} "once.so", .operate ⟨0, 0⟩ (.create "1.0"), .operate ⟨0, 0⟩ .destroy])
      { memory := fun _ => false } (fun _ w => (w.loaded.get? ⟨0, 0⟩).isSome &&
        endsWith (run (Exports.env Modules.once false 2) [.operate ⟨0, 0⟩ (.create "1.0")]) w
          fun _ u => ((w.since u).all fun e => e.born?.isNone) &&
            (u.loaded.get? ⟨0, 0⟩).any fun l => l.isCreated &&
              endsWith (perform (Exports.env Modules.once false 2) ⟨0, 0⟩ l .status) u
                fun r v => r.toOption = some (.status .unknown) &&
                  (u.since v).any fun e => e.entered? = some ("once", .status)) := by
    decide +kernel
  obtain ⟨_, w, ran, read⟩ := exists_ended ends
  obtain ⟨loaded, ends⟩ := Bool.and_eq_true_iff.mp read
  obtain ⟨_, u, again, read⟩ := exists_ended ends
  obtain ⟨unbuilt, read⟩ := Bool.and_eq_true_iff.mp read
  obtain ⟨l, here, read⟩ := (Option.any_eq_true _ _).mp read
  obtain ⟨created, ends⟩ := Bool.and_eq_true_iff.mp read
  obtain ⟨r, v, answered, read⟩ := exists_ended ends
  obtain ⟨unknown, told⟩ := Bool.and_eq_true_iff.mp read
  have spares := Exports.env_spares Modules.once false 2
  have between : w.trace <:+ u.trace := by
    have within := Exports.env_enrols Modules.once false 2 ⟨0, 0⟩
    have retained := (ensures_ok again).mp (run_retains within spares (by simp) w)
    exact (retained.returned loaded).trace
  have after : u.trace <:+ v.trace := by
    have spared : Obeys (Sparing none)
        (perform (Exports.env Modules.once false 2) ⟨0, 0⟩ l .status) :=
      perform_obeys spares.opens.serves
        (fun _ _ _ => ⟨rfl, rfl, List.suffix_rfl, fun _ _ _ => rfl⟩) True.intro
    exact ((ensures_ok answered).mp (spared u)).returned.trace
  have unknown := answer (of_decide_eq_true unknown)
  refine ⟨w, u, v, l, ran, again, ?_, here, created, unknown ▸ answered, ?_⟩
  · rintro (⟨number, built⟩ | ⟨n, s, api, native, -⟩)
    · exact absurd (List.all_eq_true.mp unbuilt _ ((Shows.iff_since between).mp built))
        Bool.false_ne_true
    · exact native rfl
  · obtain ⟨e, member, same⟩ := List.any_eq_true.mp told
    have entered := Event.entered?_eq_some_iff.mp (of_decide_eq_true same)
    exact (Shows.iff_since after).mpr (entered ▸ member)

end LoadedAddon

end AddonBridge
