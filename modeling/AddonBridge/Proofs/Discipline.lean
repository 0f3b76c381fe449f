import AddonBridge.Proofs.Registration
import AddonBridge.Proofs.Texts

/-!
# The discipline of a loaded addon

An operation on a loaded addon fails exactly if there is one of the reasons in `Refuses`, and then
nothing happened. Otherwise it does not call the addon at all, or makes the one call that it is for,
and gives what that call told. `history_disciplined` says so of every state that a host's doings
lead to, and that the creates and destroys among its calls take turns.
-/

namespace AddonBridge

open Act World

variable {σ ν δ : Type} [Panics δ] {env : Env σ ν δ} {w u v : World σ ν} {t : TableId}

/-! ### The first event of a call -/

/-- The first thing that happened between two worlds. -/
def World.first? (w u : World σ ν) : Option (Event ν) := u.trace.reverse[w.trace.length]?

theorem World.first?_of_trace {es : List (Event ν)} {e : Event ν}
    (after : u.trace = es ++ e :: w.trace) : w.first? u = some e := by
  simp [first?, after]

theorem World.first?_same (same : u.trace = w.trace) : w.first? u = none := by
  simp [first?, same]

/-- What a call of a function can give back. -/
inductive EntryCall.Fits : EntryCall → CallAnswer → Prop where
  | create {table api} (raw : Int32) : Fits (.create table api) (.status raw)
  | destroy : Fits .destroy .done
  | status (raw : Int32) : Fits .status (.status raw)
  | setSetting {name value} (raw : Int32) : Fits (.setSetting name value) (.status raw)
  | createInstance {ty id host version out parent} (raw : Int32) (handle : Option UInt64) :
      Fits (.createInstance ty id host version out parent) (.created raw handle)
  | destroyInstance {ty handle} : Fits (.destroyInstance ty handle) .done
  | typeVersion {ty} (s : Option CString) : Fits (.typeVersion ty) (.text s)
  | minVersion {ty} (s : Option CString) : Fits (.minVersion ty) (.text s)

namespace Exports

theorem callAddon_fits (m : String) (c : EntryCall) (w : World σ ν) :
    Ensures (callAddon env m c) w (fun a _ => c.Fits a) fun _ _ => True := by
  have after {α : Type} {act : Act σ ν α} {f : α → CallAnswer} (fits : ∀ a, c.Fits (f a)) :
      Ensures (act >>= fun a => pure (f a)) w (fun a _ => c.Fits a) fun _ _ => True := by
    rw [ensures_bind]
    exact (Ensures.trivial act).mono (fun a _ _ => fits a) fun _ _ => id
  cases c with
  | create table api => exact after fun s => .create s.toRaw
  | destroy => exact after fun _ => .destroy
  | status => exact after fun s => .status s.toRaw
  | setSetting name value => exact after fun s => .setSetting s.toRaw
  | createInstance ty id host version out parent =>
    exact after fun answer : Status × Option UInt64 => .createInstance answer.1.toRaw answer.2
  | destroyInstance ty handle => exact after fun _ => .destroyInstance
  | typeVersion ty => exact .typeVersion _
  | minVersion ty => exact .minVersion _

omit [Panics δ] in
theorem callNative_fits (m : String) (n : NativeAddon σ ν) (c : EntryCall) (w : World σ ν) :
    Ensures (callNative env m n c) w (fun a _ => c.Fits a) fun _ _ => True := by
  have after {α : Type} {act : Act σ ν α} {f : α → CallAnswer} (fits : ∀ a, c.Fits (f a))
      (w : World σ ν) :
      Ensures (act >>= fun a => pure (f a)) w (fun a _ => c.Fits a) fun _ _ => True := by
    rw [ensures_bind]
    exact (Ensures.trivial act).mono (fun a _ _ => fits a) fun _ _ => id
  cases c with
  | create table api =>
    rw [callNative, ensures_bind]
    refine (Ensures.trivial _).mono (fun published u _ => ?_) fun _ _ => id
    cases published with
    | inl raw => exact .create raw
    | inr published =>
      rw [ensures_bind]
      exact (Ensures.trivial _).mono (fun _ v _ => after .create v) fun _ _ => id
  | destroy => exact after (fun _ => .destroy) w
  | status => exact after .status w
  | setSetting name value => exact after .setSetting w
  | createInstance ty id host version out parent =>
    exact after (fun answer : Int32 × UInt64 =>
      .createInstance answer.1 (out.map fun _ => answer.2)) w
  | destroyInstance ty handle => exact after (fun _ => .destroyInstance) w
  | typeVersion ty => exact .typeVersion _
  | minVersion ty => exact .minVersion _

/-- A call first leaves its mark, and what it gives back fits it. -/
theorem call_opens (spares : env.Spares) (m : String) (c : EntryCall) (w : World σ ν) :
    Ensures (call env m c) w
      (fun a u => c.Fits a ∧ ∃ es, u.trace = es ++ .entered m c :: w.trace)
      fun e _ => e = .aborted := by
  have reached := (reached_obeys spares.opens.serves m (c := c) fun _ _ _ => True.intro)
    (w.entered m c)
  refine (call_quiet spares.quiet m c).ensures (E := fun _ _ => True) ?_
  rw [call, ensures_bind, ensures_record]
  refine (Ensures.and (Q := fun a _ => c.Fits a) (E := fun _ _ => True) ?_ reached).mono
    (fun a u ended => ⟨ended.1, ?_⟩) fun _ _ _ => True.intro
  · split
    · exact callNative_fits m _ c _
    · exact callAddon_fits m c _
  · obtain ⟨es, after⟩ := ended.2.returned.trace
    exact ⟨es, after.symm⟩

end Exports

namespace LoadedAddon

/-! ### Refusals and calls -/

/-- The texts that an operation sends to the addon. -/
def Operation.texts : Operation → List String
  | .setSetting name _ => [name]
  | .createInstance _ id _ version _ => [id, version]
  | _ => []

/-- Why an operation on an addon fails. -/
inductive Refuses (l : Loaded) : Operation → HostError → Prop where
  | alreadyCreated {api} (created : l.isCreated) : Refuses l (.create api) .alreadyCreated
  | nulVersion {api} (fresh : l.isCreated = false) (nul : '\x00' ∈ api.toList) :
      Refuses l (.create api) .nulString
  | notCreated {operation f} (calls : operation.function? = some f) (fresh : l.isCreated = false) :
      Refuses l operation .notCreated
  | missing {operation f} (calls : operation.function? = some f) (created : l.isCreated)
      (absent : l.addonTable.function f = none) :
      Refuses l operation (.missingAddonFunction f.name)
  | nulText {operation f text} (calls : operation.function? = some f) (created : l.isCreated)
      (present : (l.addonTable.function f).isSome) (sent : text ∈ operation.texts)
      (nul : '\x00' ∈ text.toList) : Refuses l operation .nulString

/-- The call that an operation makes, and the module that it goes to. -/
inductive Operation.Calls (t : TableId) (l : Loaded) : Operation → String → EntryCall → Prop where
  | create {text api} (fresh : l.isCreated = false) (crossed : CString.ofText? text = some api) :
      Calls t l (.create text) l.module (.create (some t) (some api))
  | status {m} (created : l.isCreated) (present : l.addonTable.function .getStatus = some m) :
      Calls t l .status m .status
  | setSetting {text name value m} (created : l.isCreated)
      (present : l.addonTable.function .setSetting = some m)
      (crossed : CString.ofText? text = some name) :
      Calls t l (.setSetting text value) m (.setSetting (some name) (some value.stored))
  | createInstance {ty text id host text' version parent m} (created : l.isCreated)
      (present : l.addonTable.function .createInstance = some m)
      (crossed : CString.ofText? text = some id) (crossed' : CString.ofText? text' = some version) :
      Calls t l (.createInstance ty text host text' parent) m
        (.createInstance ty (some id) host (some version) (some 0) (InstanceHandle.toRaw parent))
  | destroyInstance {ty handle m} (created : l.isCreated)
      (present : l.addonTable.function .destroyInstance = some m) :
      Calls t l (.destroyInstance ty handle) m (.destroyInstance ty handle.raw)
  | destroy (created : l.isCreated) : Calls t l .destroy l.module .destroy
  | drop (created : l.isCreated) : Calls t l .drop l.module .destroy

/-- The status that a number stands for. -/
def Reads (raw : Int32) (s : Status) : Prop :=
  (0 ≤ raw ∧ raw ≤ 6 → s.toRaw = raw) ∧ (¬(0 ≤ raw ∧ raw ≤ 6) → s = .unknown)

/-- What an operation gives, if its call gives an answer. -/
inductive Operation.Tells : Operation → CallAnswer → Result → Prop where
  | create {api raw s} (reads : Reads raw s) : Tells (.create api) (.status raw) (.status s)
  | status {raw s} (reads : Reads raw s) : Tells .status (.status raw) (.status s)
  | setSetting {name value raw s} (reads : Reads raw s) :
      Tells (.setSetting name value) (.status raw) (.status s)
  | createInstance {ty id host version parent raw out s} (reads : Reads raw s) :
      Tells (.createInstance ty id host version parent) (.created raw out)
        (.instance s (out.bind InstanceHandle.ofRaw?))
  | destroyInstance {ty handle} : Tells (.destroyInstance ty handle) .done .done
  | destroy : Tells .destroy .done .done
  | drop : Tells .drop .done .done

/-- The world in which an operation makes its call. -/
def Operation.before (t : TableId) (w : World σ ν) : Operation → World σ ν
  | .create _ => { w with loaded := w.loaded.modify t fun l => { l with isCreated := true } }
  | .destroy | .drop =>
    { w with loaded := w.loaded.modify t fun l => { l with isCreated := false } }
  | _ => w

/-- What an operation leaves, if its call leaves a world. -/
def Operation.after (t : TableId) (w : World σ ν) : Operation → World σ ν
  | .drop => { w with loaded := w.loaded.erase t }
  | _ => w

/-- What an operation leaves that makes no call. -/
def Operation.alone (t : TableId) (w : World σ ν) : Operation → World σ ν
  | .setFirstInstance host =>
    { w with loaded := w.loaded.modify t fun l => { l with firstInstance := host } }
  | operation => operation.after t w

theorem Operation.alone_trace (t : TableId) (w : World σ ν) (operation : Operation) :
    (operation.alone t w).trace = w.trace := by
  cases operation <;> rfl

def Operation.result : Operation → CallAnswer → Result
  | .create _, a | .status, a | .setSetting .., a => .status (statusOf a)
  | .createInstance .., a => .instance (statusOf a) (handleOf a)
  | _, _ => .done

theorem exists_toRaw {raw : Int32} (low : 0 ≤ raw) (high : raw ≤ 6) :
    ∃ s : Status, s.toRaw = raw := by
  have known : raw.toInt = 0 ∨ raw.toInt = 1 ∨ raw.toInt = 2 ∨ raw.toInt = 3 ∨ raw.toInt = 4 ∨
      raw.toInt = 5 ∨ raw.toInt = 6 := by
    have low := Int32.le_iff_toInt_le.mp low
    have high := Int32.le_iff_toInt_le.mp high
    simp at low high
    omega
  have number {s : Status} (same : raw.toInt = s.toRaw.toInt) : ∃ s : Status, s.toRaw = raw :=
    ⟨s, (Int32.toInt_inj.mp same).symm⟩
  rcases known with zero | one | two | three | four | five | six
  · exact number (s := .ok) zero
  · exact number (s := .lostConnection) one
  · exact number (s := .needRestart) two
  · exact number (s := .needSettings) three
  · exact number (s := .unknown) four
  · exact number (s := .permanentFailure) five
  · exact number (s := .notImplemented) six

theorem reads_ofRaw (raw : Int32) : Reads raw (Status.ofRaw raw) := by
  refine ⟨fun known => ?_, fun unknown => ?_⟩
  · obtain ⟨s, rfl⟩ := exists_toRaw known.1 known.2
    rw [Status.ofRaw_toRaw]
  · unfold Status.ofRaw Status.ofRaw?
    rw [List.find?_eq_none.mpr]
    · rfl
    · intro s _ same
      obtain rfl := of_decide_eq_true same
      exact unknown (by cases s <;> decide)

variable {l : Loaded} {operation : Operation} {e e' : HostError} {m : String} {c : EntryCall}

theorem Refuses.unique (h : Refuses l operation e) (h' : Refuses l operation e') : e = e' := by
  cases h <;> cases h' <;> simp_all [Operation.function?]

theorem nul_not_mem {text : String} {s : CString} (crossed : CString.ofText? text = some s) :
    '\x00' ∉ text.toList := by
  intro nul
  rw [CString.ofText?_of_nul nul] at crossed
  contradiction

theorem nul_mem {text : String} (stopped : encoded text = .error e) :
    e = .nulString ∧ '\x00' ∈ text.toList := by
  unfold encoded at stopped
  split at stopped
  · contradiction
  · next stuck =>
    cases stopped
    refine ⟨rfl, Classical.byContradiction fun clean => ?_⟩
    obtain ⟨s, crossed⟩ := CString.exists_ofText? clean
    simp [stuck] at crossed

theorem ofText?_of_encoded {text : String} {s : CString} (crossed : encoded text = .ok s) :
    CString.ofText? text = some s := by
  unfold encoded at crossed
  split at crossed
  · next found =>
    cases crossed
    exact found
  · contradiction

theorem Operation.Calls.accepted (calls : operation.Calls t l m c) : ¬Refuses l operation e := by
  intro refused
  cases calls with
  | create fresh crossed => cases refused <;> simp_all [function?, nul_not_mem crossed]
  | createInstance created present crossed crossed' =>
    cases refused <;> simp_all [function?, texts]
    next nul _ sent =>
      rcases sent with rfl | rfl
      · exact nul_not_mem crossed nul
      · exact nul_not_mem crossed' nul
  | setSetting created present crossed =>
    cases refused <;> simp_all [function?, texts, nul_not_mem crossed]
  | _ => cases refused <;> simp_all [function?, texts]

theorem registered_ok {f : AddonFunction} (found : registered l f = .ok m) :
    l.isCreated ∧ l.addonTable.function f = some m := by
  unfold registered at found
  split at found
  · next created =>
    split at found
    · next present =>
      cases found
      exact ⟨created, present⟩
    · contradiction
  · contradiction

theorem registered_error {f : AddonFunction} (calls : operation.function? = some f)
    (stopped : registered l f = .error e) : Refuses l operation e := by
  unfold registered at stopped
  split at stopped
  · next created =>
    split at stopped
    · contradiction
    · next absent =>
      cases stopped
      exact .missing calls created absent
  · next fresh =>
    cases stopped
    exact .notCreated calls (by simpa using fresh)

/-- An operation that calls a registered function is refused, or makes its call. -/
theorem perform_sends {f : AddonFunction} {Q : Except HostError Result → World σ ν → Prop}
    {E : Stop → World σ ν → Prop} (calls : operation.function? = some f)
    (refused : ∀ e, Refuses l operation e → Q (.error e) w)
    (called : ∀ m c, operation.Calls t l m c →
      Ensures (Exports.call env m c) (operation.before t w)
        (fun a u => Q (.ok (operation.result a)) (operation.after t u)) E) :
    Ensures (perform env t l operation) w Q E := by
  have answered {β : Type} {m : String} {c : EntryCall} {read : CallAnswer → β} {tell : β → Result}
      (called : Ensures (Exports.call env m c) w (fun a u => Q (.ok (tell (read a))) u) E) :
      Ensures (send env (.ok (m, c))) w (fun r u => Q ((r.map read).map tell) u) E := by
    rw [send, ensures_bind]
    exact called
  cases operation with
  | create | setFirstInstance | destroy | drop => cases calls
  | status =>
    rw [perform, status, ensures_bind, ensures_bind]
    cases found : registered l .getStatus with
    | error e => exact refused e (registered_error rfl found)
    | ok m =>
      obtain ⟨created, present⟩ := registered_ok found
      exact answered (called _ _ (.status created present))
  | setSetting text value =>
    rw [perform, setSetting, ensures_bind, ensures_bind]
    cases found : registered l .setSetting with
    | error e => exact refused e (registered_error rfl found)
    | ok m =>
      obtain ⟨created, present⟩ := registered_ok found
      cases crossed : encoded text with
      | error e =>
        obtain ⟨rfl, nul⟩ := nul_mem crossed
        exact refused _ (.nulText rfl created (by simp [present]) (List.mem_singleton.mpr rfl) nul)
      | ok name =>
        exact answered (called _ _ (.setSetting created present (ofText?_of_encoded crossed)))
  | createInstance ty text host text' parent =>
    rw [perform, createInstance, ensures_bind, ensures_bind]
    cases found : registered l .createInstance with
    | error e => exact refused e (registered_error rfl found)
    | ok m =>
      obtain ⟨created, present⟩ := registered_ok found
      have nulText {t : String} (sent : t ∈ [text, text']) (nul : '\x00' ∈ t.toList) :
          Refuses l (.createInstance ty text host text' parent) .nulString :=
        .nulText rfl created (by simp [present]) sent nul
      cases crossed : encoded text with
      | error e =>
        obtain ⟨rfl, nul⟩ := nul_mem crossed
        exact refused _ (nulText List.mem_cons_self nul)
      | ok id =>
        cases crossed' : encoded text' with
        | error e =>
          obtain ⟨rfl, nul⟩ := nul_mem crossed'
          exact refused _ (nulText (List.mem_cons_of_mem _ (List.mem_singleton.mpr rfl)) nul)
        | ok version =>
          exact answered (called _ _ (.createInstance created present
            (ofText?_of_encoded crossed) (ofText?_of_encoded crossed')))
  | destroyInstance ty handle =>
    rw [perform, destroyInstance, ensures_bind, ensures_bind]
    cases found : registered l .destroyInstance with
    | error e => exact refused e (registered_error rfl found)
    | ok m =>
      obtain ⟨created, present⟩ := registered_ok found
      exact answered (called _ _ (.destroyInstance created present))

/-- An operation is refused, or makes no call, or makes its call. -/
theorem perform_exits {Q : Except HostError Result → World σ ν → Prop} {E : Stop → World σ ν → Prop}
    (refused : ∀ e, Refuses l operation e → Q (.error e) w)
    (uncalled : (∀ m c, ¬operation.Calls t l m c) → (∀ e, ¬Refuses l operation e) →
      Q (.ok .done) (operation.alone t w))
    (called : ∀ m c, operation.Calls t l m c →
      Ensures (Exports.call env m c) (operation.before t w)
        (fun a u => Q (.ok (operation.result a)) (operation.after t u)) E) :
    Ensures (perform env t l operation) w Q E := by
  cases operation with
  | create api =>
    rw [perform, ensures_bind, create, ensures_ite]
    refine ⟨fun created => refused _ (.alreadyCreated created), fun fresh => ?_⟩
    have fresh : l.isCreated = false := by simpa using fresh
    cases crossed : CString.ofText? api with
    | none =>
      refine refused _ (.nulVersion fresh (Classical.byContradiction fun clean => ?_))
      obtain ⟨s, encodes⟩ := CString.exists_ofText? clean
      simp [crossed] at encodes
    | some api' =>
      dsimp only
      rw [ensures_bind, ensures_modifyLoaded, ensures_bind]
      exact called _ _ (.create fresh crossed)
  | setFirstInstance host =>
    exact uncalled (fun _ _ calls => by cases calls) fun e refused => by
      cases refused <;> contradiction
  | destroy =>
    rw [perform, ensures_bind, destroy, ensures_ite]
    refine ⟨fun created => ?_, fun fresh => uncalled ?_ fun e refused => ?_⟩
    · rw [ensures_bind, ensures_modifyLoaded, ensures_discard]
      exact called _ _ (.destroy created)
    · intro m c calls
      cases calls with
      | destroy created => exact fresh created
    · cases refused <;> contradiction
  | drop =>
    rw [perform, ensures_bind, drop, ensures_bind, destroy, ensures_ite]
    refine ⟨fun created => ?_, fun fresh => uncalled ?_ fun e refused => ?_⟩
    · rw [ensures_bind, ensures_modifyLoaded, ensures_discard]
      exact called _ _ (.drop created)
    · intro m c calls
      cases calls with
      | drop created => exact fresh created
    · cases refused <;> contradiction
  | status | setSetting | createInstance | destroyInstance => exact perform_sends rfl refused called

theorem Operation.tells (calls : operation.Calls t l m c) {a : CallAnswer} (fits : c.Fits a) :
    operation.Tells a (operation.result a) := by
  cases calls <;> cases fits
  case createInstance raw out =>
    cases out <;> exact .createInstance (reads_ofRaw raw)
  all_goals constructor
  all_goals exact reads_ofRaw _

/-- What an operation gives and leaves: an error for each reason to fail and for no other, and then
nothing happened; otherwise what its call told, if it makes one. -/
structure Disciplined (env : Env σ ν δ) (t : TableId) (l : Loaded) (operation : Operation)
    (w : World σ ν) (answer : Except HostError Result) (u : World σ ν) : Prop where
  failed : ∀ e, answer = .error e ↔ Refuses l operation e
  unchanged : ∀ e, answer = .error e → u = w
  called : ∀ m c, operation.Calls t l m c → ∃ a v r,
    Exports.call env m c (operation.before t w) = .ok a v ∧ u = operation.after t v ∧
      answer = .ok r ∧ operation.Tells a r
  uncalled : (∀ m c, ¬operation.Calls t l m c) → (∀ e, ¬Refuses l operation e) →
    u = operation.alone t w ∧ answer = .ok .done

theorem Disciplined.refused (refused : Refuses l operation e) :
    Disciplined env t l operation w (.error e) w where
  failed e' := by
    refine ⟨?_, fun refused' => by rw [refused.unique refused']⟩
    rintro ⟨⟩
    exact refused
  unchanged _ _ := rfl
  called m c calls := absurd refused calls.accepted
  uncalled _ accepted := absurd refused (accepted e)

theorem Operation.Calls.unique {m' : String} {c' : EntryCall} (calls : operation.Calls t l m c)
    (calls' : operation.Calls t l m' c') : m = m' ∧ c = c' := by
  cases calls <;> cases calls' <;> simp_all

theorem perform_disciplined (spares : env.Spares) (t : TableId) (l : Loaded)
    (operation : Operation) (w : World σ ν) :
    Ensures (perform env t l operation) w (Disciplined env t l operation w)
      fun stop _ => stop = .aborted ∧ ∃ m c, operation.Calls t l m c := by
  refine perform_exits (fun e refused => .refused refused) (fun uncalled accepted => ?_)
    fun m c calls => ?_
  · exact ⟨fun e => ⟨nofun, fun refused => absurd refused (accepted e)⟩, nofun,
      fun m c calls => absurd calls (uncalled m c), fun _ _ => ⟨rfl, rfl⟩⟩
  · have opened := Exports.call_opens spares m c (operation.before t w)
    refine ((Ensures.eq (Exports.call env m c)).and opened).mono (fun a v ended => ?_)
      fun stop _ stopped => ⟨stopped.2, m, c, calls⟩
    obtain ⟨ended, fits, -⟩ := ended
    refine ⟨fun e => ⟨nofun, fun refused => absurd refused calls.accepted⟩, nofun,
      fun m' c' calls' => ?_, fun uncalled => absurd calls (uncalled m c)⟩
    obtain ⟨rfl, rfl⟩ := calls.unique calls'
    exact ⟨a, v, _, ended, rfl, rfl, Operation.tells calls fits⟩

/-! ### Histories -/

/-- The interface that a move is about. -/
def Move.table : Move → TableId
  | .load t .. | .operate t _ => t

/-- Something that a host wants to know of the versions that an addon declares. -/
inductive Enquiry where
  | version (ty : AddonType)
  | minVersion (ty : AddonType)
  | apiVersion (ty : AddonType)
  | isCompatible (ty : AddonType) (min max : Version)

def Enquiry.ask (env : Env σ ν δ) (l : Loaded) : Enquiry → Act σ ν Unit
  | .version ty => discard (typeVersion env l ty)
  | .minVersion ty => discard (typeMinVersion env l ty)
  | .apiVersion ty => discard (typeApiVersion env l ty)
  | .isCompatible ty min max => discard (isTypeCompatible env l ty min max)

/-- What a host has done since it had an addon loaded: operations on it and enquiries, each with the
world before and after it, and moves with other addons in between. -/
inductive History (env : Env σ ν δ) (t : TableId) (start : World σ ν) :
    List (World σ ν × World σ ν) → World σ ν → Prop where
  | start : History env t start [] start
  | operate {deeds v l operation answer u} (past : History env t start deeds v)
      (loaded : v.loaded.get? t = some l)
      (done : perform env t l operation v = .ok answer u) :
      History env t start (deeds ++ [(v, u)]) u
  | enquire {deeds v l enquiry u} (past : History env t start deeds v)
      (loaded : v.loaded.get? t = some l) (done : Enquiry.ask env l enquiry v = .ok () u) :
      History env t start (deeds ++ [(v, u)]) u
  | aside {deeds v move u} (past : History env t start deeds v) (apart : move.table ≠ t)
      (done : step env move v = .ok () u) : History env t start deeds u

end LoadedAddon

/-- The create or the destroy that a host called, if an event is one. -/
def Event.turn? : Event ν → Option (String × EntryPoint)
  | .entered m (.create ..) => some (m, .create)
  | .entered m .destroy => some (m, .destroy)
  | _ => none

namespace LoadedAddon

/-- The creates and destroys among the calls of a host: what happens first in a deed that calls a
module is that it is entered. -/
def turns (deeds : List (World σ ν × World σ ν)) : List (String × EntryPoint) :=
  deeds.filterMap fun (w, u) => (w.first? u).bind Event.turn?

/-- As many creates as destroys of a module in turn, and one more create if the addon is created. -/
def alternation (m : String) (n : Nat) (isCreated : Bool) : List (String × EntryPoint) :=
  (List.replicate n [(m, EntryPoint.create), (m, .destroy)]).flatten ++
    if isCreated then [(m, .create)] else []

theorem alternation_opened (m : String) (n : Nat) :
    alternation m n false ++ [(m, .create)] = alternation m n true := by
  simp [alternation]

theorem alternation_closed (m : String) (n : Nat) :
    alternation m n true ++ [(m, .destroy)] = alternation m (n + 1) false := by
  simp [alternation, List.replicate_succ']

theorem count_alternation (m : String) (n : Nat) :
    (alternation m n false).count (m, .create) = (alternation m n false).count (m, .destroy) := by
  induction n with
  | zero => rfl
  | succ n ih =>
    rw [← alternation_closed, ← alternation_opened]
    simp [ih]

theorem turns_snoc (deeds : List (World σ ν × World σ ν)) (v u : World σ ν) :
    turns (deeds ++ [(v, u)]) = turns deeds ++ ((v.first? u).bind Event.turn?).toList := by
  unfold turns
  rw [List.filterMap_append]
  cases turn : (v.first? u).bind Event.turn? <;> simp [turn]

/-! ### What a deed does to the standing of an addon -/

end LoadedAddon

/-- The module of the addon that is loaded on an interface, and whether that addon is created. -/
abbrev World.standing (w : World σ ν) (t : TableId) : Option (String × Bool) :=
  (w.loaded.get? t).map Loaded.standing

namespace LoadedAddon

variable {l : Loaded} {operation : Operation} {m : String} {c : EntryCall} {s : TableId}

/-- An environment whose calls leave the standing of addons. -/
abbrev Steady (env : Env σ ν δ) : Prop :=
  ∀ m c t w, Ensures (Exports.call env m c) w (fun _ u => u.standing t = w.standing t)
    fun e _ => e = .aborted

theorem env_steady (modules : Modules σ ν δ) (unloading : Bool) (depth : Nat) :
    Steady (Exports.env modules unloading depth) := by
  intro m c t w
  have spares := Exports.env_spares modules unloading depth
  have enrolled := Exports.call_enrols (Exports.env_enrols modules unloading depth t) spares m c
  exact (enrolled.ensures (Exports.call_quiet spares.quiet m c) w).mono
    (fun _ _ enrols => enrols.standing t) fun _ _ => id

theorem standing_modify (w : World σ ν) (s t : TableId) (f : Loaded → Loaded) (apart : s ≠ t) :
    World.standing { w with loaded := w.loaded.modify s f } t = w.standing t := by
  simp [World.standing, Assoc.get?_modify, apart]

/-- An operation on one addon leaves how it stands with another. -/
theorem perform_apart (steady : Steady env) (apart : s ≠ t) (l : Loaded) (operation : Operation)
    (w : World σ ν) :
    Ensures (perform env s l operation) w (fun _ u => u.standing t = w.standing t)
      fun e _ => e = .aborted := by
  have erased (u : World σ ν) :
      World.standing { u with loaded := u.loaded.erase s } t = u.standing t := by
    simp [World.standing, Assoc.get?_erase, apart]
  refine perform_exits (fun e _ => rfl) (fun _ _ => ?_) fun m c calls => ?_
  · cases operation with
    | setFirstInstance host => exact standing_modify w s t _ apart
    | drop => exact erased w
    | _ => rfl
  · have before : (operation.before s w).standing t = w.standing t := by
      cases operation with
      | create | destroy | drop => exact standing_modify w s t _ apart
      | _ => rfl
    refine (steady m c t (operation.before s w)).mono (fun _ u kept => ?_) fun _ _ => id
    have after : (operation.after s u).standing t = u.standing t := by
      cases operation with
      | drop => exact erased u
      | _ => rfl
    exact (after.trans kept).trans before

theorem step_apart (steady : Steady env) {move : Move} (apart : move.table ≠ t) (w : World σ ν) :
    Ensures (step env move) w (fun _ u => u.standing t = w.standing t) fun e _ => e = .aborted := by
  cases move with
  | load s module host libPath =>
    rw [step, ensures_bind, ensures_loaded?]
    split
    · rw [ensures_discard, load]
      split
      · rfl
      · have other : s ≠ t := apart
        change World.standing { w with loaded := w.loaded.set s _ } t = _
        simp [World.standing, Assoc.get?_set, other]
    · rfl
  | operate s operation =>
    rw [step, ensures_bind, ensures_loaded?]
    split
    · rw [ensures_discard]
      exact perform_apart steady apart _ operation w
    · rfl

/-- An enquiry makes one call, which is none of a create or a destroy. -/
theorem ask_ensures {P : World σ ν → Prop} {E : Stop → World σ ν → Prop} (enquiry : Enquiry)
    (called : ∀ c ty, c = .typeVersion ty ∨ c = .minVersion ty →
      Ensures (Exports.call env l.module c) w (fun _ u => P u) E) :
    Ensures (enquiry.ask env l) w (fun _ u => P u) E := by
  have version (ty : AddonType) : Ensures (typeVersion env l ty) w (fun _ u => P u) E := by
    rw [typeVersion, ensures_bind]
    exact called _ ty (.inl rfl)
  have apiVersion (ty : AddonType) : Ensures (typeApiVersion env l ty) w (fun _ u => P u) E := by
    rw [typeApiVersion, ensures_bind]
    exact version ty
  cases enquiry with
  | version ty =>
    rw [Enquiry.ask, ensures_discard]
    exact version ty
  | minVersion ty =>
    rw [Enquiry.ask, ensures_discard, typeMinVersion, ensures_bind]
    exact called _ ty (.inr rfl)
  | apiVersion ty =>
    rw [Enquiry.ask, ensures_discard]
    exact apiVersion ty
  | isCompatible ty min max =>
    rw [Enquiry.ask, ensures_discard, isTypeCompatible, ensures_bind]
    refine (apiVersion ty).mono (fun r _ ended => ?_) fun _ _ => id
    cases r <;> exact ended

/-- How the standing of an addon changes with the create or destroy that is called. -/
inductive Turn (m : String) : Option (String × Bool) → Option (String × EntryPoint) →
    Option (String × Bool) → Prop where
  | stays (standing) : Turn m standing none standing
  | opens : Turn m (some (m, false)) (some (m, .create)) (some (m, true))
  | closes : Turn m (some (m, true)) (some (m, .destroy)) (some (m, false))
  | leaves : Turn m (some (m, true)) (some (m, .destroy)) none
  | goes : Turn m (some (m, false)) none none

/-- The turn that is taken between two worlds. -/
def TakesTurn (m : String) (t : TableId) (w u : World σ ν) : Prop :=
  Turn m (w.standing t) ((w.first? u).bind Event.turn?) (u.standing t)

theorem TakesTurn.stays (opened : (w.first? u).bind Event.turn? = none)
    (same : u.standing t = w.standing t) : TakesTurn m t w u := by
  rw [TakesTurn, opened, same]
  exact .stays _

theorem operate_turn (steady : Steady env) (spares : env.Spares) (loaded : w.loaded.get? t = some l)
    (operation : Operation) :
    Ensures (perform env t l operation) w (fun _ u => TakesTurn l.module t w u)
      fun e _ => e = .aborted := by
  have standing : w.standing t = some (l.module, l.isCreated) := by
    rw [World.standing, loaded]
    rfl
  have flagged (b : Bool) :
      World.standing { w with loaded := w.loaded.modify t fun l => { l with isCreated := b } } t =
        some (l.module, b) := by
    simp [World.standing, Assoc.get?_modify, loaded, Loaded.standing]
  have erased (u : World σ ν) :
      World.standing { u with loaded := u.loaded.erase t } t = none := by
    simp [World.standing, Assoc.get?_erase]
  have silent {u : World σ ν} (same : u.trace = w.trace) :
      (w.first? u).bind Event.turn? = none := by
    rw [World.first?_same same]
    rfl
  refine perform_exits (fun e _ => .stays (silent rfl) rfl) (fun uncalled _ => ?_)
    fun m c calls => ?_
  · have silent := silent (operation.alone_trace t w)
    cases operation with
    | setFirstInstance host =>
      exact .stays silent (Assoc.map_get?_modify (g := Loaded.standing)
        (f := fun l => { l with firstInstance := host }) w.loaded t (fun _ _ => rfl) t)
    | drop =>
      cases created : l.isCreated with
      | true => exact absurd (.drop created) (uncalled _ _)
      | false =>
        rw [TakesTurn, silent, standing, created]
        exact (erased w).symm ▸ .goes
    | _ => exact .stays silent rfl
  · refine ((Exports.call_opens spares m c _).and (steady m c t _)).mono (fun a u ended => ?_)
      fun _ _ => And.left
    obtain ⟨⟨-, es, trace⟩, kept⟩ := ended
    have trace : (operation.after t u).trace = es ++ .entered m c :: w.trace := by
      cases operation <;> exact trace
    have opened := World.first?_of_trace trace
    have turn (after : World.standing (operation.after t u) t = w.standing t)
        (other : Event.turn? (.entered (ν := ν) m c) = none) :
        TakesTurn l.module t w (operation.after t u) :=
      .stays (by rw [opened]; exact other) after
    cases calls with
    | create fresh crossed =>
      rw [TakesTurn, opened, standing, fresh]
      exact (kept.trans (flagged true)).symm ▸ .opens
    | destroy created =>
      rw [TakesTurn, opened, standing, created]
      exact (kept.trans (flagged false)).symm ▸ .closes
    | drop created =>
      rw [TakesTurn, opened, standing, created]
      exact (erased u).symm ▸ .leaves
    | status | setSetting | createInstance | destroyInstance => exact turn kept rfl

theorem enquire_turn (steady : Steady env) (spares : env.Spares) (enquiry : Enquiry) (m : String)
    (w : World σ ν) :
    Ensures (enquiry.ask env l) w (fun _ u => TakesTurn m t w u) fun e _ => e = .aborted := by
  refine ask_ensures enquiry fun c ty version => ?_
  refine ((Exports.call_opens spares l.module c w).and (steady l.module c t w)).mono
    (fun a u ended => ?_) fun _ _ => And.left
  obtain ⟨⟨-, es, trace⟩, kept⟩ := ended
  refine .stays ?_ kept
  rw [World.first?_of_trace trace]
  rcases version with rfl | rfl <;> rfl

/-- The turns that were taken so far, and how it stands with the addon after them. -/
structure Balanced (m : String) (t : TableId) (taken : List (String × EntryPoint))
    (u : World σ ν) : Prop where
  turns : ∃ n, taken = alternation m n ((u.standing t).any (·.2))
  module : ∀ s, u.standing t = some s → s.1 = m

theorem Balanced.step {taken : List (String × EntryPoint)} (balanced : Balanced m t taken w)
    (turn : TakesTurn m t w u) :
    Balanced m t (taken ++ ((w.first? u).bind Event.turn?).toList) u := by
  obtain ⟨⟨n, turns⟩, module⟩ := balanced
  unfold TakesTurn at turn
  subst turns
  generalize before : w.standing t = s at turn module
  generalize after : u.standing t = s' at turn
  generalize taken : (w.first? u).bind Event.turn? = event at turn
  cases turn with
  | stays => exact ⟨⟨n, by simp [after]⟩, fun s same => module s (after.symm.trans same)⟩
  | opens => exact ⟨⟨n, by simpa [after] using alternation_opened m n⟩, by simp [after]⟩
  | closes => exact ⟨⟨n + 1, by simpa [after] using alternation_closed m n⟩, by simp [after]⟩
  | leaves => exact ⟨⟨n + 1, by simpa [after] using alternation_closed m n⟩, by simp [after]⟩
  | goes => exact ⟨⟨n, by simp [after]⟩, by simp [after]⟩

theorem History.balanced (steady : Steady env) (spares : env.Spares)
    (loaded : w.loaded.get? t = some l) (fresh : l.isCreated = false)
    {deeds : List (World σ ν × World σ ν)} (past : History env t w deeds u) :
    Balanced l.module t (turns deeds) u := by
  have standing : w.standing t = some (l.module, false) := by
    rw [World.standing, loaded, ← fresh]
    rfl
  induction past with
  | start => exact ⟨⟨0, by simp [standing, turns, alternation]⟩, by simp [standing]⟩
  | @operate _ v l' _ _ _ past here done ih =>
    have module : l'.module = l.module := ih.module l'.standing (by rw [World.standing, here]; rfl)
    rw [turns_snoc, ← module]
    rw [← module] at ih
    exact ih.step ((ensures_ok done).mp (operate_turn steady spares here _))
  | enquire past here done ih =>
    rw [turns_snoc]
    exact ih.step ((ensures_ok done).mp (enquire_turn steady spares _ l.module _))
  | aside past apart done ih =>
    have kept := (ensures_ok done).mp (step_apart steady apart _)
    exact ⟨by rw [kept]; exact ih.turns, by rw [kept]; exact ih.module⟩

/-- In every state that a host's doings with an addon lead to, whatever the addon's code does and
whatever becomes of other addons: the host has called the addon's create and destroy in turn,
starting with create, the addon counts as created exactly if a destroy is due, and once it is
dropped there were as many destroys as creates. An operation fails for the reasons in `Refuses`
alone, and then nothing happened; otherwise it succeeds, and only the call that it makes can abort. -/
theorem history_disciplined (modules : Modules σ ν δ) (unloading : Bool) (depth : Nat) (t : TableId)
    (w : World σ ν) (l : Loaded) (loaded : w.loaded.get? t = some l) (fresh : l.isCreated = false)
    (deeds : List (World σ ν × World σ ν)) (u : World σ ν)
    (past : History (Exports.env modules unloading depth) t w deeds u) :
    (∃ n, turns deeds = alternation l.module n ((u.loaded.get? t).any (·.isCreated))) ∧
    (u.loaded.get? t = none →
      (turns deeds).count (l.module, .create) = (turns deeds).count (l.module, .destroy)) ∧
    ∀ l', u.loaded.get? t = some l' → l'.module = l.module ∧ ∀ operation,
      Ensures (perform (Exports.env modules unloading depth) t l' operation) u
        (Disciplined (Exports.env modules unloading depth) t l' operation u)
        fun stop _ => stop = .aborted ∧ ∃ m c, operation.Calls t l' m c := by
  have spares := Exports.env_spares modules unloading depth
  have balanced := past.balanced (env_steady modules unloading depth) spares loaded fresh
  obtain ⟨⟨n, taken⟩, module⟩ := balanced
  have created : (u.standing t).any (·.2) = (u.loaded.get? t).any (·.isCreated) := by
    cases here : u.loaded.get? t <;> simp [World.standing, here, Loaded.standing]
  refine ⟨⟨n, by rw [taken, created]⟩, fun gone => ?_, fun l' here => ⟨?_, fun operation => ?_⟩⟩
  · rw [taken, created, gone]
    exact count_alternation l.module n
  · exact module l'.standing (by rw [World.standing, here]; rfl)
  · exact perform_disciplined spares t l' operation u

/-- An addon that is created, not created again, destroyed and dropped. -/
theorem history_disciplined_once :
    let env := Exports.env Modules.once false 2
    let t : TableId := ⟨0, 0⟩
    let blank : Loaded := { module := "once", libPath := .empty, host := {}, hostTable := none }
    let w : World Bool Unit := { memory := fun _ => false, loaded := [(t, blank)] }
    w.loaded.get? t = some blank ∧ blank.isCreated = false ∧
    ∃ deeds u, History env t w deeds u ∧ deeds.length = 4 ∧
      turns deeds = [("once", .create), ("once", .destroy)] ∧
      (∃ n, turns deeds = alternation "once" n ((u.loaded.get? t).any (·.isCreated))) ∧
      (turns deeds).count ("once", .create) = (turns deeds).count ("once", .destroy) := by
  intro env t blank w
  obtain ⟨u₁, u₂, u₃, u₄, l₁, l₃, created, here₁, again, here₂, destroyed, here₃, dropped, taken⟩ :
      ∃ u₁ u₂ u₃ u₄ l₁ l₃,
        perform env t blank (.create "1.0") w = .ok (.ok (.status .ok)) u₁ ∧
        u₁.loaded.get? t = some l₁ ∧
        perform env t l₁ (.create "1.0") u₁ = .ok (.error .alreadyCreated) u₂ ∧
        u₂.loaded.get? t = some l₁ ∧
        perform env t l₁ .destroy u₂ = .ok (.ok .done) u₃ ∧
        u₃.loaded.get? t = some l₃ ∧
        perform env t l₃ .drop u₃ = .ok (.ok .done) u₄ ∧ u₄.loaded.get? t = none ∧
        turns [(w, u₁), (u₁, u₂), (u₂, u₃), (u₃, u₄)] = [("once", .create), ("once", .destroy)] :=
    ⟨_, _, _, _, _, _, rfl, rfl, rfl, rfl, rfl, rfl, rfl, rfl, rfl⟩
  have past : History env t w ([] ++ [(w, u₁)] ++ [(u₁, u₂)] ++ [(u₂, u₃)] ++ [(u₃, u₄)]) u₄ :=
    .operate (.operate (.operate (.operate .start rfl created) here₁ again) here₂ destroyed)
      here₃ dropped
  have disciplined := history_disciplined Modules.once false 2 t w blank rfl rfl _ u₄ past
  exact ⟨rfl, rfl, _, u₄, past, rfl, taken.2, disciplined.1, disciplined.2.1 taken.1⟩

end LoadedAddon
end AddonBridge
