import AddonBridge.Machine.Exports
import AddonBridge.Proofs.Dispatching

/-!
# Serving calls within a law

No panic leaves a module's function. A law that allows what the functions do around a request, and
that every request to a slot obeys, is obeyed by every call, however deeply calls nest.
-/

namespace AddonBridge

open Act

variable {σ ν δ α : Type} [Panics δ] {env : Env σ ν δ} {S : Change σ ν} {T : String → Change σ ν} {p : Conduct σ}
  {creating : Prop}

/-- Every request to the context in a seat obeys a law, once it was told that it is created. -/
structure Dispatch.Lawful (env : Env σ ν δ) (S : Change σ ν) (seat : Seat) : Prop where
  status : Obeys S (Dispatch.status env seat)
  setSetting : ∀ name value, Obeys S (Dispatch.setSetting env seat name value)
  createInstance : ∀ ty id host version parent,
    Obeys S (Dispatch.createInstance env seat ty id host version parent)
  destroyInstance : ∀ ty handle, Obeys S (Dispatch.destroyInstance env seat ty handle)

theorem Env.Tends.lawful {seat : Seat} (tends : env.Tends S p seat) :
    Dispatch.Lawful env S seat where
  status := Dispatch.status_obeys tends
  setSetting _ _ := Dispatch.setSetting_obeys tends
  createInstance _ _ _ _ _ := Dispatch.createInstance_obeys tends
  destroyInstance _ _ := Dispatch.destroyInstance_obeys tends

/-- What holds while a slot is in use comes to what holds after it. -/
structure Act.Releases (S : Change σ ν) (T : String → Change σ ν) : Prop where
  held : ∀ m w k u, m ∉ w.busy → k ≠ some .aborted → T m { w with busy := m :: w.busy } k u →
    S w k { u with busy := u.busy.erase m }
  halted : ∀ m w u, m ∉ w.busy → T m { w with busy := m :: w.busy } (some .aborted) u →
    S w (some .aborted) u

theorem Act.Releases.holding (releases : Releases S T) {m : String} {act : Act σ ν α}
    (h : Obeys (T m) act) {w : World σ ν} (free : m ∉ w.busy) :
    Ensures (Act.holding m act) w (fun _ u => S w none u) (fun e u => S w (some e) u) := by
  rw [ensures_holding]
  refine (h _).mono (fun _ u ended => releases.held m w none u free nofun ended) fun e u ended => ?_
  cases e with
  | aborted => exact releases.halted m w u free ended
  | unwinding q => exact releases.held m w _ u free nofun ended

/-- What holds while a call of a module has a location comes to what holds after it. -/
structure Act.Locates (S : Change σ ν) : Prop where
  left : ∀ m out w u, S (w.setLocations m (out :: w.locations m)) none u →
    S w none (u.setLocations m (u.locations m).tail)
  halted : ∀ m out w u, S (w.setLocations m (out :: w.locations m)) (some .aborted) u →
    S w (some .aborted) u

/-- A law for which locations do not matter. -/
theorem Act.Locates.of_free (law : Law S)
    (moved : ∀ w m locations, S w none (World.setLocations w m locations)) : Locates S where
  left _ _ _ _ h := law.trans (law.trans (moved _ _ _) h) (moved _ _ _)
  halted _ _ _ _ h := law.trans (moved _ _ _) h

/-- Calls of the modules obey a law when requests to a slot in use obey another one. Calls that
create an addon are only counted in if `creating` holds. -/
structure Env.Serves (env : Env σ ν δ) (S : Change σ ν) (T : String → Change σ ν) (p : Conduct σ)
    (creating : Prop) : Prop extends Env.Keeps env S p where
  seated : ∀ m, Dispatch.Lawful env (T m) (.module m)
  releases : Releases S T
  locates : Locates S
  entered : ∀ w m c, S w none { w with trace := .entered m c :: w.trace }
  destroyed : ∀ m, Obeys S (Exports.destroy env m)
  created : creating → ∀ m t api, Obeys S (Exports.create env m t api)
  relinked : creating → ∀ w t f,
    (∀ l : Loaded, (f l).module = l.module ∧ (f l).isCreated = l.isCreated) →
    S w none { w with loaded := w.loaded.modify t f }

namespace Exports

/-! ### No panic leaves a function -/

/-- What is to show where a guarded act stops: what follows if its panic is caught, or else if the
call aborts. -/
def Guarded (caught aborted : World σ ν → Prop) : Stop → World σ ν → Prop
  | .unwinding (.defect _), u => ∀ v, u.Idle v → aborted v
  | .unwinding _, u => ∀ v, u.Idle v → caught v
  | .aborted, u => aborted u

theorem Guarded.panic {caught aborted : World σ ν → Prop} {q : Payload} {u : World σ ν}
    (ordinary : ∀ d, q ≠ .defect d) (h : ∀ v, u.Idle v → caught v) :
    Guarded caught aborted (.unwinding q) u := by
  cases q with
  | defect d => exact absurd rfl (ordinary d)
  | text message => exact h
  | other => exact h

/-- A guarded act ends as the act does, or with the fallback after a panic that is not a defect, or
it aborts. -/
theorem guard_exits {operation : String} {fallback : α} {act : Act σ ν α} {w : World σ ν}
    {Q : α → World σ ν → Prop} {F : World σ ν → Prop}
    (h : Ensures act w Q (Guarded (Q fallback) F)) :
    Ensures (guard operation fallback act) w Q fun e u => e = .aborted ∧ F u := by
  rw [guard, ensures_bind, ensures_observe]
  refine h.mono (fun _ _ ended => ended) fun e u stopped => ?_
  cases e with
  | aborted => exact ⟨rfl, stopped⟩
  | unwinding q =>
    cases q with
    | defect d =>
      dsimp only
      exact Log.toSink_talks.before fun _ v idle => ⟨rfl, stopped v idle⟩
    | text message =>
      dsimp only
      exact Log.error_talks.before fun _ v idle => stopped v idle
    | other =>
      dsimp only
      exact Log.error_talks.before fun _ v idle => stopped v idle

theorem guard_ensures {operation : String} {fallback : α} {act : Act σ ν α} {w : World σ ν}
    {Q : α → World σ ν → Prop}
    (h : Ensures act w Q fun e u => e ≠ .aborted → ∀ v, u.Idle v → Q fallback v) :
    Ensures (guard operation fallback act) w Q fun e _ => e = .aborted := by
  refine (guard_exits (F := fun _ => True) (h.mono (fun _ _ => id) fun e u stopped => ?_)).mono
    (fun _ _ => id) fun _ _ => And.left
  rcases e with (message | d | _) | _
  · exact stopped unwinding_ne
  · exact fun _ _ => True.intro
  · exact stopped unwinding_ne
  · exact True.intro

/-- A guarded act that does not abort comes back. -/
theorem guard_catches {operation : String} {fallback : α} {act : Act σ ν α} {w : World σ ν}
    {Q : α → World σ ν → Prop} (h : Ensures act w Q (Guarded (Q fallback) fun _ => False)) :
    Ensures (guard operation fallback act) w Q fun _ _ => False :=
  (guard_exits h).mono (fun _ _ => id) fun _ _ => And.right

theorem guard_returns {operation : String} {fallback : α} {act : Act σ ν α} {w : World σ ν}
    {Q : α → World σ ν → Prop} (h : Ensures act w Q fun _ _ => False) :
    Ensures (guard operation fallback act) w Q fun _ _ => False :=
  guard_catches (h.mono (fun _ _ => id) fun _ _ => False.elim)

theorem guard_quiet (operation : String) (fallback : α) (act : Act σ ν α) :
    Quiet (guard operation fallback act) :=
  fun _ => guard_ensures ((Ensures.trivial act).mono (fun _ _ _ => True.intro)
    fun _ _ _ _ _ _ => True.intro)

theorem callAddon_quiet (m : String) (c : EntryCall) : Quiet (callAddon env m c) := by
  cases c with
  | create t api => exact .bind (guard_quiet _ _ _) fun _ => .pure _
  | destroy => exact .bind (guard_quiet _ _ _) fun _ => .pure _
  | status => exact .bind (guard_quiet _ _ _) fun _ => .pure _
  | setSetting name value => exact .bind (guard_quiet _ _ _) fun _ => .pure _
  | createInstance ty id host version out parent =>
    refine .bind ?_ fun _ => .pure _
    exact .bind (fun _ => True.intro) fun _ => .bind (guard_quiet _ _ _) fun _ _ => True.intro
  | destroyInstance ty handle => exact .bind (guard_quiet _ _ _) fun _ => .pure _
  | typeVersion ty => exact fun _ => True.intro
  | minVersion ty => exact fun _ => True.intro

omit [Panics δ] in
theorem callNative_quiet (quiet : env.IsQuiet) (m : String) (n : NativeAddon σ ν) (c : EntryCall) :
    Quiet (callNative env m n c) := by
  cases c with
  | create t api =>
    refine .bind (Env.quietly_quiet quiet m _) fun published => ?_
    cases published with
    | inl raw => exact fun _ => True.intro
    | inr published =>
      exact .bind (fun _ => True.intro) fun _ =>
        .bind (Env.quietly_quiet quiet m _) fun _ => .pure _
  | destroy => exact .bind (Env.quietly_quiet quiet m _) fun _ => .pure _
  | status => exact .bind (Env.quietly_quiet quiet m _) fun _ => .pure _
  | setSetting name value => exact .bind (Env.quietly_quiet quiet m _) fun _ => .pure _
  | createInstance ty id host version out parent =>
    exact .bind (Env.quietly_quiet quiet m _) fun _ => .pure _
  | destroyInstance ty handle => exact .bind (Env.quietly_quiet quiet m _) fun _ => .pure _
  | typeVersion ty => exact fun _ => True.intro
  | minVersion ty => exact fun _ => True.intro

theorem call_quiet (quiet : env.IsQuiet) (m : String) (c : EntryCall) : Quiet (call env m c) := by
  refine .bind (fun _ => True.intro) fun _ => ?_
  split
  · exact callNative_quiet quiet m _ c
  · exact callAddon_quiet m c

theorem registered?_talks {table : Option TableId} {c : EntryCall} :
    Talks (registered? table c : Act σ ν _) := by
  unfold registered?
  split
  · refine .bind .loaded? fun l => ?_
    cases l with
    | some l => exact .pure
    | none => exact .pure
  · exact .pure

theorem callRaw_quiet (quiet : env.IsQuiet) (c : RawCall) : Quiet (callRaw env c) := by
  unfold callRaw
  split
  · split
    · exact .bind (fun _ => True.intro) fun _ => call_quiet quiet _ _
    · exact call_quiet quiet _ _
  · refine .bind registered?_talks.quiet fun found => ?_
    cases found with
    | some m => exact call_quiet quiet m _
    | none => exact .pure _

@[simp] theorem env_modules (modules : Modules σ ν δ) (unloading : Bool) (depth : Nat) :
    (Exports.env modules unloading depth).modules = modules := by
  cases depth <;> rfl

theorem env_quiet (modules : Modules σ ν δ) (unloading : Bool) (depth : Nat) :
    (Exports.env modules unloading depth).IsQuiet := by
  induction depth with
  | zero => exact fun _ => .pure _
  | succ depth ih =>
    intro c
    change Quiet (if (unloading && c.isCreate) = true then pure .unloading else callRaw _ c)
    split
    · exact .pure _
    · exact callRaw_quiet ih c

/-! ### Calls obey the law -/

/-- A guarded act comes to what the act comes to, or to the fallback after a panic within a law, or it
aborts within the law. -/
theorem guard_ends (law : Law S) (talk : ∀ w u, w.Idle u → S w none u) {operation : String}
    {fallback : α} {act : Act σ ν α} {w w₀ : World σ ν} {Q : α → World σ ν → Prop}
    (h : Ensures act w Q fun e u => S w₀ (some e) u) (caught : ∀ u, S w₀ none u → Q fallback u) :
    Ensures (guard operation fallback act) w Q
      fun e u => e = .aborted ∧ S w₀ (some .aborted) u := by
  refine guard_exits (h.mono (fun _ _ => id) fun e u stopped => ?_)
  rcases e with (message | d | _) | _
  · exact fun v idle => caught v (law.trans (law.caught stopped nofun) (talk u v idle))
  · exact fun v idle => law.fatal (law.cleanup stopped (talk u v idle))
  · exact fun v idle => caught v (law.trans (law.caught stopped nofun) (talk u v idle))
  · exact stopped

theorem guard_obeys (law : Law S) (talk : ∀ w u, w.Idle u → S w none u) {operation : String}
    {fallback : α} {act : Act σ ν α} (h : Obeys S act) : Obeys S (guard operation fallback act) := by
  refine fun w => (guard_ends law talk (h w) fun _ => id).mono (fun _ _ => id) ?_
  rintro _ u ⟨rfl, halted⟩
  exact halted

theorem withSlot_obeys (serves : env.Serves S T p creating) {m operation : String} {default : α}
    {act : Act σ ν α} (h : Obeys (T m) act) : Obeys S (withSlot m operation default act) := by
  have refused : ∀ message : String, Obeys S (Log.error message >>= fun _ => pure default) :=
    fun _ => .bind serves.law (Log.error_talks.obeys serves.talk) fun _ => .pure serves.law _
  intro w
  rw [withSlot, ensures_bind, ensures_isBusy, ensures_ite]
  refine ⟨fun _ => refused _ w, fun free => ?_⟩
  rw [ensures_bind, ensures_context?]
  split
  · exact serves.releases.holding h (by simpa using free)
  · exact refused _ w

/-- In a slot that is free and not empty, an act is done. -/
theorem withSlot_at {m operation : String} {default : α} {act : Act σ ν α} {w : World σ ν}
    {c : Context σ} (free : m ∉ w.busy) (here : w.contexts.get? (.module m) = some c) :
    withSlot m operation default act w = Act.holding m act w := by
  have idle : Act.isBusy m w = .ok false w :=
    congrArg (EStateM.Result.ok · w) (decide_eq_false free)
  have found : Act.context? (.module m) w = .ok (some c) w :=
    congrArg (EStateM.Result.ok · w) here
  rw [withSlot, bind_of_ok idle]
  exact bind_of_ok found

theorem withSlot_reaches {m operation : String} {default : α} {act : Act σ ν α} {w : World σ ν}
    {c : Context σ} {Q : α → World σ ν → Prop} {E : Stop → World σ ν → Prop} (free : m ∉ w.busy)
    (here : w.contexts.get? (.module m) = some c) (h : Ensures (Act.holding m act) w Q E) :
    Ensures (withSlot m operation default act) w Q E := by
  rw [Ensures, withSlot_at free here]
  exact h

/-- What talk and locations do not matter for holds after a call with a location, if it does after the
request that the call comes to. -/
theorem createInstance_ensures {m : String} {ty : AddonType} {name version : Option CString}
    {host : HostHandle} {out : Option UInt64} {parent : UInt64} {w : World σ ν}
    {P : World σ ν → Prop} (talk : ∀ u v, World.Idle u v → P u → P v)
    (moved : ∀ u locations, P u → P (World.setLocations u m locations)) (start : P w)
    (requested : ∀ locations, Ensures (withSlot m "create_instance" (Status.unknown, none)
        (Dispatch.createInstance env (.module m) ty (CString.textOrEmpty name) host
          (CString.textOrEmpty version) (InstanceHandle.ofRaw? parent)))
      (w.setLocations m locations) (fun _ u => P u) fun e u => e ≠ .aborted → P u) :
    Ensures (createInstance env m ty name host version out parent) w (fun _ u => P u)
      fun e _ => e = .aborted := by
  unfold createInstance
  rw [ensures_withLocation]
  refine guard_ensures ?_
  cases out with
  | none => exact Log.error_talks.before fun _ u idle => moved u _ (talk _ u idle (moved w _ start))
  | some old =>
    rw [ensures_bind, ensures_writeLocation, World.locations_setLocations,
      World.setLocations_setLocations, ensures_bind]
    refine (requested _).mono (fun answer u ended => ?_)
      fun e u stopped going v idle => moved v _ (talk u v idle (stopped going))
    obtain ⟨status, _ | h⟩ := answer
    · exact moved u _ ended
    · exact moved _ _ (moved u _ ended)

/-- A call with a location obeys the law if the request does that comes between what is written there. -/
theorem createInstance_obeys (serves : env.Serves S T p creating) {m : String} {ty : AddonType}
    {name version : Option CString} {host : HostHandle} {out : Option UInt64} {parent : UInt64} :
    Obeys S (createInstance env m ty name host version out parent) := by
  have law := serves.law
  have locates := serves.locates
  intro w
  unfold createInstance
  rw [ensures_withLocation]
  have aborts (out : Option UInt64) (e : Stop) (u : World σ ν)
      (stopped : e = .aborted ∧ S (w.setLocations m (out :: w.locations m)) (some .aborted) u) :
      S w (some e) u := by
    obtain ⟨rfl, halted⟩ := stopped
    exact locates.halted m out w u halted
  cases out with
  | none =>
    refine (guard_ends (Q := fun _ u => S w none (u.setLocations m (u.locations m).tail)) law
      serves.talk (Log.error_talks.before fun _ u idle => ?_)
      fun u ended => locates.left m none w u ended).mono (fun _ _ => id) (aborts none)
    exact locates.left m none w u (serves.talk _ u idle)
  | some old =>
    refine (guard_ends (Q := fun _ u => S w none (u.setLocations m (u.locations m).tail)) law
      serves.talk ?_ fun u ended => locates.left m (some 0) w u ended).mono (fun _ _ => id)
        (aborts (some 0))
    rw [ensures_bind, ensures_writeLocation, World.locations_setLocations,
      World.setLocations_setLocations, ensures_bind]
    refine (withSlot_obeys serves ((serves.seated m).createInstance _ _ _ _ _) _).mono
      (fun answer u ended => ?_) fun _ _ => id
    have left := locates.left m (some 0) w u ended
    obtain ⟨status, _ | h⟩ := answer
    · exact left
    · dsimp only
      rw [ensures_bind, ensures_writeLocation, ensures_pure, World.locations_setLocations,
        World.setLocations_setLocations]
      cases found : u.locations m <;> simpa [found] using left

theorem callAddon_obeys (serves : env.Serves S T p creating) (m : String) {c : EntryCall}
    (h : ∀ t api, c = .create t api → creating) : Obeys S (callAddon env m c) := by
  have law := serves.law
  have guarded {α : Type} {operation : String} {fallback : α} {act : Act σ ν α} (h : Obeys S act) :
      Obeys S (guard operation fallback act) := guard_obeys law serves.talk h
  cases c with
  | create t api =>
    exact .bind law (serves.created (h t api rfl) m t api) fun _ => .pure law _
  | destroy => exact .bind law (serves.destroyed m) fun _ => .pure law _
  | status =>
    exact .bind law (guarded (withSlot_obeys serves (serves.seated m).status)) fun _ => .pure law _
  | setSetting name value =>
    refine .bind law (guarded ?_) fun _ => .pure law _
    cases name with
    | none =>
      exact .bind law (Log.error_talks.obeys serves.talk) fun _ => .pure law _
    | some name => exact withSlot_obeys serves ((serves.seated m).setSetting _ _)
  | createInstance ty id host version out parent =>
    exact .bind law (createInstance_obeys serves) fun _ => .pure law _
  | destroyInstance ty handle =>
    exact .bind law (guarded (withSlot_obeys serves ((serves.seated m).destroyInstance _ _)))
      fun _ => .pure law _
  | typeVersion ty => exact .pure law _
  | minVersion ty => exact .pure law _

theorem callNative_obeys (keeps : env.Keeps S p) (m : String) {n : NativeAddon σ ν}
    (follows : n.Follows p) {c : EntryCall}
    (relinked : ∀ t api, c = .create t api → ∀ w t f,
      (∀ l : Loaded, (f l).module = l.module ∧ (f l).isCreated = l.isCreated) →
      S w none { w with loaded := w.loaded.modify t f }) :
    Obeys S (callNative env m n c) := by
  have law := keeps.law
  have ran {α : Type} {q : Program σ ν Empty α} (h : p.Silent q) : Obeys S (env.quietly m q) :=
    Env.quietly_obeys keeps m h
  cases c with
  | create t api =>
    refine .bind law (ran (follows.create t api)) fun published => ?_
    cases published with
    | inl raw => exact .pure law _
    | inr published =>
      refine .bind law (fun w => relinked t api rfl w _ _ fun l => ⟨rfl, rfl⟩) fun _ =>
        .bind law (ran (follows.started _)) fun _ => .pure law _
  | destroy => exact .bind law (ran follows.destroy) fun _ => .pure law _
  | status => exact .bind law (ran follows.status) fun _ => .pure law _
  | setSetting name value => exact .bind law (ran (follows.setSetting _ _)) fun _ => .pure law _
  | createInstance ty id host version out parent =>
    exact .bind law (ran (follows.createInstance _ _ _ _ _ _)) fun _ => .pure law _
  | destroyInstance ty handle =>
    exact .bind law (ran (follows.destroyInstance _ _)) fun _ => .pure law _
  | typeVersion ty => exact .pure law _
  | minVersion ty => exact .pure law _

/-- A call obeys the law once it has reached the module. -/
theorem reached_obeys (serves : env.Serves S T p creating) (m : String) {c : EntryCall}
    (h : ∀ t api, c = .create t api → creating) :
    Obeys S (match env.modules.native m with
      | some n => callNative env m n c
      | none => callAddon env m c) := by
  split
  · next n native =>
    exact callNative_obeys serves.toKeeps m (serves.modules.native m n native)
      fun t api same => serves.relinked (h t api same)
  · exact callAddon_obeys serves m h

theorem call_obeys (serves : env.Serves S T p creating) (m : String) {c : EntryCall}
    (h : ∀ t api, c = .create t api → creating) : Obeys S (call env m c) :=
  .bind serves.law (fun w => serves.entered w m c) fun _ => reached_obeys serves m h

theorem callRaw_obeys (serves : env.Serves S T p creating) {c : RawCall}
    (h : c.isCreate → creating) : Obeys S (callRaw env c) := by
  have law := serves.law
  cases c with
  | entry m c =>
    have allowed : ∀ t api, c = .create t api → creating := by
      rintro t api rfl
      exact h rfl
    unfold callRaw
    dsimp only
    split
    · refine .bind law (fun w => serves.relinked (h rfl) w _ _ fun l => ⟨rfl, rfl⟩) fun _ =>
        call_obeys serves m allowed
    · exact call_obeys serves m allowed
  | registered table c =>
    by_cases creates : ∃ t api, c = .create t api
    · obtain ⟨t, api, rfl⟩ := creates
      intro w
      cases table <;> exact law.refl w
    · refine .bind law (registered?_talks.obeys serves.talk) fun found => ?_
      cases found with
      | some m => exact call_obeys serves m fun t api same => absurd ⟨t, api, same⟩ creates
      | none => exact .pure law _

/-- Nested calls obey the law at every depth, when calls obey it wherever nested calls do. -/
theorem env_obeys {modules : Modules σ ν δ} {unloading : Bool} (creating : Prop)
    (allowed : ∀ c, p.calls c → c.isCreate → creating)
    (serves : ∀ depth,
      (∀ c, p.calls c → Obeys S ((Exports.env modules unloading depth).nested c)) →
      (Exports.env modules unloading depth).Serves S T p creating)
    (law : Law S) (depth : Nat) (c : RawCall) (h : p.calls c) :
    Obeys S ((Exports.env modules unloading depth).nested c) := by
  induction depth generalizing c with
  | zero => exact .pure law _
  | succ depth ih =>
    change Obeys S (if (unloading && c.isCreate) = true then pure .unloading else callRaw _ c)
    exact .ite (.pure law _) (callRaw_obeys (serves depth ih) (allowed c h))

/-- Nested calls obey the law at every depth, when calls of functions obey it wherever nested calls
do. -/
theorem env_obeys_calls {modules : Modules σ ν δ} {unloading : Bool} (law : Law S)
    (talk : ∀ w u, w.Idle u → S w none u)
    (byHand : ∀ w t, S w none { w with
      loaded := w.loaded.modify t fun l => { l with createdByHand := true } })
    (calls : ∀ depth, (∀ c, Obeys S ((Exports.env modules unloading depth).nested c)) →
      ∀ m c, Obeys S (call (Exports.env modules unloading depth) m c))
    (depth : Nat) (c : RawCall) : Obeys S ((Exports.env modules unloading depth).nested c) := by
  induction depth generalizing c with
  | zero => exact .pure law _
  | succ depth ih =>
    change Obeys S (if (unloading && c.isCreate) = true then pure .unloading else callRaw _ c)
    refine .ite (.pure law _) ?_
    cases c with
    | entry m c =>
      unfold callRaw
      dsimp only
      split
      · exact .bind law (fun w => byHand w _) fun _ => calls depth ih m _
      · exact calls depth ih m c
    | registered table c =>
      refine .bind law (registered?_talks.obeys talk) fun found => ?_
      cases found with
      | some m => exact calls depth ih m c
      | none => exact .pure law _

end Exports

/-! ### Creating and destroying within a law -/

/-- A law under which modules may also create and destroy their addons: a slot that is not in use may
get another context or lose the one it has, and what is published may change. -/
structure Env.Opens (env : Env σ ν δ) (S : Change σ ν) (T : String → Change σ ν) (p : Conduct σ) : Prop
    extends Env.Permits env S p where
  tends : ∀ m, env.Tends (T m) p (.module m)
  releases : Releases S T
  locates : Locates S
  entered : ∀ w m c, S w none { w with trace := .entered m c :: w.trace }
  apart : ∀ w u, u.contexts = w.contexts → u.busy = w.busy → u.locations = w.locations →
    u.trace = w.trace → S w none u
  emptied : ∀ w m, m ∉ w.busy → S w none { w with contexts := w.contexts.erase (.module m) }
  filled : ∀ m w c, T m w none { w with contexts := w.contexts.set (.module m) c }

/-- A slot has taken a context, and the one before it has yet to go. -/
abbrev World.seating (w : World σ ν) (m : String) (c : Context σ) : World σ ν :=
  { w with contexts := w.contexts.set (.module m) c, busy := m :: w.busy,
           trace := .installed c.root.object :: w.trace }

/-- The logger is set, unless one was, and its records go to an interface. -/
abbrev World.boundTo (w : World σ ν) (t : TableId) : World σ ν :=
  { w with facade := w.facade.installed, sink := some t }

/-- An interface shows these handles. -/
abbrev World.published (w : World σ ν) (t : TableId) (base single : Option InstanceHandle) :
    World σ ν :=
  { w with
    loaded := w.loaded.modify t fun l =>
      { l with
        addonBase := InstanceHandle.toRaw base
        singleInstance := InstanceHandle.toRaw single } }

namespace Exports

theorem modifyLoaded_obeys (opens : env.Opens S T p) {t : TableId} {f : Loaded → Loaded} :
    Obeys S (Act.modifyLoaded t f : Act σ ν Unit) :=
  fun w => opens.apart w _ rfl rfl rfl rfl

theorem publish_obeys (opens : env.Opens S T p) {t : TableId} {base single : Option InstanceHandle} :
    Obeys S (publish t base single : Act σ ν Unit) :=
  modifyLoaded_obeys opens

theorem unbind_obeys (opens : env.Opens S T p) {t : TableId} :
    Obeys S (Act.unbind t : Act σ ν Unit) := by
  intro w
  rw [ensures_unbind]
  split
  · exact opens.apart w _ rfl rfl rfl rfl
  · exact opens.law.refl w

theorem registerFunctions_obeys (law : Law S) (talk : ∀ w u, w.Idle u → S w none u) {m : String}
    {t : TableId} (registered : ∀ w, S w none { w with
      loaded := w.loaded.modify t fun l => { l with addonTable := .full m } }) :
    Obeys S (registerFunctions m t : Act σ ν Bool) := by
  refine .bind law (Talks.loaded?.obeys talk) fun l => ?_
  cases l with
  | some l => exact .ite (.bind law registered fun _ => .pure law _) (.pure law _)
  | none => exact .pure law _

theorem install_obeys (opens : env.Opens S T p) {m : String} {c : Context σ} :
    Obeys S (install env m c) := by
  have law := opens.law
  intro w
  rw [install, ensures_bind, ensures_isBusy, ensures_ite]
  refine ⟨fun _ => ?_, fun free => ?_⟩
  · exact Obeys.bind law (Log.error_talks.obeys opens.talk)
      (fun _ => .bind law (Dispatch.dropContext_obeys opens.toPermits) fun _ => .pure law _) w
  · have tends := opens.tends m
    rw [ensures_bind]
    refine opens.releases.holding ?_ (by simpa using free)
    refine .bind tends.law (Idles.context?.obeys tends.talk) fun old =>
      .bind tends.law (fun w => opens.filled m w c) fun _ =>
        .bind tends.law (Dispatch.record_obeys tends.toPermits rfl) fun _ => ?_
    cases old with
    | some old =>
      exact .bind tends.law (Dispatch.dropContext_obeys tends.toPermits) fun _ =>
        Log.warn_talks.obeys tends.talk
    | none => exact .pure tends.law _

theorem construct_obeys (opens : env.Opens S T p) {m : String} {t : TableId} {api : Option CString} :
    Obeys S (construct env m t api) := by
  have law := opens.law
  refine .bind law (Log.debug_talks.obeys opens.talk) fun _ =>
    .bind law (Dispatch.build_obeys opens.toPermits) fun built => ?_
  cases built with
  | error e => exact .bind law (Log.error_talks.obeys opens.talk) fun _ => .pure law _
  | ok c =>
    refine .bind law (registerFunctions_obeys law opens.talk fun w => opens.apart w _ rfl rfl rfl rfl)
      fun registered => .ite ?_ ?_
    · exact .bind law (install_obeys opens) fun _ => .ite (.pure law _) (.pure law _)
    · exact .bind law (Log.error_talks.obeys opens.talk) fun _ =>
        .bind law (Dispatch.dropContext_obeys opens.toPermits) fun _ => .pure law _

/-- A slot that is free takes a context, and the one before it goes, or panics as it does. -/
theorem install_ends {m : String} {c : Context σ} {w : World σ ν} {P I : World σ ν → Prop}
    (free : m ∉ w.busy)
    (replaces : ∀ old, w.contexts.get? (.module m) = some old →
      Ensures (Dispatch.dropContext env old) (w.seating m c)
        (fun _ u => ∀ v, u.Idle v → P { v with busy := v.busy.erase m })
        fun e u => e ≠ .aborted → I { u with busy := u.busy.erase m })
    (fills : w.contexts.get? (.module m) = none → P { w.seating m c with busy := w.busy }) :
    Ensures (install env m c) w (fun installed u => installed = true ∧ P u)
      fun e u => e ≠ .aborted → I u := by
  rw [install, ensures_bind, ensures_isBusy, ensures_ite]
  refine ⟨fun busy => absurd (by simpa using busy) free, fun _ => ?_⟩
  rw [ensures_bind]
  refine Ensures.holding ?_
  rw [ensures_bind, ensures_context?, ensures_bind, ensures_setContext, ensures_bind, ensures_record]
  dsimp only
  split
  · next old here =>
    rw [ensures_bind]
    refine (replaces old here).mono (fun _ u ended => ?_) fun _ _ => id
    exact Log.warn_talks.ensures fun _ v idle => ⟨rfl, ended v idle⟩
  · next empty =>
    refine ⟨rfl, ?_⟩
    rw [List.erase_cons_head]
    exact fills empty

/-- A slot that is free takes a context, and the one before it goes. -/
theorem install_exits {m : String} {c : Context σ} {w : World σ ν} {P : World σ ν → Prop}
    (free : m ∉ w.busy)
    (replaces : ∀ old, w.contexts.get? (.module m) = some old →
      Ensures (Dispatch.dropContext env old) (w.seating m c)
        (fun _ u => ∀ v, u.Idle v → P { v with busy := v.busy.erase m }) fun e _ => e = .aborted)
    (fills : w.contexts.get? (.module m) = none → P { w.seating m c with busy := w.busy }) :
    Ensures (install env m c) w (fun installed u => installed = true ∧ P u)
      fun e _ => e = .aborted :=
  (install_ends (I := fun _ => False) free
    (fun old here => (replaces old here).aborts fun _ _ => id) fills).mono (fun _ _ => id)
      fun _ _ stopped => Classical.not_not.mp stopped

/-- The ways in which a construct can end: nothing was built, the interface has no table for functions,
or there is a context to install. -/
theorem construct_exits {m : String} {t : TableId} {api : Option CString} {w : World σ ν}
    {B R K : Context σ → World σ ν → Prop} {F : World σ ν → Prop} {E : Stop → World σ ν → Prop}
    (talk : ∀ u v, u.Idle v → F u → F v)
    (builds : ∀ u, w.Idle u → Ensures (Dispatch.build env m t) u
      (fun built v => match built with
        | .ok c => B c v
        | .error _ => F v) E)
    (registers : ∀ c u, B c u → Ensures (registerFunctions m t) u
      (fun registered v => if registered then R c v else B c v) E)
    (installs : ∀ c u, R c u → Ensures (install env m c) u
      (fun installed v => if installed then K c v else F v) E)
    (drops : ∀ c u v, B c u → u.Idle v → Ensures (Dispatch.dropContext env c) v (fun _ x => F x) E) :
    Ensures (construct env m t api) w
      (fun built u => match built with
        | .ok single => ∃ c : Context σ, single = (c.single.map fun _ => .root) ∧ K c u
        | .error _ => F u) E := by
  rw [construct]
  refine Log.debug_talks.before fun _ u idle => ?_
  rw [ensures_bind]
  refine (builds u idle).mono (fun built v ended => ?_) fun _ _ => id
  cases built with
  | error e => exact Log.error_talks.before fun _ x idle => talk v x idle ended
  | ok c =>
    rw [ensures_bind]
    refine (registers c v ended).mono (fun registered x ended => ?_) fun _ _ => id
    rw [ensures_ite]
    refine ⟨fun done => ?_, fun refused => ?_⟩
    · rw [if_pos done] at ended
      rw [ensures_bind]
      refine (installs c x ended).mono (fun installed y ended => ?_) fun _ _ => id
      rw [ensures_ite]
      refine ⟨fun done => ⟨c, rfl, ?_⟩, fun refused => ?_⟩
      · rwa [if_pos done] at ended
      · rwa [if_neg refused] at ended
    · rw [if_neg refused] at ended
      refine Log.error_talks.before fun _ y idle => ?_
      rw [ensures_bind]
      exact drops c x y ended idle

/-- What holds when a create comes back: the addon was constructed and told so, or log records do
not go to its interface any more. -/
theorem create_exits {m : String} {t : TableId} {api : Option CString} {w : World σ ν}
    {I : World σ ν → Prop} (talk : ∀ u v, u.Idle v → I u → I v)
    (constructed : Ensures (construct env m t api) (w.boundTo t)
      (fun built u => match built with
        | .ok single =>
          Ensures (do
            publish t (some .root) single
            withSlot m "create" .unknown (Dispatch.create env (.module m)) : Act σ ν Status) u
            (fun _ v => I v) fun e v => e ≠ .aborted → I v
        | .error _ => I (if u.sink = some t then { u with sink := none } else u))
      fun e u => e ≠ .aborted → I (if u.sink = some t then { u with sink := none } else u)) :
    Ensures (create env m (some t) api) w (fun _ u => I u) fun e _ => e = .aborted := by
  refine guard_ensures ?_
  dsimp only
  rw [ensures_bind, ensures_discard, Log.ensures_install, ensures_bind, ensures_setSink, ensures_bind,
    ensures_observe]
  refine constructed.mono (fun built u ended => ?_) fun e u stopped => ?_
  · cases built with
    | ok single =>
      exact Ensures.mono ended (fun _ _ => id) fun _ v kept going x idle => talk v x idle (kept going)
    | error status => exact ended
  · cases e with
    | aborted => exact fun going => absurd rfl going
    | unwinding p => exact fun going v idle => talk _ v idle (stopped going)

def Taken (m : String) (w : World σ ν) (taken : Option (Context σ)) (u : World σ ν) : Prop :=
  match taken with
  | some c => m ∉ w.busy ∧ w.contexts.get? (.module m) = some c ∧
    u = { w with contexts := w.contexts.erase (.module m) }
  | none => w.Idle u ∧ (m ∉ w.busy → w.contexts.get? (.module m) = none)

theorem take_ensures (m : String) (w : World σ ν) :
    Ensures (take m) w (Taken m w) fun _ _ => False := by
  rw [take, ensures_bind, ensures_isBusy, ensures_ite]
  refine ⟨fun busy => ?_, fun free => ?_⟩
  · have busy : m ∈ w.busy := by simpa using busy
    exact Log.error_talks.before fun _ _ idle => ⟨idle, (absurd busy ·)⟩
  · rw [ensures_bind, ensures_context?]
    cases here : w.contexts.get? (.module m) with
    | some c => exact ⟨by simpa using free, here, rfl⟩
    | none =>
      dsimp only
      exact Log.warn_talks.before fun _ _ idle => ⟨idle, fun _ => here⟩

/-- A law that allows what a destroy does around the end of a context. -/
theorem destroy_permitted (keeps : env.Keeps S p) {m : String}
    (destroyed : ∀ c, Obeys S (Dispatch.destroy env c))
    (emptied : ∀ w, m ∉ w.busy → S w none { w with contexts := w.contexts.erase (.module m) })
    (withdrawn : ∀ w c u, m ∉ w.busy → w.contexts.get? (.module m) = some c →
      S { w with contexts := w.contexts.erase (.module m) } none u →
      S w none (u.published c.root.site.table none none))
    (unbound : ∀ t, Obeys S (Act.unbind t : Act σ ν Unit)) : Obeys S (destroy env m) := by
  have law := keeps.law
  refine guard_obeys law keeps.talk fun w => ?_
  rw [ensures_bind]
  refine (take_ensures m w).mono (fun taken u ended => ?_) fun _ _ => False.elim
  cases taken with
  | none => exact keeps.talk w u ended.1
  | some c =>
    obtain ⟨free, here, rfl⟩ := ended
    rw [ensures_bind]
    refine (destroyed c _).mono (fun _ u dropped => ?_)
      fun _ _ stopped => law.trans (emptied w free) stopped
    rw [ensures_bind, publish, ensures_modifyLoaded]
    exact (unbound _).continues law (withdrawn w c u free here dropped)

theorem destroy_obeys (opens : env.Opens S T p) {m : String} : Obeys S (destroy env m) := by
  refine destroy_permitted opens.toKeeps (fun _ => Dispatch.destroy_obeys opens.toPermits)
    (fun w => opens.emptied w m) (fun w c u free _ dropped => ?_) fun _ => unbind_obeys opens
  exact opens.law.trans (opens.law.trans (opens.emptied w m free) dropped)
    (opens.apart u _ rfl rfl rfl rfl)

end Exports

theorem Env.Opens.serves_without (opens : env.Opens S T p) : env.Serves S T p False where
  toKeeps := opens.toKeeps
  seated m := (opens.tends m).lawful
  releases := opens.releases
  locates := opens.locates
  entered := opens.entered
  destroyed _ := Exports.destroy_obeys opens
  created := False.elim
  relinked := False.elim

namespace Exports

/-- A law that allows what a create does around constructing its addon and telling it so. -/
theorem create_permitted (keeps : env.Keeps S p) (bound : ∀ w t, S w none (World.boundTo w t))
    (unbound : ∀ w, S w none { w with sink := none }) {m : String} {table : Option TableId} {api : Option CString}
    (constructed : ∀ t, table = some t → ∀ w, Ensures (construct env m t api) w
      (fun built u => match built with
        | .ok single =>
          Ensures (do
            publish t (some .root) single
            withSlot m "create" .unknown (Dispatch.create env (.module m)) : Act σ ν Status) u
            (fun _ v => S w none v) fun e v => S w (some e) v
        | .error _ => S w none u)
      fun e u => S w (some e) u) :
    Obeys S (create env m table api) := by
  have law := keeps.law
  refine guard_obeys law keeps.talk ?_
  cases table with
  | none => exact .bind law (Log.error_talks.obeys keeps.talk) fun _ => .pure law _
  | some t =>
    intro w
    rw [ensures_bind, ensures_discard, Log.ensures_install, ensures_bind, ensures_setSink]
    refine Obeys.continues law (fun w => ?_) (bound w t)
    rw [ensures_bind, ensures_observe]
    refine (constructed t rfl w).mono (fun built u ended => ?_) fun e u stopped => ?_
    · cases built with
      | ok single => exact ended
      | error status =>
        dsimp only
        rw [ensures_bind, ensures_unbind]
        split
        · exact law.trans ended (unbound u)
        · exact ended
    · cases e with
      | aborted => exact stopped
      | unwinding q =>
        dsimp only
        rw [ensures_bind, ensures_unbind, ensures_throw]
        split
        · exact law.cleanup stopped (unbound u)
        · exact stopped

theorem create_obeys (opens : env.Opens S T p) {m : String} {t : Option TableId}
    {api : Option CString} : Obeys S (create env m t api) := by
  have law := opens.law
  refine create_permitted opens.toKeeps (fun w t => opens.apart w (w.boundTo t) rfl rfl rfl rfl)
    (fun w => opens.apart w _ rfl rfl rfl rfl) fun t _ w => ?_
  refine (construct_obeys opens w).mono (fun built u ended => ?_) fun _ _ => id
  cases built with
  | ok single =>
    refine Obeys.continues law (.bind law (publish_obeys opens) fun _ => ?_) ended
    exact withSlot_obeys opens.serves_without (Dispatch.create_obeys (opens.tends m))
  | error status => exact ended

end Exports

theorem Env.Opens.serves (opens : env.Opens S T p) : env.Serves S T p True where
  toKeeps := opens.toKeeps
  seated m := (opens.tends m).lawful
  releases := opens.releases
  locates := opens.locates
  entered := opens.entered
  destroyed _ := Exports.destroy_obeys opens
  created _ _ _ _ := Exports.create_obeys opens
  relinked _ w _ _ _ := opens.apart w _ rfl rfl rfl rfl

/-! ### Relations that calls keep to -/

namespace World

/-- Contexts that are there were there before, built at the same site. -/
def Sited (w u : World σ ν) : Prop :=
  ∀ seat c, u.contexts.get? seat = some c →
    ∃ c', w.contexts.get? seat = some c' ∧ c'.root.site = c.root.site

theorem Sited.same {w u : World σ ν} (contexts : u.contexts = w.contexts) : w.Sited u :=
  fun _ c here => ⟨c, contexts ▸ here, rfl⟩

theorem Sited.erased (w : World σ ν) (seat : Seat) :
    w.Sited { w with contexts := w.contexts.erase seat } := by
  intro other c found
  dsimp only at found
  rw [Assoc.get?_erase] at found
  split at found
  · contradiction
  · exact ⟨c, found, rfl⟩

theorem Sited.reseated {w : World σ ν} {seat : Seat} {c c' : Context σ}
    (here : w.contexts.get? seat = some c) (site : c'.root.site = c.root.site) :
    w.Sited { w with contexts := w.contexts.set seat c' } := by
  intro other d found
  dsimp only at found
  rw [Assoc.get?_set] at found
  split at found
  · next same =>
    cases found
    exact ⟨c, same ▸ here, site.symm⟩
  · exact ⟨d, found, rfl⟩

end World

/-- A relation with room for what calls do that create nothing: there are objects, events and
instances, and a slot that is not in use may lose its context, whose handles are taken back then. -/
structure World.Lenient (R : World σ ν → World σ ν → Prop) : Prop where
  refl : ∀ w, R w w
  trans : ∀ w u v, R w u → R u v → R w v
  stirs : ∀ w u, w.Stirs u → R w u
  raised : ∀ w d, R w { w with trace := .raised d :: w.trace }
  marked : ∀ w t, R w { w with
    loaded := w.loaded.modify t fun l => { l with createdByHand := true } }
  reseat : ∀ w seat c c', w.contexts.get? seat = some c → c'.root.object = c.root.object →
    c'.root.site = c.root.site → c'.single = c.single →
    R w { w with contexts := w.contexts.set seat c' }
  released : ∀ m w u, m ∉ w.busy → R { w with busy := m :: w.busy } u →
    R w { u with busy := u.busy.erase m }
  moved : ∀ w m locations, R w (w.setLocations m locations)
  emptied : ∀ w m, m ∉ w.busy → R w { w with contexts := w.contexts.erase (.module m) }
  withdrawn : ∀ w m c u, m ∉ w.busy → w.contexts.get? (.module m) = some c →
    R { w with contexts := w.contexts.erase (.module m) } u →
    R w (u.published c.root.site.table none none)
  unbound : ∀ w, R w { w with sink := none }

/-- Code that follows a conduct runs in an environment within a relation. -/
structure Env.Within (env : Env σ ν δ) (R : World σ ν → World σ ν → Prop) (p : Conduct σ) : Prop where
  modules : env.modules.Follow p
  quiet : env.IsQuiet
  nested : ∀ c, p.calls c → Obeys (Change.unlessAborted R) (env.nested c)

namespace World.Lenient

variable {R : World σ ν → World σ ν → Prop}

theorem law (lenient : Lenient R) : Law (Change.unlessAborted R) :=
  .of_preorder lenient.refl lenient.trans

theorem permits (lenient : Lenient R) (within : env.Within R p) :
    env.Permits (Change.unlessAborted R) p where
  law := lenient.law
  talk w u idle _ := lenient.stirs w u idle.stirs
  panic _ _ w _ := lenient.refl w
  modules := within.modules
  nested := within.nested
  quiet := within.quiet
  stirs w u stirs _ := lenient.stirs w u stirs

theorem tends (lenient : Lenient R) (within : env.Within R p) (seat : Seat) :
    env.Tends (Change.unlessAborted R) p seat where
  toPermits := lenient.permits within
  raised w d _ := lenient.raised w d
  reseat w c c' here object site single _ := lenient.reseat w seat c c' here object site single

theorem unbind_obeys (lenient : Lenient R) (t : TableId) :
    Obeys (Change.unlessAborted R) (Act.unbind t : Act σ ν Unit) := by
  intro w
  rw [ensures_unbind]
  split
  · exact fun _ => lenient.unbound w
  · exact fun _ => lenient.refl w

theorem serves (lenient : Lenient R) (within : env.Within R p) :
    env.Serves (Change.unlessAborted R) (fun _ => Change.unlessAborted R) p False where
  toKeeps := (lenient.permits within).toKeeps
  seated m := (lenient.tends within (.module m)).lawful
  releases.held m w _ u free going h _ := lenient.released m w u free (h going)
  releases.halted _ _ _ _ _ going := absurd rfl going
  locates := .of_free lenient.law fun _ _ _ _ => lenient.moved _ _ _
  entered _ _ _ _ := lenient.stirs _ _ (.record rfl)
  destroyed m :=
    Exports.destroy_permitted (lenient.permits within).toKeeps
      (fun _ => Dispatch.destroy_obeys (lenient.permits within))
      (fun w free _ => lenient.emptied w m free)
      (fun w c u free here dropped _ => lenient.withdrawn w m c u free here dropped.returned)
      lenient.unbind_obeys
  created := False.elim
  relinked := False.elim

/-- A call keeps to the relation, if it does when it is one of a create function. -/
theorem call_obeys (lenient : Lenient R) (within : env.Within R p) {m : String} {c : EntryCall}
    (creates : ∀ t api, c = .create t api →
      Obeys (Change.unlessAborted R) (Exports.call env m (.create t api))) :
    Obeys (Change.unlessAborted R) (Exports.call env m c) := by
  by_cases creating : ∃ t api, c = .create t api
  · obtain ⟨t, api, rfl⟩ := creating
    exact creates t api rfl
  · exact Exports.call_obeys (lenient.serves within) m fun t api same => creating ⟨t, api, same⟩

/-- All code runs within the relation, when calls of create functions keep to it. -/
theorem env_within (lenient : Lenient R) {modules : Modules σ ν δ} {unloading : Bool}
    (creates : ∀ depth, (Exports.env modules unloading depth).Within R {} →
      ∀ m t api, Obeys (Change.unlessAborted R)
        (Exports.call (Exports.env modules unloading depth) m (.create t api)))
    (depth : Nat) : (Exports.env modules unloading depth).Within R {} := by
  have within (depth : Nat)
      (nested : ∀ c, Obeys (Change.unlessAborted R)
        ((Exports.env modules unloading depth).nested c)) :
      (Exports.env modules unloading depth).Within R {} :=
    ⟨Modules.follow_free _, Exports.env_quiet modules unloading depth, fun c _ => nested c⟩
  refine within depth (Exports.env_obeys_calls lenient.law
    (fun w u idle _ => lenient.stirs w u idle.stirs) (fun w t _ => lenient.marked w t)
    (fun depth nested m c => ?_) depth)
  exact lenient.call_obeys (within depth nested) fun t api _ =>
    creates depth (within depth nested) m t api

end World.Lenient

end AddonBridge
