import AddonBridge.Proofs.Helpers

/-!
# Acts that only talk

Log records and the helpers through which code reaches its host leave all contexts, slots and
published handles as they were, and always come back with an answer.
-/

namespace AddonBridge

variable {σ ν δ α β : Type}

/-- What talking leaves in the trace. -/
def Event.IsTalk : Event ν → Prop
  | .host .. | .stubFreed | .note _ => True
  | _ => False

/-- The handles that an interface shows: of the root, and of the single instance. -/
def Loaded.handles (l : Loaded) : Option InstanceHandle × Option InstanceHandle :=
  (InstanceHandle.ofRaw? l.addonBase, InstanceHandle.ofRaw? l.singleInstance)

/-- The handles of a root, and of its single instance if it has one. -/
def Context.handles (c : Context σ) : Option InstanceHandle × Option InstanceHandle :=
  (some .root, c.single.map fun _ => .root)

namespace World

/-- The world after some talk, which may have changed the loaded addons. -/
def said (w : World σ ν) (loaded : Assoc TableId Loaded) (talk : List (Event ν)) : World σ ν :=
  { w with loaded, trace := talk ++ w.trace }

structure Idle (w u : World σ ν) : Prop where
  contexts : u.contexts = w.contexts
  busy : u.busy = w.busy
  facade : w.facade.Grows u.facade
  sink : u.sink = w.sink
  locations : u.locations = w.locations
  made : u.made = w.made
  loaded : ∀ t, (u.loaded.get? t).map Loaded.core = (w.loaded.get? t).map Loaded.core
  trace : ∃ talk, u.trace = talk ++ w.trace ∧ ∀ e ∈ talk, e.IsTalk

theorem Idle.refl (w : World σ ν) : w.Idle w :=
  ⟨rfl, rfl, .refl _, rfl, rfl, rfl, fun _ => rfl, [], rfl, by simp⟩

theorem Idle.trans {w u v : World σ ν} (first : w.Idle u) (second : u.Idle v) : w.Idle v := by
  obtain ⟨talk, before, quiet⟩ := first.trace
  obtain ⟨more, after, quiet'⟩ := second.trace
  refine ⟨second.contexts.trans first.contexts, second.busy.trans first.busy,
    first.facade.trans second.facade, second.sink.trans first.sink,
    second.locations.trans first.locations, second.made.trans first.made,
    fun t => (second.loaded t).trans (first.loaded t), more ++ talk, ?_, ?_⟩
  · rw [after, before, List.append_assoc]
  · intro e member
    rcases List.mem_append.mp member with h | h
    · exact quiet' e h
    · exact quiet e h

/-- A call that was given a location takes it away in the end. -/
theorem Idle.located {w u : World σ ν} {m : String} {out : Option UInt64}
    (h : (w.setLocations m (out :: w.locations m)).Idle u) :
    w.Idle (u.setLocations m (u.locations m).tail) :=
  ⟨h.contexts, h.busy, h.facade, h.sink, locations_tail h.locations, h.made, h.loaded, h.trace⟩

theorem Idle.record {w : World σ ν} {e : Event ν} (h : e.IsTalk) :
    w.Idle { w with trace := e :: w.trace } :=
  ⟨rfl, rfl, .refl _, rfl, rfl, rfl, fun _ => rfl, [e], rfl, by simpa using h⟩

theorem Idle.modifyLoaded {w : World σ ν} {t : TableId} {f : Loaded → Loaded}
    (h : ∀ l, w.loaded.get? t = some l → (f l).core = l.core) :
    w.Idle { w with loaded := w.loaded.modify t f } :=
  ⟨rfl, rfl, .refl _, rfl, rfl, rfl, Assoc.map_get?_modify _ t h, [], rfl, by simp⟩

/-- What talking depends on is the same in two worlds. -/
structure Matches (w w' : World σ ν) : Prop where
  loaded : w'.loaded = w.loaded
  facade : w'.facade = w.facade
  sink : w'.sink = w.sink
  heard : ∀ t, w'.heard t = w.heard t

theorem Matches.refl (w : World σ ν) : w.Matches w := ⟨rfl, rfl, rfl, fun _ => rfl⟩

theorem Matches.said {w w' : World σ ν} (alike : w.Matches w') (loaded : Assoc TableId Loaded)
    (talk : List (Event ν)) : (w.said loaded talk).Matches (w'.said loaded talk) := by
  refine ⟨rfl, alike.facade, alike.sink, fun t => ?_⟩
  have same : w'.trace.filterMap (Event.query? t) = w.trace.filterMap (Event.query? t) :=
    alike.heard t
  simp [World.heard, World.said, List.filterMap_append, same]

/-! ### Handles that interfaces show -/

def handles? (w : World σ ν) (t : TableId) : Option (Option InstanceHandle × Option InstanceHandle) :=
  (w.loaded.get? t).map Loaded.handles

theorem handles?_congr {w u : World σ ν}
    (h : ∀ t, (u.loaded.get? t).map Loaded.core = (w.loaded.get? t).map Loaded.core) (t : TableId) :
    u.handles? t = w.handles? t := by
  have handles : Loaded.handles = Loaded.handles ∘ Loaded.core := rfl
  rw [handles?, handles, ← Option.map_map, h, Option.map_map, handles?]
  rfl

theorem handles?_modify {w : World σ ν} {t : TableId} {f : Loaded → Loaded}
    (h : ∀ l, (f l).handles = l.handles) (s : TableId) :
    World.handles? { w with loaded := w.loaded.modify t f } s = w.handles? s :=
  Assoc.map_get?_modify _ t (fun l _ => h l) s

theorem handles?_publish {w : World σ ν} {t : TableId} {base single : Option InstanceHandle}
    (s : TableId) :
    World.handles? { w with
      loaded := w.loaded.modify t fun l => { l with
        addonBase := InstanceHandle.toRaw base, singleInstance := InstanceHandle.toRaw single } } s =
      if t = s then (w.handles? s).map fun _ => (base, single) else w.handles? s := by
  unfold handles?
  dsimp only
  rw [Assoc.get?_modify]
  split
  · cases w.loaded.get? s with
    | none => rfl
    | some l => simp [Loaded.handles, InstanceHandle.ofRaw?_toRaw]
  · rfl

end World

namespace Act

/-- An act that talks and comes back. -/
def Idles (act : Act σ ν α) : Prop := ∀ w, Ensures act w (fun _ u => w.Idle u) (fun _ _ => False)

namespace Idles

theorem pure {a : α} : Idles (Pure.pure a : Act σ ν α) := fun w => .refl w

theorem bind {act : Act σ ν α} {f : α → Act σ ν β} (h : Idles act) (hf : ∀ a, Idles (f a)) :
    Idles (act >>= f) := by
  intro w
  rw [ensures_bind]
  exact (h w).mono (fun a u first => (hf a u).mono (fun _ _ => first.trans) fun _ _ => id)
    fun _ _ => id

theorem get : Idles (MonadState.get : Act σ ν (World σ ν)) := fun w => .refl w

theorem context? {s : Seat} : Idles (Act.context? s : Act σ ν _) := fun w => .refl w

theorem isBusy {m : String} : Idles (Act.isBusy m : Act σ ν _) := fun w => .refl w

theorem ensures {act : Act σ ν α} {w : World σ ν} {Q : α → World σ ν → Prop}
    {E : Stop → World σ ν → Prop} (h : Idles act) (value : ∀ a u, w.Idle u → Q a u) :
    Ensures act w Q E :=
  (h w).mono value fun _ _ => False.elim

theorem quiet {act : Act σ ν α} (h : Idles act) : Quiet act :=
  fun _ => h.ensures fun _ _ _ => True.intro

theorem obeys {S : Change σ ν} {act : Act σ ν α} (talk : ∀ w u, w.Idle u → S w none u)
    (h : Idles act) : Obeys S act :=
  fun w => h.ensures fun _ u => talk w u

end Idles

/-- An act that talks and comes back, and what it does depends on nothing but the loaded addons, what
came to their hosts, and where log records go. -/
def Talks (act : Act σ ν α) : Prop :=
  ∀ w : World σ ν, ∃ a loaded talk, w.Idle (w.said loaded talk) ∧
    ∀ w' : World σ ν, w.Matches w' → act w' = .ok a (w'.said loaded talk)

namespace Talks

theorem pure {a : α} : Talks (Pure.pure a : Act σ ν α) := by
  refine fun w => ⟨a, w.loaded, [], .refl w, fun w' alike => ?_⟩
  rw [← alike.loaded]
  rfl

theorem bind {act : Act σ ν α} {f : α → Act σ ν β} (h : Talks act) (hf : ∀ a, Talks (f a)) :
    Talks (act >>= f) := by
  intro w
  obtain ⟨a, loaded, talk, idle, ends⟩ := h w
  obtain ⟨b, loaded', talk', idle', ends'⟩ := hf a (w.said loaded talk)
  have both (w' : World σ ν) :
      (w'.said loaded talk).said loaded' talk' = w'.said loaded' (talk' ++ talk) := by
    simp [World.said]
  refine ⟨b, loaded', talk' ++ talk, both w ▸ idle.trans idle', fun w' alike => ?_⟩
  rw [bind_of_ok (ends w' alike), ← both]
  exact ends' (w'.said loaded talk) (alike.said loaded talk)

theorem map {f : α → β} {act : Act σ ν α} (h : Talks act) : Talks (f <$> act) := by
  intro w
  obtain ⟨a, loaded, talk, idle, ends⟩ := h w
  exact ⟨f a, loaded, talk, idle, fun w' alike => map_of_ok (ends w' alike)⟩

theorem ite {c : Prop} [Decidable c] {x y : Act σ ν α} (hx : Talks x) (hy : Talks y) :
    Talks (if c then x else y) := by
  split
  · exact hx
  · exact hy

/-- An act that looks where log records go first. -/
theorem forked {act : Act σ ν α}
    (h : ∀ w : World σ ν, ∃ body : Act σ ν α, Talks body ∧ ∀ w' : World σ ν, w.Matches w' → act w' = body w') :
    Talks act := by
  intro w
  obtain ⟨body, talks, chosen⟩ := h w
  obtain ⟨a, loaded, talk, idle, ends⟩ := talks w
  refine ⟨a, loaded, talk, idle, fun w' alike => ?_⟩
  rw [chosen w' alike, ends w' alike]

theorem loaded? {t : TableId} : Talks (Act.loaded? t : Act σ ν _) := by
  refine fun w => ⟨w.loaded.get? t, w.loaded, [], .refl w, fun w' alike => ?_⟩
  rw [← alike.loaded]
  rfl

theorem record {e : Event ν} (h : e.IsTalk) : Talks (Act.record e : Act σ ν Unit) := by
  refine fun w => ⟨(), w.loaded, [e], .record h, fun w' alike => ?_⟩
  rw [← alike.loaded]
  rfl

theorem inquire {t : TableId} {q : Question} : Talks (Act.inquire t q : Act σ ν _) := by
  refine forked fun w => ?_
  cases here : w.loaded.get? t with
  | some l =>
    refine ⟨do
      Act.record (.host t (q.answered (l.host.answer (w.heard t) q)))
      return some (l.host.answer (w.heard t) q), .bind (.record True.intro) fun _ => .pure,
      fun w' alike => ?_⟩
    rw [Act.inquire_at (alike.loaded ▸ here), alike.heard]
    rfl
  | none =>
    exact ⟨Pure.pure none, .pure, fun w' alike => Act.inquire_none (alike.loaded ▸ here) q⟩

theorem modifyLoaded {t : TableId} {f : Loaded → Loaded} (h : ∀ l, (f l).core = l.core) :
    Talks (Act.modifyLoaded t f : Act σ ν Unit) := by
  refine fun w => ⟨(), w.loaded.modify t f, [], .modifyLoaded fun l _ => h l, fun w' alike => ?_⟩
  rw [← alike.loaded]
  rfl

theorem carries {t : TableId} : Carries t (@Talks σ ν) where
  pure _ := .pure
  bind := .bind
  loaded? := .loaded?
  modifyLoaded := .modifyLoaded
  inquire _ := .inquire
  shared _ := .record True.intro
  freed _ := .record True.intro

theorem idles {act : Act σ ν α} (h : Talks act) : Idles act := by
  intro w
  obtain ⟨a, loaded, talk, idle, ends⟩ := h w
  exact (ensures_ok (ends w (.refl w))).mpr idle

theorem ensures {act : Act σ ν α} {w : World σ ν} {Q : α → World σ ν → Prop}
    {E : Stop → World σ ν → Prop} (h : Talks act) (value : ∀ a u, w.Idle u → Q a u) :
    Ensures act w Q E :=
  h.idles.ensures value

/-- What follows a talking act is left to show, wherever the act leaves the world. -/
theorem before {act : Act σ ν α} {f : α → Act σ ν β} {w : World σ ν} {Q : β → World σ ν → Prop}
    {E : Stop → World σ ν → Prop} (h : Talks act)
    (rest : ∀ a u, w.Idle u → Ensures (f a) u Q E) : Ensures (act >>= f) w Q E := by
  rw [ensures_bind]
  exact h.ensures rest

theorem quiet {act : Act σ ν α} (h : Talks act) : Quiet act := h.idles.quiet

theorem obeys {S : Change σ ν} {act : Act σ ν α} (talk : ∀ w u, w.Idle u → S w none u)
    (h : Talks act) : Obeys S act :=
  h.idles.obeys talk

end Talks

end Act

open Act

/-! ### Log records -/

namespace Log

theorem toHost_talks {t : TableId} {level : LogLevel} {message : String} :
    Talks (toHost t level message : Act σ ν Bool) :=
  toHost_carried Talks.carries level message

theorem toSink_talks {level : LogLevel} {message : String} :
    Talks (toSink level message : Act σ ν Unit) := by
  refine Talks.forked fun w => ?_
  cases bound : w.sink with
  | some t =>
    refine ⟨discard (toHost t level message), .map toHost_talks, fun w' alike => ?_⟩
    refine (bind_of_ok rfl).trans ?_
    rw [alike.sink, bound]
  | none =>
    refine ⟨pure (), .pure, fun w' alike => ?_⟩
    refine (bind_of_ok rfl).trans ?_
    rw [alike.sink, bound]

theorem emit_talks {level : RecordLevel} {message : String} :
    Talks (emit level message : Act σ ν Unit) := by
  refine Talks.forked fun w => ?_
  by_cases passes : w.facade.passes level
  · refine ⟨toSink level.toHost message, toSink_talks, fun w' alike => ?_⟩
    refine (bind_of_ok rfl).trans ?_
    rw [alike.facade, if_pos passes]
  · refine ⟨pure (), .pure, fun w' alike => ?_⟩
    refine (bind_of_ok rfl).trans ?_
    rw [alike.facade, if_neg passes]

/-- Setting the logger is no talk, for what is said depends on it, but does nothing else. -/
theorem install_idles : Idles (install : Act σ ν Bool) :=
  fun w => ⟨rfl, rfl, .inr rfl, rfl, rfl, rfl, fun _ => rfl, [], rfl, by simp⟩

theorem error_talks {message : String} : Talks (error message : Act σ ν Unit) := emit_talks

theorem warn_talks {message : String} : Talks (warn message : Act σ ν Unit) := emit_talks

theorem debug_talks {message : String} : Talks (debug message : Act σ ν Unit) := emit_talks

end Log

theorem Act.Talks.converses {t : TableId} : Converses t (@Talks σ ν) :=
  { Talks.carries with
    emit := fun _ _ => Log.emit_talks
    stubFreed := .record True.intro }

/-! ### The helpers through which code reaches its host -/

namespace HostAccess

variable {t : TableId}

theorem firstInstance_talks : Talks (firstInstance t : Act σ ν _) :=
  firstInstance_carried Talks.converses

theorem call_talks (c : HostCall) : Talks (call t c : Act σ ν c.Answer) :=
  call_carried Talks.converses c

theorem callTable_talks {useBase keep : Bool} {c : TableCall} :
    Talks (callTable t useBase keep c : Act σ ν TableAnswer) :=
  callTable_carried Talks.converses c

theorem patch_talks {p : Patch} : Talks (patch t p : Act σ ν Bool) := by
  intro w
  have ended (w' : World σ ν) : patch t p w' =
      ((w'.loaded.get? t).bind (·.patch? p)).elim (.ok false w') fun l =>
        .ok true { w' with loaded := w'.loaded.modify t fun _ => l } := by
    refine (bind_of_ok rfl).trans ?_
    cases (w'.loaded.get? t).bind (·.patch? p) <;> rfl
  cases patched : (w.loaded.get? t).bind (·.patch? p) with
  | none =>
    refine ⟨false, w.loaded, [], .refl w, fun w' alike => ?_⟩
    rw [ended, alike.loaded, patched, ← alike.loaded]
    rfl
  | some l =>
    refine ⟨true, w.loaded.modify t fun _ => l, [], .modifyLoaded fun old here => ?_, ?_⟩
    · rw [here] at patched
      exact Loaded.core_patch patched
    · intro w' alike
      rw [ended, alike.loaded, patched]
      rfl

end HostAccess

/-! ### Commands -/

namespace Env

theorem isCreated_idles {module : String} : Idles (isCreated module : Act σ ν Bool) := by
  exact .bind .isBusy fun _ => .bind .context? fun _ => .pure

/-- Whatever code asks for, other than a call of a module, it only talks and gets an answer. -/
theorem perform_idles (env : Env σ ν δ) (module : String) (c : Command σ ν)
    (h : ∀ call, c ≠ .call call) : Idles (env.perform module c) := by
  match c with
  | .recall => exact .bind .get fun _ => .pure
  | .remember data =>
    exact fun w => ⟨rfl, rfl, .refl _, rfl, rfl, rfl, fun _ => rfl, [], rfl, by simp⟩
  | .note n => exact Talks.idles (.record True.intro)
  | .emit level message => exact Log.emit_talks.idles
  | .install => exact Log.install_idles
  | .isCreated m => exact isCreated_idles
  | .host t c => exact (HostAccess.call_talks c).idles
  | .table t useBase keep c => exact HostAccess.callTable_talks.idles
  | .patch t p => exact HostAccess.patch_talks.idles
  | .call c => exact absurd rfl (h c)

end Env

end AddonBridge
