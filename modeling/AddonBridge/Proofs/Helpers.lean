import AddonBridge.Machine.Execution
import AddonBridge.Proofs.Ensures

/-!
# What the helpers are made of

The helpers through which code reaches its host look an interface up, change what the host keeps with
it, ask the host, and write log records. A property of acts that these parts have, and that goes over
to acts made of such parts, is one that every helper has: `Carries` and `Converses` list the parts.
-/

namespace AddonBridge

open Act

variable {σ ν α β : Type} {t : TableId}

/-- The part of a loaded addon that talking leaves alone. -/
def Loaded.core (l : Loaded) : Loaded :=
  { l with outstanding := 0, hostTable := none, addonTableLinked := true }

theorem Loaded.core_patch {l l' : Loaded} {p : Patch} (h : l.patch? p = some l') :
    l'.core = l.core := by
  obtain ⟨table, -, rfl⟩ := Option.map_eq_some_iff.mp h
  cases p <;> rfl

namespace Act

/-- A property goes over from the functions behind a host's table to acts made of them. -/
structure Carries (t : TableId) (P : {α : Type} → Act σ ν α → Prop) : Prop where
  pure : ∀ {α : Type} (a : α), P (Pure.pure a : Act σ ν α)
  bind : ∀ {α β : Type} {act : Act σ ν α} {f : α → Act σ ν β}, P act → (∀ a, P (f a)) →
    P (act >>= f)
  loaded? : P (Act.loaded? t : Act σ ν _)
  modifyLoaded : ∀ {f : Loaded → Loaded}, (∀ l, (f l).core = l.core) →
    P (Act.modifyLoaded t f : Act σ ν Unit)
  inquire : ∀ q, P (Act.inquire t q : Act σ ν (Option q.Answer))
  shared : ∀ s, P (Act.record (.host t (.shared s)) : Act σ ν Unit)
  freed : ∀ s, P (Act.record (.host t (.freed s)) : Act σ ν Unit)

/-- A property goes over from talk to acts made of it. -/
structure Converses (t : TableId) (P : {α : Type} → Act σ ν α → Prop) : Prop
    extends Carries t P where
  emit : ∀ level message, P (Log.emit level message : Act σ ν Unit)
  stubFreed : P (Act.record .stubFreed : Act σ ν Unit)

variable {P : {α : Type} → Act σ ν α → Prop}

namespace Carries

theorem map (carries : Carries t P) (f : α → β) {act : Act σ ν α} (h : P act) : P (f <$> act) := by
  rw [← bind_pure_comp]
  exact carries.bind h fun _ => carries.pure _

theorem ite (_ : Carries t P) {c : Prop} [Decidable c] {x y : Act σ ν α} (hx : P x) (hy : P y) :
    P (if c then x else y) := by
  split
  · exact hx
  · exact hy

theorem hostTable? (carries : Carries t P) : P (Act.hostTable? t : Act σ ν _) :=
  carries.bind carries.loaded? fun _ => carries.pure _

end Carries

end Act

/-! ### The functions behind a host's table -/

namespace HostService

variable {P : {α : Type} → Act σ ν α → Prop} (carries : Carries t P) {hasBase hasOut : Bool}
include carries

theorem consult_carried (q : Question) : P (consult t hasBase q : Act σ ν _) :=
  carries.ite (carries.inquire q) (carries.pure _)

theorem share_carried (s : String) : P (share t s : Act σ ν CString) :=
  carries.bind (carries.modifyLoaded fun _ => rfl) fun _ =>
    carries.bind (carries.shared _) fun _ => carries.pure _

theorem shareText_carried (s : Option String) : P (shareText t s : Act σ ν _) := by
  cases s with
  | some s => exact carries.map some (share_carried carries s)
  | none => exact carries.pure _

theorem typeVersion_carried (ty : AddonType) : P (typeVersion t hasBase ty : Act σ ν _) :=
  carries.bind (consult_carried carries (.typeVersion ty)) fun s => shareText_carried carries s

theorem addonPath_carried : P (addonPath t hasBase : Act σ ν _) :=
  carries.bind (consult_carried carries .addonPath) fun s => shareText_carried carries s

theorem userPath_carried : P (userPath t hasBase : Act σ ν _) :=
  carries.bind (consult_carried carries .userPath) fun s => shareText_carried carries s

theorem log_carried (level : Int32) (message : Option CString) :
    P (log t hasBase level message : Act σ ν Unit) := by
  cases message with
  | some m => exact carries.map _ (consult_carried carries _)
  | none => exact carries.pure _

theorem lookup_carried (id : Option CString) : P (lookup t hasBase id : Act σ ν _) := by
  cases id with
  | some id => exact carries.bind (consult_carried carries _) fun _ => carries.pure _
  | none => exact carries.pure _

theorem getSetting_carried (kind : SettingKind) (id : Option CString) :
    P (getSetting t hasBase kind id hasOut : Act σ ν _) :=
  carries.bind (lookup_carried carries id) fun _ => carries.pure _

theorem getString_carried (id : Option CString) :
    P (getString t hasBase id hasOut : Act σ ν _) := by
  refine carries.bind (getSetting_carried carries .string id) fun found => ?_
  split
  · exact carries.map some (share_carried carries _)
  · exact carries.pure _

theorem setSetting_carried (id : Option CString) (v : Setting) :
    P (setSetting t hasBase id v : Act σ ν _) := by
  cases id with
  | some id => exact carries.bind (consult_carried carries _) fun _ => carries.pure _
  | none => exact carries.pure _

theorem setString_carried (id value : Option CString) :
    P (setString t hasBase id value : Act σ ν _) := by
  cases value with
  | some value => exact setSetting_carried carries id _
  | none => exact carries.pure _

theorem freeString_carried (s : Option CString) : P (freeString t hasBase s : Act σ ν Unit) := by
  cases s with
  | some s =>
    refine carries.bind carries.loaded? fun _ => carries.ite ?_ (carries.pure _)
    exact carries.bind (carries.modifyLoaded fun _ => rfl) fun _ => carries.freed s
  | none => exact carries.pure _

theorem interface_carried (name version : Option CString) :
    P (interface t hasBase name version : Act σ ν _) := by
  unfold interface
  split
  · exact carries.bind (consult_carried carries _) fun _ => carries.pure _
  · exact carries.pure _

end HostService

theorem Log.toHost_carried {P : {α : Type} → Act σ ν α → Prop} (carries : Carries t P)
    (level : LogLevel) (message : String) : P (toHost t level message : Act σ ν Bool) := by
  refine carries.bind carries.hostTable? fun table => ?_
  cases table with
  | some table =>
    exact carries.ite (carries.bind (HostService.log_carried carries _ _) fun _ => carries.pure _)
      (carries.pure _)
  | none => exact carries.pure _

/-! ### Log records -/

/-- The world after records came to the host behind an interface. -/
def World.logged (w : World σ ν) (t : TableId) (records : List (LogLevel × String)) : World σ ν :=
  { w with trace := records.map (fun r => .host t (.log r.1 r.2)) ++ w.trace }

/-- An interface offers a function for log records, and the host behind it can be told. -/
def Loaded.Hears (l : Loaded) : Prop :=
  ∃ table, l.hostTable = some table ∧ table.hasBase ∧ (table.provider .addonLogMsg).isSome

/-- What comes to the host of a message that is sent through its table. -/
def HostTable.heard (table : HostTable) (level : LogLevel) (message : String) :
    List (LogLevel × String) :=
  if (table.provider .addonLogMsg).isSome ∧ table.hasBase then
    [(level, (CString.strip message).text)]
  else []

theorem Act.inquire_at {w : World σ ν} {l : Loaded} (here : w.loaded.get? t = some l)
    (q : Question) :
    (inquire t q : Act σ ν _) w = .ok (some (l.host.answer (w.heard t) q))
      { w with trace := .host t (q.answered (l.host.answer (w.heard t) q)) :: w.trace } := by
  refine (bind_of_ok rfl).trans ?_
  rw [here]
  rfl

theorem Act.inquire_none {w : World σ ν} (gone : w.loaded.get? t = none) (q : Question) :
    (inquire t q : Act σ ν _) w = .ok none w := by
  refine (bind_of_ok rfl).trans ?_
  rw [gone]
  rfl

namespace Log

@[simp] theorem ensures_install {w : World σ ν} {Q : Bool → World σ ν → Prop}
    {E : Stop → World σ ν → Prop} : Ensures install w Q E ↔
      Q (w.facade.installed.logger = some .sink) { w with facade := w.facade.installed } := Iff.rfl

theorem toHost_at {w : World σ ν} {l : Loaded} {table : HostTable}
    (here : w.loaded.get? t = some l) (linked : l.hostTable = some table) (level : LogLevel)
    (message : String) :
    toHost t level message w =
      .ok (table.provider .addonLogMsg).isSome (w.logged t (table.heard level message)) := by
  have asked : (Act.hostTable? t : Act σ ν _) w = .ok (some table) w := by
    change EStateM.Result.ok ((w.loaded.get? t).bind (·.hostTable)) w = _
    rw [here, Option.bind_some, linked]
  rw [toHost, bind_of_ok asked]
  dsimp only
  by_cases offered : (table.provider .addonLogMsg).isSome
  · rw [if_pos offered, offered, HostTable.heard, HostService.log, HostService.consult,
      LogLevel.ofRaw?_toRaw]
    by_cases based : table.hasBase
    · have told := Act.inquire_at here (.log level (CString.strip message).text)
      rw [if_pos based, if_pos ⟨offered, based⟩]
      exact bind_of_ok (map_of_ok told)
    · rw [if_neg based, if_neg fun both => based both.2]
      rfl
  · rw [if_neg offered, HostTable.heard, if_neg fun both => offered both.1,
      Bool.eq_false_iff.mpr offered]
    rfl

/-- A message sent through an interface does nothing but reach the host there, if that hears it, and
nothing but that interface matters for it. -/
theorem toHost_logs (t : TableId) (level : LogLevel) (message : String) (w : World σ ν) :
    ∃ answer records,
      (∀ l, w.loaded.get? t = some l → l.Hears →
        answer = true ∧ records = [(level, (CString.strip message).text)]) ∧
      ∀ w' : World σ ν, w'.loaded.get? t = w.loaded.get? t →
        Ensures (toHost t level message) w' (fun a u => a = answer ∧ u = w'.logged t records)
          fun _ _ => False := by
  cases found : (w.loaded.get? t).bind (·.hostTable) with
  | none =>
    refine ⟨false, [], fun l here hears => ?_, fun w' same => ?_⟩
    · obtain ⟨table, present, -⟩ := hears
      rw [here, Option.bind_some, present] at found
      contradiction
    · rw [toHost, ensures_bind, ensures_hostTable?, same, found]
      exact ⟨rfl, rfl⟩
  | some table =>
    obtain ⟨l, here, present⟩ := Option.bind_eq_some_iff.mp found
    refine ⟨(table.provider .addonLogMsg).isSome, table.heard level message,
      fun l' here' hears => ?_, fun w' same => ?_⟩
    · cases here.symm.trans here'
      obtain ⟨table', present', base, offered⟩ := hears
      cases present.symm.trans present'
      exact ⟨offered, if_pos ⟨offered, base⟩⟩
    · exact (ensures_ok (toHost_at (same.trans here) present level message)).mpr ⟨rfl, rfl⟩

/-- A message sent through the sink reaches the host behind the interface that the sink is bound to, if
that hears it, and nobody else. -/
theorem toSink_logs (level : LogLevel) (message : String) (w : World σ ν) :
    ∃ t records, (records ≠ [] → w.sink = some t) ∧
      (∀ t' l, w.sink = some t' → w.loaded.get? t' = some l → l.Hears →
        records = [(level, (CString.strip message).text)]) ∧
      Ensures (toSink level message) w (fun _ u => u = w.logged t records) fun _ _ => False := by
  cases bound : w.sink with
  | none =>
    refine ⟨⟨0, 0⟩, [], fun some => absurd rfl some, by simp, ?_⟩
    rw [toSink, ensures_bind, ensures_get, bound]
    rfl
  | some t =>
    obtain ⟨answer, records, heard, sent⟩ := toHost_logs t level message w
    refine ⟨t, records, fun _ => rfl, fun t' l same here hears => ?_, ?_⟩
    · cases same
      exact (heard l here hears).2
    · rw [toSink, ensures_bind, ensures_get, bound]
      dsimp only
      rw [ensures_discard]
      exact (sent w rfl).mono (fun _ _ logged => logged.2) fun _ _ => id

/-- A record that the facade lets through goes to the sink, and others go nowhere. -/
theorem emit_logs (level : RecordLevel) (message : String) (w : World σ ν) :
    ∃ t records, (records ≠ [] → w.facade.passes level ∧ w.sink = some t) ∧
      (∀ t' l, w.sink = some t' → w.loaded.get? t' = some l → l.Hears → w.facade.passes level →
        records = [(level.toHost, (CString.strip message).text)]) ∧
      Ensures (emit level message) w (fun _ u => u = w.logged t records) fun _ _ => False := by
  by_cases passes : w.facade.passes level
  · obtain ⟨t, records, bound, heard, sent⟩ := toSink_logs level.toHost message w
    refine ⟨t, records, fun some => ⟨passes, bound some⟩,
      fun t' l same here hears _ => heard t' l same here hears, ?_⟩
    rwa [emit, ensures_bind, ensures_get, if_pos passes]
  · refine ⟨⟨0, 0⟩, [], fun some => absurd rfl some, fun _ _ _ _ _ on => absurd on passes, ?_⟩
    rw [emit, ensures_bind, ensures_get, if_neg passes]
    rfl

end Log

/-! ### The facade -/

namespace Facade

theorem passes_iff {f : Facade} {level : RecordLevel} :
    f.passes level ↔ f.logger = some .sink ∧
      ∃ max, f.maxLevel = some max ∧ level.verbosity ≤ max.verbosity := by
  simp [passes, Option.any_eq_true]

/-- What lets debug records pass lets all but trace records pass. -/
theorem passes_of_debug {f : Facade} (passes : f.passes .debug) {level : RecordLevel}
    (told : level ≠ .trace) : f.passes level := by
  obtain ⟨ours, max, found, enough⟩ := passes_iff.mp passes
  have less : level.verbosity ≤ RecordLevel.debug.verbosity := by
    cases level <;> first | decide | contradiction
  exact passes_iff.mpr ⟨ours, max, found, Nat.le_trans less enough⟩

/-- A facade whose logger is set stays as it is. -/
theorem installed_of_some {f : Facade} {logger : Logger} (set : f.logger = some logger) :
    f.installed = f := by
  rw [installed, set]
  rfl

theorem installed_installed (f : Facade) : f.installed.installed = f.installed := by
  cases set : f.logger with
  | none =>
    rw [installed.eq_def f, set]
    rfl
  | some logger => rw [installed_of_some set, installed_of_some set]

/-- The logger was set meanwhile, or nothing was done to the facade. -/
def Grows (f g : Facade) : Prop := g = f ∨ g = f.installed

theorem Grows.refl (f : Facade) : f.Grows f := .inl rfl

theorem Grows.trans {f g h : Facade} (first : f.Grows g) (second : g.Grows h) : f.Grows h := by
  rcases first with rfl | rfl
  · exact second
  · rcases second with rfl | rfl
    · exact .inr rfl
    · exact .inr (installed_installed f)

theorem Grows.of_some {f g : Facade} {logger : Logger} (grows : f.Grows g)
    (set : f.logger = some logger) : g = f := by
  rcases grows with same | same
  · exact same
  · rw [same, installed_of_some set]

theorem Grows.passes {f g : Facade} {level : RecordLevel} (grows : f.Grows g)
    (passes : f.passes level) : g.passes level := by
  rw [grows.of_some (passes_iff.mp passes).1]
  exact passes

end Facade

/-! ### The helpers -/

namespace HostAccess

variable {P : {α : Type} → Act σ ν α → Prop} (converses : Converses t P) {table : HostTable}
  {hasBase keep : Bool}
include converses

theorem offered_carried {f : HostFunction} {neutral : α} {k : HostTable → Provider → Act σ ν α}
    (h : ∀ table p, P (k table p)) : P (offered t f neutral k) := by
  refine converses.bind converses.hostTable? fun table => ?_
  cases table with
  | none => exact converses.pure _
  | some table =>
    dsimp only
    split
    · exact h table _
    · exact converses.bind (converses.emit _ _) fun _ => converses.pure _

theorem release_carried (s : CString) : P (release t table s : Act σ ν Unit) := by
  unfold release
  split
  · exact HostService.freeString_carried converses.toCarries _
  · exact converses.stubFreed
  · exact converses.emit _ _

theorem takeText_carried (s : Option CString) : P (takeText t table s : Act σ ν String) := by
  cases s with
  | some s => exact converses.bind (release_carried converses s) fun _ => converses.pure _
  | none => exact converses.pure _

theorem settingId?_carried (id : String) : P (settingId? id : Act σ ν _) := by
  unfold settingId?
  split
  · exact converses.pure _
  · exact converses.bind (converses.emit _ _) fun _ => converses.pure _

/-- A helper goes on with an identifier that has no NUL, or without one. -/
theorem withId_carried {id : String} {k : Option CString → Act σ ν α} (refused : P (k none))
    (h : ∀ id, P (k (some id))) : P (settingId? id >>= k) := by
  refine converses.bind (settingId?_carried converses id) fun found => ?_
  cases found with
  | none => exact refused
  | some id => exact h id

theorem firstInstance_carried : P (firstInstance t : Act σ ν _) :=
  converses.bind converses.loaded? fun _ => converses.pure _

theorem typeVersion_carried (ty : AddonType) : P (typeVersion t ty : Act σ ν _) :=
  offered_carried converses fun _ _ =>
    converses.bind (HostService.typeVersion_carried converses.toCarries ty) fun _ =>
      takeText_carried converses _

theorem addonPath_carried (segment : String) : P (addonPath t segment : Act σ ν _) := by
  refine converses.bind (offered_carried converses fun table p => ?_) fun _ => converses.pure _
  cases p with
  | host =>
    exact converses.bind (HostService.addonPath_carried converses.toCarries) fun _ =>
      takeText_carried converses _
  | stub s => exact converses.pure _

theorem userPath_carried (segment : String) : P (userPath t segment : Act σ ν _) :=
  converses.bind (offered_carried converses fun _ _ =>
    converses.bind (HostService.userPath_carried converses.toCarries) fun _ =>
      takeText_carried converses _) fun _ => converses.pure _

theorem fetchString_carried {p : Provider} {hasOut : Bool} (id : Option CString) :
    P (fetchString t table p id hasOut : Act σ ν _) := by
  unfold fetchString
  split
  · exact converses.bind (HostService.getString_carried converses.toCarries id) fun _ =>
      converses.pure _
  all_goals exact converses.pure _

theorem checkString_carried (id : String) : P (checkString t id : Act σ ν _) :=
  offered_carried converses fun _ _ => withId_carried converses (converses.pure _) fun _ =>
    converses.bind (fetchString_carried converses _) fun _ =>
      converses.bind (takeText_carried converses _) fun _ => converses.pure _

theorem check_carried (kind : SettingKind) (id : String) : P (check t kind id : Act σ ν _) := by
  unfold check
  split
  · exact converses.bind (checkString_carried converses id) fun _ => converses.pure _
  · exact offered_carried converses fun _ _ => withId_carried converses (converses.pure _) fun _ =>
      HostService.getSetting_carried converses.toCarries _ _

theorem setString_carried (id value : String) : P (setString t id value : Act σ ν _) := by
  refine offered_carried converses fun _ _ =>
    converses.bind (settingId?_carried converses id) fun found => ?_
  split
  · exact HostService.setString_carried converses.toCarries _ _
  · exact converses.bind (converses.emit _ _) fun _ => converses.pure _

theorem setSetting_carried (id : String) (value : Setting) :
    P (setSetting t id value : Act σ ν _) := by
  unfold setSetting
  split
  · exact setString_carried converses id _
  · exact offered_carried converses fun _ _ => withId_carried converses (converses.pure _) fun _ =>
      HostService.setSetting_carried converses.toCarries _ _

theorem interface_carried (name version : String) : P (interface t name version : Act σ ν _) := by
  refine offered_carried converses fun _ _ => ?_
  split
  · exact HostService.interface_carried converses.toCarries _ _
  · exact converses.pure _

theorem call_carried (c : HostCall) : P (call t c : Act σ ν c.Answer) := by
  cases c with
  | libPath => exact converses.bind converses.loaded? fun _ => converses.pure _
  | firstInstance => exact firstInstance_carried converses
  | typeVersion ty => exact typeVersion_carried converses ty
  | addonPath segment => exact addonPath_carried converses segment
  | userPath segment => exact userPath_carried converses segment
  | log level message => exact Log.toHost_carried converses.toCarries level message
  | check kind id => exact check_carried converses kind id
  | setting id default =>
    exact converses.bind (check_carried converses _ id) fun _ => converses.pure _
  | setSetting id value => exact setSetting_carried converses id value
  | interface name version => exact interface_carried converses name version

/-! ### Straight calls -/

theorem releaseUnlessKept_carried (s : Option CString) :
    P (releaseUnlessKept t table hasBase keep s : Act σ ν Unit) := by
  refine converses.ite (converses.pure _) ?_
  split
  · exact HostService.freeString_carried converses.toCarries _
  · exact converses.stubFreed
  · exact converses.pure _

/-- A string is given back, unless it is kept, before a call answers with it. -/
theorem givenBack_carried {act : Act σ ν α} {s : α → Option CString} {answer : α → TableAnswer}
    (h : P act) : P (do
      let a ← act
      releaseUnlessKept t table hasBase keep (s a)
      return answer a : Act σ ν TableAnswer) :=
  converses.bind h fun _ =>
    converses.bind (releaseUnlessKept_carried converses _) fun _ => converses.pure _

theorem provided_carried {p : Provider} (c : TableCall) :
    P (provided t table p hasBase keep c : Act σ ν TableAnswer) := by
  cases c with
  | getSetting kind id hasOut =>
    unfold provided
    split
    · exact givenBack_carried converses (fetchString_carried converses _)
    · refine converses.bind (HostService.getSetting_carried converses.toCarries _ _) fun found => ?_
      cases found <;> exact converses.pure _
    all_goals contradiction
  | setSetting id v =>
    exact converses.bind (HostService.setSetting_carried converses.toCarries _ _) fun _ =>
      converses.pure _
  | setString id v =>
    exact converses.bind (HostService.setString_carried converses.toCarries _ _) fun _ =>
      converses.pure _
  | log level message =>
    exact converses.bind (HostService.log_carried converses.toCarries _ _) fun _ => converses.pure _
  | interface name version =>
    exact converses.bind (HostService.interface_carried converses.toCarries _ _) fun _ =>
      converses.pure _
  | typeVersion ty =>
    exact givenBack_carried converses (HostService.typeVersion_carried converses.toCarries ty)
  | addonPath =>
    cases p with
    | host => exact givenBack_carried converses (HostService.addonPath_carried converses.toCarries)
    | stub s => exact givenBack_carried converses (converses.pure _)
  | userPath =>
    exact givenBack_carried converses (HostService.userPath_carried converses.toCarries)
  | freeNull =>
    cases p with
    | host =>
      exact converses.bind (HostService.freeString_carried converses.toCarries _) fun _ =>
        converses.pure _
    | stub s => exact converses.bind converses.stubFreed fun _ => converses.pure _

theorem callTable_carried {useBase : Bool} (c : TableCall) :
    P (callTable t useBase keep c : Act σ ν TableAnswer) := by
  refine converses.bind converses.hostTable? fun table => ?_
  cases table with
  | none => exact converses.pure _
  | some table =>
    dsimp only
    split
    · exact converses.pure _
    · exact provided_carried converses c

end HostAccess

end AddonBridge
