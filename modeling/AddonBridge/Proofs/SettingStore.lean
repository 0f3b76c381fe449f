import AddonBridge.Proofs.Helpers
import AddonBridge.Proofs.Texts

/-!
# Settings as a typed store

The helpers for settings, over a host that keeps the values it accepts. A value is read under the
identifier that it was accepted for, as the type that it has, and under no other identifier or type.
-/

namespace AddonBridge

variable {σ ν : Type} {w u : World σ ν} {t : TableId} {l : Loaded} {table : HostTable}

/-- A value that can be sent to a host: no NUL would cut it short. -/
def Setting.Fits : Setting → Prop
  | .string s => '\x00' ∉ s.toList
  | _ => True

instance : DecidablePred Setting.Fits := fun v => by
  unfold Setting.Fits
  split <;> infer_instance

/-- A value as an addon reads it: a text loses its NUL characters. -/
def Setting.clean : Setting → Setting
  | .string s => .string (String.ofList (s.toList.filter (· ≠ '\x00')))
  | v => v

theorem Setting.clean_of_fits {v : Setting} (fits : v.Fits) : v.clean = v := by
  cases v with
  | string s =>
    have kept : s.toList.filter (· ≠ '\x00') = s.toList :=
      List.filter_eq_self.mpr fun c member => decide_eq_true fun nul => fits (nul ▸ member)
    rw [clean, kept, String.ofList_toList]
  | _ => rfl

/-- Values of the types that lie in memory as they are read unchanged. -/
theorem Setting.filter_clean {kind : SettingKind} (plain : kind ≠ .string) (v : Option Setting) :
    (v.map clean).filter (·.kind = kind) = v.filter (·.kind = kind) := by
  cases v with
  | none => rfl
  | some v =>
    cases v with
    | string s => simp [clean, Option.filter, Setting.kind, plain.symm]
    | _ => rfl

/-- The host's own functions for settings, in a table that has its base pointer. -/
structure HostTable.Keeps (table : HostTable) : Prop where
  hasBase : table.hasBase = true
  getSetting : ∀ kind, table.provider (.getSetting kind) = some .host
  setSetting : ∀ kind, table.provider (.setSetting kind) = some .host

/-- An interface is as given, apart from how many strings are still out. -/
def World.Presents (w : World σ ν) (t : TableId) (l : Loaded) : Prop :=
  ∃ n, w.loaded.get? t = some { l with outstanding := n }

/-- The settings of a host. -/
abbrev Store := String → Option Setting

/-- What a host accepted under an identifier when it was asked something. -/
def HostQuery.kept? (id : String) : HostQuery → Option Setting
  | .setSetting other v accepted => if other = id ∧ accepted = true then some v else none
  | _ => none

/-- A host that keeps each value it accepts under its identifier; nothing else changes its settings. -/
def Host.Keeps (h : Host) : Prop :=
  ∀ past q id, h.answer (q :: past) (.setting id) = (q.kept? id).or (h.answer past (.setting id))

def Event.kept? (t : TableId) (id : String) (e : Event ν) : Option Setting :=
  (e.query? t).bind (·.kept? id)

/-- The identifier that a call for a setting is about. -/
def HostCall.settingId? : HostCall → Option String
  | .check _ id | .setting id _ | .setSetting id _ => some id
  | _ => none

open Act

/-! ### The settings of a host -/

/-- A host that accepts every value, and has some settings at the start. -/
def Host.accepting (settings : Assoc String Setting) : Host where
  answer
    | past, .setting id => (past.findSome? (·.kept? id)).or (settings.get? id)
    | _, .setSetting .. => true
    | _, q => q.neutral

theorem Host.accepting_keeps (settings : Assoc String Setting) : (accepting settings).Keeps := by
  intro past q id
  change ((q :: past).findSome? (·.kept? id)).or _ = (q.kept? id).or ((past.findSome? _).or _)
  rw [List.findSome?_cons, ← Option.or_assoc]
  cases q.kept? id <;> rfl

theorem Event.kept?_host {q : HostQuery} (unkept : ∀ id, q.kept? id = none) (t u : TableId)
    (id : String) : kept? (ν := ν) t id (.host u q) = none := by
  unfold kept? query?
  dsimp only
  split
  · exact unkept id
  · rfl

theorem Host.Keeps.recorded {h : Host} (keeps : h.Keeps) (e : Event ν) (w : World σ ν) (id : String) :
    h.answer (World.heard { w with trace := e :: w.trace } t) (.setting id) =
      (e.kept? t id).or (h.answer (w.heard t) (.setting id)) := by
  unfold World.heard Event.kept?
  rw [List.filterMap_cons]
  cases e.query? t with
  | none => rfl
  | some q => exact keeps _ q id

namespace World

/-- An interface is as given, and nothing was stored at its host since a world. -/
structure Reads (w : World σ ν) (t : TableId) (l : Loaded) (u : World σ ν) : Prop where
  presents : u.Presents t l
  unkept : ∃ es, u.trace = es ++ w.trace ∧ ∀ e ∈ es, ∀ id, Event.kept? t id e = none

variable {e : Event ν}

theorem Presents.reads (here : w.Presents t l) : w.Reads t l w := ⟨here, [], rfl, nofun⟩

theorem Reads.record (h : w.Reads t l u) (unkept : ∀ id, e.kept? t id = none) :
    w.Reads t l { u with trace := e :: u.trace } := by
  obtain ⟨here, es, grown, others⟩ := h
  refine ⟨here, e :: es, ?_, fun e' member => ?_⟩
  · rw [grown, List.cons_append]
  · rcases List.mem_cons.mp member with rfl | later
    · exact unkept
    · exact others e' later

theorem Reads.trans {v : World σ ν} (first : w.Reads t l u) (second : u.Reads t l v) :
    w.Reads t l v := by
  obtain ⟨-, es, grown, others⟩ := first
  obtain ⟨here, es', grown', others'⟩ := second
  refine ⟨here, es' ++ es, ?_, fun e member => ?_⟩
  · rw [grown', grown, List.append_assoc]
  · exact (List.mem_append.mp member).elim (others' e) (others e)

theorem Reads.counted {f : UInt64 → UInt64} (h : w.Reads t l u) :
    w.Reads t l { u with
      loaded := u.loaded.modify t fun l => { l with outstanding := f l.outstanding } } := by
  obtain ⟨⟨n, here⟩, unkept⟩ := h
  refine ⟨⟨f n, ?_⟩, unkept⟩
  dsimp only
  rw [Assoc.get?_modify, if_pos rfl, here]
  rfl

theorem Presents.logged (here : w.Presents t l) (t' : TableId)
    (records : List (LogLevel × String)) : w.Reads t l (w.logged t' records) := by
  refine ⟨here, _, rfl, fun e member => ?_⟩
  obtain ⟨r, -, rfl⟩ := List.mem_map.mp member
  exact Event.kept?_host (fun _ => rfl) t t'

theorem Presents.asked (here : w.Presents t l) (q : HostQuery) :
    Presents { w with trace := .host t q :: w.trace } t l := here

/-- The host behind an interface has the settings of a store. -/
structure Stores (w : World σ ν) (t : TableId) (l : Loaded) (s : Store) : Prop where
  presents : w.Presents t l
  settings : ∀ id, l.host.answer (w.heard t) (.setting id) = s id

variable {s : Store}

theorem Stores.reads (h : w.Stores t l s) (keeps : l.host.Keeps) (reads : w.Reads t l u) :
    u.Stores t l s := by
  obtain ⟨here, es, grown, unkept⟩ := reads
  refine ⟨here, fun id => ?_⟩
  have same (es : List (Event ν)) (unkept : ∀ e ∈ es, ∀ id, e.kept? t id = none) :
      l.host.answer (World.heard { w with trace := es ++ w.trace } t) (.setting id) = s id := by
    induction es with
    | nil => exact h.settings id
    | cons e es ih =>
      have later := ih fun e' member => unkept e' (List.mem_cons_of_mem _ member)
      rw [List.cons_append]
      refine (keeps.recorded e { w with trace := es ++ w.trace } id).trans ?_
      rw [unkept e List.mem_cons_self id, Option.none_or, later]
  rw [← same es unkept, heard, heard, grown]

end World

/-! ### Single calls -/

theorem Log.emit_reads (here : w.Presents t l) (level : RecordLevel) (message : String) :
    Ensures (Log.emit level message) w (fun _ u => w.Reads t l u) fun _ _ => False := by
  obtain ⟨t', records, -, -, sent⟩ := Log.emit_logs level message w
  refine sent.mono (fun _ _ logged => ?_) fun _ _ => id
  rw [logged]
  exact here.logged t' records

theorem HostService.consult_eq (here : w.Presents t l) (q : Question) :
    consult t true q w = .ok (some (l.host.answer (w.heard t) q))
      { w with trace := .host t (q.answered (l.host.answer (w.heard t) q)) :: w.trace } := by
  obtain ⟨n, here⟩ := here
  exact Act.inquire_at here q

namespace HostAccess

variable {α : Type} {f : HostFunction} {neutral : α} {k : HostTable → Provider → Act σ ν α}
  {p : Provider} {kind : SettingKind} {id : String} {c : CString} {v : Setting}
  {settings : Store}

theorem offered_eq (here : w.Presents t l) (linked : l.hostTable = some table)
    (provides : table.provider f = some p) : offered t f neutral k w = k table p w := by
  obtain ⟨n, here⟩ := here
  have found : (w.loaded.get? t).bind (·.hostTable) = some table := by rw [here]; exact linked
  have asked : (Act.hostTable? t : Act σ ν _) w = .ok (some table) w :=
    congrArg (EStateM.Result.ok · w) found
  rw [offered, bind_of_ok asked]
  dsimp only
  rw [provides]

theorem settingId?_eq (clean : '\x00' ∉ id.toList) (w : World σ ν) :
    ∃ c : CString, c.text = id ∧ (settingId? id : Act σ ν _) w = .ok (some c) w := by
  obtain ⟨c, crosses⟩ := CString.exists_ofText? clean
  refine ⟨c, CString.text_of_ofText? crosses, ?_⟩
  rw [settingId?, crosses]
  rfl

theorem release_ensures (here : w.Presents t l) (s : CString) :
    Ensures (release t table s) w (fun _ u => w.Reads t l u) fun _ _ => False := by
  rw [release]
  split
  · rw [HostService.freeString, ensures_bind, ensures_loaded?]
    cases table.hasBase with
    | false => exact here.reads
    | true =>
      obtain ⟨n, there⟩ := id here
      rw [there]
      exact (here.reads.counted (f := (· - 1))).record (Event.kept?_host (fun _ => rfl) t t)
  · exact here.reads.record fun _ => rfl
  · exact Log.emit_reads here _ _

/-- The host looks a setting up under the identifier that it is given. -/
theorem getSetting_eq (here : w.Presents t l) :
    HostService.getSetting t true kind (some c) true w =
      .ok ((l.host.answer (w.heard t) (.setting c.text)).filter (·.kind = kind))
        { w with trace := .host t (.setting c.text) :: w.trace } := by
  have looked : HostService.lookup t true (some c) w =
      .ok (l.host.answer (w.heard t) (.setting c.text))
        { w with trace := .host t (.setting c.text) :: w.trace } :=
    bind_of_ok (HostService.consult_eq here (.setting c.text))
  rw [HostService.getSetting, bind_of_ok looked]
  simp only [and_true]
  rfl

theorem asked_reads (here : w.Presents t l) (c : CString) :
    w.Reads t l { w with trace := .host t (.setting c.text) :: w.trace } :=
  here.reads.record (Event.kept?_host (fun _ => rfl) t t)

theorem getString_ensures (here : w.Presents t l) (c : CString) :
    Ensures (HostService.getString t true (some c) true) w (fun s u =>
      s.map (Setting.string ·.text) =
          ((l.host.answer (w.heard t) (.setting c.text)).map Setting.clean).filter
            (·.kind = .string) ∧
        w.Reads t l u)
      fun _ _ => False := by
  rw [HostService.getString, Ensures, bind_of_ok (getSetting_eq here), ← Ensures]
  have asked := asked_reads here c
  cases l.host.answer (w.heard t) (.setting c.text) with
  | none => exact ⟨rfl, asked⟩
  | some v =>
    cases v with
    | string s =>
      refine ⟨?_, (asked.counted (f := (· + 1))).record (Event.kept?_host (fun _ => rfl) t t)⟩
      rw [Option.map_some, CString.text_strip]
      rfl
    | _ => exact ⟨rfl, asked⟩

theorem takeText_ensures (here : w.Presents t l) (s : Option CString) :
    Ensures (takeText t table s) w (fun text u => text = CString.textOrEmpty s ∧ w.Reads t l u)
      fun _ _ => False := by
  cases s with
  | none => exact ⟨rfl, here.reads⟩
  | some s =>
    rw [takeText, ensures_bind]
    exact (release_ensures here s).mono (fun _ _ reads => ⟨rfl, reads⟩) fun _ _ => id

theorem checkString_ensures (here : w.Presents t l) (linked : l.hostTable = some table)
    (based : table.hasBase = true) (provides : table.provider (.getSetting .string) = some .host)
    (clean : '\x00' ∉ id.toList) :
    Ensures (checkString t id) w (fun found u =>
      found.map Setting.string =
          ((l.host.answer (w.heard t) (.setting id)).map Setting.clean).filter (·.kind = .string) ∧
        w.Reads t l u)
      fun _ _ => False := by
  obtain ⟨c, rfl, sent⟩ := settingId?_eq clean w
  rw [Ensures, checkString, offered_eq here linked provides, bind_of_ok sent, ← Ensures]
  dsimp only
  rw [fetchString, ensures_bind, ensures_bind, based]
  refine (getString_ensures here c).mono ?_ fun _ _ => id
  rintro s u ⟨given, asked⟩
  rw [ensures_pure, ensures_bind, ← given]
  refine (takeText_ensures asked.presents s).mono ?_ fun _ _ => id
  rintro text v ⟨rfl, taken⟩
  refine ⟨?_, asked.trans taken⟩
  cases s <;> rfl

/-- Values that are no texts are the host's answer itself. -/
theorem check_eq (here : w.Presents t l) (linked : l.hostTable = some table) (keeps : table.Keeps)
    (plain : kind ≠ .string) (clean : '\x00' ∉ id.toList) :
    ∃ c : CString, c.text = id ∧
      check t kind id w = HostService.getSetting t true kind (some c) true w := by
  obtain ⟨c, same, sent⟩ := settingId?_eq clean w
  refine ⟨c, same, ?_⟩
  cases kind with
  | string => exact absurd rfl plain
  | _ =>
    unfold check
    dsimp only
    rw [offered_eq here linked (keeps.getSetting _), bind_of_ok sent, keeps.hasBase]

theorem check_ensures (here : w.Presents t l) (linked : l.hostTable = some table) (keeps : table.Keeps)
    (clean : '\x00' ∉ id.toList) (kind : SettingKind) :
    Ensures (check t kind id) w (fun found u =>
      found = ((l.host.answer (w.heard t) (.setting id)).map Setting.clean).filter (·.kind = kind) ∧
        w.Reads t l u)
      fun _ _ => False := by
  by_cases text : kind = .string
  · subst text
    exact (ensures_map ..).mpr
      (checkString_ensures here linked keeps.hasBase (keeps.getSetting .string) clean)
  · obtain ⟨c, rfl, ends⟩ := check_eq here linked keeps text clean
    rw [Ensures, ends, getSetting_eq here, Setting.filter_clean text]
    exact ⟨rfl, asked_reads here c⟩

theorem setting_ensures (here : w.Presents t l) (linked : l.hostTable = some table)
    (keeps : table.Keeps) (clean : '\x00' ∉ id.toList) (default : Setting) :
    Ensures (setting t id default) w (fun v u =>
      v = (((l.host.answer (w.heard t) (.setting id)).map Setting.clean).filter
          (·.kind = default.kind)).getD default ∧ w.Reads t l u)
      fun _ _ => False := by
  rw [setting, ensures_bind]
  refine (check_ensures here linked keeps clean default.kind).mono ?_ fun _ _ => False.elim
  rintro found u ⟨rfl, reads⟩
  exact ⟨rfl, reads⟩

theorem store_eq (here : w.Presents t l) (c : CString) (v : Setting) :
    HostService.setSetting t true (some c) v w =
      .ok (l.host.answer (w.heard t) (.setSetting c.text v))
        { w with
          trace := .host t (.setSetting c.text v
            (l.host.answer (w.heard t) (.setSetting c.text v))) :: w.trace } :=
  bind_of_ok (HostService.consult_eq here (.setSetting c.text v))

/-- A value that can be sent goes to the host as it is. -/
theorem setSetting_eq (here : w.Presents t l) (linked : l.hostTable = some table) (keeps : table.Keeps)
    (clean : '\x00' ∉ id.toList) (fits : v.Fits) :
    ∃ c : CString, c.text = id ∧
      setSetting t id v w = HostService.setSetting t true (some c) v w := by
  obtain ⟨c, same, sent⟩ := settingId?_eq clean w
  refine ⟨c, same, ?_⟩
  unfold setSetting
  cases v with
  | string s =>
    obtain ⟨value, crosses⟩ := CString.exists_ofText? fits
    dsimp only
    rw [setString, offered_eq here linked (keeps.setSetting _), bind_of_ok sent, keeps.hasBase,
      crosses]
    dsimp only
    rw [HostService.setString, CString.text_of_ofText? crosses]
  | _ =>
    dsimp only
    rw [offered_eq here linked (keeps.setSetting _), bind_of_ok sent, keeps.hasBase]

theorem setString_unfit (here : w.Presents t l) (linked : l.hostTable = some table)
    (keeps : table.Keeps) (clean : '\x00' ∉ id.toList) {s : String} (nul : '\x00' ∈ s.toList) :
    Ensures (setString t id s) w (fun accepted u => accepted = false ∧ w.Reads t l u)
      fun _ _ => False := by
  obtain ⟨c, -, sent⟩ := settingId?_eq clean w
  rw [Ensures, setString, offered_eq here linked (keeps.setSetting .string), bind_of_ok sent,
    CString.ofText?_of_nul nul, ← Ensures]
  dsimp only
  rw [ensures_bind]
  exact (Log.emit_reads here _ _).mono (fun _ u reads => ⟨rfl, reads⟩) fun _ _ => False.elim

theorem setSetting_ensures (here : w.Stores t l settings) (store : l.host.Keeps)
    (linked : l.hostTable = some table) (keeps : table.Keeps) (clean : '\x00' ∉ id.toList)
    (v : Setting) :
    Ensures (setSetting t id v) w (fun accepted u =>
      accepted = (decide v.Fits && l.host.answer (w.heard t) (.setSetting id v)) ∧
        u.Stores t l fun other =>
          ((HostQuery.setSetting id v accepted).kept? other).or (settings other))
      fun _ _ => False := by
  by_cases fits : v.Fits
  · obtain ⟨c, rfl, ends⟩ := setSetting_eq here.presents linked keeps clean fits
    rw [Ensures, ends, store_eq here.presents, decide_eq_true fits, Bool.true_and]
    refine ⟨rfl, here.presents, fun other => ?_⟩
    refine (store.recorded _ w other).trans ?_
    rw [here.settings other, Event.kept?, Event.query?, if_pos rfl, Option.bind_some]
  · rw [decide_eq_false fits, Bool.false_and]
    cases v with
    | string s =>
      refine (setString_unfit here.presents linked keeps clean (Decidable.not_not.mp fits)).mono ?_
        fun _ _ => False.elim
      rintro accepted u ⟨rfl, reads⟩
      exact ⟨rfl, by simpa [HostQuery.kept?] using here.reads store reads⟩
    | _ => exact absurd True.intro fits

end HostAccess

/-! ### Runs of calls -/

/-- An answered call. -/
abbrev Answered := Σ c : HostCall, c.Answer

namespace Answered

/-- The value that a call stored under an identifier. -/
def stored? (id : String) : Answered → Option Setting
  | ⟨.setSetting other v, accepted⟩ => (HostQuery.setSetting other v accepted).kept? id
  | _ => none

/-- The settings after a call. -/
def keep (settings : Store) (a : Answered) : Store := fun id => (stored? id a).or (settings id)

/-- The latest value that was stored under an identifier. -/
def latest? (id : String) (answers : List Answered) : Option Setting :=
  (answers.filterMap (stored? id)).getLast?

/-- What an addon reads under an identifier after answered calls: the latest value stored there, or
what the host had at the start without the NUL characters. -/
def read? (settings : Store) (answers : List Answered) (id : String) : Option Setting :=
  (latest? id answers).or ((settings id).map .clean)

/-- The answer to a call fits the values that were stored before it and, if it stores one itself, what
the host decides about it, in view of what came to it by then. -/
def Fits (h : Host) (past : List HostQuery) (settings : Store) (before : List Answered) :
    Answered → Prop
  | ⟨.check kind id, found⟩ => found = (read? settings before id).filter (·.kind = kind)
  | ⟨.setting id default, v⟩ =>
    v = ((read? settings before id).filter (·.kind = default.kind)).getD default
  | ⟨.setSetting id v, accepted⟩ =>
    accepted = (decide v.Fits && h.answer past (.setSetting id v))
  | _ => True

variable {h : Host} {past later : List HostQuery} {settings : Store} {a : Answered}
  {before : List Answered}

theorem fits_of_stored (fits : a.Fits h past settings before) {id : String} {v : Setting}
    (stored : stored? id a = some v) : v.Fits := by
  obtain ⟨c, answer⟩ := a
  cases c with
  | setSetting other v' =>
    obtain ⟨⟨-, accepted⟩, same⟩ := Option.ite_none_right_eq_some.mp stored
    cases same
    have allowed : (decide v.Fits && h.answer past (.setSetting other v)) = true :=
      fits.symm.trans accepted
    exact of_decide_eq_true (Bool.and_eq_true_iff.mp allowed).1
  | _ => cases stored

theorem latest?_cons (id : String) (a : Answered) (before : List Answered) :
    latest? id (a :: before) = (latest? id before).or (stored? id a) := by
  rw [latest?, List.filterMap_cons]
  cases stored? id a with
  | none => exact (Option.or_none).symm
  | some v =>
    dsimp only
    rw [List.getLast?_cons, ← latest?]
    cases latest? id before <;> rfl

theorem foldl_keep (answers : List Answered) (settings : Store) (id : String) :
    answers.foldl keep settings id = (latest? id answers).or (settings id) := by
  induction answers generalizing settings with
  | nil => rfl
  | cons a answers ih => rw [List.foldl_cons, ih, latest?_cons, keep, Option.or_assoc]

/-- What was stored is read as it is, so it may as well have been there at the start. -/
theorem read?_cons (fits : a.Fits h past settings []) (before : List Answered) (id : String) :
    read? settings (a :: before) id = read? (keep settings a) before id := by
  rw [read?, latest?_cons, read?, keep, Option.or_assoc]
  congr 1
  cases stored : stored? id a with
  | none => rfl
  | some v => exact (congrArg some (Setting.clean_of_fits (fits_of_stored fits stored))).symm

theorem Fits.cons {b : Answered} (fits : a.Fits h past settings [])
    (after : b.Fits h later (keep settings a) before) : b.Fits h later settings (a :: before) := by
  obtain ⟨c, answer⟩ := b
  cases c with
  | check kind id => rwa [Fits, read?_cons fits]
  | setting id default => rwa [Fits, read?_cons fits]
  | setSetting id v => exact after
  | _ => exact True.intro

end Answered

namespace HostAccess

/-- A call to a host, with its answer. -/
def ask (t : TableId) (c : HostCall) : Act σ ν Answered := Sigma.mk c <$> call t c

def asks (t : TableId) (calls : List HostCall) : Act σ ν (List Answered) := calls.mapM (ask t)

variable {settings : Store} {c : HostCall} {id : String}

theorem ask_ensures (here : w.Stores t l settings) (store : l.host.Keeps)
    (linked : l.hostTable = some table) (keeps : table.Keeps) (about : c.settingId? = some id)
    (clean : '\x00' ∉ id.toList) :
    Ensures (ask t c) w (fun a u => a.1 = c ∧ a.Fits l.host (w.heard t) settings [] ∧
      u.Stores t l (a.keep settings)) fun _ _ => False := by
  have read (id : String) :
      ((l.host.answer (w.heard t) (.setting id)).map Setting.clean) =
        Answered.read? settings [] id := by
    rw [here.settings id]
    rfl
  rw [ask, ensures_map]
  cases c with
  | check kind other =>
    cases about
    refine (check_ensures here.presents linked keeps clean kind).mono ?_ fun _ _ => False.elim
    rintro found u ⟨rfl, reads⟩
    exact ⟨rfl, congrArg (Option.filter _) (read id), here.reads store reads⟩
  | setting other default =>
    cases about
    refine (setting_ensures here.presents linked keeps clean default).mono ?_ fun _ _ => False.elim
    rintro v u ⟨rfl, reads⟩
    exact ⟨rfl, by rw [read id, Answered.Fits], here.reads store reads⟩
  | setSetting other v =>
    cases about
    exact (setSetting_ensures here store linked keeps clean v).mono (fun _ _ => .intro rfl)
      fun _ _ => False.elim
  | _ => cases about

/-- The answer to each of some calls fits the ones before it, in the world that they lead to. -/
def Consistent (w : World σ ν) (t : TableId) (h : Host) (settings : Store) (calls : List HostCall)
    (answers : List Answered) : Prop :=
  ∀ (i : Nat) (a : Answered), answers[i]? = some a →
    ∃ v, asks t (calls.take i) w = .ok (answers.take i) v ∧
      a.Fits h (v.heard t) settings (answers.take i)

theorem asks_ensures (here : w.Stores t l settings) (store : l.host.Keeps)
    (linked : l.hostTable = some table) (keeps : table.Keeps) (calls : List HostCall)
    (about : ∀ c ∈ calls, ∃ id, c.settingId? = some id ∧ '\x00' ∉ id.toList) :
    Ensures (asks t calls) w (fun answers u => answers.map (·.1) = calls ∧
      Consistent w t l.host settings calls answers ∧
      u.Stores t l (answers.foldl Answered.keep settings)) fun _ _ => False := by
  induction calls generalizing w settings with
  | nil =>
    rw [asks, List.mapM_nil, ensures_pure]
    exact ⟨rfl, fun i a answered => by simp at answered, here⟩
  | cons c calls ih =>
    obtain ⟨id, asked, clean⟩ := about c List.mem_cons_self
    rw [asks, List.mapM_cons, ensures_bind]
    refine ((ask_ensures here store linked keeps asked clean).and (.eq _)).mono ?_
      fun _ _ stopped => stopped.1
    rintro a u ⟨⟨same, fits, here⟩, ended⟩
    rw [ensures_bind]
    refine (ih here fun q member => about q (List.mem_cons_of_mem _ member)).mono ?_
      fun _ _ => False.elim
    rintro answers v ⟨called, typed, kept⟩
    refine ⟨by rw [List.map_cons, same, called], fun i b answered => ?_, kept⟩
    cases i with
    | zero =>
      cases answered
      exact ⟨w, rfl, fits⟩
    | succ i =>
      obtain ⟨x, asked, fits'⟩ := typed i b answered
      refine ⟨x, ?_, fits.cons fits'⟩
      rw [List.take_succ_cons, List.take_succ_cons, asks, List.mapM_cons, bind_of_ok ended]
      exact bind_of_ok asked

/-- What answered calls say of the settings that a host had at the start. -/
structure Typed (w : World σ ν) (t : TableId) (h : Host) (calls : List HostCall)
    (answers : List Answered) : Prop where
  called : answers.map (·.1) = calls
  fits : Consistent w t h (fun id => h.answer (w.heard t) (.setting id)) calls answers
  /-- What one call stores is read under its own identifier only. -/
  others : ∀ (settings : Store) (i : Nat) (id : String) (v : Setting) (accepted : Bool)
    (other : String), answers[i]? = some ⟨.setSetting id v, accepted⟩ → other ≠ id →
      Answered.read? settings (answers.take (i + 1)) other =
        Answered.read? settings (answers.take i) other
  /-- The host gets different strings for different identifiers. -/
  apart : ∀ id other, '\x00' ∉ id.toList → CString.ofText? id = CString.ofText? other → id = other

/-- Calls for settings always come back, and what each of them reads is the latest value that the host
accepted for its very identifier, if that has the right type. The host keeps those values. -/
theorem asks_typed (here : w.loaded.get? t = some l) (linked : l.hostTable = some table)
    (keeps : table.Keeps) (store : l.host.Keeps) (calls : List HostCall)
    (about : ∀ c ∈ calls, ∃ id, c.settingId? = some id ∧ '\x00' ∉ id.toList) :
    ∃ answers u, asks t calls w = .ok answers u ∧ Typed w t l.host calls answers ∧
      u.Stores t l fun id =>
        (Answered.latest? id answers).or (l.host.answer (w.heard t) (.setting id)) := by
  have start : w.Stores t l fun id => l.host.answer (w.heard t) (.setting id) :=
    ⟨⟨l.outstanding, here⟩, fun _ => rfl⟩
  obtain ⟨answers, u, ended, called, fits, kept⟩ :=
    (asks_ensures start store linked keeps calls about).returns
  refine ⟨answers, u, ended, ⟨called, fits, ?_, ?_⟩, kept.presents, fun id => ?_⟩
  · intro settings i id v accepted other answered different
    have unstored : Answered.stored? other ⟨.setSetting id v, accepted⟩ = none :=
      if_neg fun stored => different stored.1.symm
    rw [List.take_add_one, answered, Answered.read?, Answered.latest?, List.filterMap_append,
      Option.toList_some, List.filterMap_cons, unstored, List.filterMap_nil, List.append_nil]
    rfl
  · intro id other clean same
    obtain ⟨c, crosses⟩ := CString.exists_ofText? clean
    exact (CString.text_of_ofText? crosses).symm.trans
      (CString.text_of_ofText? (same.symm.trans crosses))
  · rw [kept.settings id, Answered.foldl_keep]

/-- A text from the host is read without its NUL, until the host accepts a number in its place. -/
theorem asks_typed_replaced :
    let l : Loaded := {
      module := "m", libPath := .empty, host := .accepting [("a", .string "x\x00y")] }
    let w : World Unit Unit := { memory := fun _ => (), loaded := [(⟨0, 0⟩, l)] }
    let calls := [.check .string "a", .setSetting "a" (.int 5), .check .int "a"]
    ∃ u, asks ⟨0, 0⟩ calls w = .ok [⟨.check .string "a", some (.string "xy")⟩,
      ⟨.setSetting "a" (.int 5), true⟩, ⟨.check .int "a", some (.int 5)⟩] u := by
  intro l w calls
  have about : ∀ c ∈ calls, ∃ id, c.settingId? = some id ∧ '\x00' ∉ id.toList := by
    have named : ∀ c ∈ calls, c.settingId? = some "a" := by simp [calls, HostCall.settingId?]
    exact fun c member => ⟨"a", named c member, by decide⟩
  obtain ⟨answers, u, ended, typed, -⟩ := asks_typed (w := w) (t := ⟨0, 0⟩) (l := l) rfl rfl
    ⟨rfl, fun _ => rfl, fun _ => rfl⟩ (Host.accepting_keeps _) calls about
  obtain ⟨⟨_, first⟩, _, rfl, rfl, others⟩ := List.map_eq_cons_iff.mp typed.called
  obtain ⟨⟨_, second⟩, _, rfl, rfl, others'⟩ := List.map_eq_cons_iff.mp others
  obtain ⟨⟨_, third⟩, _, rfl, rfl, none_left⟩ := List.map_eq_cons_iff.mp others'
  cases List.map_eq_nil_iff.mp none_left
  obtain ⟨_, -, fits⟩ := typed.fits 0 _ rfl
  have first_eq : first = some (.string "xy") := fits.trans rfl
  subst first_eq
  obtain ⟨_, -, fits⟩ := typed.fits 1 _ rfl
  have second_eq : second = true := fits.trans rfl
  subst second_eq
  obtain ⟨_, -, fits⟩ := typed.fits 2 _ rfl
  have third_eq : third = some (.int 5) := fits.trans rfl
  subst third_eq
  exact ⟨u, ended⟩

end HostAccess

end AddonBridge
