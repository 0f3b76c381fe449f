import AddonBridge.Proofs.Reentry
import AddonBridge.Proofs.Transport
import AddonBridge.Text.Quoted

/-!
# Settings that cannot be sent

A NUL would cut an identifier or a text short, so the helpers for settings look for one before they
ask the host. `screens_settings` says for which identifiers and values the host is asked, and which
warnings there are for the others. The helper for texts looks at both of its strings at once and
warns about the value in either case; `setString_warns_of_value` is such a warning about a value
that could be sent.
-/

namespace AddonBridge

variable {σ ν : Type} {w u v : World σ ν} {t : TableId} {l : Loaded} {table : HostTable}
  {id s : String}

/-! ### Quoted texts -/

namespace Text

theorem digitChar_ne_nul (n : Nat) : Nat.digitChar n ≠ '\x00' := by
  fun_cases Nat.digitChar n
  all_goals decide

theorem hex_clean (n : Nat) : '\x00' ∉ (hex n).toList := by
  rw [hex, String.toList_ofList]
  induction n using Nat.strongRecOn with
  | ind n ih =>
    rw [Nat.toDigits_eq_if (by decide)]
    split
    · simp [(digitChar_ne_nul n).symm]
    · simp [ih (n / 16) (by omega), (digitChar_ne_nul (n % 16)).symm]

theorem escape_clean (c : Char) : '\x00' ∉ (escape c).toList := by
  unfold escape
  by_cases nul : c = '\x00'
  · simp [nul]
  · rw [if_neg nul]
    repeat' split
    all_goals simp [hex_clean, Ne.symm nul]

theorem append_clean {s s' : String} (clean : '\x00' ∉ s.toList) (clean' : '\x00' ∉ s'.toList) :
    '\x00' ∉ (s ++ s').toList := by
  simp [clean, clean']

/-- A quoted text shows the NUL characters in it. -/
theorem quote_clean (s : String) : '\x00' ∉ (quote s).toList := by
  simp [quote, escape_clean]

end Text

/-! ### Warnings -/

namespace HostAccess

/-- The warning about an identifier with a NUL. -/
def invalidId (id : String) : String :=
  "Invalid setting identifier " ++ Text.quote id ++ ": contains a NUL byte"

/-- The warning about a value with a NUL. -/
def unsendable : String := "Cannot send setting value containing a NUL byte to the host"

end HostAccess

open Act HostAccess

/-- The world after warnings, one after the other, which the host hears if it offers a function and the
facade lets them through. -/
def World.warned (w : World σ ν) (t : TableId) (table : HostTable) (messages : List String) :
    World σ ν :=
  w.logged t
    (if w.facade.passes .warn ∧ (table.provider .addonLogMsg).isSome then
      messages.reverse.map (.warning, ·)
    else [])

theorem World.warned_warned (w : World σ ν) (t : TableId) (table : HostTable)
    (messages others : List String) :
    (w.warned t table messages).warned t table others = w.warned t table (messages ++ others) := by
  have facade : (w.warned t table messages).facade = w.facade := rfl
  rw [warned, facade, warned, warned]
  split <;> simp [logged]

theorem HostTable.heard_whole (based : table.hasBase = true) (level : LogLevel)
    (clean : '\x00' ∉ s.toList) :
    table.heard level s = if (table.provider .addonLogMsg).isSome then [(level, s)] else [] := by
  have read : (CString.strip s).text = s :=
    (CString.text_strip s).trans (Text.withoutNul_of_clean clean)
  rw [heard, read]
  simp [based]

theorem Log.warn_at (here : w.loaded.get? t = some l) (linked : l.hostTable = some table)
    (based : table.hasBase = true) (bound : w.sink = some t) (clean : '\x00' ∉ s.toList) :
    warn s w = .ok () (w.warned t table [s]) := by
  by_cases passes : w.facade.passes .warn
  · rw [warn, emit_at here linked bound passes, table.heard_whole based _ clean, World.warned]
    simp [passes, RecordLevel.toHost]
  · rw [warn, emit_hidden passes, World.warned, if_neg fun both => passes both.1]
    rfl

/-! ### What concerns a setting -/

/-- A question to a host about a setting, or a warning. -/
def Event.isNoted : Event ν → Bool
  | .host _ (.setting _) | .host _ (.setSetting ..) | .host _ (.log .warning _) => true
  | _ => false

/-- The questions about settings and the warnings between two worlds, the latest first. -/
def World.Noted (w u : World σ ν) (events : List (Event ν)) : Prop :=
  ∃ new, u.trace = new ++ w.trace ∧ new.filter Event.isNoted = events

theorem World.Noted.trans {events later : List (Event ν)} (first : w.Noted u events)
    (second : u.Noted v later) : w.Noted v (later ++ events) := by
  obtain ⟨new, grown, noted⟩ := first
  obtain ⟨newer, grown', noted'⟩ := second
  refine ⟨newer ++ new, ?_, ?_⟩
  · rw [grown', grown, List.append_assoc]
  · rw [List.filter_append, noted', noted]

theorem World.Noted.one {e : Event ν} (grown : u.trace = e :: w.trace) (noted : e.isNoted = true) :
    w.Noted u [e] :=
  ⟨[e], grown, List.filter_cons_of_pos noted⟩

theorem World.Noted.quiet {e : Event ν} (grown : u.trace = e :: w.trace)
    (other : e.isNoted = false) : w.Noted u [] :=
  ⟨[e], grown, by rw [List.filter_cons_of_neg (by simp [other]), List.filter_nil]⟩

theorem World.noted_logged (level : LogLevel) (quiet : level ≠ .warning)
    (records : List (LogLevel × String)) (same : ∀ r ∈ records, r.1 = level) :
    w.Noted (w.logged t records) [] := by
  refine ⟨_, rfl, List.filter_eq_nil_iff.mpr fun e member => ?_⟩
  obtain ⟨r, logged, rfl⟩ := List.mem_map.mp member
  obtain ⟨level', message⟩ := r
  cases same _ logged
  cases level' <;> simp_all [Event.isNoted]

namespace HostAccess

/-! ### Identifiers -/

theorem invalidId_clean (id : String) : '\x00' ∉ (invalidId id).toList :=
  Text.append_clean (Text.append_clean (by decide) (Text.quote_clean id)) (by decide)

theorem settingId?_refuses (here : w.loaded.get? t = some l) (linked : l.hostTable = some table)
    (based : table.hasBase = true) (bound : w.sink = some t) (nul : '\x00' ∈ id.toList) :
    settingId? id w = .ok none (w.warned t table [invalidId id]) := by
  rw [settingId?, CString.ofText?_of_nul nul]
  exact bind_of_ok (Log.warn_at here linked based bound (invalidId_clean id))

/-! ### Reading -/

theorem check_refuses (here : w.loaded.get? t = some l) (linked : l.hostTable = some table)
    (keeps : table.Keeps) (bound : w.sink = some t) (kind : SettingKind)
    (nul : '\x00' ∈ id.toList) :
    check t kind id w = .ok none (w.warned t table [invalidId id]) := by
  have refused := settingId?_refuses here linked keeps.hasBase bound nul
  have presents : w.Presents t l := ⟨l.outstanding, here⟩
  cases kind with
  | string =>
    have ended : checkString t id w = .ok none (w.warned t table [invalidId id]) := by
      rw [checkString, offered_eq presents linked (keeps.getSetting .string), bind_of_ok refused]
      rfl
    exact map_of_ok ended
  | _ =>
    unfold check
    dsimp only
    rw [offered_eq presents linked (keeps.getSetting _), bind_of_ok refused]
    rfl

theorem release_noted (here : w.Presents t l) (linked : l.hostTable = some table)
    (bound : w.sink = some t) (c : CString) :
    Ensures (release t table c) w (fun _ u => w.Noted u []) fun _ _ => False := by
  rw [release]
  split
  · cases based : table.hasBase with
    | false => exact ⟨[], rfl, rfl⟩
    | true =>
      obtain ⟨n, here⟩ := here
      rw [HostService.freeString, ensures_bind, ensures_loaded?, here]
      exact .quiet rfl rfl
  · exact .quiet rfl rfl
  · obtain ⟨n, here⟩ := here
    by_cases passes : w.facade.passes .debug
    · refine (ensures_ok (Log.emit_at here linked bound passes _)).mpr
        (World.noted_logged .debug (by decide) _ fun r heard => ?_)
      rw [HostTable.heard] at heard
      split at heard
      · cases List.mem_singleton.mp heard
        rfl
      · contradiction
    · exact (ensures_ok (Log.emit_hidden passes _)).mpr ⟨[], rfl, rfl⟩

theorem takeText_noted (here : w.Presents t l) (linked : l.hostTable = some table)
    (bound : w.sink = some t) (c : Option CString) :
    Ensures (takeText t table c) w (fun _ u => w.Noted u []) fun _ _ => False := by
  cases c with
  | none => exact ⟨[], rfl, rfl⟩
  | some c =>
    rw [takeText, ensures_bind]
    exact release_noted here linked bound c

/-- A text that is found is handed out, which nobody needs to be asked or warned about. -/
theorem getString_noted (here : w.Presents t l) (c : CString) :
    Ensures (HostService.getString t true (some c) true) w (fun _ u =>
      w.Noted u [.host t (.setting c.text)] ∧ u.Presents t l ∧ u.sink = w.sink)
      fun _ _ => False := by
  rw [HostService.getString, Ensures, bind_of_ok (getSetting_eq here), ← Ensures]
  have asked : w.Noted { w with trace := .host t (.setting c.text) :: w.trace }
      [.host t (.setting c.text)] := .one rfl rfl
  split
  · next s _ =>
    exact ⟨asked.trans (.quiet (e := .host t (.shared (.strip s))) rfl rfl),
      ((here.asked _).reads.counted (f := (· + 1))).presents, rfl⟩
  · exact ⟨asked, here, rfl⟩

theorem checkString_noted (here : w.Presents t l) (linked : l.hostTable = some table)
    (keeps : table.Keeps) (bound : w.sink = some t) (clean : '\x00' ∉ id.toList) :
    Ensures (checkString t id) w (fun _ u => w.Noted u [.host t (.setting id)])
      fun _ _ => False := by
  obtain ⟨c, rfl, sent⟩ := settingId?_eq clean w
  rw [Ensures, checkString, offered_eq here linked (keeps.getSetting .string), bind_of_ok sent,
    ← Ensures]
  dsimp only
  rw [fetchString, ensures_bind, ensures_bind, keeps.hasBase]
  refine (getString_noted here c).mono ?_ fun _ _ => False.elim
  rintro s u ⟨asked, here, same⟩
  rw [ensures_pure, ensures_bind]
  refine (takeText_noted here linked (same.trans bound) s).mono ?_ fun _ _ => False.elim
  rintro text v taken
  exact asked.trans taken

theorem check_asks (here : w.Presents t l) (linked : l.hostTable = some table) (keeps : table.Keeps)
    (bound : w.sink = some t) (kind : SettingKind) (clean : '\x00' ∉ id.toList) :
    Ensures (check t kind id) w (fun _ u => w.Noted u [.host t (.setting id)])
      fun _ _ => False := by
  by_cases text : kind = .string
  · subst text
    exact (ensures_map ..).mpr (checkString_noted here linked keeps bound clean)
  · obtain ⟨c, rfl, ends⟩ := check_eq here linked keeps text clean
    rw [Ensures, ends, getSetting_eq here]
    exact .one rfl rfl

/-! ### Storing -/

theorem setSetting_asks (here : w.Presents t l) (linked : l.hostTable = some table)
    (keeps : table.Keeps) {v : Setting} (clean : '\x00' ∉ id.toList) (fits : v.Fits) :
    Ensures (setSetting t id v) w (fun accepted u =>
      w.Noted u [.host t (.setSetting id v accepted)]) fun _ _ => False := by
  obtain ⟨c, rfl, ends⟩ := setSetting_eq here linked keeps clean fits
  rw [Ensures, ends, store_eq here]
  exact .one rfl rfl

/-- Both strings are looked at, and the value is warned about whichever of them cannot be sent. -/
theorem setString_refuses (here : w.loaded.get? t = some l) (linked : l.hostTable = some table)
    (keeps : table.Keeps) (bound : w.sink = some t)
    (nul : '\x00' ∈ id.toList ∨ '\x00' ∈ s.toList) :
    setString t id s w = .ok false (w.warned t table
      ((if '\x00' ∈ id.toList then [invalidId id] else []) ++ [unsendable])) := by
  have presents : w.Presents t l := ⟨l.outstanding, here⟩
  have plain : '\x00' ∉ unsendable.toList := by decide
  rw [setString, offered_eq presents linked (keeps.setSetting .string)]
  by_cases bad : '\x00' ∈ id.toList
  · have warned : Log.warn unsendable (w.warned t table [invalidId id]) =
        .ok () ((w.warned t table [invalidId id]).warned t table [unsendable]) :=
      Log.warn_at here linked keeps.hasBase bound plain
    rw [bind_of_ok (settingId?_refuses here linked keeps.hasBase bound bad), if_pos bad,
      ← World.warned_warned]
    exact bind_of_ok warned
  · obtain ⟨c, rfl, sent⟩ := settingId?_eq bad w
    rw [bind_of_ok sent, CString.ofText?_of_nul (nul.resolve_left bad), if_neg bad]
    exact bind_of_ok (Log.warn_at here linked keeps.hasBase bound plain)

theorem setSetting_refuses (here : w.loaded.get? t = some l) (linked : l.hostTable = some table)
    (keeps : table.Keeps) (bound : w.sink = some t) {v : Setting}
    (nul : '\x00' ∈ id.toList ∨ ¬v.Fits) :
    setSetting t id v w = .ok false (w.warned t table
      ((if '\x00' ∈ id.toList then [invalidId id] else []) ++
        (if v.kind = .string then [unsendable] else []))) := by
  cases v with
  | string s => exact setString_refuses here linked keeps bound (nul.imp_right Decidable.not_not.mp)
  | _ =>
    have bad : '\x00' ∈ id.toList := nul.resolve_right (· True.intro)
    have presents : w.Presents t l := ⟨l.outstanding, here⟩
    unfold setSetting
    dsimp only
    rw [offered_eq presents linked (keeps.setSetting _),
      bind_of_ok (settingId?_refuses here linked keeps.hasBase bound bad), if_pos bad]
    rfl

/-- What the helpers for settings do with what they are given: the host is asked, or there are
warnings and nothing else happens. -/
structure Screens (w : World σ ν) (t : TableId) (table : HostTable) : Prop where
  check : ∀ kind id, '\x00' ∉ id.toList → ∃ found u, call t (.check kind id) w = .ok found u ∧
    w.Noted u [.host t (.setting id)]
  check_invalid : ∀ kind id, '\x00' ∈ id.toList →
    call t (.check kind id) w = .ok none (w.warned t table [invalidId id])
  set : ∀ id (v : Setting), '\x00' ∉ id.toList → v.Fits → ∃ accepted u,
    call t (.setSetting id v) w = .ok accepted u ∧
      w.Noted u [.host t (.setSetting id v accepted)]
  /-- A text is warned about whether it is the identifier or the text that has a NUL. -/
  set_invalid : ∀ id (v : Setting), '\x00' ∈ id.toList ∨ ¬v.Fits →
    call t (.setSetting id v) w = .ok false (w.warned t table
      ((if '\x00' ∈ id.toList then [invalidId id] else []) ++
        (if v.kind = .string then [unsendable] else [])))

theorem screens_settings (here : w.loaded.get? t = some l) (linked : l.hostTable = some table)
    (keeps : table.Keeps) (bound : w.sink = some t) : Screens w t table where
  check kind _ clean := (check_asks ⟨l.outstanding, here⟩ linked keeps bound kind clean).returns
  check_invalid kind _ nul := check_refuses here linked keeps bound kind nul
  set _ _ clean fits := (setSetting_asks ⟨l.outstanding, here⟩ linked keeps clean fits).returns
  set_invalid _ _ nul := setSetting_refuses here linked keeps bound nul

theorem screens_settings_level :
    let l : Loaded := { module := "m", libPath := .empty, host := {} }
    let w : World Unit Unit := {
      memory := fun _ => (), loaded := [(⟨0, 0⟩, l)], facade := Facade.installed {}
      sink := some ⟨0, 0⟩ }
    call ⟨0, 0⟩ (.setSetting "le\x00vel" (.int 5)) w =
      .ok false (w.warned ⟨0, 0⟩ {} [invalidId "le\x00vel"]) := by
  intro l w
  have here : w.loaded.get? ⟨0, 0⟩ = some l := rfl
  have linked : l.hostTable = some {} := rfl
  have screens := screens_settings here linked ⟨rfl, fun _ => rfl, fun _ => rfl⟩ rfl
  exact screens.set_invalid "le\x00vel" (.int 5) (.inl (by decide))

/-- There is no NUL in the value that this warning is about. -/
theorem setString_warns_of_value :
    let l : Loaded := { module := "m", libPath := .empty, host := {} }
    let w : World Unit Unit := {
      memory := fun _ => (), loaded := [(⟨0, 0⟩, l)], facade := Facade.installed {}
      sink := some ⟨0, 0⟩ }
    ∃ u, call ⟨0, 0⟩ (.setSetting "a\x00b" (.string "v")) w = .ok false u ∧
      '\x00' ∉ "v".toList ∧ w.Shows u (.host ⟨0, 0⟩ (.log .warning unsendable)) := by
  intro l w
  have here : w.loaded.get? ⟨0, 0⟩ = some l := rfl
  have linked : l.hostTable = some {} := rfl
  have nul : '\x00' ∈ "a\x00b".toList := by decide
  have refused := setString_refuses (s := "v") here linked ⟨rfl, fun _ => rfl, fun _ => rfl⟩ rfl
    (.inl nul)
  exact ⟨_, refused, by decide, _, rfl, List.mem_cons_self⟩

end HostAccess

end AddonBridge
