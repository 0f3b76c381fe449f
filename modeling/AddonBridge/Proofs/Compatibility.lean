import AddonBridge.Machine.LoadedAddon
import AddonBridge.Proofs.Reentry
import AddonBridge.Proofs.Texts
import AddonBridge.Proofs.VersionTexts

/-!
# Version tables on both sides

An addon reads the texts in its version table strictly: one with unreadable bytes is no version. The
host reads the same bytes with U+FFFD in their place. `typeApiVersion_reads_table` says that the two
sides agree on every table, because a text with U+FFFD in it is no version either.
-/

namespace AddonBridge

variable {σ ν : Type} {env : Env σ ν} {l : Loaded} {table : VersionTable} {t : AddonType}
  {row : TypeVersion} {v lo hi : Version} {w : World σ ν}

namespace CString

variable {s : CString} {text : String}

theorem text_of_text? (read : s.text? = some text) : s.text = text := by
  obtain ⟨cs, strict, rfl⟩ := Option.map_eq_some_iff.mp read
  rw [CString.text, Text.Utf8.decodeLossy_of_decode? strict]

/-- Unreadable bytes leave a U+FFFD in the text. -/
theorem text?_of_clean (clean : '\uFFFD' ∉ s.text.toList) : s.text? = some s.text := by
  rw [CString.text, String.toList_ofList] at clean
  rw [text?, Text.Utf8.decode?_of_clean clean]
  rfl

end CString

namespace Version

/-- There are only blanks, digits, plus signs and dots in a text that is read as a version. -/
theorem clean_of_parse? {s : String} (read : parse? s = some v) : '\uFFFD' ∉ s.toList := by
  obtain ⟨before, text, after, same, blank, blank', dotted⟩ := writes_iff.mpr read
  have solid : Text.isBlank '\uFFFD' = false := by decide
  have foreign : '\uFFFD' ∉ letters := by decide
  rw [same, List.mem_append, List.mem_append, or_assoc]
  rintro (member | member | member)
  · exact absurd (blank _ member) (by simp [solid])
  · exact foreign (dotted.letters member)
  · exact absurd (blank' _ member) (by simp [solid])

/-- Reading a text with U+FFFD for its unreadable bytes makes no version of it. -/
theorem ofCString_eq (s : CString) : ofCString s = (parse? s.text).getD .unknown := by
  cases strict : s.text? with
  | some text => rw [ofCString, strict, CString.text_of_text? strict, Option.bind_some]
  | none =>
    have refused : parse? s.text = none := by
      by_contra accepted
      obtain ⟨v, read⟩ := Option.ne_none_iff_exists'.mp accepted
      rw [CString.text?_of_clean (clean_of_parse? read)] at strict
      contradiction
    rw [ofCString, strict, refused, Option.bind_none]

end Version

/-! ### Rows -/

namespace VersionTable

/-- A row of a type with no row of that type before it. -/
def First (table : VersionTable) (t : AddonType) (row : TypeVersion) : Prop :=
  ∃ before after, table = before ++ row :: after ∧ row.addonType = t ∧
    ∀ r ∈ before, r.addonType ≠ t

/-- A table has a row for a type with a version in it, which is not the unknown one. -/
def Declares (table : VersionTable) (t : AddonType) (v : Version) : Prop :=
  ∃ row, table.row? t = some row ∧ Version.ofCString row.version = v ∧ v ≠ .unknown

theorem row?_eq_some_iff : table.row? t = some row ↔ table.First t row := by
  rw [row?, List.find?_eq_some_iff_append]
  constructor
  · rintro ⟨here, before, after, rfl, others⟩
    exact ⟨before, after, rfl, of_decide_eq_true here,
      fun r member => by simpa using others r member⟩
  · rintro ⟨before, after, rfl, here, others⟩
    exact ⟨decide_eq_true here, before, after, rfl, fun r member => by simpa using others r member⟩

/-- A table answers for a type without a row like for one whose version is unknown. -/
theorem declares_iff :
    table.Declares t v ↔ Version.ofCString (table.version t) = v ∧ v ≠ .unknown := by
  have absent : Version.ofCString unknownText = .unknown := by decide
  rw [Declares, version]
  cases table.row? t with
  | none => simp [absent, eq_comm]
  | some row => simp

end VersionTable

/-! ### What the host reads -/

namespace LoadedAddon

theorem usableVersion_eq (t : AddonType) (s : CString) : usableVersion t s.text =
    if Version.ofCString s = .unknown then .error (.unknownType t)
    else .ok (Version.ofCString s) := by
  rw [usableVersion, Version.ofCString_eq]
  cases Version.parse? s.text with
  | none => rfl
  | some v => rfl

theorem usableVersion_eq_ok_iff :
    usableVersion t (table.version t).text = .ok v ↔ table.Declares t v := by
  rw [usableVersion_eq, VersionTable.declares_iff]
  split
  · next unknown => simp [unknown, eq_comm]
  · next known =>
    rw [Except.ok.injEq]
    exact ⟨fun same => ⟨same, same ▸ known⟩, And.left⟩

theorem usableVersion_eq_error_iff {e : HostError} :
    usableVersion t (table.version t).text = .error e ↔
      e = .unknownType t ∧ ∀ v, ¬table.Declares t v := by
  simp only [usableVersion_eq, VersionTable.declares_iff]
  split
  · next unknown => simp [unknown, eq_comm]
  · next known => simp [known]

variable (addon : env.modules.native l.module = none)
  (reports : (env.modules.addon l.module).versions = table)
include addon reports

theorem typeApiVersion_eq : typeApiVersion env l t w =
    .ok (usableVersion t (table.version t).text) (w.entered l.module (.typeVersion t)) := by
  have asked : Exports.call env l.module (.typeVersion t) w =
      .ok (.text (some (table.version t))) (w.entered l.module (.typeVersion t)) := by
    rw [Exports.call, addon, ← reports]
    rfl
  have read : typeVersion env l t w =
      .ok (table.version t).text (w.entered l.module (.typeVersion t)) := Act.bind_of_ok asked
  exact Act.bind_of_ok read

theorem isTypeCompatible_eq : ∃ compatible, isTypeCompatible env l t lo hi w =
      .ok compatible (w.entered l.module (.typeVersion t)) ∧
    (compatible = true ↔ ∃ v, table.Declares t v ∧ ¬v.Precedes lo ∧ ¬hi.Precedes v) := by
  cases answer : usableVersion t (table.version t).text with
  | ok v =>
    have only {u : Version} : table.Declares t u ↔ v = u := by
      rw [← usableVersion_eq_ok_iff, answer, Except.ok.injEq]
    refine ⟨decide (lo ≤ v ∧ v ≤ hi), ?_, by simp [only, Version.le_iff]⟩
    rw [isTypeCompatible, Act.bind_of_ok (typeApiVersion_eq addon reports), answer]
    rfl
  | error e =>
    obtain ⟨rfl, none⟩ := usableVersion_eq_error_iff.mp answer
    refine ⟨false, ?_, by simp [none]⟩
    rw [isTypeCompatible, Act.bind_of_ok (typeApiVersion_eq addon reports), answer]
    rfl

omit addon reports

/-- The host takes the version of a type from an addon's table as the addon does: from the first row
of the type, if the text in it is a version and not the unknown one. Without such a row it says that
the type is unknown. A type is compatible if its version is there and in the range. -/
theorem typeApiVersion_reads_table (env : Env σ ν) (l : Loaded) (table : VersionTable)
    (addon : env.modules.native l.module = none)
    (reports : (env.modules.addon l.module).versions = table) (t : AddonType) (w : World σ ν) :
    (∀ row, table.row? t = some row ↔ table.First t row) ∧
    (∃ answer, typeApiVersion env l t w = .ok answer (w.entered l.module (.typeVersion t)) ∧
      (∀ v, answer = .ok v ↔ table.Declares t v) ∧
      ∀ e, answer = .error e ↔ e = .unknownType t ∧ ∀ v, ¬table.Declares t v) ∧
    ∀ lo hi, ∃ compatible, isTypeCompatible env l t lo hi w =
        .ok compatible (w.entered l.module (.typeVersion t)) ∧
      (compatible = true ↔ ∃ v, table.Declares t v ∧ ¬v.Precedes lo ∧ ¬hi.Precedes v) :=
  ⟨fun _ => VersionTable.row?_eq_some_iff,
    ⟨_, typeApiVersion_eq addon reports, fun _ => usableVersion_eq_ok_iff,
      fun _ => usableVersion_eq_error_iff⟩,
    fun _ _ => isTypeCompatible_eq addon reports⟩

theorem typeApiVersion_reads_table_broken :
    let broken : CString := ⟨[0x20, 0xFF, 0x31], by decide⟩
    let table : VersionTable :=
      [⟨⟨1⟩, broken, .empty⟩, ⟨⟨2⟩, .strip " +1.02\n", .empty⟩, ⟨⟨2⟩, .strip "3", .empty⟩]
    let addon : Addon Unit Unit := { build := fun _ => .done (.ok none), versions := table }
    let env := Exports.env { addon := fun _ => addon } false 1
    let l : Loaded := { module := "decoders", libPath := .empty, host := {} }
    let w : World Unit Unit := { memory := fun _ => () }
    let asked (t : AddonType) := w.entered l.module (.typeVersion t)
    typeApiVersion env l ⟨1⟩ w = .ok (.error (.unknownType ⟨1⟩)) (asked ⟨1⟩) ∧
      typeApiVersion env l ⟨2⟩ w = .ok (.ok ⟨1, 2, 0⟩) (asked ⟨2⟩) ∧
      isTypeCompatible env l ⟨2⟩ ⟨1, 0, 7⟩ ⟨1, 2, 0⟩ w = .ok true (asked ⟨2⟩) := by
  intro broken table addon env l w asked
  have unreadable (v : Version) : ¬table.Declares ⟨1⟩ v := by
    rw [VersionTable.declares_iff]
    rintro ⟨same, known⟩
    exact known (same.symm.trans (by decide))
  have spelled : table.Declares ⟨2⟩ ⟨1, 2, 0⟩ := ⟨_, rfl, by decide, by decide⟩
  obtain ⟨-, ⟨answer, came, -, failed⟩, -⟩ := typeApiVersion_reads_table env l table rfl rfl ⟨1⟩ w
  obtain ⟨-, ⟨answer', came', read, -⟩, range⟩ :=
    typeApiVersion_reads_table env l table rfl rfl ⟨2⟩ w
  obtain ⟨compatible, came'', within⟩ := range ⟨1, 0, 7⟩ ⟨1, 2, 0⟩
  rw [(failed _).mpr ⟨rfl, unreadable⟩] at came
  rw [(read _).mpr spelled] at came'
  rw [within.mpr ⟨_, spelled, by decide, by decide⟩] at came''
  exact ⟨came, came', came''⟩

end LoadedAddon

end AddonBridge
