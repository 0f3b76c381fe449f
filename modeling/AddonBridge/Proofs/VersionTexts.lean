import Mathlib.Data.List.Induction
import AddonBridge.Vocabulary.Version

/-!
# Texts that write versions

A grammar of these texts, said without the parser. `parse_grammar` says that the parser reads them
and no others. Of the texts that write one version `Version.display` picks one, and
`display_canonical` says that it stands for them all, and in which order versions are.
-/

namespace AddonBridge.Version

open Text

variable {cs text : List Char} {n : Nat} {x : UInt32} {v v' : Version} {s : String}

/-! ### The grammar -/

/-- One or more digits that write a number, which may start with zeros. -/
inductive Numeral : List Char → Nat → Prop where
  | digit (d : Fin 10) : Numeral [Nat.digitChar d] d
  | append {cs : List Char} {n : Nat} (numeral : Numeral cs n) (d : Fin 10) :
    Numeral (cs ++ [Nat.digitChar d]) (n * 10 + d)

/-- A numeral of a number below 2^32, perhaps after a plus sign. -/
inductive Component : List Char → UInt32 → Prop where
  | plain {cs : List Char} {x : UInt32} (numeral : Numeral cs x.toNat) : Component cs x
  | signed {cs : List Char} {x : UInt32} (numeral : Numeral cs x.toNat) : Component ('+' :: cs) x

/-- One to three components. Those that are missing are zero. -/
inductive Parts : List (List Char) → Version → Prop where
  | major {a : List Char} {x : UInt32} (major : Component a x) : Parts [a] ⟨x, 0, 0⟩
  | minor {a b : List Char} {x y : UInt32} (major : Component a x) (minor : Component b y) :
    Parts [a, b] ⟨x, y, 0⟩
  | patch {a b c : List Char} {x y z : UInt32} (major : Component a x) (minor : Component b y)
    (patch : Component c z) : Parts [a, b, c] ⟨x, y, z⟩

/-- Components with single dots between them. -/
def Dotted (text : List Char) (v : Version) : Prop :=
  ∃ parts, text = ['.'].intercalate parts ∧ Parts parts v

/-- A text writes a version if it is dotted but for blanks at its ends. There are no blanks in what
is dotted, so these are all the blanks at the ends. -/
def Writes (s : String) (v : Version) : Prop :=
  ∃ before text after, s.toList = before ++ text ++ after ∧ (∀ c ∈ before, isBlank c = true) ∧
    (∀ c ∈ after, isBlank c = true) ∧ Dotted text v

/-! ### Characters -/

/-- The characters that dotted texts are made of. -/
def letters : List Char := "0123456789+.".toList

theorem letters_not_blank {c : Char} (member : c ∈ letters) : isBlank c = false := by
  have solid : letters.all (!isBlank ·) = true := by decide
  simpa using List.all_eq_true.mp solid c member

theorem exists_digitChar {c : Char} (digit : c.isDigit = true) :
    ∃ d : Fin 10, c = Nat.digitChar d := by
  have bounds : 48 ≤ c.toNat ∧ c.toNat ≤ 57 := by
    simpa [Char.isDigit, UInt32.le_iff_toNat_le] using digit
  have number : ∀ d : Fin 10, Nat.digitChar d = Char.ofNat (48 + d) := by decide
  refine ⟨⟨c.toNat - 48, by omega⟩, ?_⟩
  rw [number, Nat.add_sub_cancel' bounds.1, Char.ofNat_toNat]

theorem Numeral.isDigit (numeral : Numeral cs n) : ∀ c ∈ cs, c.isDigit = true := by
  have shown (d : Fin 10) : (Nat.digitChar d).isDigit = true := by
    rw [Nat.isDigit_digitChar, decide_eq_true d.isLt]
  induction numeral with
  | digit d => simp
  | append numeral d ih =>
    intro c member
    rcases List.mem_append.mp member with earlier | last
    · exact ih c earlier
    · exact List.mem_singleton.mp last ▸ shown d

theorem Numeral.letters (numeral : Numeral cs n) : cs ⊆ letters := by
  have digit : ∀ d : Fin 10, Nat.digitChar d ∈ Version.letters := by decide
  intro c member
  obtain ⟨d, rfl⟩ := exists_digitChar (numeral.isDigit c member)
  exact digit d

theorem Component.letters (component : Component cs x) : cs ⊆ letters := by
  cases component with
  | plain numeral => exact numeral.letters
  | signed numeral => exact List.cons_subset.mpr ⟨by decide, numeral.letters⟩

theorem Component.no_dot (component : Component cs x) : '.' ∉ cs := by
  have digits {ds : List Char} {n : Nat} (numeral : Numeral ds n) : '.' ∉ ds :=
    fun member => absurd (numeral.isDigit _ member) (by decide)
  cases component with
  | plain numeral => exact digits numeral
  | signed numeral => simpa using digits numeral

theorem Parts.component {parts : List (List Char)} (written : Parts parts v) :
    ∀ part ∈ parts, ∃ x, Component part x := by
  cases written with
  | major major => simpa using ⟨_, major⟩
  | minor major minor => simpa using ⟨⟨_, major⟩, _, minor⟩
  | patch major minor patch => simpa using ⟨⟨_, major⟩, ⟨_, minor⟩, _, patch⟩

theorem Dotted.letters (dotted : Dotted text v) : text ⊆ letters := by
  have dot : '.' ∈ Version.letters := by decide
  obtain ⟨parts, rfl, written⟩ := dotted
  cases written with
  | major major => simp [major.letters]
  | minor major minor => simp [dot, major.letters, minor.letters]
  | patch major minor patch => simp [dot, major.letters, minor.letters, patch.letters]

/-! ### Numerals -/

theorem decimal_append (cs : List Char) (d : Fin 10) :
    decimal (cs ++ [Nat.digitChar d]) = decimal cs * 10 + d := by
  have worth : ∀ d : Fin 10, (Nat.digitChar d).toNat - '0'.toNat = d := by decide
  rw [decimal, List.foldl_append, List.foldl_cons, List.foldl_nil, worth, decimal]

theorem Numeral.decimal_eq (numeral : Numeral cs n) : decimal cs = n := by
  induction numeral with
  | digit d => simpa [decimal] using decimal_append [] d
  | append numeral d ih => rw [decimal_append, ih]

theorem numeral_decimal (nonempty : cs ≠ []) (digits : ∀ c ∈ cs, c.isDigit = true) :
    Numeral cs (decimal cs) := by
  induction cs using List.reverseRecOn with
  | nil => contradiction
  | append_singleton cs c ih =>
    obtain ⟨d, rfl⟩ := exists_digitChar (digits c (List.mem_append_right _ List.mem_cons_self))
    rw [decimal_append]
    by_cases first : cs = []
    · subst first
      simpa [decimal] using Numeral.digit d
    · exact .append (ih first fun c member => digits c (List.mem_append_left _ member)) d

theorem Numeral.ne_nil (numeral : Numeral cs n) : cs ≠ [] := by
  cases numeral <;> simp

theorem numeral_toDigits (n : Nat) : Numeral (Nat.toDigits 10 n) n := by
  induction n using Nat.strongRecOn with
  | ind n ih =>
    rw [Nat.toDigits_eq_if (by decide)]
    split
    · next small => exact .digit ⟨n, small⟩
    · next large =>
      have whole := Numeral.append (ih (n / 10) (by omega)) ⟨n % 10, by omega⟩
      rwa [Nat.div_add_mod'] at whole

/-! ### The parser -/

theorem component_iff : Component cs x ↔ Numeral (unsigned cs) x.toNat := by
  constructor
  · rintro (numeral | numeral)
    · have bare : unsigned cs = cs := by
        unfold unsigned
        split
        · exact absurd (numeral.isDigit '+' List.mem_cons_self) (by decide)
        · rfl
      rwa [bare]
    · exact numeral
  · intro numeral
    unfold unsigned at numeral
    split at numeral
    · exact .signed numeral
    · exact .plain numeral

theorem component?_eq_some_iff : component? cs = some x ↔ Component cs x := by
  rw [component_iff, component?]
  constructor
  · intro read
    obtain ⟨⟨nonempty, digits, bound⟩, same⟩ := Option.ite_none_right_eq_some.mp read
    obtain rfl := Option.some.inj same
    rw [UInt32.toNat_ofNat_of_lt' bound]
    exact numeral_decimal nonempty (List.all_eq_true.mp digits)
  · intro numeral
    rw [if_pos ⟨numeral.ne_nil, List.all_eq_true.mpr numeral.isDigit,
      numeral.decimal_eq ▸ x.toNat_lt⟩, numeral.decimal_eq, UInt32.ofNat_toNat]

theorem components_eq (cs : List Char) : components cs = cs.splitOn '.' := by
  unfold List.splitOn
  induction cs with
  | nil => rfl
  | cons c cs ih =>
    rw [components, ih, List.splitOnP_cons_eq_if_modifyHead]
    by_cases dot : c = '.'
    · simp [dot]
    · cases parts : cs.splitOnP (· == '.') with
      | nil => exact absurd parts (List.splitOnP_ne_nil _ _)
      | cons part parts => simp [dot]

theorem components_intercalate {parts : List (List Char)} (nonempty : parts ≠ [])
    (no_dot : ∀ part ∈ parts, '.' ∉ part) : components (['.'].intercalate parts) = parts := by
  rw [components_eq, List.splitOn_intercalate '.' no_dot nonempty]

theorem dotted_iff : Dotted text v ↔ Parts (components text) v := by
  constructor
  · rintro ⟨parts, rfl, written⟩
    have nonempty : parts ≠ [] := by
      rintro rfl
      cases written
    rwa [components_intercalate nonempty fun part member => ?_]
    obtain ⟨x, component⟩ := written.component part member
    exact component.no_dot
  · intro written
    refine ⟨_, ?_, written⟩
    rw [components_eq, List.intercalate_splitOn]

theorem parse?_eq_some_iff : parse? s = some v ↔ Dotted (trim s.toList) v := by
  rw [dotted_iff, parse?]
  generalize components (trim s.toList) = parts
  constructor
  · intro read
    split at read
    · obtain ⟨x, major, read⟩ := Option.bind_eq_some_iff.mp read
      cases read
      exact .major (component?_eq_some_iff.mp major)
    · obtain ⟨x, major, read⟩ := Option.bind_eq_some_iff.mp read
      obtain ⟨y, minor, read⟩ := Option.bind_eq_some_iff.mp read
      cases read
      exact .minor (component?_eq_some_iff.mp major) (component?_eq_some_iff.mp minor)
    · obtain ⟨x, major, read⟩ := Option.bind_eq_some_iff.mp read
      obtain ⟨y, minor, read⟩ := Option.bind_eq_some_iff.mp read
      obtain ⟨z, patch, read⟩ := Option.bind_eq_some_iff.mp read
      cases read
      exact .patch (component?_eq_some_iff.mp major) (component?_eq_some_iff.mp minor)
        (component?_eq_some_iff.mp patch)
    · contradiction
  · rintro (major | ⟨major, minor⟩ | ⟨major, minor, patch⟩)
    · simp [component?_eq_some_iff.mpr major]
    · simp [component?_eq_some_iff.mpr major, component?_eq_some_iff.mpr minor]
    · simp [component?_eq_some_iff.mpr major, component?_eq_some_iff.mpr minor,
        component?_eq_some_iff.mpr patch]

theorem trim_eq_of_dotted (dotted : Dotted text v) : trim text = text :=
  have solid {c : Char} (member : c ∈ text) : isBlank c = false :=
    letters_not_blank (dotted.letters member)
  trim_of_not_blank (fun _ first => solid (List.mem_of_mem_head? first))
    fun _ last => solid (List.mem_of_mem_getLast? last)

theorem writes_iff : Writes s v ↔ parse? s = some v := by
  rw [parse?_eq_some_iff]
  constructor
  · rintro ⟨before, text, after, same, blank, blank', dotted⟩
    rwa [same, trim_append_blank blank blank', trim_eq_of_dotted dotted]
  · intro dotted
    obtain ⟨before, after, same, blank, blank'⟩ := exists_trim s.toList
    exact ⟨before, _, after, same, blank, blank', dotted⟩

theorem parse_eq_ok_iff : parse s = .ok v ↔ Writes s v := by
  rw [writes_iff, parse]
  cases parse? s <;> simp

/-- A text is read as a version if and only if it writes that version. Every other text fails, with
an error that has the text as it was given. -/
theorem parse_grammar (s : String) :
    (∀ v, parse s = .ok v ↔ Writes s v) ∧
      ∀ e, parse s = .error e ↔ e = ⟨s⟩ ∧ ∀ v, ¬Writes s v := by
  refine ⟨fun v => parse_eq_ok_iff, fun e => ?_⟩
  simp only [writes_iff]
  rw [parse]
  cases parse? s with
  | none => simp [eq_comm]
  | some v => simp

/-! ### The order -/

/-- The first component in which two versions differ is lower in the one that precedes the other. -/
def Precedes (v v' : Version) : Prop :=
  v.major < v'.major ∨ v.major = v'.major ∧
    (v.minor < v'.minor ∨ v.minor = v'.minor ∧ v.patch < v'.patch)

instance (v v' : Version) : Decidable (v.Precedes v') :=
  inferInstanceAs (Decidable (_ ∨ _ ∧ (_ ∨ _ ∧ _)))

theorem compare_eq_then (v v' : Version) : compare v v' = (compare v.major v'.major).then
    ((compare v.minor v'.minor).then (compare v.patch v'.patch)) := rfl

theorem compare_lt_iff : compare v v' = .lt ↔ v.Precedes v' := by
  simp only [compare_eq_then, Ordering.then_eq_lt, Std.compare_eq_lt, Std.compare_eq_iff_eq,
    Precedes]

theorem compare_eq_iff : compare v v' = .eq ↔ v = v' := by
  obtain ⟨x, y, z⟩ := v
  obtain ⟨x', y', z'⟩ := v'
  simp only [compare_eq_then, Ordering.then_eq_eq, Std.compare_eq_iff_eq, mk.injEq]

theorem compare_gt_iff : compare v v' = .gt ↔ v'.Precedes v := by
  have swap : (compare v v').swap = compare v' v := by
    simp only [compare_eq_then, Ordering.swap_then, ← Std.OrientedOrd.eq_swap]
  rw [← compare_lt_iff, ← swap, Ordering.swap_eq_lt]

theorem le_iff : v ≤ v' ↔ ¬v'.Precedes v := by
  have unfolded : v ≤ v' ↔ compare v v' ≠ .gt := Ordering.isLE_iff_ne_gt
  rw [unfolded, ne_eq, compare_gt_iff]

/-! ### The canonical text -/

theorem component_toString (x : UInt32) : Component (toString x.toNat).toList x := by
  rw [Nat.toString_eq_repr, Nat.toList_repr]
  exact .plain (numeral_toDigits _)

theorem dotted_display (v : Version) : Dotted v.display.toList v := by
  refine ⟨_, ?_, .patch (component_toString v.major) (component_toString v.minor)
    (component_toString v.patch)⟩
  simp [display]

/-- The text that stands for all texts that write the same version. -/
def canonical (s : String) : Except ParseError String := display <$> parse s

theorem canonical_of_parse (read : parse s = .ok v) : canonical s = .ok v.display := by
  rw [canonical, read]
  rfl

theorem parse_margin (v : Version) {before after : String}
    (blank : ∀ c ∈ before.toList, isBlank c = true)
    (blank' : ∀ c ∈ after.toList, isBlank c = true) :
    parse (before ++ v.display ++ after) = .ok v :=
  parse_eq_ok_iff.mpr ⟨before.toList, v.display.toList, after.toList, by simp, blank, blank',
    dotted_display v⟩

theorem parse_display (v : Version) : parse v.display = .ok v := by
  have nothing : ∀ c ∈ "".toList, isBlank c = true := by simp
  simpa using parse_margin v nothing nothing

theorem display_injective : Function.Injective display := by
  intro v v' same
  have read := parse_display v
  rw [same, parse_display v'] at read
  exact (Except.ok.inj read).symm

/-- What `display` writes is read back, with blanks around it too, so no two versions have one text.
It is the canonical text of all texts that are read as its version, itself included, and two texts
share theirs if and only if their versions compare equal. Versions compare by the first component in
which they differ. -/
theorem display_canonical :
    (∀ (v : Version) (before after : String), (∀ c ∈ before.toList, isBlank c = true) →
      (∀ c ∈ after.toList, isBlank c = true) → parse (before ++ v.display ++ after) = .ok v) ∧
    Function.Injective display ∧
    (∀ s v, parse s = .ok v → canonical s = .ok v.display ∧
      canonical v.display = .ok v.display) ∧
    (∀ s s' v v', parse s = .ok v → parse s' = .ok v' →
      (canonical s = canonical s' ↔ compare v v' = .eq)) ∧
    ∀ v v' : Version, (compare v v' = .lt ↔ v.Precedes v') ∧ (compare v v' = .eq ↔ v = v') ∧
      (compare v v' = .gt ↔ v'.Precedes v) := by
  refine ⟨fun v _ _ => parse_margin v, display_injective, ?_, ?_,
    fun v v' => ⟨compare_lt_iff, compare_eq_iff, compare_gt_iff⟩⟩
  · intro s v read
    exact ⟨canonical_of_parse read, canonical_of_parse (parse_display v)⟩
  · intro s s' v v' read read'
    rw [canonical_of_parse read, canonical_of_parse read', Except.ok.injEq,
      display_injective.eq_iff, compare_eq_iff]

theorem display_canonical_spellings :
    parse "\t1.2.0 \u2003" = .ok ⟨1, 2, 0⟩ ∧ canonical " +1.02" = canonical "1.2.0" := by
  obtain ⟨margin, -, -, same, -⟩ := display_canonical
  have blank {s : String} (all : s.toList.all isBlank = true) : ∀ c ∈ s.toList, isBlank c = true :=
    List.all_eq_true.mp all
  exact ⟨margin ⟨1, 2, 0⟩ "\t" " \u2003" (blank rfl) (blank rfl),
    (same " +1.02" "1.2.0" ⟨1, 2, 0⟩ ⟨1, 2, 0⟩ (by decide) (by decide)).mpr (by decide)⟩

end AddonBridge.Version
