import AddonBridge.Text.CString

/-!
# Texts that cross the boundary

Reading goes one byte at a time and knows nothing of what was written. A text that was written whole,
without a NUL in it, reads as it was.
-/

namespace AddonBridge

namespace Text.Utf8

variable {n left acc : Nat} {low high : UInt8} {bs : List UInt8}

/-! ### Bytes by their numbers -/

theorem toNat_ofNat (byte : n < 256) : (UInt8.ofNat n).toNat = n := by
  rw [UInt8.toNat_ofNat', Nat.mod_eq_of_lt byte]

theorem first_ofNat (byte : n < 256) :
    first (UInt8.ofNat n) =
      if n < 0x80 then ([some (Char.ofNat n)], .start)
      else if n < 0xC2 then ([none], .start)
      else if n < 0xE0 then ([], .inside 1 0x80 0xBF (n - 0xC0))
      else if n = 0xE0 then ([], .inside 2 0xA0 0xBF 0)
      else if n = 0xED then ([], .inside 2 0x80 0x9F 13)
      else if n < 0xF0 then ([], .inside 2 0x80 0xBF (n - 0xE0))
      else if n = 0xF0 then ([], .inside 3 0x90 0xBF 0)
      else if n < 0xF4 then ([], .inside 3 0x80 0xBF (n - 0xF0))
      else if n = 0xF4 then ([], .inside 3 0x80 0x8F 4)
      else ([none], .start) := by
  unfold first
  simp only [UInt8.lt_iff_toNat_lt, ← UInt8.toNat_inj, toNat_ofNat byte]
  rfl

theorem first_one (below : n < 0x80) :
    first (UInt8.ofNat n) = ([some (Char.ofNat n)], .start) := by
  rw [first_ofNat (by omega), if_pos below]

theorem first_two (above : 0xC2 ≤ n) (below : n < 0xE0) :
    first (UInt8.ofNat n) = ([], .inside 1 0x80 0xBF (n - 0xC0)) := by
  rw [first_ofNat (by omega), if_neg (by omega), if_neg (by omega), if_pos below]

/-- The first of three bytes leaves no room for characters that take fewer, or for surrogates. -/
theorem first_three (above : 0xE0 ≤ n) (below : n < 0xF0) :
    first (UInt8.ofNat n) =
      ([], .inside 2 (if n = 0xE0 then 0xA0 else 0x80) (if n = 0xED then 0x9F else 0xBF)
        (n - 0xE0)) := by
  rw [first_ofNat (by omega), if_neg (by omega), if_neg (by omega), if_neg (by omega)]
  by_cases short : n = 0xE0
  · simp [short]
  rw [if_neg short, if_neg short]
  by_cases surrogate : n = 0xED
  · simp [surrogate]
  · rw [if_neg surrogate, if_neg surrogate, if_pos below]

/-- The first of four bytes leaves no room for characters that take fewer, or for numbers that no
character has. -/
theorem first_four (above : 0xF0 ≤ n) (below : n ≤ 0xF4) :
    first (UInt8.ofNat n) =
      ([], .inside 3 (if n = 0xF0 then 0x90 else 0x80) (if n = 0xF4 then 0x8F else 0xBF)
        (n - 0xF0)) := by
  obtain rfl | ⟨more, less⟩ | rfl : n = 0xF0 ∨ (0xF0 < n ∧ n < 0xF4) ∨ n = 0xF4 := by omega
  · rfl
  · rw [first_ofNat (by omega), if_neg (by omega), if_neg (by omega), if_neg (by omega),
      if_neg (by omega), if_neg (by omega), if_neg (by omega), if_neg (by omega), if_pos less,
      if_neg (by omega), if_neg (by omega)]
  · rfl

theorem step_inside (byte : n < 256) (above : low.toNat ≤ n) (below : n ≤ high.toNat) :
    (State.inside left low high acc).step (UInt8.ofNat n) =
      if left ≤ 1 then ([some (Char.ofNat (acc * 64 + (n - 0x80)))], .start)
      else ([], .inside (left - 1) 0x80 0xBF (acc * 64 + (n - 0x80))) := by
  have within : low ≤ UInt8.ofNat n ∧ UInt8.ofNat n ≤ high := by
    simp only [UInt8.le_iff_toNat_le, toNat_ofNat byte]
    exact ⟨above, below⟩
  rw [State.step, if_pos within, toNat_ofNat byte]

/-! ### Characters -/

theorem read_first {b : UInt8} :
    State.start.read (b :: bs) = (first b).1 ++ (first b).2.read bs := rfl

theorem read_more (byte : n < 256) (above : low.toNat ≤ n) (below : n ≤ high.toNat) :
    (State.inside (left + 2) low high acc).read (UInt8.ofNat n :: bs) =
      (State.inside (left + 1) 0x80 0xBF (acc * 64 + (n - 0x80))).read bs := by
  rw [State.read, step_inside byte above below, if_neg (by omega)]
  · rfl

theorem read_last (byte : n < 256) (above : low.toNat ≤ n) (below : n ≤ high.toNat) :
    (State.inside 1 low high acc).read (UInt8.ofNat n :: bs) =
      some (Char.ofNat (acc * 64 + (n - 0x80))) :: State.start.read bs := by
  rw [State.read, step_inside byte above below, if_pos (Nat.le_refl 1)]
  · rfl

/-- A character is read back whatever bytes follow it. -/
theorem read_encodeChar (c : Char) (bs : List UInt8) :
    State.start.read (String.utf8EncodeChar c ++ bs) = some c :: State.start.read bs := by
  have back : Char.ofNat c.val.toNat = c := Char.ofNat_toNat c
  have valid : c.val.toNat < 0xD800 ∨ 0xDFFF < c.val.toNat ∧ c.val.toNat < 0x110000 := c.valid
  rw [String.utf8EncodeChar.eq_1]
  generalize c.val.toNat = v at *
  -- One case for each length. In each, `number` puts the groups of six bits together again.
  split
  · rw [List.singleton_append, read_first, first_one (by omega), back]
    rfl
  split
  · have number : (v / 64 % 32 + 192 - 0xC0) * 64 + (v % 64 + 128 - 0x80) = v := by omega
    simp only [List.cons_append, List.nil_append]
    rw [read_first, first_two (by omega) (by omega), List.nil_append,
      read_last (by omega) (by simp) (by simp; omega), number, back]
  split
  · have number : ((v / 4096 % 16 + 224 - 0xE0) * 64 + (v / 64 % 64 + 128 - 0x80)) * 64 +
        (v % 64 + 128 - 0x80) = v := by omega
    simp only [List.cons_append, List.nil_append]
    rw [read_first, first_three (by omega) (by omega), List.nil_append,
      read_more (by omega) (by split <;> simp; omega) (by split <;> simp <;> omega),
      read_last (by omega) (by simp) (by simp; omega), number, back]
  · have number : (((v / 262144 % 8 + 240 - 0xF0) * 64 + (v / 4096 % 64 + 128 - 0x80)) * 64 +
        (v / 64 % 64 + 128 - 0x80)) * 64 + (v % 64 + 128 - 0x80) = v := by omega
    simp only [List.cons_append, List.nil_append]
    rw [read_first, first_four (by omega) (by omega), List.nil_append,
      read_more (by omega) (by split <;> simp; omega) (by split <;> simp <;> omega),
      read_more (by omega) (by simp) (by simp; omega),
      read_last (by omega) (by simp) (by simp; omega), number, back]

/-- No byte of a longer character is small. -/
theorem eq_nul_of_zero_mem {c : Char} (zero : 0 ∈ String.utf8EncodeChar c) : c = '\x00' := by
  have large {n : Nat} (byte : n < 256) (above : 0x80 ≤ n) : 0 ≠ UInt8.ofNat n := by
    intro same
    have same := congrArg UInt8.toNat same
    rw [toNat_ofNat byte, UInt8.toNat_zero] at same
    omega
  rw [String.utf8EncodeChar.eq_1] at zero
  by_cases ascii : c.val.toNat ≤ 127
  · rw [if_pos ascii, List.mem_singleton] at zero
    have same := congrArg UInt8.toNat zero
    rw [toNat_ofNat (by omega)] at same
    exact Char.ext (UInt32.toNat_inj.mp same.symm)
  rw [if_neg ascii] at zero
  exfalso
  split at zero
  · simp only [List.mem_cons, List.not_mem_nil, or_false] at zero
    rcases zero with zero | zero <;> exact large (by omega) (by omega) zero
  split at zero
  · simp only [List.mem_cons, List.not_mem_nil, or_false] at zero
    rcases zero with zero | zero | zero <;> exact large (by omega) (by omega) zero
  · simp only [List.mem_cons, List.not_mem_nil, or_false] at zero
    rcases zero with zero | zero | zero | zero <;> exact large (by omega) (by omega) zero

/-! ### Texts -/

/-- Bytes are zero where characters are NUL, and nowhere else. -/
theorem filter_encode (cs : List Char) :
    (encode cs).filter (· ≠ 0) = encode (cs.filter (· ≠ '\x00')) := by
  induction cs with
  | nil => rfl
  | cons c cs ih =>
    rw [encode_cons, List.filter_append, ih]
    by_cases nul : c = '\x00'
    · subst nul
      rfl
    · have whole : (String.utf8EncodeChar c).filter (· ≠ 0) = String.utf8EncodeChar c := by
        refine List.filter_eq_self.mpr fun b member => decide_eq_true fun zero => nul ?_
        exact eq_nul_of_zero_mem (zero ▸ member)
      rw [whole, List.filter_cons_of_pos (by simpa using nul), encode_cons]

theorem pieces_encode (cs : List Char) : pieces (encode cs) = cs.map some := by
  induction cs with
  | nil => rfl
  | cons c cs ih =>
    rw [encode_cons, pieces, read_encodeChar, List.map_cons, ← ih]
    rfl

theorem decodeLossy_encode (cs : List Char) : decodeLossy (encode cs) = cs := by
  rw [decodeLossy, pieces_encode, List.map_map]
  exact List.map_id cs

/-! ### Unreadable bytes -/

theorem mapM_id_eq_some_iff {xs : List (Option Char)} {cs : List Char} :
    xs.mapM id = some cs ↔ xs = cs.map some := by
  induction xs generalizing cs with
  | nil => cases cs <;> simp
  | cons x xs ih =>
    cases x with
    | none => cases cs <;> simp
    | some c =>
      cases cs with
      | nil => simp [Option.bind_eq_some_iff]
      | cons d cs => simpa [ih, Option.bind_eq_some_iff] using and_comm

theorem decode?_eq_some_iff {cs : List Char} : decode? bs = some cs ↔ pieces bs = cs.map some :=
  mapM_id_eq_some_iff

theorem decodeLossy_of_decode? {cs : List Char} (read : decode? bs = some cs) :
    decodeLossy bs = cs := by
  rw [decodeLossy, decode?_eq_some_iff.mp read, List.map_map]
  exact List.map_id cs

/-- Unreadable bytes leave a U+FFFD in the text. -/
theorem decode?_of_clean (clean : '\uFFFD' ∉ decodeLossy bs) :
    decode? bs = some (decodeLossy bs) := by
  have whole : ∀ piece ∈ pieces bs, some (piece.getD '\uFFFD') = piece := by
    intro piece member
    cases piece with
    | some c => rfl
    | none => exact absurd (List.mem_map.mpr ⟨none, member, rfl⟩) clean
  rw [decode?_eq_some_iff, decodeLossy, List.map_map]
  exact ((List.map_congr_left whole).trans (List.map_id _)).symm

end Text.Utf8

namespace CString

variable {s : String} {c : CString}

theorem text_of_ofText? (h : ofText? s = some c) : c.text = s := by
  rw [ofText?] at h
  split at h
  · contradiction
  · cases h
    exact (congrArg String.ofList (Text.Utf8.decodeLossy_encode _)).trans String.ofList_toList

/-- A text that is sent without its NUL characters loses nothing else. -/
theorem text_strip (s : String) : (strip s).text = String.ofList (s.toList.filter (· ≠ '\x00')) := by
  change String.ofList (Text.Utf8.decodeLossy ((Text.Utf8.encode s.toList).filter (· ≠ 0))) = _
  rw [Text.Utf8.filter_encode, Text.Utf8.decodeLossy_encode]

theorem ofText?_of_nul (nul : '\x00' ∈ s.toList) : ofText? s = none :=
  ofText?_eq_none_iff.mpr (List.mem_flatMap.mpr ⟨'\x00', nul, List.mem_singleton_self 0⟩)

/-- A text without NUL characters crosses whole. -/
theorem exists_ofText? (clean : '\x00' ∉ s.toList) : ∃ c, ofText? s = some c := by
  rw [← Option.ne_none_iff_exists', ne_eq, ofText?_eq_none_iff]
  intro zero
  obtain ⟨c, member, zero⟩ := List.mem_flatMap.mp zero
  exact clean (Text.Utf8.eq_nul_of_zero_mem zero ▸ member)

end CString

end AddonBridge
