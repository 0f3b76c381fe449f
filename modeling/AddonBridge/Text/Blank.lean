/-!
# White space

The characters with the Unicode property `White_Space`, and the removal of a blank margin.
`trim_of_not_blank` and `trim_append_blank` say that `trim` removes blanks at both ends and nothing
else, and `exists_trim` that it leaves the text between them.
-/

namespace AddonBridge.Text

/-- The 25 characters that Unicode calls white space. -/
def isBlank (c : Char) : Bool :=
  let n := c.toNat
  (9 ≤ n && n ≤ 13) || n == 0x20 || n == 0x85 || n == 0xA0 || n == 0x1680 ||
    (0x2000 ≤ n && n ≤ 0x200A) || n == 0x2028 || n == 0x2029 || n == 0x202F || n == 0x205F ||
    n == 0x3000

/-- Removes the blanks before the first and after the last other character. -/
def trim (cs : List Char) : List Char :=
  ((cs.dropWhile isBlank).reverse.dropWhile isBlank).reverse

theorem dropWhile_append_of_all {p : α → Bool} {as : List α} (h : ∀ a ∈ as, p a = true)
    (bs : List α) : (as ++ bs).dropWhile p = bs.dropWhile p := by
  induction as with
  | nil => rfl
  | cons a as ih =>
    rw [List.cons_append, List.dropWhile_cons_of_pos (h a (by simp))]
    exact ih fun b hb => h b (List.mem_cons_of_mem _ hb)

/-- Blanks around a text do not change what is left of it. -/
theorem trim_append_blank {as bs : List Char} (ha : ∀ c ∈ as, isBlank c = true)
    (hb : ∀ c ∈ bs, isBlank c = true) (cs : List Char) : trim (as ++ cs ++ bs) = trim cs := by
  have hb' : ∀ c ∈ bs.reverse, isBlank c = true := fun c hc => hb c (List.mem_reverse.mp hc)
  unfold trim
  rw [List.append_assoc, dropWhile_append_of_all ha]
  by_cases hcs : ∀ c ∈ cs, isBlank c = true
  · have h₁ : (cs ++ bs).dropWhile isBlank = [] := by
      rw [dropWhile_append_of_all hcs]
      simpa using dropWhile_append_of_all hb []
    have h₂ : cs.dropWhile isBlank = [] := by simpa using dropWhile_append_of_all hcs []
    rw [h₁, h₂]
  · have h₁ : (cs ++ bs).dropWhile isBlank = cs.dropWhile isBlank ++ bs := by
      clear ha hb hb'
      induction cs with
      | nil => exact absurd (by simp) hcs
      | cons c cs ih =>
        by_cases hc : isBlank c = true
        · rw [List.cons_append, List.dropWhile_cons_of_pos hc, List.dropWhile_cons_of_pos hc]
          exact ih fun h => hcs (by simpa [hc] using h)
        · rw [List.cons_append, List.dropWhile_cons_of_neg hc, List.dropWhile_cons_of_neg hc]
          rfl
    rw [h₁, List.reverse_append, dropWhile_append_of_all hb']

/-- A text that neither starts nor ends with a blank is its own trimmed form. -/
theorem trim_of_not_blank {cs : List Char} (hh : ∀ c, cs.head? = some c → isBlank c = false)
    (hl : ∀ c, cs.getLast? = some c → isBlank c = false) : trim cs = cs := by
  have keep (as : List Char) (h : ∀ c, as.head? = some c → isBlank c = false) :
      as.dropWhile isBlank = as := by
    cases as with
    | nil => rfl
    | cons a as => exact List.dropWhile_cons_of_neg (by simp [h a rfl])
  unfold trim
  rw [keep cs hh, keep cs.reverse (by simpa using hl), List.reverse_reverse]

/-- A text is what is left of it when it is trimmed, with blanks on either side. -/
theorem exists_trim (cs : List Char) :
    ∃ before after, cs = before ++ trim cs ++ after ∧ (∀ c ∈ before, isBlank c = true) ∧
      ∀ c ∈ after, isBlank c = true := by
  have blank (as : List Char) : ∀ c ∈ as.takeWhile isBlank, isBlank c = true :=
    List.all_eq_true.mp List.all_takeWhile
  let rest := cs.dropWhile isBlank
  have back : trim cs ++ (rest.reverse.takeWhile isBlank).reverse = rest := by
    rw [trim, ← List.reverse_append, List.takeWhile_append_dropWhile, List.reverse_reverse]
  refine ⟨cs.takeWhile isBlank, (rest.reverse.takeWhile isBlank).reverse, ?_, blank cs,
    fun c member => blank rest.reverse c (List.mem_reverse.mp member)⟩
  rw [List.append_assoc, back, List.takeWhile_append_dropWhile]

end AddonBridge.Text
