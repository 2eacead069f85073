import ClassChart.Text.Blank
import ClassChart.Text.Digit

/-! How the classes of characters lie to each other: a character that starts a name is neither a
digit nor blank. The tables are compared by one walk over both, so the check stays linear. -/
namespace ClassChart.Text

/-- No range of the first list meets one of the second; both are sorted. -/
def apart : List (Nat × Nat) → List (Nat × Nat) → Bool
  | [], _ => true
  | (low, high) :: rest, others =>
    let later := others.dropWhile (·.2 < low)
    later.head?.all (high < ·.1) && apart rest later

theorem inRanges_cons (low high n : Nat) (rest : List (Nat × Nat)) :
    inRanges ((low, high) :: rest) n = true ↔ low ≤ n ∧ (n ≤ high ∨ inRanges rest n = true) := by
  simp only [inRanges]
  split
  · simp; omega
  · simp; omega

theorem inRanges_dropWhile (rs : List (Nat × Nat)) (low n : Nat) (hlow : low ≤ n)
    (h : inRanges rs n = true) : inRanges (rs.dropWhile (·.2 < low)) n = true := by
  induction rs with
  | nil => exact h
  | cons r rest ih =>
    obtain ⟨a, b⟩ := r
    by_cases hb : b < low
    · have hrest := ((inRanges_cons a b n rest).mp h).2.resolve_left (by omega)
      simpa [List.dropWhile_cons, hb] using ih hrest
    · simpa [List.dropWhile_cons, hb] using h

theorem not_inRanges_of_apart (rs others : List (Nat × Nat)) (n : Nat)
    (hapart : apart rs others = true) (h : inRanges rs n = true) : inRanges others n = false := by
  induction rs generalizing others with
  | nil => simp [inRanges] at h
  | cons r rest ih =>
    obtain ⟨low, high⟩ := r
    obtain ⟨hlow, hn⟩ := (inRanges_cons low high n rest).mp h
    simp only [apart, Bool.and_eq_true] at hapart
    refine Bool.eq_false_iff.mpr fun hothers => ?_
    have hlater := inRanges_dropWhile others low n hlow hothers
    rcases hn with hhigh | hrest
    · cases heq : others.dropWhile (·.2 < low) with
      | nil => simp [heq, inRanges] at hlater
      | cons s more =>
        obtain ⟨a, b⟩ := s
        rw [heq] at hlater hapart
        have hs := ((inRanges_cons a b n more).mp hlater).1
        have ha : high < a := by simpa using hapart.1
        omega
    · simp [ih _ hapart.2 hrest] at hlater

theorem alpha_bounds (c : Char) (h : c.isAlpha = true) :
    (65 ≤ c.toNat ∧ c.toNat ≤ 90) ∨ (97 ≤ c.toNat ∧ c.toNat ≤ 122) := by
  change (decide (c.val ≥ 'A'.val ∧ c.val ≤ 'Z'.val) ||
    (decide (c.val ≥ 'a'.val) && decide (c.val ≤ 'z'.val))) = true at h
  simp only [Bool.or_eq_true, Bool.and_eq_true, decide_eq_true_eq, ge_iff_le,
    UInt32.le_iff_toNat_le] at h
  exact h

theorem digit_bounds (c : Char) (h : c.isDigit = true) : 48 ≤ c.toNat ∧ c.toNat ≤ 57 := by
  simp only [Char.isDigit, Bool.and_eq_true, decide_eq_true_eq, ge_iff_le,
    UInt32.le_iff_toNat_le] at h
  exact h

theorem letters_apart_digits : apart letterRanges digitRanges = true := by decide +kernel

theorem not_digit_of_letter (c : Char) (h : isLetter c = true) : isDigit c = false := by
  refine Bool.eq_false_iff.mpr fun hd => ?_
  simp only [isLetter] at h
  simp only [isDigit] at hd
  by_cases hc : c.toNat < 128
  · rw [if_pos hc] at h hd
    have ha := alpha_bounds c h
    have hb := digit_bounds c hd
    omega
  · rw [if_neg hc] at h hd
    simp [not_inRanges_of_apart _ _ _ letters_apart_digits h] at hd

def blankRanges : List (Nat × Nat) :=
  [(9, 13), (28, 32), (0x85, 0x85), (0xA0, 0xA0), (0x1680, 0x1680), (0x2000, 0x200A),
   (0x2028, 0x2029), (0x202F, 0x202F), (0x205F, 0x205F), (0x3000, 0x3000)]

theorem letters_apart_blanks : apart letterRanges blankRanges = true := by decide +kernel

theorem numbers_apart_blanks : apart numericRanges blankRanges = true := by decide +kernel

theorem inRanges_blank (c : Char) (h : isBlank c = true) : inRanges blankRanges c.toNat = true := by
  simp only [isBlank, Bool.or_eq_true, Bool.and_eq_true, decide_eq_true_eq, beq_iff_eq] at h
  simp only [blankRanges, inRanges_cons]
  simp only [inRanges]
  omega

theorem blank_ascii (c : Char) (h : isBlank c = true) (hc : c.toNat < 128) : c.toNat ≤ 32 := by
  simp only [isBlank, Bool.or_eq_true, Bool.and_eq_true, decide_eq_true_eq, beq_iff_eq] at h
  omega

/- A class of characters by its ASCII part, which lies behind the blanks, and a table apart from theirs. -/
theorem not_blank_of_table {ascii : Char → Bool} {table : List (Nat × Nat)}
    (hascii : ∀ c, ascii c = true → 32 < c.toNat) (htable : apart table blankRanges = true) (c : Char)
    (h : (if c.toNat < 128 then ascii c else inRanges table c.toNat) = true) : isBlank c = false := by
  refine Bool.eq_false_iff.mpr fun hb => ?_
  by_cases hc : c.toNat < 128
  · rw [if_pos hc] at h
    have hbehind := hascii c h
    have hfront := blank_ascii c hb hc
    omega
  · rw [if_neg hc] at h
    have hnot := not_inRanges_of_apart _ _ _ htable h
    simp [inRanges_blank c hb] at hnot

theorem not_blank_of_wordChar (c : Char) (h : isWordChar c = true) : isBlank c = false := by
  simp only [isWordChar, Bool.or_eq_true, beq_iff_eq] at h
  rcases h with (hl | hn) | rfl
  · exact not_blank_of_table (fun c h => by have := alpha_bounds c h; omega) letters_apart_blanks c hl
  · exact not_blank_of_table (fun c h => by have := digit_bounds c h; omega) numbers_apart_blanks c hn
  · decide

theorem isNameStart_cases (c : Char) (h : isNameStart c = true) : isLetter c = true ∨ c = '_' := by
  simpa [isNameStart] using h

theorem wordChar_of_nameStart (c : Char) (h : isNameStart c = true) : isWordChar c = true := by
  rcases isNameStart_cases c h with hl | rfl
  · simp [isWordChar, hl]
  · decide

theorem wordChar_of_wordStart (c : Char) (h : isWordStart c = true) : isWordChar c = true := by
  rw [isWordStart, Bool.and_eq_true] at h
  exact h.1

theorem wordStart_of_nameStart (c : Char) (h : isNameStart c = true) : isWordStart c = true := by
  have hd : isDigit c = false := by
    rcases isNameStart_cases c h with hl | rfl
    · exact not_digit_of_letter c hl
    · decide
  simp [isWordStart, wordChar_of_nameStart c h, hd]

end ClassChart.Text
