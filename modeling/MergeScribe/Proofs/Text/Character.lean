import MergeScribe.Text.Whitespace
import MergeScribe.Text.Word

/-!
# Characters of different kinds

Which classes of characters have nothing in common. Main statements: a digit is no space
(`not_isSpace_of_isDigit`); among the first characters only the ASCII digits are digits
(`isDigit_eq_false_of_lt`), and those before them are no word characters (`isWord_eq_false_of_lt`), so
that the characters that the formats give a meaning of their own are neither (`isDigit_dot`,
`isWord_space` and the like).
-/

namespace MergeScribe

namespace Text

/-- Tables of which no ranges meet have no character in common. -/
theorem inRanges_eq_false_of_disjoint {ranges others : List (Nat × Nat)} {c : Char}
    (hd : ∀ r ∈ ranges, ∀ o ∈ others, r.2 < o.1 ∨ o.2 < r.1) (h : inRanges ranges c = true) :
    inRanges others c = false := by
  obtain ⟨r, hr, hlo, hhi⟩ := inRanges_iff.mp h
  refine Bool.eq_false_iff.mpr fun ho => ?_
  obtain ⟨o, hm, hlo', hhi'⟩ := inRanges_iff.mp ho
  have := hd r hr o hm
  omega

/-- **A digit is no space.** -/
theorem not_isSpace_of_isDigit {c : Char} (h : isDigit c = true) : isSpace c = false := by
  have hd : ∀ r ∈ digitRanges, ∀ s ∈ spaceRanges, r.2 < s.1 ∨ s.2 < r.1 := by decide +kernel
  exact inRanges_eq_false_of_disjoint hd h

/-- For a text that is given, this can be computed. -/
theorem not_isSpace_of_all {t : List Char} (h : (t.all fun c => !isSpace c) = true) :
    ∀ c ∈ t, isSpace c = false := by
  simpa using h

theorem ne_of_isDigit {c d : Char} (h : isDigit c = true) (hd : isDigit d = false) : c ≠ d := by
  rintro rfl
  rw [h] at hd
  cases hd

/-- Below the digits of Arabic, only the ASCII digits are digits. -/
theorem isDigit_eq_false_of_lt {c : Char} (hc : c.isDigit = false) (hlt : c.toNat < 0x660) :
    isDigit c = false := by
  have hfirst : ∀ r ∈ digitRanges, r = (0x30, 0x39) ∨ 0x660 ≤ r.1 := by decide +kernel
  refine Bool.eq_false_iff.mpr fun h => ?_
  obtain ⟨r, hr, hlo, hhi⟩ := inRanges_iff.mp h
  rcases hfirst r hr with rfl | hr
  · have hascii : c.isDigit = true := Bool.and_eq_true_iff.mpr
      ⟨decide_eq_true (UInt32.le_iff_toNat_le.mpr hlo),
        decide_eq_true (UInt32.le_iff_toNat_le.mpr hhi)⟩
    rw [hascii] at hc
    cases hc
  · omega

theorem isDigit_dot : isDigit '.' = false :=
  isDigit_eq_false_of_lt rfl (by decide)

theorem isDigit_v : isDigit 'v' = false :=
  isDigit_eq_false_of_lt rfl (by decide)

theorem isDigit_p : isDigit 'p' = false :=
  isDigit_eq_false_of_lt rfl (by decide)

/-- Below the digits there are no word characters. -/
theorem isWord_eq_false_of_lt {c : Char} (hlt : c.toNat < 0x30) : isWord c = false := by
  have hfirst : ∀ r ∈ digitRanges ++ letterRanges, 0x30 ≤ r.1 := by decide +kernel
  have hnone {ranges : List (Nat × Nat)} (hr : ∀ r ∈ ranges, 0x30 ≤ r.1) :
      inRanges ranges c = false := by
    refine Bool.eq_false_iff.mpr fun h => ?_
    obtain ⟨r, hm, hlo, -⟩ := inRanges_iff.mp h
    have := hr r hm
    omega
  obtain ⟨hdigit, hletter⟩ := List.forall_mem_append.mp hfirst
  exact Bool.or_eq_false_iff.mpr ⟨hnone hdigit, hnone hletter⟩

theorem isWord_space : isWord ' ' = false :=
  isWord_eq_false_of_lt (by decide)

theorem isWord_feed : isWord '\n' = false :=
  isWord_eq_false_of_lt (by decide)

end Text

end MergeScribe
