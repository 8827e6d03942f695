/-!
# Tables of code points

A property of characters is given as a list of ranges of code points, and a character has the
property when one of the ranges holds it.
-/

namespace MergeScribe

namespace Text

/-- Whether a character's code point lies in one of the ranges, both ends included. -/
def inRanges (ranges : List (Nat × Nat)) (c : Char) : Bool :=
  ranges.any fun range => range.1 ≤ c.toNat && c.toNat ≤ range.2

theorem inRanges_iff {ranges : List (Nat × Nat)} {c : Char} :
    inRanges ranges c = true ↔ ∃ range ∈ ranges, range.1 ≤ c.toNat ∧ c.toNat ≤ range.2 := by
  simp [inRanges]

theorem inRanges_of_mem {ranges : List (Nat × Nat)} {lo hi : Nat} {c : Char}
    (hm : (lo, hi) ∈ ranges) (hlo : lo ≤ c.toNat) (hhi : c.toNat ≤ hi) :
    inRanges ranges c = true :=
  inRanges_iff.mpr ⟨(lo, hi), hm, hlo, hhi⟩

end Text

end MergeScribe
