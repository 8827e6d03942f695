import MergeScribe.Text.CodeRange

/-!
# Whitespace

A space is a character with the Unicode property White_Space. Headings, change lines and tokens
are trimmed of these at both ends.
-/

namespace MergeScribe

namespace Text

/-- The code points with the property White_Space. -/
def spaceRanges : List (Nat × Nat) :=
  [(0x9, 0xD), (0x20, 0x20), (0x85, 0x85), (0xA0, 0xA0), (0x1680, 0x1680), (0x2000, 0x200A),
   (0x2028, 0x2029), (0x202F, 0x202F), (0x205F, 0x205F), (0x3000, 0x3000)]

/-- A whitespace character. -/
def isSpace (c : Char) : Bool :=
  inRanges spaceRanges c

end Text

end MergeScribe
