import MergeScribe.Text.Direction
import MergeScribe.Text.Folding
import MergeScribe.Text.Hidden
import MergeScribe.Text.Joining
import MergeScribe.Text.Punycode

/-!
# Names of domains

A domain is named by labels with points between them, in characters of any script. On the wire a
name is ASCII: `toAscii?` folds it, checks each label, and writes a label that is not ASCII in
Punycode after a mark. A label that comes with the mark must stand for one that could be written so.
-/

namespace MergeScribe

namespace Domain

/-! ## 1. Labels -/

/-- What a label in Punycode starts with. -/
def encodedMark : Text := "xn--"

/-- An ASCII character that may not stand in a name. -/
def isForbidden (c : Char) : Bool :=
  c.toNat ≤ 0x20 || c.toNat == 0x7F || "%#/:<>?@[\\]^|".toList.contains c

/-- Signs that show and still may not stand in a name: those that describe how a character is put
together, and those in the place of a character. -/
def isDescription (c : Char) : Bool :=
  Text.inRanges [(0x2FF0, 0x2FFF), (0x31EF, 0x31EF), (0xFFFC, 0xFFFD)] c

/-- A character that may stand in a label: it is folded, and shows or belongs to one that does. -/
def isAllowed (c : Char) : Bool :=
  if c.toNat < 0x80 then !isForbidden c && !c.isUpper
  else
    Text.foldChar c == [c] && !Text.isUnfolded c && !isDescription c
      && (!Text.isHidden c || Text.isMark c || c == Text.joiner || c == Text.nonJoiner)

/-- Whether a text is ASCII. -/
def isAscii (t : Text) : Bool :=
  t.all fun c => c.toNat < 0x80

/-- Whether a text is a label in its own characters. -/
def isLabel (t : Text) : Bool :=
  t.all isAllowed && !t.head?.any Text.isMark && Text.joinersFit [] t
    && !Text.startsWith t encodedMark

/-- The label in its own characters. -/
def reveal? (label : Text) : Option Text :=
  match Text.after? encodedMark label with
  | none => some label
  | some encoded =>
    (Punycode.decode? encoded).filter fun t => !isAscii t && Text.compose t == t

/-- A label on the wire. -/
def conceal (label : Text) : Text :=
  if isAscii label then label else encodedMark ++ Punycode.encode label

/-! ## 2. Names -/

/-- A name on the wire, if it is one. In a name with letters written from right to left each label
keeps one direction. -/
def toAscii? (t : Text) : Option Text :=
  let labels := Text.pieces '.' (Text.compose (Text.folded t))
  (labels.mapM reveal?).bind fun revealed =>
    if revealed.all isLabel
        && (revealed.all Text.isDirected || !revealed.any fun label => label.any Text.turns) then
      some (Text.joined "." (revealed.map conceal))
    else none

end Domain

end MergeScribe
