import MergeScribe.Text.Basic
import MergeScribe.Text.CaseTable

/-!
# Letter case

The full lower- and upper-case forms of a text. One character may become several, and a capital
sigma at the end of a word becomes the final small sigma.
-/

namespace MergeScribe

namespace Text

/-- A character that belongs to a cased script. -/
def isCased (c : Char) : Bool :=
  inRanges casedRanges c

/-- A character that is passed over when the end of a word is looked for. -/
def isCaseIgnorable (c : Char) : Bool :=
  inRanges caseIgnorableRanges c

/-- Whether a cased character comes first, once the case-ignorable ones are passed over. -/
def meetsCased (t : Text) : Bool :=
  match t.dropWhile isCaseIgnorable with
  | c :: _ => isCased c
  | [] => false

/-- The lower-case form of a character, apart from the sigma at the end of a word. -/
def lowerChar (c : Char) : Text :=
  if c = 'İ' then ['i', '\u0307'] else [mapSingle lowerRows c]

/-- The upper-case form of a character. -/
def upperChar (c : Char) : Text :=
  match upperLong.lookup c.toNat with
  | some codes => codes.map Char.ofNat
  | none => [mapSingle upperRows c]

/-- The lower-case form of a text that follows `seen`, which is given last character first. A
capital sigma is final when a cased character comes before it and none after it. -/
def lowerAfter (seen : Text) : Text → Text
  | [] => []
  | c :: rest =>
    (if c = 'Σ' then if meetsCased seen && !meetsCased rest then ['ς'] else ['σ']
     else lowerChar c) ++ lowerAfter (c :: seen) rest

/-- The lower-case form of a text. -/
def lower (t : Text) : Text :=
  lowerAfter [] t

/-- The upper-case form of a text. -/
def upper (t : Text) : Text :=
  t.flatMap upperChar

end Text

end MergeScribe
