import MergeScribe.Changelog.Basic
import MergeScribe.Changelog.VersionId
import MergeScribe.Text.Word

/-!
# The lines of a changelog file

A line is a version heading (`## 3.0.1 / 2015-11-17`), a section heading (`### Bug Fixes`), a change
(`  * Fix it (#12)`), blank, or other text. The forms are tried in this order. A change may end in
a reference in parentheses, which `splitReference` takes off.
-/

namespace MergeScribe

open Text

/-- A line by its form. -/
inductive Line where
  | version (id : Text) (date : Option Text)
  | heading (name : Text)
  | change (entry : Entry)
  | blank
  | other (content : Text)
  deriving DecidableEq, Repr

/-! ## 1. References -/

/-- An issue, as a hash and digits, or a person, as an at sign and word characters. -/
def isReference : Text → Bool
  | '#' :: digits => !digits.isEmpty && digits.all isDigit
  | '@' :: name => !name.isEmpty && name.all isWord
  | _ => false

/-- The text before a final closing parenthesis. -/
def beforeParenthesis? : Text → Option Text
  | [] => none
  | [c] => if c = ')' then some [] else none
  | c :: rest => (beforeParenthesis? rest).map (c :: ·)

/-- The reference of a text that is a space and a reference in parentheses, and nothing else. -/
def closingReference? (t : Text) : Option Text :=
  (after? " (" t).bind fun rest => (beforeParenthesis? rest).filter isReference

/-- The text before its closing reference, and the reference. The text before is not empty. -/
def splitReference : Text → Text × Option Text
  | [] => ([], none)
  | c :: rest =>
    match closingReference? rest with
    | some r => ([c], some r)
    | none => (c :: (splitReference rest).1, (splitReference rest).2)

namespace Entry

/-- The entry that a text stands for: a closing reference is taken off. -/
def ofText (t : Text) : Entry :=
  ⟨(splitReference t).1, (splitReference t).2⟩

/-- The entry with the text of a wrapped line joined on. Only an entry without a reference can gain
one by this. -/
def extend (e : Entry) (t : Text) : Entry :=
  let longer := e.summary ++ ' ' :: t
  match e.reference with
  | some r => ⟨longer, some r⟩
  | none => ofText longer

end Entry

/-! ## 2. The forms -/

/-- The text after a mark and at least one space, trimmed; it must not be empty. -/
def content? (mark line : Text) : Option Text :=
  ((after? mark line).bind afterSpaces?).bind fun rest =>
    if rest.isEmpty then none else some (trimEnd rest)

/-- The id that the first word of a version heading stands for; `HEAD` may be in any case. -/
def versionId? (word : Text) : Option Text :=
  if lowerAscii word == "head".toList then some Version.head
  else if VersionId.isReleased word then some word
  else none

/-- The date in what follows the id of a version heading: nothing but spaces, or a slash between
spaces and then the date. -/
def headingDate? (rest : Text) : Option (Option Text) :=
  if isBlank rest then some none
  else ((afterSpaces? rest).bind (content? "/")).map some

/-- The id and the date of a version heading. -/
def versionHeading? (line : Text) : Option (Text × Option Text) :=
  ((after? "##" line).bind afterSpaces?).bind fun rest =>
    (versionId? (rest.takeWhile fun c => !isSpace c)).bind fun id =>
      (headingDate? (rest.dropWhile fun c => !isSpace c)).map fun date => (id, date)

/-- The name in a section heading. -/
def sectionHeading? (line : Text) : Option Text :=
  content? "###" line

/-- The text of a change, which may be indented. -/
def changeText? (line : Text) : Option Text :=
  content? "*" (trimStart line)

/-- The form of a line. -/
def classify (line : Text) : Line :=
  match versionHeading? line with
  | some (id, date) => .version id date
  | none =>
    match sectionHeading? line with
    | some name => .heading name
    | none =>
      match changeText? line with
      | some text => .change (Entry.ofText text)
      | none => if isBlank line then .blank else .other (trim line)

end MergeScribe
