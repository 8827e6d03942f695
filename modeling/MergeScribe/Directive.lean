import MergeScribe.Text.Basic

/-!
# Merge directives

A maintainer asks for a merge in a comment: `@bot: merge`, `@bot: :shipit:` or `@bot: :ship:`, to
which a label may be added, as in `@bot: merge +Bug Fix`. The first directive in a comment counts,
and it may stand anywhere.
-/

namespace MergeScribe

/-- A request to merge, and the label that was asked for. -/
structure Directive where
  label : Option Text
  deriving DecidableEq, Repr

namespace Directive

/-- An ASCII letter, an underscore or a hyphen. -/
def isHandleChar (c : Char) : Bool :=
  c.isAlpha || c == '_' || c == '-'

/-- What labels are made of: handle characters and spaces. -/
def isLabelChar (c : Char) : Bool :=
  isHandleChar c || c == ' '

/-- The words that ask for a merge. -/
def verbs : List Text :=
  ["merge", ":shipit:", ":ship:"]

/-- What follows the verb at the start of a text. -/
def afterVerb? (t : Text) : Option Text :=
  verbs.findSome? fun verb => Text.after? verb t

/-- What follows a call of the bot at the start of a text: its handle, a colon and a space. -/
def afterCall? : Text → Option Text
  | '@' :: rest =>
    if (rest.takeWhile isHandleChar).isEmpty then none
    else Text.after? ": " (rest.dropWhile isHandleChar)
  | _ => none

/-- The label at the start of a text: a space, a plus sign and label characters that are not all
spaces. -/
def label? (t : Text) : Option Text :=
  (Text.after? " +" t).bind fun rest =>
    let label := Text.trim (rest.takeWhile isLabelChar)
    if label.isEmpty then none else some label

/-- The directive at the very start of a text. -/
def at? (t : Text) : Option Directive :=
  ((afterCall? t).bind afterVerb?).map fun rest => ⟨label? rest⟩

/-- The first directive in a comment. -/
def find? : Text → Option Directive
  | [] => none
  | c :: rest =>
    match at? (c :: rest) with
    | some directive => some directive
    | none => find? rest

end Directive

end MergeScribe
