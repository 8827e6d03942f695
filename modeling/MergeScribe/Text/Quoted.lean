import MergeScribe.Text.Basic
import MergeScribe.Text.Hidden

/-!
# Texts in messages

How a text that may be missing is shown in a message: `None`, or `Some` with the text in quotes.
-/

namespace MergeScribe

namespace Text

/-- A number in base 16. -/
def hexOfNat (n : Nat) : Text :=
  Nat.toDigits 16 n

/-- A character between quotes. -/
def quotedChar (c : Char) : Text :=
  if c = '"' then "\\\""
  else if c = '\\' then "\\\\"
  else if c = '\n' then "\\n"
  else if c = '\r' then "\\r"
  else if c = '\t' then "\\t"
  else if c = '\x00' then "\\0"
  else if isHidden c then "\\u\x7b" ++ hexOfNat c.toNat ++ "\x7d"
  else [c]

/-- A text in quotes. -/
def quoted (t : Text) : Text :=
  '"' :: t.flatMap quotedChar ++ ['"']

/-- A text in quotes, or that there is none. -/
def quotedOption : Option Text → Text
  | none => "None"
  | some t => "Some(" ++ quoted t ++ ")"

end Text

end MergeScribe
