import MergeScribe.Text.Basic

/-!
# JSON values

A JSON value as it is written: members keep their order and may repeat. Two kinds of token are
correct JSON and still stand for no value, namely a number beyond the range of doubles and a string
with half a surrogate pair. They are kept apart (`unrepresentable`), since only a reader that needs
the value has to refuse them.
-/

namespace MergeScribe

/-- A JSON value. -/
inductive Json where
  | null
  | bool (b : Bool)
  | integer (n : Int)
  /-- A number that is not written as an integer; minus zero is one. -/
  | decimal (written : Text)
  | string (t : Text)
  | array (items : List Json)
  | object (members : List (Text × Json))
  | unrepresentable
  deriving Inhabited

namespace Json

/-! ## 1. What a value holds -/

mutual

/-- Whether every part of the value can be represented. -/
def isSound : Json → Bool
  | .array items => areSound items
  | .object members => areSoundMembers members
  | .unrepresentable => false
  | _ => true

/-- Whether every part of the items can be represented. -/
def areSound : List Json → Bool
  | [] => true
  | item :: more => item.isSound && areSound more

/-- Whether every part of the members can be represented. -/
def areSoundMembers : List (Text × Json) → Bool
  | [] => true
  | (_, value) :: more => value.isSound && areSoundMembers more

end

mutual

/-- How many arrays and objects are nested in the value, counting itself. -/
def depth : Json → Nat
  | .array items => depthOfItems items + 1
  | .object members => depthOfMembers members + 1
  | _ => 0

/-- The greatest depth among items. -/
def depthOfItems : List Json → Nat
  | [] => 0
  | item :: more => max item.depth (depthOfItems more)

/-- The greatest depth among the values of members. -/
def depthOfMembers : List (Text × Json) → Nat
  | [] => 0
  | (_, value) :: more => max value.depth (depthOfMembers more)

end

mutual

/-- The value with one member of each name, the last one. -/
def withoutRepeats : Json → Json
  | .array items => .array (withoutRepeatsItems items)
  | .object members => .object (withoutRepeatsMembers members)
  | j => j

/-- The items with one member of each name. -/
def withoutRepeatsItems : List Json → List Json
  | [] => []
  | item :: more => item.withoutRepeats :: withoutRepeatsItems more

/-- The members with one of each name. -/
def withoutRepeatsMembers : List (Text × Json) → List (Text × Json)
  | [] => []
  | (name, value) :: more =>
    if more.any fun m => m.1 == name then withoutRepeatsMembers more
    else (name, value.withoutRepeats) :: withoutRepeatsMembers more

end

/-- The value of the last member of a name. -/
def member? (name : Text) : Json → Option Json
  | .object members => members.reverse.lookup name
  | _ => none

/-! ## 2. Writing -/

/-- A digit of base 16. -/
def hexDigit (n : Nat) : Char :=
  "0123456789abcdef".toList.getD n '0'

/-- A character inside a string. Quotes, backslashes and control characters are escaped. -/
def writeChar (c : Char) : Text :=
  if c = '"' then "\\\""
  else if c = '\\' then "\\\\"
  else if c = '\n' then "\\n"
  else if c = '\r' then "\\r"
  else if c = '\t' then "\\t"
  else if c.toNat < 0x20 then
    "\\u00" ++ [hexDigit (c.toNat / 16), hexDigit (c.toNat % 16)]
  else [c]

/-- A string in quotes. -/
def writeString (t : Text) : Text :=
  '"' :: t.flatMap writeChar ++ ['"']

/-- An integer in base 10. -/
def writeInteger (n : Int) : Text :=
  if n < 0 then '-' :: Text.ofNat n.natAbs else Text.ofNat n.natAbs

mutual

/-- The text of a value, without any blanks. What cannot be represented is written as `null`. -/
def write : Json → Text
  | .null => "null"
  | .bool true => "true"
  | .bool false => "false"
  | .integer n => writeInteger n
  | .decimal written => written
  | .string t => writeString t
  | .array items => '[' :: writeItems items ++ [']']
  | .object members => '{' :: writeMembers members ++ ['}']
  | .unrepresentable => "null"

/-- The items with commas between them. -/
def writeItems : List Json → Text
  | [] => []
  | [item] => item.write
  | item :: more => item.write ++ ',' :: writeItems more

/-- The members with commas between them. -/
def writeMembers : List (Text × Json) → Text
  | [] => []
  | [(name, value)] => writeString name ++ ':' :: value.write
  | (name, value) :: more => writeString name ++ ':' :: value.write ++ ',' :: writeMembers more

end

/-! ## 3. Building -/

/-- A number that is never negative. -/
def ofNat (n : Nat) : Json :=
  .integer n

/-- A value, or `null` if there is none. -/
def ofOption {α : Type} (encode : α → Json) : Option α → Json
  | some a => encode a
  | none => .null

/-- Values in a row. -/
def ofList {α : Type} (encode : α → Json) (values : List α) : Json :=
  .array (values.map encode)

end Json

end MergeScribe
