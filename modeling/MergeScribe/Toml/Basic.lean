import MergeScribe.Double
import MergeScribe.Json.Decode

/-!
# TOML values

The values of a TOML document, and how they read as plain data: what is not a date reads as the
JSON value of the same kind, and a date as a record of its own. A number out of range stands for no
value, and it is refused wherever a reader comes upon it.
-/

namespace MergeScribe

/-- A TOML value. Numbers with a fraction and dates are kept as they are written. -/
inductive Toml where
  | string (t : Text)
  | integer (n : Int)
  | float (written : Text)
  | bool (b : Bool)
  | date (written : Text)
  | array (items : List Toml)
  | table (members : List (Text × Toml))
  deriving Inhabited

namespace Toml

/-- The name under which a date stands in the record that it reads as. -/
def dateKey : Text := "$__toml_private_datetime"

/-- An integer as plain data. It has 128 bits, the first of which is the sign if there is one. -/
def ofInteger (n : Int) : Json :=
  if -(Nat.pow 2 127 : Int) ≤ n ∧ n < Nat.pow 2 128 then .integer n else .unrepresentable

/-- A number with a fraction or an exponent as plain data. -/
def ofFloat (written : Text) : Json :=
  let isMark (c : Char) : Bool := c == 'e' || c == 'E'
  let digits := (written.takeWhile fun c => !isMark c).filter Char.isDigit
  let fraction := ((written.takeWhile fun c => !isMark c).dropWhile (· != '.')).filter Char.isDigit
  let exponent := written.dropWhile fun c => !isMark c
  let size : Int := Double.numeral (exponent.filter Char.isDigit)
  let power := if exponent.contains '-' then -size else size
  if Double.exceeds digits (power - fraction.length) then .unrepresentable else .decimal written

mutual

/-- The value as plain data. -/
def toJson : Toml → Json
  | .string t => .string t
  | .integer n => ofInteger n
  | .float written => ofFloat written
  | .bool b => .bool b
  | .date written => .object [(dateKey, .string written)]
  | .array items => .array (toJsonItems items)
  | .table members => .object (toJsonMembers members)

/-- The items as plain data. -/
def toJsonItems : List Toml → List Json
  | [] => []
  | item :: more => item.toJson :: toJsonItems more

/-- The members as plain data. -/
def toJsonMembers : List (Text × Toml) → List (Text × Json)
  | [] => []
  | (name, value) :: more => (name, value.toJson) :: toJsonMembers more

end

/-- How records and variants are written in TOML. An empty table or an empty array is no payload,
what is left over in an array is not read, and what is passed over in a table is read. -/
def dialect : Json.Dialect where
  isUnit
    | .object [] => true
    | .array [] => true
    | _ => false
  takesSurplus := true
  passesOver := Json.isSound

end Toml

end MergeScribe
