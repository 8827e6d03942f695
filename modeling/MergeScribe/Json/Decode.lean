import MergeScribe.Json.Basic

/-!
# Records in JSON

A record is written as an object with its fields by name, in any order and among others, or as an
array of its fields in the order of their declaration. This file reads such records: a field of the
record that is given twice is refused, other members are passed over. A field is required, or it is
optional and may be left out or `null`, or it has a default and may only be left out.
-/

namespace MergeScribe

namespace Json

/-! ## 1. Plain values -/

/-- A truth value. -/
def bool? : Json → Option Bool
  | .bool b => some b
  | _ => none

/-- A text. -/
def text? : Json → Option Text
  | .string t => some t
  | _ => none

/-- A number from zero up to, and not including, a limit. -/
def natBelow? (limit : Nat) : Json → Option Nat
  | .integer n => if 0 ≤ n ∧ n < limit then some n.toNat else none
  | _ => none

/-- A number of 32 bits. -/
def nat32? : Json → Option Nat :=
  natBelow? (Nat.pow 2 32)

/-- A number of 64 bits. -/
def nat64? : Json → Option Nat :=
  natBelow? (Nat.pow 2 64)

/-- An array of values of one kind. -/
def list? {α : Type} (decode : Json → Option α) : Json → Option (List α)
  | .array items => items.mapM decode
  | _ => none

/-- A value that may be `null`. -/
def nullable? {α : Type} (decode : Json → Option α) : Json → Option (Option α)
  | .null => some none
  | j => (decode j).map some

/-- How many arrays and objects may be nested in a value that is kept. -/
def maxDepth : Nat := 127

/-- A value kept as it is, inside so many arrays and objects. -/
def keptInside? (around : Nat) (j : Json) : Option Json :=
  if j.isSound && around + j.depth ≤ maxDepth then some j else none

/-! ## 2. Records -/

/-- What formats write in their own ways. -/
structure Dialect where
  /-- Whether a value says that a variant has no payload. -/
  isUnit : Json → Bool
  /-- Whether an array may have more items than the record that it writes has fields. -/
  takesSurplus : Bool
  /-- Whether a member of another name may have this value. -/
  passesOver : Json → Bool

/-- How JSON writes records and variants. -/
def dialect : Dialect where
  isUnit
    | .null => true
    | _ => false
  takesSurplus := false
  passesOver _ := true

/-- The fields of a record that are given. -/
structure Fields where
  given : List (Text × Json)
  /-- Whether they came as an array. Then an optional field may be `null`, but not left out. -/
  positional : Bool

/-- The fields with the declared names in a value that writes a record in a dialect. -/
def recordIn? (d : Dialect) (names : List Text) : Json → Option Fields
  | .object members =>
    let known := members.filter fun m => names.contains m.1
    let others := members.filter fun m => !names.contains m.1
    if (known.map Prod.fst).Nodup ∧ others.all fun m => d.passesOver m.2 then some ⟨known, false⟩
    else none
  | .array items =>
    if d.takesSurplus ∨ items.length ≤ names.length then some ⟨names.zip items, true⟩ else none
  | _ => none

/-- The fields with the declared names in a value that writes a record. -/
def record? (names : List Text) (j : Json) : Option Fields :=
  recordIn? dialect names j

namespace Fields

/-- A field that must be given. -/
def required {α : Type} (fields : Fields) (name : Text) (decode : Json → Option α) : Option α :=
  (fields.given.lookup name).bind decode

/-- A field that may be `null`, or left out of an object. -/
def optional {α : Type} (fields : Fields) (name : Text) (decode : Json → Option α) :
    Option (Option α) :=
  match fields.given.lookup name with
  | some j => nullable? decode j
  | none => if fields.positional then none else some none

/-- A field that has the default value where it is left out. -/
def withDefault {α : Type} (fields : Fields) (name : Text) (default : α)
    (decode : Json → Option α) : Option α :=
  match fields.given.lookup name with
  | some j => decode j
  | none => some default

end Fields

/-- The text in the only field of a record. -/
def single? (name : Text) (j : Json) : Option Text :=
  (record? [name] j).bind fun fields => fields.required name text?

end Json

end MergeScribe
