import MergeScribe.Toml.Quoted
import MergeScribe.Toml.Scalar
import MergeScribe.Toml.Table

/-!
# Reading TOML

A document is a list of statements, each on a line of its own: a header opens a table, and a pair
gives a key of the open table a value. `parse?` reads the statements and builds the document's
table from them.
-/

namespace MergeScribe

namespace Toml

/-! ## 1. Between the tokens -/

/-- The text without the blanks at its start. -/
def skipBlanks (t : Text) : Text :=
  t.dropWhile fun c => c == ' ' || c == '\t'

/-- What follows a comment, if one is here; it goes to the end of the line. -/
def afterComment? : Text → Option Text
  | '#' :: rest =>
    let rest := rest.dropWhile fun c => !isControl c
    if rest.isEmpty ∨ (lineEnd? rest).isSome then some rest else none
  | t => some t

/-- What follows blanks, comments and line ends. -/
def skipLines? : Nat → Text → Option Text
  | 0, _ => none
  | fuel + 1, t =>
    (afterComment? (skipBlanks t)).bind fun rest =>
      match lineEnd? rest with
      | some (_, rest) => skipLines? fuel rest
      | none => some rest

/-- What follows blanks, comments and line ends. -/
def skipAll? (t : Text) : Option Text :=
  skipLines? (t.length + 1) t

/-- What follows the rest of a line, in which nothing but a comment may stand. -/
def finishLine? (t : Text) : Option Text :=
  (afterComment? (skipBlanks t)).bind fun rest =>
    if rest.isEmpty then some [] else (lineEnd? rest).map Prod.snd

/-! ## 2. Keys -/

/-- The characters of a key without quotes. -/
def isBareChar (c : Char) : Bool :=
  c.isAlphanum || c == '_' || c == '-'

/-- One part of a key, and what follows. -/
def simpleKey? (t : Text) : Option (Text × Text) :=
  let bare := t.takeWhile isBareChar
  if bare.isEmpty then oneLine? t else some (bare, t.dropWhile isBareChar)

/-- A key of parts with points between them, and what follows. -/
def dottedKey? : Nat → Text → Option (List Text × Text)
  | 0, _ => none
  | fuel + 1, t =>
    (simpleKey? (skipBlanks t)).bind fun (part, rest) =>
      match skipBlanks rest with
      | '.' :: rest => (dottedKey? fuel rest).map fun (parts, rest) => (part :: parts, rest)
      | rest => some ([part], rest)

/-- How many parts a key may have, and how many arrays and tables in braces may be nested. -/
def maxDepth : Nat := 80

/-- A key and what follows. -/
def key? (t : Text) : Option (List Text × Text) :=
  (dottedKey? (t.length + 1) t).filter fun (parts, _) => parts.length ≤ maxDepth

/-- A key with its equals sign, and what follows. What may stand on both sides of the sign is passed
over by `skip?`. -/
def assigned? (skip? : Text → Option Text) (t : Text) : Option (List Text × Text) :=
  (key? t).bind fun (key, rest) =>
    (skip? rest).bind fun rest =>
      match rest with
      | '=' :: rest => (skip? rest).map fun rest => (key, rest)
      | _ => none

/-! ## 3. Values -/

mutual

/-- A value and what follows. The fuel bounds the tokens to read, and the room how deep arrays and
tables in braces may be nested. -/
def value? : Nat → Nat → Text → Option (Toml × Text)
  | 0, _, _ => none
  | fuel + 1, room, t =>
    match t, room with
    | '"' :: _, _ => (string? t).map fun (s, rest) => (.string s, rest)
    | '\'' :: _, _ => (string? t).map fun (s, rest) => (.string s, rest)
    | '[' :: rest, room + 1 => (items? fuel room rest).map fun (items, rest) => (.array items, rest)
    | '{' :: rest, room + 1 =>
      (pairs? fuel room rest).bind fun (pairs, rest) =>
        (ofPairs? pairs).map fun table => (table, rest)
    | t, _ => (ofWord? (word t).1).map fun value => (value, (word t).2)

/-- The items of an array up to its closing bracket, and what follows. -/
def items? : Nat → Nat → Text → Option (List Toml × Text)
  | 0, _, _ => none
  | fuel + 1, room, t =>
    (skipAll? t).bind fun t =>
      match t with
      | ']' :: rest => some ([], rest)
      | t =>
        (value? fuel room t).bind fun (item, rest) =>
          (skipAll? rest).bind fun rest =>
            match rest with
            | ',' :: rest => (items? fuel room rest).map fun (items, rest) => (item :: items, rest)
            | ']' :: rest => some ([item], rest)
            | _ => none

/-- The pairs of a table in braces up to its closing brace, and what follows. -/
def pairs? : Nat → Nat → Text → Option (List (List Text × Toml) × Text)
  | 0, _, _ => none
  | fuel + 1, room, t =>
    (skipAll? t).bind fun t =>
      match t with
      | '}' :: rest => some ([], rest)
      | t =>
        (assigned? skipAll? t).bind fun (key, rest) =>
          (value? fuel room rest).bind fun (value, rest) =>
            (skipAll? rest).bind fun rest =>
              match rest with
              | ',' :: rest =>
                (pairs? fuel room rest).map fun (pairs, rest) => ((key, value) :: pairs, rest)
              | '}' :: rest => some ([(key, value)], rest)
              | _ => none

end

/-! ## 4. Documents -/

/-- A statement of a document. -/
inductive Statement where
  | pair (key : List Text) (value : Toml)
  | table (path : List Text)
  | element (path : List Text)

/-- A statement, and what follows its line. -/
def statement? (t : Text) : Option (Statement × Text) :=
  match t with
  | '[' :: '[' :: rest =>
    (key? rest).bind fun (path, rest) =>
      ((Text.after? "]]" rest).bind finishLine?).map fun rest => (.element path, rest)
  | '[' :: rest =>
    (key? rest).bind fun (path, rest) =>
      ((Text.after? "]" rest).bind finishLine?).map fun rest => (.table path, rest)
  | t =>
    (assigned? (some ∘ skipBlanks) t).bind fun (key, rest) =>
      (value? (2 * rest.length + 2) maxDepth rest).bind fun (value, rest) =>
        (finishLine? rest).map fun rest => (.pair key value, rest)

/-- The statements of a text. -/
def statements? : Nat → Text → Option (List Statement)
  | 0, _ => none
  | fuel + 1, t =>
    (skipAll? t).bind fun t =>
      if t.isEmpty then some []
      else
        (statement? t).bind fun (statement, rest) =>
          (statements? fuel rest).map fun more => statement :: more

/-- A document that is being built: its table, and the path of the header that is open. -/
structure Draft where
  root : Members
  opened : List Text

/-- Take a statement in. -/
def Draft.add (d : Draft) : Statement → Option Draft
  | .pair key value =>
    (Members.within (Members.assign value key) d.opened d.root).map fun root =>
      { d with root := root }
  | .table path =>
    path.getLast?.bind fun name =>
      (Members.within (Members.openTable name) path.dropLast d.root).map fun root =>
        ⟨root, path⟩
  | .element path =>
    path.getLast?.bind fun name =>
      (Members.within (Members.openElement name) path.dropLast d.root).map fun root =>
        ⟨root, path⟩

/-- The table of a document, which may start with a byte order mark. -/
def parse? (t : Text) : Option Toml :=
  let t := (Text.after? "\ufeff" t).getD t
  (statements? (t.length + 1) t).bind fun statements =>
    (statements.foldlM Draft.add ⟨[], []⟩).map fun draft => .table (finishMembers draft.root)

end Toml

end MergeScribe
