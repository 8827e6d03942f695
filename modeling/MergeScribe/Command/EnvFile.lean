import MergeScribe.System.Basic
import MergeScribe.Text.Alphanumeric

/-!
# Environment files

The file `.env` of the working directory gives values to environment variables that have none. An
entry is a line, or several lines if a quotation goes on over their ends. Entries count up to the
first one that makes no sense.
-/

namespace MergeScribe

namespace EnvFile

/-! ## 1. Entries -/

/-- Where the end of some text stands: after a space, after a backslash, in a quotation. -/
inductive Stand where
  | plain
  | space
  | escape
  | double
  | doubleEscape
  | single
  | singleEscape
  deriving DecidableEq, Repr

/-- Where the text stands after one more character. -/
def Stand.next : Stand → Char → Stand
  | .double, c => if c = '\\' then .doubleEscape else if c = '"' then .plain else .double
  | .doubleEscape, _ => .double
  | .single, c => if c = '\\' then .singleEscape else if c = '\'' then .plain else .single
  | .singleEscape, _ => .single
  | .escape, _ => .plain
  | stand, c =>
    if c = '\\' then .escape
    else if c = '"' then .double
    else if c = '\'' then .single
    else if stand = .plain && Text.isSpace c && c ≠ '\n' && c ≠ '\r' then .space
    else .plain

/-- How a line ends: in a comment, which some of the line comes before, or at a stand. -/
inductive LineEnd where
  | comment (before : Text)
  | reached (stand : Stand)
  deriving DecidableEq, Repr

/-- Go through a line. A number sign after a single space starts a comment. -/
def scan : Stand → Text → LineEnd
  | stand, [] => .reached stand
  | stand, c :: rest =>
    if stand = .space && c = '#' then .comment []
    else
      match scan (stand.next c) rest with
      | .comment before => .comment (c :: before)
      | found => found

/-- The lines of a file, their ends included. -/
def rawLines : Bytes → List Bytes
  | [] => []
  | b :: more =>
    if b = 0x0A then [b] :: rawLines more
    else
      match rawLines more with
      | [] => [[b]]
      | line :: lines => (b :: line) :: lines

/-- The entries of lines, given what has been read of the first entry and where it stands. An entry
that starts with a number sign is passed over; one that the lines do not end is not there. -/
def entriesFrom (read : Text) (stand : Stand) : List Bytes → List Text
  | [] => []
  | raw :: more =>
    match Text.ofBytes? raw with
    | none => []
    | some line =>
      let entry := read ++ line
      if Text.startsWith (Text.trimStart entry) "#" then entriesFrom [] .plain more
      else
        match scan stand line with
        | .reached .plain => entry :: entriesFrom [] .plain more
        | .reached stand => entriesFrom entry stand more
        | .comment before => (read ++ before) :: entriesFrom [] .plain more

/-- The entries of a file. A byte order mark at its start is not part of them. -/
def entries (file : Bytes) : List Text :=
  entriesFrom [] .plain (rawLines
    (match file with
    | 0xEF :: 0xBB :: 0xBF :: rest => rest
    | bytes => bytes))

/-! ## 2. Values -/

/-- A piece of a value: a character, or the value of another variable. -/
inductive Piece where
  | literal (c : Char)
  | reference (name : Text)
  deriving DecidableEq, Repr

/-- What the reader of a value is in the middle of. Where it comes back to a quotation or not,
`quoted` tells. -/
inductive ValueState where
  | words (quoted : Bool)
  | escape (quoted : Bool)
  | name (quoted : Bool) (read : Text)
  | braces (quoted : Bool) (read : Text)
  | single
  | closed
  | comment
  deriving DecidableEq, Repr

/-- The character that a backslash and a character stand for. -/
def escaped? (c : Char) : Option Char :=
  if c = 'n' then some '\n'
  else if c = '\\' ∨ c = '\'' ∨ c = '"' ∨ c = '$' ∨ c = ' ' then some c
  else none

/-- Read one character of a value: the state after it and the pieces that are complete. Outside of
quotations a space ends the value, and only a comment may follow. The name of a variable ends at
the first character that is not alphanumeric, and this character is taken as it is. -/
def ValueState.next : ValueState → Char → Option (ValueState × List Piece)
  | .comment, _ => some (.comment, [])
  | .closed, c =>
    if c = ' ' ∨ c = '\t' then some (.closed, [])
    else if c = '#' then some (.comment, [])
    else none
  | .escape quoted, c => (escaped? c).map fun c => (.words quoted, [.literal c])
  | .single, c => if c = '\'' then some (.words false, []) else some (.single, [.literal c])
  | .name quoted read, c =>
    if Text.isAlphanumeric c then some (.name quoted (read ++ [c]), [])
    else if c = '{' && read.isEmpty then some (.braces quoted [], [])
    else if c = '$' then some (.name quoted [], [.reference read])
    else some (.words quoted, [.reference read, .literal c])
  | .braces quoted read, c =>
    if c = '}' then some (.words quoted, [.reference read])
    else some (.braces quoted (read ++ [c]), [])
  | .words quoted, c =>
    if c = '$' then some (.name quoted [], [])
    else if c = '\\' then some (.escape quoted, [])
    else if c = '"' then some (.words (!quoted), [])
    else if quoted then some (.words true, [.literal c])
    else if c = '\'' then some (.single, [])
    else if c = ' ' ∨ c = '\t' then some (.closed, [])
    else some (.words false, [.literal c])

/-- The pieces that the end of a value completes. A quotation has to be closed. -/
def ValueState.finish : ValueState → Option (List Piece)
  | .words true | .escape true | .name true _ | .braces _ _ | .single => none
  | .name false read => some [.reference read]
  | .words false | .escape false | .closed | .comment => some []

/-- The pieces of a value. -/
def pieces? : ValueState → Text → Option (List Piece)
  | state, [] => state.finish
  | state, c :: rest => do
    let (state, pieces) ← state.next c
    return pieces ++ (← pieces? state rest)

/-! ## 3. Assignments -/

/-- A variable and the value it gets. -/
structure Assignment where
  name : Text
  value : List Piece
  deriving DecidableEq, Repr

/-- A name at the start of a text, and the text after it. -/
def name? : Text → Option (Text × Text)
  | [] => none
  | c :: rest =>
    let isPart (c : Char) : Bool := c.isAlphanum || c == '_' || c == '.'
    if c.isAlpha || c == '_' then some (c :: rest.takeWhile isPart, rest.dropWhile isPart)
    else none

/-- An assignment from what follows the name. -/
def assignment? (name afterName : Text) : Option Assignment :=
  match Text.trimStart afterName with
  | '=' :: rest =>
    match Text.trimStart rest with
    | [] | '#' :: _ => some ⟨name, []⟩
    | value => (pieces? (.words false) value).map fun value => ⟨name, value⟩
  | _ => none

/-- Read an entry: an assignment, with or without `export` before it, or nothing. -/
def ofEntry? (entry : Text) : Option (Option Assignment) :=
  match Text.trim entry with
  | [] | '#' :: _ => some none
  | t => do
    let (name, rest) ← name? t
    let rest := Text.trimStart rest
    if name = "export" && !Text.startsWith rest "=" then
      let (name, rest) ← name? rest
      return some (← assignment? name rest)
    else return some (← assignment? name rest)

/-! ## 4. Taking effect -/

/-- The value of pieces. A variable that is not set has no text. -/
def expand : List Piece → Program System Text
  | [] => return []
  | .literal c :: more => do return c :: (← expand more)
  | .reference name :: more => do
    let value ← System.getVariable name
    return value.getD [] ++ (← expand more)

/-- Set a variable, unless it is set. -/
def Assignment.apply (a : Assignment) : Program System Unit := do
  let value ← expand a.value
  match ← System.getVariable a.name with
  | some _ => return ()
  | none => System.setVariable a.name value

/-- Let entries take effect one after the other, up to one that makes no sense. -/
def applyEntries : List Text → Program System Unit
  | [] => return ()
  | entry :: more =>
    match ofEntry? entry with
    | none => return ()
    | some none => applyEntries more
    | some (some a) => do
      a.apply
      applyEntries more

/-- Let the environment file of the working directory take effect, if there is one. -/
def load : Program System Unit := do
  match ← System.readFile ".env" with
  | none => return ()
  | some file => applyEntries (entries file)

end EnvFile

end MergeScribe
