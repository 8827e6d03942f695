import MergeScribe.Double
import MergeScribe.Json.Basic

/-!
# Reading JSON

The strict grammar: one value, blanks around it, nothing else. There are no comments, no trailing
commas and no byte order mark, and control characters inside strings are refused.
-/

namespace MergeScribe

namespace Json

/-! ## 1. Strings -/

/-- A blank between tokens. -/
def isGap (c : Char) : Bool :=
  c == ' ' || c == '\n' || c == '\t' || c == '\r'

/-- The text without the blanks at its start. -/
def skipGaps (t : Text) : Text :=
  t.dropWhile isGap

/-- The character that a backslash and a letter stand for. -/
def simpleEscape? (c : Char) : Option Char :=
  if c = '"' then some '"'
  else if c = '\\' then some '\\'
  else if c = '/' then some '/'
  else if c = 'b' then some '\x08'
  else if c = 'f' then some '\x0c'
  else if c = 'n' then some '\n'
  else if c = 'r' then some '\r'
  else if c = 't' then some '\t'
  else none

/-- The code of four digits of base 16. -/
def code? (a b c d : Char) : Option Nat := do
  let a ← Text.hexValue? a
  let b ← Text.hexValue? b
  let c ← Text.hexValue? c
  let d ← Text.hexValue? d
  return Text.ofDigits 16 [a, b, c, d]

/-- The codes in a string, up to its closing quote, and what follows. A code is that of a character
or one half of a surrogate pair. -/
def scanString : Text → Option (List Nat × Text)
  | '"' :: rest => some ([], rest)
  | '\\' :: 'u' :: a :: b :: c :: d :: rest =>
    (code? a b c d).bind fun code =>
      (scanString rest).map fun (codes, rest) => (code :: codes, rest)
  | '\\' :: c :: rest =>
    (simpleEscape? c).bind fun c =>
      (scanString rest).map fun (codes, rest) => (c.toNat :: codes, rest)
  | c :: rest =>
    if c.toNat < 0x20 then none
    else (scanString rest).map fun (codes, rest) => (c.toNat :: codes, rest)
  | [] => none

/-- The text of codes, if each surrogate has its other half. -/
def assemble : List Nat → Option Text
  | [] => some []
  | high :: low :: more =>
    if 0xD800 ≤ high ∧ high < 0xDC00 then
      if 0xDC00 ≤ low ∧ low < 0xE000 then
        (assemble more).map
          (Char.ofNat (0x10000 + (high - 0xD800) * 0x400 + (low - 0xDC00)) :: ·)
      else none
    else if 0xDC00 ≤ high ∧ high < 0xE000 then none
    else (assemble (low :: more)).map (Char.ofNat high :: ·)
  | [code] => if 0xD800 ≤ code ∧ code < 0xE000 then none else some [Char.ofNat code]

/-! ## 2. Numbers -/

/-- The digits at the start of a text, at least one, and what follows. -/
def digits? (t : Text) : Option (Text × Text) :=
  match t.span Char.isDigit with
  | ([], _) => none
  | found => some found

/-- The fraction of a number: a point and digits, or nothing. -/
def fraction? : Text → Option (Text × Text)
  | '.' :: rest => digits? rest
  | t => some ([], t)

/-- The exponent of a number, its sign and its digits, and what follows. -/
def exponent? : Text → Option (Option (Bool × Text) × Text)
  | c :: rest =>
    if c = 'e' ∨ c = 'E' then
      match rest with
      | '-' :: rest => (digits? rest).map fun (digits, rest) => (some (true, digits), rest)
      | '+' :: rest => (digits? rest).map fun (digits, rest) => (some (false, digits), rest)
      | rest => (digits? rest).map fun (digits, rest) => (some (false, digits), rest)
    else some (none, c :: rest)
  | [] => some (none, [])

/-- A number and what follows. Only a lone zero starts with a zero. -/
def number? (t : Text) : Option (Json × Text) := do
  let (negative, body) := match t with
    | '-' :: rest => (true, rest)
    | t => (false, t)
  let (whole, afterWhole) ← digits? body
  if whole.length > 1 ∧ whole.head? = some '0' then none
  let (fraction, afterFraction) ← fraction? afterWhole
  let (exponent, rest) ← exponent? afterFraction
  let power : Int :=
    match exponent with
    | none => 0
    | some (true, digits) => - Double.numeral digits
    | some (false, digits) => Double.numeral digits
  if Double.exceedsInSteps whole fraction power then
    return (.unrepresentable, rest)
  if fraction.isEmpty ∧ exponent.isNone then
    if negative then
      if Double.numeral whole = 0 then return (.decimal "-0", rest)
      return (.integer (- Double.numeral whole), rest)
    return (.integer (Double.numeral whole), rest)
  return (.decimal (t.take (t.length - rest.length)), rest)

/-! ## 3. Values -/

/-- A literal name and what follows. -/
def literal? (name : Text) (value : Json) (t : Text) : Option (Json × Text) :=
  (Text.after? name t).map fun rest => (value, rest)

/-- An object from its members. The names come as codes; one without a text leaves no value. -/
def ofMembers (members : List (List Nat × Json)) : Json :=
  match members.mapM fun (codes, value) => (assemble codes).map fun name => (name, value) with
  | some named => .object named
  | none => .unrepresentable

mutual

/-- A value at the start of a text, and what follows. The fuel bounds the tokens to read. -/
def value? : Nat → Text → Option (Json × Text)
  | 0, _ => none
  | fuel + 1, t =>
    match skipGaps t with
    | '"' :: rest =>
      (scanString rest).map fun (codes, rest) =>
        (((assemble codes).map Json.string).getD .unrepresentable, rest)
    | '[' :: rest =>
      match skipGaps rest with
      | ']' :: rest => some (.array [], rest)
      | rest => (items? fuel rest).map fun (items, rest) => (.array items, rest)
    | '{' :: rest =>
      match skipGaps rest with
      | '}' :: rest => some (.object [], rest)
      | rest => (members? fuel rest).map fun (members, rest) => (ofMembers members, rest)
    | 'n' :: rest => literal? "ull" .null rest
    | 't' :: rest => literal? "rue" (.bool true) rest
    | 'f' :: rest => literal? "alse" (.bool false) rest
    | t => number? t

/-- The items of an array up to its closing bracket, at least one, and what follows. -/
def items? : Nat → Text → Option (List Json × Text)
  | 0, _ => none
  | fuel + 1, t =>
    (value? fuel t).bind fun (item, rest) =>
      match skipGaps rest with
      | ',' :: rest => (items? fuel rest).map fun (items, rest) => (item :: items, rest)
      | ']' :: rest => some ([item], rest)
      | _ => none

/-- The members of an object up to its closing brace, at least one, and what follows. -/
def members? : Nat → Text → Option (List (List Nat × Json) × Text)
  | 0, _ => none
  | fuel + 1, t =>
    match skipGaps t with
    | '"' :: rest =>
      (scanString rest).bind fun (name, rest) =>
        match skipGaps rest with
        | ':' :: rest =>
          (value? fuel rest).bind fun (value, rest) =>
            match skipGaps rest with
            | ',' :: rest =>
              (members? fuel rest).map fun (members, rest) => ((name, value) :: members, rest)
            | '}' :: rest => some ([(name, value)], rest)
            | _ => none
        | _ => none
    | _ => none

end

/-- The value at the start of a text, and what follows it. -/
def parsePrefix (t : Text) : Option (Json × Text) :=
  value? (2 * t.length + 2) t

/-- The value that a text is. -/
def parse? (t : Text) : Option Json :=
  (parsePrefix t).bind fun (value, rest) =>
    if (skipGaps rest).isEmpty then some value else none

end Json

end MergeScribe
