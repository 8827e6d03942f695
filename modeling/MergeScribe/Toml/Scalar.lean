import MergeScribe.Calendar
import MergeScribe.Toml.Basic

/-!
# Numbers, truth values and dates in TOML

These are written without quotes, as a word of letters, digits and a few signs. The forms exclude
one another, so a word is tried as each in turn.
-/

namespace MergeScribe

namespace Toml

/-! ## 1. Numbers -/

/-- The characters of a word. -/
def isWordChar (c : Char) : Bool :=
  c.isAlphanum || c == '_' || c == '+' || c == '-' || c == '.' || c == ':'

/-- Digits, between which single underscores may stand, without the underscores. -/
def digits? (isDigit : Char → Bool) (t : Text) : Option Text :=
  let groups := Text.pieces '_' t
  if groups.all fun group => !group.isEmpty && group.all isDigit then some groups.flatten else none

/-- Decimal digits that do not start with a zero, unless they are just a zero. -/
def decimal? (t : Text) : Option Text :=
  (digits? Char.isDigit t).filter fun digits => digits.length == 1 || digits.head? != some '0'

/-- A number in a base other than ten. -/
def based? (base : Nat) (t : Text) : Option Int :=
  let isDigit (c : Char) : Bool := (Text.hexValue? c).any (· < base)
  (digits? isDigit t).map fun digits =>
    (Text.ofDigits base (digits.filterMap Text.hexValue?) : Int)

/-- A text without its sign, and whether that is a minus. -/
def unsigned : Text → Bool × Text
  | '-' :: rest => (true, rest)
  | '+' :: rest => (false, rest)
  | t => (false, t)

/-- An integer. Bases other than ten have no sign. -/
def integer? : Text → Option Int
  | '0' :: 'x' :: rest => based? 16 rest
  | '0' :: 'o' :: rest => based? 8 rest
  | '0' :: 'b' :: rest => based? 2 rest
  | t =>
    (decimal? (unsigned t).2).map fun digits =>
      let n : Int := Text.ofDigits 10 (digits.filterMap Text.digitValue?)
      if (unsigned t).1 then -n else n

/-- Whether a text is the exponent of a number, after its mark. -/
def isExponent (t : Text) : Bool :=
  (digits? Char.isDigit (unsigned t).2).isSome

/-- Whether a text is what may follow the whole part of a number: a fraction, an exponent, or one
after the other. -/
def isFractional : Text → Bool
  | '.' :: rest =>
    let isMark (c : Char) : Bool := c == 'e' || c == 'E'
    let fraction := rest.takeWhile fun c => !isMark c
    let exponent := rest.dropWhile fun c => !isMark c
    (digits? Char.isDigit fraction).isSome && (exponent.isEmpty || isExponent exponent.tail)
  | 'e' :: rest => isExponent rest
  | 'E' :: rest => isExponent rest
  | _ => false

/-- Whether a text is a number with a fraction or an exponent, or one of the special numbers. -/
def isFloat (t : Text) : Bool :=
  let body := (unsigned t).2
  let isWhole (c : Char) : Bool := c.isDigit || c == '_'
  body == "inf".toList || body == "nan".toList ||
    (decimal? (body.takeWhile isWhole)).isSome && isFractional (body.dropWhile isWhole)

/-! ## 2. Dates and times -/

/-- The number that a text of so many digits starts with, and what follows. -/
def fixed? (width : Nat) (t : Text) : Option (Nat × Text) :=
  let digits := (t.take width).filterMap Text.digitValue?
  if digits.length = width then some (Text.ofDigits 10 digits, t.drop width) else none

/-- What follows a date, which must be in the calendar. -/
def afterDate? (t : Text) : Option Text := do
  let (year, rest) ← fixed? 4 t
  let (month, rest) ← fixed? 2 (← Text.after? "-" rest)
  let (day, rest) ← fixed? 2 (← Text.after? "-" rest)
  if Calendar.hasDay year month day then some rest else none

/-- What follows the fraction of a second, if there is one. -/
def afterFraction? : Text → Option Text
  | '.' :: rest =>
    if (rest.takeWhile Char.isDigit).isEmpty then none else some (rest.dropWhile Char.isDigit)
  | t => some t

/-- What follows a time of day. The seconds may be missing. -/
def afterTime? (t : Text) : Option Text := do
  let (hour, rest) ← fixed? 2 t
  let (minute, rest) ← fixed? 2 (← Text.after? ":" rest)
  if hour ≤ 23 ∧ minute ≤ 59 then
    match rest with
    | ':' :: rest => do
      let (second, rest) ← fixed? 2 rest
      if second ≤ 60 then afterFraction? rest else none
    | rest => some rest
  else none

/-- Whether a text is an offset from universal time, or nothing. -/
def isOffset : Text → Bool
  | [] => true
  | ['Z'] => true
  | ['z'] => true
  | c :: rest =>
    if c = '+' ∨ c = '-' then
      match (fixed? 2 rest).bind fun (hour, rest) =>
          ((Text.after? ":" rest).bind (fixed? 2)).map fun (minute, rest) => (hour, minute, rest)
      with
      | some (hour, minute, []) => decide (hour ≤ 23 ∧ minute ≤ 59)
      | _ => false
    else false

/-- Whether a text is a date, a time, or a date with a time and maybe an offset. -/
def isDate (t : Text) : Bool :=
  match afterDate? t with
  | some [] => true
  | some (c :: rest) =>
    if c = 'T' ∨ c = 't' ∨ c = ' ' then (afterTime? rest).any isOffset else false
  | none => (afterTime? t).any List.isEmpty

/-! ## 3. Words -/

/-- The value of a word. -/
def ofWord? (word : Text) : Option Toml :=
  if word = "true" then some (.bool true)
  else if word = "false" then some (.bool false)
  else
    match integer? word with
    | some n => some (.integer n)
    | none =>
      if isFloat word then some (.float word)
      else if isDate word then some (.date word)
      else none

/-- The word at the start of a text, and what follows. A date may go on after a space with a time of
day. -/
def word (t : Text) : Text × Text :=
  let first := t.takeWhile isWordChar
  let rest := t.dropWhile isWordChar
  match rest with
  | ' ' :: c :: more =>
    if c.isDigit ∧ afterDate? first = some [] then
      (first ++ ' ' :: (c :: more).takeWhile isWordChar, (c :: more).dropWhile isWordChar)
    else (first, rest)
  | _ => (first, rest)

end Toml

end MergeScribe
