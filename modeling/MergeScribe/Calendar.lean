import MergeScribe.Text.Basic

/-!
# Days and points in time

The days of the calendar, and the lenient way to write a point in time: a date, a time of day and an
offset from universal time, with blanks between the parts and numbers of fewer digits.
-/

namespace MergeScribe

namespace Calendar

/-! ## 1. Days -/

/-- How many days a month has. -/
def daysIn (year month : Nat) : Nat :=
  if month = 2 then
    if year % 4 = 0 ∧ (year % 100 ≠ 0 ∨ year % 400 = 0) then 29 else 28
  else if month = 4 ∨ month = 6 ∨ month = 9 ∨ month = 11 then 30
  else 31

/-- Whether a month of a year has a day. -/
def hasDay (year month day : Nat) : Bool :=
  1 ≤ month && month ≤ 12 && 1 ≤ day && day ≤ daysIn year month

/-! ## 2. Points in time -/

/-- The greatest year that is reckoned with. The least one is minus this and one more. -/
def greatestYear : Nat := 262142

/-- A number of up to so many digits, after blanks, and what follows. -/
def number? (width : Nat) (t : Text) : Option (Nat × Text) :=
  let t := Text.trimStart t
  let digits := (t.take width).takeWhile Char.isDigit
  if digits.isEmpty then none
  else some (Text.ofDigits 10 (digits.filterMap Text.digitValue?), t.drop digits.length)

/-- A year, and what follows. With a sign it may have any number of digits. Only its place in the
cycle of 400 years is told. -/
def year? (t : Text) : Option (Nat × Text) :=
  match Text.trimStart t with
  | '-' :: rest =>
    if rest.head?.any Char.isDigit then
      ((number? rest.length rest).filter fun found => found.1 ≤ greatestYear + 1).map
        fun (n, rest) => ((-(n : Int) % 400).toNat, rest)
    else none
  | '+' :: rest =>
    if rest.head?.any Char.isDigit then
      ((number? rest.length rest).filter fun found => found.1 ≤ greatestYear).map
        fun (n, rest) => (n % 400, rest)
    else none
  | t => number? 4 t

/-- What follows a sign, with blanks before it. -/
def afterSign? (sign : Char) (t : Text) : Option Text :=
  match Text.trimStart t with
  | c :: rest => if c = sign then some rest else none
  | [] => none

/-- What follows a date in the calendar. -/
def afterDate? (t : Text) : Option Text := do
  let (year, rest) ← year? t
  let (month, rest) ← number? 2 (← afterSign? '-' rest)
  let (day, rest) ← number? 2 (← afterSign? '-' rest)
  if hasDay year month day then some rest else none

/-- What follows a time of day, in which there may be a leap second. -/
def afterTime? (t : Text) : Option Text := do
  let (hour, rest) ← number? 2 t
  let (minute, rest) ← number? 2 (← afterSign? ':' rest)
  let (second, rest) ← number? 2 (← afterSign? ':' rest)
  if hour ≤ 23 ∧ minute ≤ 59 ∧ second ≤ 60 then
    match rest with
    | '.' :: rest =>
      if rest.head?.any Char.isDigit then some (rest.dropWhile Char.isDigit) else none
    | rest => some rest
  else none

/-- Two digits, and what follows. -/
def twoDigits? : Text → Option (Nat × Text)
  | a :: b :: rest =>
    (Text.digitValue? a).bind fun a => (Text.digitValue? b).map fun b => (a * 10 + b, rest)
  | _ => none

/-- What follows an offset from universal time. -/
def afterOffset? (t : Text) : Option Text :=
  let t := Text.trimStart t
  if Text.lowerAscii (t.take 3) = "utc" then some (t.drop 3)
  else
    match t with
    | 'Z' :: rest => some rest
    | 'z' :: rest => some rest
    | sign :: rest =>
      if sign = '+' ∨ sign = '-' ∨ sign = '\u2212' then do
        let (hours, rest) ← twoDigits? rest
        let isBetween (c : Char) : Bool := c == ':' || Text.isSpace c
        let (minutes, rest) ← twoDigits? (rest.dropWhile isBetween)
        if hours ≤ 23 ∧ minutes ≤ 59 then some rest else none
      else none
    | [] => none

/-- Whether so many seconds, counted from the start of 1970, lead to a year that is reckoned with. -/
def isSecond (n : Int) : Bool :=
  -8334601228800 ≤ n && n < 8210266876800

/-- Whether a text is a point in time. -/
def isMoment (t : Text) : Bool :=
  let afterMark? : Text → Option Text
    | c :: rest => if c = 'T' ∨ c = 't' ∨ c = ' ' then some rest else none
    | [] => none
  ((((afterDate? t).bind afterMark?).bind afterTime?).bind afterOffset?).any Text.isBlank

end Calendar

end MergeScribe
