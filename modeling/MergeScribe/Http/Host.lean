import MergeScribe.Http.Domain
import MergeScribe.Http.Percent

/-!
# Hosts

The host of an address is a domain, or a number of 32 or of 128 bits. A domain that ends in a number
is read as a number. Numbers are read leniently and written in one way: 32 bits as four decimal
numbers, 128 bits as groups of 16 bits in base 16, without the longest row of zeros.
-/

namespace MergeScribe

/-- A host. -/
inductive Host where
  | domain (name : Text)
  | number (n : Nat)
  | groups (gs : List Nat)
  deriving DecidableEq

namespace Host

/-! ## 1. Numbers of 32 bits -/

/-- The value of digits in a base. -/
def valueIn? (base : Nat) (t : Text) : Option Nat :=
  ((t.mapM Text.hexValue?).filter fun digits => digits.all (· < base)).map (Text.ofDigits base)

/-- A part of a number: hexadecimal after `0x`, octal after another zero, else decimal. -/
def part? : Text → Option Nat
  | [] => none
  | '0' :: 'x' :: rest => valueIn? 16 rest
  | '0' :: 'X' :: rest => valueIn? 16 rest
  | '0' :: c :: rest => valueIn? 8 (c :: rest)
  | t => valueIn? 10 t

/-- The parts of a name without the point that may end it. -/
def parts (t : Text) : List Text :=
  let all := Text.pieces '.' t
  if all.getLast? = some [] then all.dropLast else all

/-- Whether a name ends in a number, a malformed one included. -/
def endsInNumber (t : Text) : Bool :=
  (parts t).getLast?.any fun last =>
    (part? last).isSome || (!last.isEmpty && last.all Char.isDigit)

/-- The number that a name is: up to four parts, the last of which stands for the bytes that are
left. -/
def number? (t : Text) : Option Nat :=
  ((parts t).mapM part?).bind fun numbers =>
    match numbers.reverse with
    | [] => none
    | last :: before =>
      let left := Nat.pow 256 (4 - before.length)
      if before.length < 4 ∧ before.all (· < 256) ∧ last < left then
        some (Text.ofDigits 256 before.reverse * left + last)
      else none

/-! ## 2. Groups of 16 bits -/

/-- A group: up to four digits of base 16. -/
def group? (t : Text) : Option Nat :=
  if t.isEmpty ∨ 4 < t.length then none else valueIn? 16 t

/-- A byte in decimal, without a zero in front. -/
def byte? (t : Text) : Option Nat :=
  if t.length > 1 ∧ t.head? = some '0' ∨ t.isEmpty then none
  else (valueIn? 10 t).filter (· < 256)

/-- The last two groups, written as four bytes. -/
def dotted? (t : Text) : Option (List Nat) :=
  match (Text.pieces '.' t).mapM byte? with
  | some [a, b, c, d] => some [a * 256 + b, c * 256 + d]
  | _ => none

/-- The groups of texts. The last one may be written as bytes. -/
def groupsOf? (mayBeDotted : Bool) : List Text → Option (List Nat)
  | [] => some []
  | [last] =>
    if mayBeDotted && last.contains '.' then dotted? last else (group? last).map fun g => [g]
  | t :: more => (group? t).bind fun g => (groupsOf? mayBeDotted more).map fun gs => g :: gs

/-- The groups of a text with colons between them. -/
def row? (mayBeDotted : Bool) (t : Text) : Option (List Nat) :=
  if t.isEmpty then some [] else groupsOf? mayBeDotted (Text.pieces ':' t)

/-- What comes before and after the first two colons in a row. -/
def gap? : Text → Option (Text × Text)
  | ':' :: ':' :: rest => some ([], rest)
  | c :: rest => (gap? rest).map fun (before, after) => (c :: before, after)
  | [] => none

/-- The eight groups of a text, in which one row of zeros may be left out. -/
def groups? (t : Text) : Option (List Nat) :=
  match gap? t with
  | none => (row? true t).filter fun gs => gs.length == 8
  | some (before, after) =>
    (row? false before).bind fun before =>
      (row? true after).bind fun after =>
        let given := before.length + after.length
        if given < 8 then some (before ++ List.replicate (8 - given) 0 ++ after) else none

/-! ## 3. Reading -/

/-- The groups in brackets. -/
def bracketed? (t : Text) : Option Host :=
  match t.reverse with
  | ']' :: inner => (groups? inner.reverse).map Host.groups
  | _ => none

/-- The host of an address of the web. -/
def ofName? (t : Text) : Option Host :=
  match t with
  | '[' :: rest => bracketed? rest
  | t =>
    ((Text.ofBytes? (Percent.unescape (Text.toBytes t))).bind Domain.toAscii?).bind fun name =>
      if name.isEmpty then none
      else if endsInNumber name then (number? name).map Host.number
      else some (.domain name)

/-- A character that separates the parts of an address, or a space. -/
def isSeparator (c : Char) : Bool :=
  c == '\x00' || " #/:<>?@[\\]^|".toList.contains c

/-- The host of another address, the name of which has no rules of its own. -/
def ofPlain? (t : Text) : Option Host :=
  match t with
  | '[' :: rest => bracketed? rest
  | t => if t.any isSeparator then none else some (.domain (Percent.escape [] t))

/-! ## 4. Writing -/

/-- How many zeros there are from a place on. -/
def zerosFrom (gs : List Nat) (i : Nat) : Nat :=
  ((gs.drop i).takeWhile (· == 0)).length

/-- The first of the longest rows of zeros: its place and its length. -/
def longestZeros (gs : List Nat) : Nat × Nat :=
  (List.range gs.length).foldl
    (fun best i => if best.2 < zerosFrom gs i then (i, zerosFrom gs i) else best) (0, 0)

/-- Groups with colons between them. -/
def joinedGroups (gs : List Nat) : Text :=
  Text.joined ":" (gs.map (Nat.toDigits 16))

/-- A host in its one way. -/
def write : Host → Text
  | .domain name => name
  | .number n =>
    Text.joined "." ([n / 0x1000000, n / 0x10000 % 256, n / 0x100 % 256, n % 256].map Text.ofNat)
  | .groups gs =>
    let (start, length) := longestZeros gs
    if length < 2 then '[' :: joinedGroups gs ++ [']']
    else
      '[' :: joinedGroups (gs.take start) ++ "::".toList ++ joinedGroups (gs.drop (start + length))
        ++ [']']

end Host

end MergeScribe
