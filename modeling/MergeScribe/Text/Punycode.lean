import MergeScribe.Text.Basic

/-!
# Punycode

A text of any characters written in letters, digits and hyphens. The ASCII characters come first and
stay as they are; the others follow as numbers, each of which says how far to go on, in code points
and in places at once, from the character before. A number is written lowest digit first, in base 36
with digits of different limits; the limits follow the size of the numbers (`Bias`).
-/

namespace MergeScribe

namespace Punycode

/-! ## 1. Digits -/

/-- A digit: the letters stand for 0 to 25, the decimal digits for 26 to 35. -/
def digit (n : Nat) : Char :=
  if n < 26 then Char.ofNat (0x61 + n) else Char.ofNat (0x30 + (n - 26))

/-- The value of a digit. -/
def digitValue? (c : Char) : Option Nat :=
  if c.isLower then some (c.toNat - 0x61)
  else if c.isUpper then some (c.toNat - 0x41)
  else if c.isDigit then some (c.toNat - 0x30 + 26)
  else none

/-- A digit from this limit on is not the last of its number. The place counts in steps of 36. -/
def limit (bias place : Nat) : Nat :=
  if place ≤ bias then 1 else if bias + 26 ≤ place then 26 else place - bias

theorem limit_pos (bias place : Nat) : 0 < limit bias place := by
  unfold limit
  split
  · decide
  · split
    · decide
    · omega

/-- Divide by 35 until the number is small, and count the steps of 36. -/
def shrink (steps n : Nat) : Nat × Nat :=
  if 455 < n then shrink (steps + 36) (n / 35) else (steps, n)
termination_by n
decreasing_by exact Nat.div_lt_self (by omega) (by decide)

/-- The bias after a number, which was the one for the given count of characters. -/
def adapt (delta count : Nat) (isFirst : Bool) : Nat :=
  let halved := if isFirst then delta / 700 else delta / 2
  let (steps, n) := shrink 0 (halved + halved / count)
  steps + 36 * n / (n + 38)

/-! ## 2. Writing -/

/-- A number. -/
def number (bias place n : Nat) : Text :=
  let t := limit bias place
  if n < t then [digit n]
  else digit (t + (n - t) % (36 - t)) :: number bias (place + 36) ((n - t) / (36 - t))
termination_by n
decreasing_by
  have hp := limit_pos bias place
  have hd := Nat.div_le_self (n - limit bias place) (36 - limit bias place)
  omega

/-- What the writer has come to: the text written, how far to go on for the next character, the
bias, and how many characters are written. -/
structure Writer where
  written : Text
  delta : Nat
  bias : Nat
  count : Nat

/-- Go by a character, in the round of a code point. It is written if it is the one. -/
def Writer.pass (basic code : Nat) (w : Writer) (c : Char) : Writer :=
  if c.toNat < code then { w with delta := w.delta + 1 }
  else if c.toNat = code then
    { written := w.written ++ number w.bias 36 w.delta
      delta := 0
      bias := adapt w.delta (w.count + 1) (w.count == basic)
      count := w.count + 1 }
  else w

/-- Go through the text once for each code point, in ascending order. -/
def Writer.rounds (t : Text) (basic : Nat) : List Nat → Nat → Writer → Writer
  | [], _, w => w
  | code :: more, next, w =>
    let w := { w with delta := w.delta + (code - next) * (w.count + 1) }
    let w := t.foldl (Writer.pass basic code) w
    Writer.rounds t basic more (code + 1) { w with delta := w.delta + 1 }

/-- The text in letters, digits and hyphens. -/
def encode (t : Text) : Text :=
  let basic := t.filter fun c => c.toNat < 0x80
  let codes := ((t.filter fun c => 0x80 ≤ c.toNat).map Char.toNat).eraseDups.mergeSort
  let w := Writer.rounds t basic.length codes 0x80 ⟨[], 0, 72, basic.length⟩
  basic ++ (if basic.isEmpty then [] else ['-']) ++ w.written

/-! ## 3. Reading -/

/-- A number added to another, and what follows it. -/
def number? (bias : Nat) : Nat → Nat → Nat → Text → Option (Nat × Text)
  | _, _, _, [] => none
  | place, weight, sum, c :: rest =>
    (digitValue? c).bind fun value =>
      let t := limit bias place
      if value < t then some (sum + value * weight, rest)
      else number? bias (place + 36) (weight * (36 - t)) (sum + value * weight) rest

/-- Put in the characters that numbers stand for. The fuel bounds the numbers to read. -/
def insertAll? : Nat → Nat → Nat → Nat → Text → Text → Option Text
  | 0, _, _, _, _, _ => none
  | fuel + 1, bias, code, position, read, t =>
    if t.isEmpty then some read
    else
      (number? bias 36 1 position t).bind fun (sum, rest) =>
        let count := read.length + 1
        let code := code + sum / count
        let here := sum % count
        if code < 0xD800 ∨ 0xE000 ≤ code ∧ code < 0x110000 then
          insertAll? fuel (adapt (sum - position) count (position == 0)) code (here + 1)
            (read.take here ++ Char.ofNat code :: read.drop here) rest
        else none

/-- The text that letters, digits and hyphens stand for. The last hyphen ends the ASCII characters,
if there are any. -/
def decode? (t : Text) : Option Text :=
  let numbers := (t.reverse.takeWhile (· != '-')).reverse
  let basic := t.take (t.length - numbers.length - 1)
  if t.any fun c => 0x80 ≤ c.toNat then none
  else insertAll? (t.length + 1) 72 0x80 0 basic (if basic.isEmpty then t else numbers)

end Punycode

end MergeScribe
