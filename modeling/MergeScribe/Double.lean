import MergeScribe.Text.Basic

/-!
# The range of doubles

A double has 53 significant bits and is below `2 ^ 1024`; what is rounded to more is no number. Of a
written number only this is ever asked: whether it is too large. Two formats ask it in two ways. The
exact way compares the number itself with `limit`. The way in steps rounds its significand and the
power of ten first, each to a double, so that the two may disagree next to `limit`.
-/

namespace MergeScribe

namespace Double

/-- The least number that is rounded to infinity. -/
def limit : Nat :=
  Nat.pow 2 1024 - Nat.pow 2 970

/-- The greatest power of ten that is a double. -/
def greatestPower : Nat := 308

/-- A whole number in 53 significant bits. A tie goes to the even neighbour. -/
def round (n : Nat) : Nat :=
  let unit := Nat.pow 2 (Nat.log2 n - 52)
  let down := n / unit
  let rest := n % unit
  if unit < 2 * rest ∨ unit = 2 * rest ∧ down % 2 = 1 then (down + 1) * unit else down * unit

/-- The value of a numeral in base ten. -/
def numeral (digits : Text) : Nat :=
  Text.ofDigits 10 (digits.filterMap Text.digitValue?)

/-! ## 1. The exact way -/

/-- Whether digits times a power of ten are too large. -/
def exceeds (digits : Text) (power : Int) : Bool :=
  let digits := digits.dropWhile (· == '0')
  let size := power + digits.length
  if digits.isEmpty ∨ size ≤ greatestPower then false
  else if greatestPower + 1 < size then true
  else if 0 ≤ power then decide (limit ≤ numeral digits * Nat.pow 10 power.toNat)
  else decide (limit * Nat.pow 10 (-power).toNat ≤ numeral digits)

/-! ## 2. The way in steps -/

/-- A significand with the digits of a whole part taken in while it stays below `2 ^ 64`, and how
many digits there were from the first that does not fit. -/
def takeWhole : Nat → List Nat → Nat × Nat
  | n, [] => (n, 0)
  | n, digit :: more =>
    if n * 10 + digit < Nat.pow 2 64 then takeWhole (n * 10 + digit) more
    else (n, more.length + 1)

/-- A significand with the digits of a fraction taken in while it stays below `2 ^ 64`, and how many
were taken. -/
def takeFraction : Nat → List Nat → Nat × Nat
  | n, [] => (n, 0)
  | n, digit :: more =>
    if n * 10 + digit < Nat.pow 2 64 then
      let (found, taken) := takeFraction (n * 10 + digit) more
      (found, taken + 1)
    else (n, 0)

/-- Whether a whole part and a fraction times a power of ten are too large, when significand and
power are rounded before they are multiplied. -/
def exceedsInSteps (whole fraction : Text) (power : Int) : Bool :=
  let (significand, left) := takeWhole 0 (whole.filterMap Text.digitValue?)
  let (significand, taken) := takeFraction significand (fraction.filterMap Text.digitValue?)
  let power := power + left - taken
  if significand = 0 ∨ power < 0 then false
  else if (greatestPower : Int) < power then true
  else decide (limit ≤ round significand * round (Nat.pow 10 power.toNat))

end Double

end MergeScribe
