import MergeScribe.Text.Whitespace

/-!
# Texts

A text is the list of its characters. This file holds the operations that the formats of this
library share: trimming, cutting into lines and pieces, taking a literal off the front, and decimal
numerals. Main statements: what `after?` leaves is the rest of the text (`after?_eq_some_iff`), and
cutting at a character loses nothing (`intercalate_pieces`).
-/

namespace MergeScribe

/-- A text is the list of its characters. -/
abbrev Text := List Char

/-- A literal stands for the text of its characters. -/
instance : Coe String Text := ⟨String.toList⟩

namespace Text

/-- The text as a string of the host language, for reading and printing. -/
def toString (t : Text) : String :=
  String.ofList t

/-! ## 1. Trimming -/

/-- The text without the spaces at its start. -/
def trimStart (t : Text) : Text :=
  t.dropWhile isSpace

/-- The text without the spaces at its end. -/
def trimEnd : Text → Text
  | [] => []
  | c :: rest =>
    match trimEnd rest with
    | [] => if isSpace c then [] else [c]
    | kept => c :: kept

/-- The text without the spaces at its ends. -/
def trim (t : Text) : Text :=
  trimEnd (trimStart t)

/-- Whether the text holds nothing but spaces. -/
def isBlank (t : Text) : Bool :=
  t.all isSpace

/-! ## 2. Taking a literal off the front -/

/-- The rest of a text after a literal that it starts with. -/
def after? : Text → Text → Option Text
  | [], t => some t
  | _ :: _, [] => none
  | l :: literal, c :: rest => if l = c then after? literal rest else none

theorem after?_eq_some_iff {literal t rest : Text} :
    after? literal t = some rest ↔ t = literal ++ rest := by
  induction literal generalizing t with
  | nil => simp [after?]
  | cons l literal ih =>
    cases t with
    | nil => simp [after?]
    | cons c t =>
      by_cases h : l = c
      · simp [after?, h, ih]
      · simp [after?, h, Ne.symm h]

/-- Whether a text starts with a literal. -/
def startsWith (t literal : Text) : Bool :=
  (after? literal t).isSome

/-- The rest of a text after the spaces that it starts with, of which there must be one. -/
def afterSpaces? : Text → Option Text
  | [] => none
  | c :: rest => if isSpace c then some (trimStart rest) else none

/-- Whether a literal occurs in a text. -/
def occursIn (literal : Text) : Text → Bool
  | [] => literal.isEmpty
  | c :: rest => startsWith (c :: rest) literal || occursIn literal rest

/-! ## 3. Cutting -/

/-- The lines of a text. A line ends at a line feed, and a carriage return right before the line
feed is not part of it; text after the last line feed is a line of its own. -/
def lines : Text → List Text
  | [] => []
  | '\n' :: rest => [] :: lines rest
  | '\r' :: '\n' :: rest => [] :: lines rest
  | c :: rest =>
    match lines rest with
    | [] => [[c]]
    | line :: more => (c :: line) :: more

/-- The pieces of a text between the occurrences of a separator. -/
def pieces (separator : Char) : Text → List Text
  | [] => [[]]
  | c :: rest =>
    if c = separator then [] :: pieces separator rest
    else
      match pieces separator rest with
      | [] => [[c]]
      | piece :: more => (c :: piece) :: more

theorem pieces_ne_nil (separator : Char) (t : Text) : pieces separator t ≠ [] := by
  cases t with
  | nil => simp [pieces]
  | cons c rest =>
    by_cases h : c = separator
    · simp [pieces, h]
    · simp only [pieces, h, if_false]
      split <;> simp

/-- **Cutting loses nothing.** -/
theorem intercalate_pieces (separator : Char) (t : Text) :
    List.intercalate [separator] (pieces separator t) = t := by
  induction t with
  | nil => rfl
  | cons c rest ih =>
    obtain ⟨piece, more, hp⟩ := List.exists_cons_of_ne_nil (pieces_ne_nil separator rest)
    rw [hp] at ih
    by_cases h : c = separator
    · rw [pieces, if_pos h, hp, List.intercalate_cons_cons, ih, h]
      rfl
    · cases more <;> simp_all [pieces, List.intercalate, List.intersperse]

/-- The texts one after the other with a separator between them. -/
def joined (separator : Text) (texts : List Text) : Text :=
  List.intercalate separator texts

/-- What follows the first blank line (two line feeds in a row); nothing if there is none. -/
def afterBlankLine : Text → Text
  | '\n' :: '\n' :: rest => rest
  | _ :: rest => afterBlankLine rest
  | [] => []

/-- The ASCII letters of a text in lower case; all else stays. -/
def lowerAscii (t : Text) : Text :=
  t.map Char.toLower

/-! ## 4. Numerals -/

/-- The decimal numeral of a number. -/
def ofNat (n : Nat) : Text :=
  Nat.toDigits 10 n

/-- The value of an ASCII digit. -/
def digitValue? (c : Char) : Option Nat :=
  if '0' ≤ c ∧ c ≤ '9' then some (c.toNat - '0'.toNat) else none

/-- The value of an ASCII digit in base 16, in either case. -/
def hexValue? (c : Char) : Option Nat :=
  if '0' ≤ c ∧ c ≤ '9' then some (c.toNat - '0'.toNat)
  else if 'a' ≤ c ∧ c ≤ 'f' then some (c.toNat - 'a'.toNat + 10)
  else if 'A' ≤ c ∧ c ≤ 'F' then some (c.toNat - 'A'.toNat + 10)
  else none

/-- The number that digits of a base stand for, most significant digit first. -/
def ofDigits (base : Nat) (digits : List Nat) : Nat :=
  digits.foldl (fun n d => n * base + d) 0

end Text

end MergeScribe
