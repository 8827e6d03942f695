import MergeScribe.Text.Basic

/-!
# Texts as bytes

UTF-8, read strictly or with replacement characters. A malformed sequence is as much of a
well-formed one as there is, and at least one byte; each becomes one replacement character.
-/

namespace MergeScribe

/-- A row of bytes. -/
abbrev Bytes : Type :=
  List UInt8

namespace Text

/-- The bytes of a text. -/
def toBytes (t : Text) : Bytes :=
  t.flatMap String.utf8EncodeChar

namespace Utf8

/-- What the first byte of a sequence tells: how many bytes follow, between which bounds the next
one lies, and the bits that the first byte gives. -/
structure Lead where
  following : Nat
  low : Nat
  high : Nat
  bits : Nat

/-- What a byte tells as the first one of a sequence. -/
def lead? (b : Nat) : Option Lead :=
  if b < 0x80 then some ⟨0, 0, 0, b⟩
  else if b < 0xC2 then none
  else if b < 0xE0 then some ⟨1, 0x80, 0xBF, b - 0xC0⟩
  else if b = 0xE0 then some ⟨2, 0xA0, 0xBF, 0⟩
  else if b = 0xED then some ⟨2, 0x80, 0x9F, 0xD⟩
  else if b < 0xF0 then some ⟨2, 0x80, 0xBF, b - 0xE0⟩
  else if b = 0xF0 then some ⟨3, 0x90, 0xBF, 0⟩
  else if b < 0xF4 then some ⟨3, 0x80, 0xBF, b - 0xF0⟩
  else if b = 0xF4 then some ⟨3, 0x80, 0x8F, 4⟩
  else none

/-- Read the bytes that have to follow; without all of them there is no character. -/
def follow : Lead → Bytes → Option Char × Bytes
  | ⟨0, _, _, bits⟩, bytes => (some (Char.ofNat bits), bytes)
  | ⟨_ + 1, _, _, _⟩, [] => (none, [])
  | ⟨n + 1, low, high, bits⟩, b :: more =>
    if low ≤ b.toNat ∧ b.toNat ≤ high then
      follow ⟨n, 0x80, 0xBF, bits * 0x40 + (b.toNat - 0x80)⟩ more
    else (none, b :: more)
  termination_by l => l.following

/-- Following bytes are only taken off, never put back. -/
theorem length_follow_le : (l : Lead) → (bytes : Bytes) →
    (follow l bytes).2.length ≤ bytes.length
  | ⟨0, _, _, _⟩, _ => by simp [follow]
  | ⟨_ + 1, _, _, _⟩, [] => by simp [follow]
  | ⟨n + 1, low, high, bits⟩, b :: more => by
    unfold follow
    split
    · exact Nat.le_succ_of_le (length_follow_le ⟨n, 0x80, 0xBF, _⟩ more)
    · exact Nat.le_refl _
  termination_by l => l.following

/-- The characters of bytes, and a gap for each malformed sequence. -/
def decode : Bytes → List (Option Char)
  | [] => []
  | b :: more =>
    match lead? b.toNat with
    | none => none :: decode more
    | some l => (follow l more).1 :: decode (follow l more).2
  termination_by bytes => bytes.length
  decreasing_by
    · simp
    · exact Nat.lt_succ_of_le (length_follow_le l more)

end Utf8

/-- The text of bytes, if they are well-formed. -/
def ofBytes? (bytes : Bytes) : Option Text :=
  (Utf8.decode bytes).mapM id

/-- The text of bytes, with replacement characters for what is malformed. -/
def ofBytesLossy (bytes : Bytes) : Text :=
  (Utf8.decode bytes).map fun c => c.getD '\ufffd'

end Text

end MergeScribe
