import MergeScribe.Text.Utf8

/-!
# Escapes in addresses

A byte that may not stand in an address is written as a percent sign and two digits of base 16.
Main statement: a text without percent signs stays as it is when escapes are resolved
(`unescape_of_not_mem`).
-/

namespace MergeScribe

namespace Percent

/-- A byte as an escape. -/
def ofByte (b : UInt8) : Text :=
  let digit (n : Nat) : Char := "0123456789ABCDEF".toList.getD n '0'
  ['%', digit (b.toNat / 16), digit (b.toNat % 16)]

/-- The bytes of a character, each as an escape. -/
def ofChar (c : Char) : Text :=
  (String.utf8EncodeChar c).flatMap ofByte

/-- A text in which control characters, all beyond ASCII and the given characters are escaped. -/
def escape (reserved t : Text) : Text :=
  t.flatMap fun c =>
    if c.toNat < 0x20 || c.toNat > 0x7E || reserved.contains c then ofChar c else [c]

/-- The byte that two digits stand for. -/
def byte? (high low : UInt8) : Option UInt8 :=
  (Text.hexValue? (Char.ofNat high.toNat)).bind fun h =>
    (Text.hexValue? (Char.ofNat low.toNat)).map fun l => UInt8.ofNat (h * 16 + l)

/-- The bytes with escapes resolved. A percent sign that starts no escape stays. -/
def unescape : Bytes → Bytes
  | 0x25 :: high :: low :: rest =>
    match byte? high low with
    | some b => b :: unescape rest
    | none => 0x25 :: unescape (high :: low :: rest)
  | b :: rest => b :: unescape rest
  | [] => []
  termination_by bytes => bytes.length

/-- **Bytes without percent signs hold no escapes.** -/
theorem unescape_of_not_mem {bytes : Bytes} (h : (0x25 : UInt8) ∉ bytes) :
    unescape bytes = bytes := by
  induction bytes with
  | nil => simp [unescape]
  | cons b rest ih =>
    have hb : ¬b = 0x25 := fun e => h (e ▸ List.mem_cons_self)
    have hr := ih fun m => h (List.mem_cons_of_mem _ m)
    rw [unescape]
    · rw [hr]
    · intro _ _ _ e
      exact absurd e hb

end Percent

end MergeScribe
