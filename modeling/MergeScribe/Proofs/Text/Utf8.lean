import MergeScribe.Text.Utf8
import Mathlib.Tactic.SplitIfs

/-!
# Bytes of a text read back

What was written as UTF-8 is read as what it was. The reader knows from its first byte how long a
sequence is and from where to where the second may lie, and the writer keeps to that, as a character
is never a surrogate and never beyond the last plane. Main statement: `Text.ofBytes?_toBytes`.
-/

namespace MergeScribe

namespace Text

namespace Utf8

/-! ## 1. First bytes -/

theorem lead?_one {n : Nat} (h : n < 0x80) : lead? n = some ⟨0, 0, 0, n⟩ :=
  if_pos h

theorem lead?_two {n : Nat} (h : 0xC2 ≤ n) (h' : n < 0xE0) :
    lead? n = some ⟨1, 0x80, 0xBF, n - 0xC0⟩ := by
  unfold lead?
  rw [if_neg (by omega), if_neg (by omega), if_pos h']

/-- The second of three bytes is kept from what two bytes can say, and from surrogates. -/
theorem lead?_three {n : Nat} (h : 0xE0 ≤ n) (h' : n < 0xF0) : lead? n =
    some ⟨2, if n = 0xE0 then 0xA0 else 0x80, if n = 0xED then 0x9F else 0xBF, n - 0xE0⟩ := by
  unfold lead?
  rw [if_neg (by omega), if_neg (by omega), if_neg (by omega)]
  split_ifs with h₁ h₂ <;> first | omega | (subst n; rfl) | rfl

/-- The second of four bytes is kept from what three bytes can say, and below the last plane. -/
theorem lead?_four {n : Nat} (h : 0xF0 ≤ n) (h' : n ≤ 0xF4) : lead? n =
    some ⟨3, if n = 0xF0 then 0x90 else 0x80, if n = 0xF4 then 0x8F else 0xBF, n - 0xF0⟩ := by
  unfold lead?
  rw [if_neg (by omega), if_neg (by omega), if_neg (by omega), if_neg (by omega), if_neg (by omega),
    if_neg (by omega)]
  split_ifs with h₁ h₂ <;> first | omega | (subst n; rfl) | rfl

/-! ## 2. Sequences -/

variable {k low high bits n : Nat} {bytes : Bytes}

theorem follow_done : follow ⟨0, low, high, bits⟩ bytes = (some (Char.ofNat bits), bytes) := by
  rw [follow]

/-- A byte within its bounds gives six more bits. -/
theorem follow_next (hlow : low ≤ n + 0x80) (hhigh : n + 0x80 ≤ high) (hn : n < 0x40) :
    follow ⟨k + 1, low, high, bits⟩ (UInt8.ofNat (n + 0x80) :: bytes) =
      follow ⟨k, 0x80, 0xBF, bits * 0x40 + n⟩ bytes := by
  have hbyte : (UInt8.ofNat (n + 0x80)).toNat = n + 0x80 := by
    rw [UInt8.toNat_ofNat']
    omega
  rw [follow, hbyte, if_pos ⟨hlow, hhigh⟩, Nat.add_sub_cancel]

theorem decode_of_lead {l : Lead} (hn : n < 0x100) (h : lead? n = some l) :
    decode (UInt8.ofNat n :: bytes) = (follow l bytes).1 :: decode (follow l bytes).2 := by
  have hbyte : (UInt8.ofNat n).toNat = n := by
    rw [UInt8.toNat_ofNat']
    omega
  rw [decode, hbyte, h]

/-- **A character is read back from its bytes**, whatever comes after them. -/
theorem decode_encodeChar (c : Char) (bytes : Bytes) :
    decode (String.utf8EncodeChar c ++ bytes) = some c :: decode bytes := by
  have hvalid : c.val.toNat < 0xD800 ∨ 0xDFFF < c.val.toNat ∧ c.val.toNat < 0x110000 := c.valid
  have hread : ∀ {m}, m = c.val.toNat → Char.ofNat m = c := fun e => e ▸ Char.ofNat_toNat c
  unfold String.utf8EncodeChar
  dsimp only
  generalize c.val.toNat = v at hvalid hread
  split
  · have hlead := lead?_one (n := v) (by omega)
    rw [List.cons_append, decode_of_lead (by omega) hlead, follow_done, hread rfl, List.nil_append]
  split
  · have hlead := lead?_two (n := v / 64 % 32 + 192) (by omega) (by omega)
    simp only [List.cons_append, List.nil_append]
    rw [decode_of_lead (by omega) hlead, follow_next (by omega) (by omega) (by omega), follow_done,
      hread (by omega)]
  split
  · have hlead := lead?_three (n := v / 4096 % 16 + 224) (by omega) (by omega)
    -- two bytes were not enough, and the character is no surrogate
    have hlow : (if v / 4096 % 16 + 224 = 0xE0 then 0xA0 else 0x80) ≤ v / 64 % 64 + 0x80 := by
      split <;> omega
    have hhigh : v / 64 % 64 + 0x80 ≤ if v / 4096 % 16 + 224 = 0xED then 0x9F else 0xBF := by
      split <;> omega
    simp only [List.cons_append, List.nil_append]
    rw [decode_of_lead (by omega) hlead, follow_next hlow hhigh (by omega),
      follow_next (by omega) (by omega) (by omega), follow_done, hread (by omega)]
  · have hlead := lead?_four (n := v / 262144 % 8 + 240) (by omega) (by omega)
    -- three bytes were not enough, and the character is on the last plane or before
    have hlow : (if v / 262144 % 8 + 240 = 0xF0 then 0x90 else 0x80) ≤ v / 4096 % 64 + 0x80 := by
      split <;> omega
    have hhigh : v / 4096 % 64 + 0x80 ≤ if v / 262144 % 8 + 240 = 0xF4 then 0x8F else 0xBF := by
      split <;> omega
    simp only [List.cons_append, List.nil_append]
    rw [decode_of_lead (by omega) hlead, follow_next hlow hhigh (by omega),
      follow_next (by omega) (by omega) (by omega), follow_next (by omega) (by omega) (by omega),
      follow_done, hread (by omega)]

end Utf8

/-- **The bytes of a text are well-formed, and are those of this text.** -/
theorem ofBytes?_toBytes (t : Text) : ofBytes? (toBytes t) = some t := by
  have hdecode : Utf8.decode (toBytes t) = t.map some := by
    induction t with
    | nil => rw [toBytes, List.flatMap_nil, Utf8.decode, List.map_nil]
    | cons c more ih =>
        rw [toBytes, List.flatMap_cons, Utf8.decode_encodeChar, List.map_cons]
        exact congrArg (some c :: ·) ih
  rw [ofBytes?, hdecode, List.mapM_map]
  have hall : t.mapM (pure : Char → Option Char) = pure (t.map id) := List.mapM_pure
  rw [List.map_id] at hall
  exact hall

end Text

end MergeScribe
