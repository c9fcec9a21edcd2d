/-
Texts are ordered as their bytes are. The bytes of a character carry its code
point in digits of six bits, the highest first, and the more of them there
are the greater is the first one. So of two different characters the smaller
one has the smaller bytes, and neither is a beginning of the other.
-/
import Mathlib.Tactic.SplitIfs
import RouteWatch.Text.Utf8

namespace RouteWatch.Utf8

theorem toUInt8_lt {m n : Nat} (hm : m < 256) (hn : n < 256) :
    m.toUInt8 < n.toUInt8 ↔ m < n := by
  rw [UInt8.lt_iff_toNat_lt, Nat.toUInt8_eq, Nat.toUInt8_eq, UInt8.toNat_ofNat',
    UInt8.toNat_ofNat', Nat.mod_eq_of_lt hm, Nat.mod_eq_of_lt hn]

theorem toUInt8_inj {m n : Nat} (hm : m < 256) (hn : n < 256) :
    m.toUInt8 = n.toUInt8 ↔ m = n := by
  rw [← UInt8.toNat_inj, Nat.toUInt8_eq, Nat.toUInt8_eq, UInt8.toNat_ofNat', UInt8.toNat_ofNat',
    Nat.mod_eq_of_lt hm, Nat.mod_eq_of_lt hn]

theorem toNat_lt (c : Char) : c.toNat < 0x110000 := by
  have hvalid := c.valid
  rw [UInt32.isValidChar, Nat.isValidChar] at hvalid
  show c.val.toNat < 0x110000
  omega

/-- Of two numbers the smaller one is smaller without its last digit, or in that digit alone. -/
theorem div_lt_or_mod_lt {m n : Nat} (h : m < n) :
    m / 64 < n / 64 ∨ m / 64 = n / 64 ∧ m % 64 < n % 64 := by omega

/-- A smaller character has smaller bytes, whatever stands behind. -/
theorem encodeChar_append_lt {c d : Char} (h : c < d) (s t : Bytes) :
    encodeChar c ++ s < encodeChar d ++ t := by
  have hlt : c.toNat < d.toNat := UInt32.lt_iff_toNat_lt.1 (Char.lt_def.1 h)
  have hbound := toNat_lt d
  have hlast := div_lt_or_mod_lt hlt
  have hthird := @div_lt_or_mod_lt (c.toNat / 64) (d.toNat / 64)
  have hsecond := @div_lt_or_mod_lt (c.toNat / 64 / 64) (d.toNat / 64 / 64)
  simp only [Nat.div_div_eq_div_mul, Nat.reduceMul] at hthird hsecond
  simp only [encodeChar]
  -- The numbers of bytes differ and the first byte decides, or they agree and a digit does.
  split_ifs <;>
    simp (disch := omega) only [List.cons_append, List.nil_append, List.cons_lt_cons_iff,
      toUInt8_lt, toUInt8_inj] <;>
    omega

theorem encodeChar_ne_nil (c : Char) : encodeChar c ≠ [] := by
  rw [encodeChar]
  split_ifs <;> simp

theorem encode_lt {a b : Text} (h : a < b) : encode a < encode b := by
  induction h with
  | nil =>
    rename_i c s
    obtain ⟨first, rest, hbytes⟩ := List.exists_cons_of_ne_nil (encodeChar_ne_nil c)
    rw [encode, encode, List.flatMap_cons, hbytes]
    exact .nil
  | rel h => exact encodeChar_append_lt h _ _
  | cons h ih => exact List.append_left_lt ih

/-- **Texts are ordered as their bytes are.** -/
theorem encode_lt_encode {a b : Text} : encode a < encode b ↔ a < b := by
  refine ⟨fun h => ?_, encode_lt⟩
  rcases Std.lt_trichotomy a b with hlt | rfl | hgt
  · exact hlt
  · exact absurd h (List.lt_irrefl _)
  · exact absurd (encode_lt hgt) (List.lt_asymm h)

end RouteWatch.Utf8
