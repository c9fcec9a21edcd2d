/-
Lower case. Only the letters from A to Z are changed, and none of them is or
becomes blank, so it does not matter whether a text is trimmed before or after.
Two texts are the same in lower case exactly when they differ in the case of
these letters at most.
-/
import Mathlib.Data.List.Forall2
import RouteWatch.Proofs.Text.Blank

namespace RouteWatch.Text

/-! ## Letters -/

theorem toNat_toLower (c : Char) :
    c.toLower.toNat = if 65 ≤ c.toNat ∧ c.toNat ≤ 90 then c.toNat + 32 else c.toNat := by
  have hrange : (c.val ≥ 'A'.val ∧ c.val ≤ 'Z'.val) ↔ (65 ≤ c.toNat ∧ c.toNat ≤ 90) := by
    simp [UInt32.le_iff_toNat_le]
  by_cases h : c.val ≥ 'A'.val ∧ c.val ≤ 'Z'.val
  · have hval : c.toLower.val = c.val + ('a'.val - 'A'.val) := congrArg Char.val (dif_pos h)
    have hstep : ('a'.val - 'A'.val).toNat = 32 := rfl
    have hle : c.toNat ≤ 90 := (hrange.1 h).2
    rw [if_pos (hrange.1 h), ← Char.toNat_val, hval, UInt32.toNat_add, hstep, Char.toNat_val]
    omega
  · have hsame : c.toLower = c := dif_neg h
    rw [if_neg fun hr => h (hrange.2 hr), hsame]

theorem isBlank_toLower (c : Char) : isBlank c.toLower = isBlank c := by
  simp only [isBlank, toNat_toLower]
  split
  · grind
  · rfl

theorem toLower_toLower (c : Char) : c.toLower.toLower = c.toLower := by
  apply Char.toNat_inj.mp
  rw [toNat_toLower c.toLower]
  have := toNat_toLower c
  split at this <;> rw [if_neg] <;> omega

/-- The second character is the first one, a letter from A to Z, in lower case. -/
def IsLowerOf (c d : Char) : Prop := 'A' ≤ c ∧ c ≤ 'Z' ∧ d.toNat = c.toNat + 32

/-- The characters are the same but for the case of a letter from A to Z. -/
def SameLetter (c d : Char) : Prop := c = d ∨ IsLowerOf c d ∨ IsLowerOf d c

theorem toLower_eq_iff {c d : Char} : c.toLower = d.toLower ↔ SameLetter c d := by
  rw [← Char.toNat_inj, toNat_toLower, toNat_toLower, SameLetter, IsLowerOf, IsLowerOf,
    ← Char.toNat_inj]
  simp only [Char.le_def, UInt32.le_iff_toNat_le, Char.toNat_val]
  have hA : 'A'.toNat = 65 := rfl
  have hZ : 'Z'.toNat = 90 := rfl
  split <;> split <;> omega

/-! ## Texts -/

theorem lower_lower (s : Text) : lower (lower s) = lower s := by
  rw [lower, lower, List.map_map]
  exact List.map_congr_left fun c _ => toLower_toLower c

theorem lower_eq_iff {s t : Text} : lower s = lower t ↔ List.Forall₂ SameLetter s t := by
  have hsame : (fun c d : Char => c.toLower = d.toLower) = SameLetter :=
    funext₂ fun _ _ => propext toLower_eq_iff
  rw [← hsame, lower, lower, ← List.forall₂_eq_eq_eq, List.forall₂_map_left_iff,
    List.forall₂_map_right_iff]

theorem trimStart_lower (s : Text) : trimStart (lower s) = lower (trimStart s) := by
  have hblank : isBlank ∘ Char.toLower = isBlank := funext isBlank_toLower
  rw [trimStart, lower, List.dropWhile_map, hblank]
  rfl

/-- Trimming and lower case may be done in either order. -/
theorem trim_lower (s : Text) : trim (lower s) = lower (trim s) := by
  have hreverse : ∀ s : Text, (lower s).reverse = lower s.reverse := fun s => List.map_reverse.symm
  have hend : ∀ s : Text, trimEnd s = (trimStart s.reverse).reverse := fun _ => rfl
  rw [trim, trim, trimStart_lower, hend, hend, hreverse, trimStart_lower, hreverse]

theorem Trimmed.lower {s : Text} (h : Trimmed s) : Trimmed (Text.lower s) := by
  rw [← h.trim_eq, ← trim_lower]
  exact trimmed_trim _

end RouteWatch.Text
