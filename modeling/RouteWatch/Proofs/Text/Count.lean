/-
A number written in digits reads as itself, in every base up to sixteen. The
written form has no leading zero, so the readers that refuse one accept it.
-/
import RouteWatch.Proofs.Text.Blank
import RouteWatch.Text.Count

namespace RouteWatch.Text

theorem digitValue?_digitChar {base d : Nat} (hb : base ≤ 16) (hd : d < base) :
    digitValue? base (Nat.digitChar d) = some d := by
  have key : ∀ base ≤ 16, ∀ d < base, digitValue? base (Nat.digitChar d) = some d := by decide
  exact key base hb d hd

theorem isSome_digitValue?_mono {base base' : Nat} (hb : base ≤ base') {c : Char}
    (h : (digitValue? base c).isSome = true) : (digitValue? base' c).isSome = true := by
  simp only [digitValue?, Option.isSome_filter, Option.any_eq_true, decide_eq_true_eq] at h ⊢
  obtain ⟨value, hvalue, hlt⟩ := h
  exact ⟨value, hvalue, Nat.lt_of_lt_of_le hlt hb⟩

/-- The code points of digits and of the letters up to F. -/
theorem toNat_of_isSome_digitValue? {base : Nat} {c : Char}
    (h : (digitValue? base c).isSome = true) :
    (48 ≤ c.toNat ∧ c.toNat ≤ 57) ∨ (65 ≤ c.toNat ∧ c.toNat ≤ 70) ∨
      (97 ≤ c.toNat ∧ c.toNat ≤ 102) := by
  simp only [digitValue?, Option.isSome_filter, Option.any_eq_true] at h
  obtain ⟨value, hvalue, -⟩ := h
  split at hvalue
  · rename_i hdigit
    exact .inl (toNat_of_isDigit hdigit)
  · simp only [Bool.and_eq_true, decide_eq_true_eq, Char.le_def, UInt32.le_iff_toNat_le] at hvalue
    split at hvalue
    · rename_i hlower
      exact .inr (.inr hlower)
    · split at hvalue
      · rename_i hupper
        exact .inr (.inl hupper)
      · cases hvalue

/-- The digits to the base sixteen are those of three ranges. -/
theorem isSome_digitValue?_sixteen {c : Char} : (digitValue? 16 c).isSome = true ↔
    ('0' ≤ c ∧ c ≤ '9') ∨ ('A' ≤ c ∧ c ≤ 'F') ∨ ('a' ≤ c ∧ c ≤ 'f') := by
  simp only [Char.le_def, UInt32.le_iff_toNat_le]
  refine ⟨toNat_of_isSome_digitValue?, fun h => ?_⟩
  change (48 ≤ c.toNat ∧ c.toNat ≤ 57) ∨ (65 ≤ c.toNat ∧ c.toNat ≤ 70) ∨
    (97 ≤ c.toNat ∧ c.toNat ≤ 102) at h
  have hdigit : c.isDigit = true ↔ 48 ≤ c.toNat ∧ c.toNat ≤ 57 := Char.isDigit_iff_toNat
  have hlower : ('a' ≤ c && c ≤ 'f') = true ↔ 97 ≤ c.toNat ∧ c.toNat ≤ 102 := by
    simp [Char.le_def, UInt32.le_iff_toNat_le]
  have hupper : ('A' ≤ c && c ≤ 'F') = true ↔ 65 ≤ c.toNat ∧ c.toNat ≤ 70 := by
    simp [Char.le_def, UInt32.le_iff_toNat_le]
  have hfirst : '0'.toNat = 48 ∧ 'a'.toNat = 97 ∧ 'A'.toNat = 65 := ⟨rfl, rfl, rfl⟩
  simp only [digitValue?, Option.isSome_filter, Option.any_eq_true, decide_eq_true_eq, hdigit,
    hlower, hupper]
  split
  · exact ⟨_, rfl, by omega⟩
  split
  · exact ⟨_, rfl, by omega⟩
  split
  · exact ⟨_, rfl, by omega⟩
  · omega
theorem mem_toDigits {base n : Nat} (hb : 1 < base) {c : Char} (h : c ∈ Nat.toDigits base n) :
    ∃ d, d < base ∧ c = Nat.digitChar d := by
  induction n using Nat.strongRecOn with
  | _ n ih =>
    rcases Nat.lt_or_ge n base with hlt | hge
    · rw [Nat.toDigits_of_lt_base hlt, List.mem_singleton] at h
      exact ⟨n, hlt, h⟩
    · rw [Nat.toDigits_of_base_le hb hge, List.mem_append, List.mem_singleton] at h
      rcases h with h | h
      · exact ih (n / base) (Nat.div_lt_self (by omega) hb) h
      · exact ⟨n % base, Nat.mod_lt n (by omega), h⟩

/-- The digits of a number are digits of its base. -/
theorem isSome_digitValue?_of_mem {base n : Nat} (hb : 1 < base) (hb' : base ≤ 16) {c : Char}
    (h : c ∈ Nat.toDigits base n) : (digitValue? base c).isSome = true := by
  obtain ⟨d, hd, rfl⟩ := mem_toDigits hb h
  rw [digitValue?_digitChar hb' hd]
  rfl

theorem ofNat_ne_nil (n : Nat) : ofNat n ≠ [] :=
  List.ne_nil_of_length_pos Nat.length_toDigits_pos

theorem isDigit_of_mem_ofNat {n : Nat} {c : Char} (h : c ∈ ofNat n) : c.isDigit = true :=
  Nat.isDigit_of_mem_toDigits (by decide) (by decide) h

theorem isWord_ofNat (n : Nat) : IsWord (ofNat n) where
  ne_nil := ofNat_ne_nil n
  no_blank _ hc := isBlank_of_isDigit (isDigit_of_mem_ofNat hc)

theorem digitsValue?_append (base acc : Nat) (s t : Text) :
    digitsValue? base acc (s ++ t) =
      (digitsValue? base acc s).bind fun value => digitsValue? base value t := by
  induction s generalizing acc with
  | nil => rfl
  | cons c s ih =>
    rw [List.cons_append, digitsValue?, digitsValue?]
    cases digitValue? base c with
    | none => rfl
    | some d => exact ih (acc * base + d)

theorem digitsValue?_toDigits {base : Nat} (hb : 1 < base) (hb' : base ≤ 16) (n : Nat) :
    digitsValue? base 0 (Nat.toDigits base n) = some n := by
  induction n using Nat.strongRecOn with
  | _ n ih =>
    rcases Nat.lt_or_ge n base with hlt | hge
    · rw [Nat.toDigits_of_lt_base hlt]
      simp [digitsValue?, digitValue?_digitChar hb' hlt]
    · have hlast : n % base < base := Nat.mod_lt n (by omega)
      rw [Nat.toDigits_of_base_le hb hge, digitsValue?_append,
        ih (n / base) (Nat.div_lt_self (by omega) hb)]
      simp [digitsValue?, digitValue?_digitChar hb' hlast, Nat.div_add_mod']

theorem toNat?_toDigits {base : Nat} (hb : 1 < base) (hb' : base ≤ 16) (n : Nat) :
    toNat? base (Nat.toDigits base n) = some n := by
  have hvalue := digitsValue?_toDigits hb hb' n
  cases hs : Nat.toDigits base n with
  | nil => exact absurd hs Nat.toDigits_ne_nil
  | cons c s =>
    rw [hs] at hvalue
    exact hvalue

/-- A count is read back as far as the bound goes. -/
theorem toCount?_ofNat_eq (max n : Nat) :
    toCount? max (ofNat n) = if n ≤ max then some n else none := by
  have hvalue : toNat? 10 (ofNat n) = some n := toNat?_toDigits (by decide) (by decide) n
  have hplus : '+' ∉ ofNat n := fun hmem => absurd (isDigit_of_mem_ofNat hmem) (by decide)
  rw [toCount?]
  · simp [hvalue, Option.filter]
  · intro s hs
    exact hplus (by simp [hs])

/-- A count is read back within its bound. -/
theorem toCount?_ofNat {max n : Nat} (h : n ≤ max) : toCount? max (ofNat n) = some n := by
  rw [toCount?_ofNat_eq, if_pos h]

/-- Only zero begins with a zero. -/
theorem head?_toDigits_ne_zero {base n : Nat} (hb : 1 < base) (hn : 0 < n) :
    (Nat.toDigits base n).head? ≠ some '0' := by
  induction n using Nat.strongRecOn with
  | _ n ih =>
    rcases Nat.lt_or_ge n base with hlt | hge
    · rw [Nat.toDigits_of_lt_base hlt]
      intro h
      have hzero : n = 0 := by simpa using h
      omega
    · have hdiv : 0 < n / base := Nat.div_pos hge (by omega)
      rw [Nat.toDigits_of_base_le hb hge, List.head?_append]
      have := ih (n / base) (Nat.div_lt_self (by omega) hb) hdiv
      cases hs : Nat.toDigits base (n / base) with
      | nil => exact absurd hs Nat.toDigits_ne_nil
      | cons c s => simpa [hs] using this

theorem isSome_digitValue?_of_digitsValue? {base acc n : Nat} {s : Text}
    (h : digitsValue? base acc s = some n) : ∀ c ∈ s, (digitValue? base c).isSome = true := by
  induction s generalizing acc with
  | nil => exact List.forall_mem_nil _
  | cons c s ih =>
    rw [digitsValue?, Option.bind_eq_some_iff] at h
    obtain ⟨d, hd, h⟩ := h
    exact List.forall_mem_cons.2 ⟨Option.isSome_of_eq_some hd, ih h⟩

/-- Whatever count is read, it is made of digits behind a plus sign or none. -/
theorem mem_of_toCount? {max n : Nat} {s : Text} (h : toCount? max s = some n) :
    ∀ c ∈ s, c = '+' ∨ (digitValue? 10 c).isSome = true := by
  have hdigits : ∀ {s : Text}, (toNat? 10 s).filter (· ≤ max) = some n →
      ∀ c ∈ s, (digitValue? 10 c).isSome = true := by
    intro s hs
    have hvalue := (Option.filter_eq_some_iff.1 hs).1
    rw [toNat?.eq_def] at hvalue
    split at hvalue
    · cases hvalue
    · exact isSome_digitValue?_of_digitsValue? hvalue
  rw [toCount?.eq_def] at h
  split at h
  · exact List.forall_mem_cons.2 ⟨.inl rfl, fun c hc => .inr (hdigits h c hc)⟩
  · exact fun c hc => .inr (hdigits h c hc)

end RouteWatch.Text
