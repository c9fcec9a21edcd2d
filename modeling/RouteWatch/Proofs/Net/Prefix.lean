/-
A prefix is read back from address and length, as long as its family allows
the length, and a host also from its address alone. Reading cuts at the last
slash, and neither of the two parts holds one. Each written form is one word,
so it is found again among the words of a line.
-/
import RouteWatch.Net.Prefix
import RouteWatch.Proofs.Net.Address

namespace RouteWatch.Prefix

/-- The family allows the length. -/
def Fits (p : Prefix) : Prop := p.length ≤ p.family.bits

instance (p : Prefix) : Decidable p.Fits := inferInstanceAs (Decidable (p.length ≤ _))

/-- What `make` answers are the prefixes whose family allows their length. -/
theorem make_eq_ok {address : Address} {length : Nat} {p : Prefix} :
    make address length = .ok p ↔ p = ⟨address, length⟩ ∧ p.Fits := by
  rw [make]
  split
  · rename_i hle
    constructor
    · intro h
      obtain rfl := Except.ok.inj h
      exact ⟨rfl, hle⟩
    · rintro ⟨rfl, -⟩
      rfl
  · rename_i hgt
    constructor
    · intro h
      cases h
    · rintro ⟨rfl, hfits⟩
      exact absurd hfits hgt

theorem splitLastSlash?_of_no_slash {s : Text} (h : '/' ∉ s) : splitLastSlash? s = none := by
  induction s with
  | nil => rfl
  | cons c s ih =>
    have hc : c ≠ '/' := fun hc => h (by simp [hc])
    simp [splitLastSlash?, ih fun hs => h (by simp [hs]), hc]

theorem splitLastSlash?_append (before : Text) {after : Text} (h : '/' ∉ after) :
    splitLastSlash? (before ++ '/' :: after) = some (before, after) := by
  induction before with
  | nil => simp [splitLastSlash?, splitLastSlash?_of_no_slash h]
  | cons c before ih => simp [splitLastSlash?, ih]

theorem no_slash_ofNat (n : Nat) : '/' ∉ Text.ofNat n := fun h =>
  absurd (Text.isDigit_of_mem_ofNat h) (by decide)

theorem Fits.length_le {p : Prefix} (h : p.Fits) : p.length ≤ 128 := by
  have hbits : p.family.bits ≤ 128 := by
    cases p.family <;> decide
  exact Nat.le_trans h hbits

/-- **A prefix is read back from address and length.** -/
theorem read?_cidr {p : Prefix} (h : p.Fits) : read? p.cidr = some p := by
  have hle := h.length_le
  have hmake : make p.address p.length = .ok p := make_eq_ok.2 ⟨rfl, h⟩
  simp [read?, parse, cidr, splitLastSlash?_append _ (no_slash_ofNat _), Address.read?_print,
    Text.toCount?_ofNat (show p.length ≤ 255 by omega), hmake, Except.toOption]

/-! ## Characters -/

theorem isChar_of_mem_ofNat {n : Nat} {c : Char} (h : c ∈ Text.ofNat n) : Address.IsChar c :=
  .inl (Text.isSome_digitValue?_mono (by decide)
    (Text.isSome_digitValue?_of_mem (by decide) (by decide) h))

theorem isChar_of_mem_cidr {p : Prefix} {c : Char} (h : c ∈ p.cidr) :
    Address.IsChar c ∨ c = '/' := by
  rw [cidr, List.mem_append, List.mem_cons] at h
  rcases h with h | h | h
  · exact .inl (Address.isChar_of_mem_print h)
  · exact .inr h
  · exact .inl (isChar_of_mem_ofNat h)

theorem isChar_of_mem_print {p : Prefix} {c : Char} (h : c ∈ p.print) :
    Address.IsChar c ∨ c = '/' := by
  rw [print] at h
  split at h
  · exact .inl (Address.isChar_of_mem_print h)
  · exact isChar_of_mem_cidr h

theorem isWord_of_isChar {s : Text} (hne : s ≠ []) (h : ∀ c ∈ s, Address.IsChar c ∨ c = '/') :
    Text.IsWord s where
  ne_nil := hne
  no_blank c hc := by
    rcases h c hc with h | rfl
    · exact h.not_blank
    · decide

theorem isWord_cidr (p : Prefix) : Text.IsWord p.cidr :=
  isWord_of_isChar (by simp [cidr]) fun _ => isChar_of_mem_cidr

theorem isWord_print (p : Prefix) : Text.IsWord p.print := by
  refine isWord_of_isChar ?_ fun _ => isChar_of_mem_print
  rw [print]
  split
  · exact Address.print_ne_nil _
  · exact (isWord_cidr p).ne_nil

/-! ## Other forms -/

theorem no_slash_print (address : Address) : '/' ∉ address.print := fun hmem =>
  absurd (Address.isChar_of_mem_print hmem) (by decide)

/-- **A prefix is read back from its printed form**, which drops the length of a host. -/
theorem read?_print {p : Prefix} (h : p.Fits) : read? p.print = some p := by
  rw [print]
  split
  · rename_i hhost
    have hslash : '/' ∉ p.address.print := no_slash_print p.address
    have hlength : p.length = p.address.family.bits := by simpa [isHost, family] using hhost
    have hp : host p.address = p := by rw [host, ← hlength]
    simp [read?, parse, splitLastSlash?_of_no_slash hslash, Address.read?_print, hp,
      Except.toOption]
  · exact read?_cidr h

theorem parse_eq_ok {s : Text} {p : Prefix} : parse s = .ok p ↔ read? s = some p := by
  rw [read?]
  cases parse s <;> simp [Except.toOption]

/-- Whatever text is read, the family allows the length. -/
theorem fits_of_parse {s : Text} {p : Prefix} (h : parse s = .ok p) : p.Fits := by
  rw [parse] at h
  split at h
  · split at h
    · obtain rfl := Except.ok.inj h
      exact Nat.le_refl _
    · cases h
  · split at h
    · exact (make_eq_ok.1 h).2
    · cases h

theorem fits_of_read? {s : Text} {p : Prefix} (h : read? s = some p) : p.Fits :=
  fits_of_parse (parse_eq_ok.2 h)

theorem cidr_inj {p q : Prefix} (h : p.cidr = q.cidr) : p = q := by
  have hsplit : ∀ p : Prefix,
      splitLastSlash? p.cidr = some (p.address.print, Text.ofNat p.length) := fun p =>
    splitLastSlash?_append _ (no_slash_ofNat _)
  have hparts := hsplit p
  rw [h, hsplit q, Option.some.injEq, Prod.mk.injEq] at hparts
  have haddress : q.address = p.address := by
    have := congrArg Address.read? hparts.1
    rwa [Address.read?_print, Address.read?_print, Option.some.injEq] at this
  have hlength : q.length = p.length := by
    have := congrArg (Text.toNat? 10) hparts.2
    rwa [Text.ofNat, Text.ofNat, Text.toNat?_toDigits (by decide) (by decide),
      Text.toNat?_toDigits (by decide) (by decide), Option.some.injEq] at this
  cases p
  cases q
  simp_all

end RouteWatch.Prefix
