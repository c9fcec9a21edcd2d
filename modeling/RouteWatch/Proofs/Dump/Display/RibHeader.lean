/-
The header lines of a RIB display are those of a grammar, and a line announces
one number to one prefix only. The prefix ends at its comma and the number at
the blank behind it, as neither can hold these; what needs care is the end of
the line, where a plural is optional and no word may go on.
-/
import RouteWatch.Proofs.Dump.Display.Line
import RouteWatch.Proofs.Text.Trailing

namespace RouteWatch.Display

/-! ## The grammar -/

/-- The characters of an address: a digit, a letter up to F, a colon or a point. -/
def InAddress (c : Char) : Prop :=
  ('0' ≤ c ∧ c ≤ '9') ∨ ('A' ≤ c ∧ c ≤ 'F') ∨ ('a' ≤ c ∧ c ≤ 'f') ∨ c = ':' ∨ c = '.'

/-- What a header line may begin with: an address, and perhaps a slash and one to three digits. -/
inductive IsTarget : Text → Prop
  | bare {address : Text} (h : address ≠ [] ∧ ∀ c ∈ address, InAddress c) : IsTarget address
  | slash {address digits : Text} (h : address ≠ [] ∧ ∀ c ∈ address, InAddress c)
      (hdigits : ∀ c ∈ digits, Text.isDecimalDigit c = true)
      (hlength : 1 ≤ digits.length ∧ digits.length ≤ 3) : IsTarget (address ++ '/' :: digits)

/-- The clause, which stands behind the comma of a header line, has this count in it. -/
inductive IsCountClause (count : Text) : Text → Prop
  | intro {space gap margin noun tail : Text}
      (hspace : space ≠ [] ∧ ∀ c ∈ space, Text.isBlank c = true)
      (hcount : count ≠ [] ∧ ∀ c ∈ count, Text.isDecimalDigit c = true)
      (hgap : gap ≠ [] ∧ ∀ c ∈ gap, Text.isBlank c = true)
      (hmargin : margin ≠ [] ∧ ∀ c ∈ margin, Text.isBlank c = true)
      (hnoun : noun = "next-hop".toList ∨ noun = "next-hops".toList)
      (htail : tail = [] ∨ ∃ c rest, tail = c :: rest ∧ Text.isWordChar c = false) :
      IsCountClause count
        (space ++ count ++ gap ++ "unicast".toList ++ margin ++ noun ++ tail)

/-- The line announces the count to the target. -/
inductive Announces (target count : Text) : Text → Prop
  | intro {clause : Text} (htarget : IsTarget target) (hclause : IsCountClause count clause) :
      Announces target count (target ++ ',' :: clause)

/-! ## The prefix -/

theorem isAddressChar_iff_inAddress {c : Char} : isAddressChar c = true ↔ InAddress c := by
  rw [isAddressChar_iff, Address.IsChar, Text.isSome_digitValue?_sixteen, InAddress]
  simp only [or_assoc]

/-- In front of a comma nothing but the text itself decides what is cut off. -/
theorem cutBefore_comma_iff {target clause : Text} :
    CutBefore (',' :: clause) target ↔ IsTarget target := by
  have hall : ∀ address : Text, (∀ c ∈ address, isAddressChar c = true) ↔
      ∀ c ∈ address, InAddress c := fun address =>
    forall₂_congr fun _ _ => isAddressChar_iff_inAddress
  constructor
  · rintro (⟨hne, haddress, -, -⟩ | ⟨hne, haddress, hdigits, hlength, -⟩)
    · exact .bare ⟨hne, (hall _).1 haddress⟩
    · exact .slash ⟨hne, (hall _).1 haddress⟩ hdigits hlength
  · rintro (⟨hne, haddress⟩ | ⟨⟨hne, haddress⟩, hdigits, hlength⟩)
    · exact .bare hne ((hall _).2 haddress) (Text.stopsAt_cons _ (by decide)) (by simp)
    · exact .slash hne ((hall _).2 haddress) hdigits hlength (Text.stopsAt_cons _ (by decide))

/-! ## The count clause -/

theorem wordEndsAt_iff {s : Text} : Text.wordEndsAt s = true ↔
    s = [] ∨ ∃ c rest, s = c :: rest ∧ Text.isWordChar c = false := by
  cases s <;> simp [Text.wordEndsAt]

theorem after?_plural_eq_none {s : Text} (h : Text.wordEndsAt s = true) :
    Text.after? ['s'] s = none := by
  refine Option.eq_none_iff_forall_ne_some.2 fun rest hrest => ?_
  have hs : Text.isWordChar 's' = true := by decide
  rw [Text.after?_eq_some.1 hrest, List.singleton_append, Text.wordEndsAt, hs] at h
  cases h

/-- Behind the singular the word ends at once or after the letter of the plural. -/
theorem wordEndsAt_plural_iff {s : Text} :
    Text.wordEndsAt ((Text.after? ['s'] s).getD s) = true ↔
      ∃ plural tail, (plural = [] ∨ plural = ['s']) ∧ s = plural ++ tail ∧
        Text.wordEndsAt tail = true := by
  constructor
  · intro h
    cases hs : Text.after? ['s'] s with
    | none => exact ⟨[], s, .inl rfl, rfl, by rwa [hs] at h⟩
    | some tail => exact ⟨['s'], tail, .inr rfl, Text.after?_eq_some.1 hs, by rwa [hs] at h⟩
  · rintro ⟨plural, tail, rfl | rfl, rfl, htail⟩
    · rwa [after?_plural_eq_none htail]
    · rwa [Text.after?_eq_some.2 rfl]

theorem noun_iff {noun : Text} : noun = "next-hop".toList ∨ noun = "next-hops".toList ↔
    ∃ plural, (plural = [] ∨ plural = ['s']) ∧ noun = "next-hop".toList ++ plural := by
  constructor
  · rintro (rfl | rfl)
    · exact ⟨[], .inl rfl, rfl⟩
    · exact ⟨['s'], .inr rfl, rfl⟩
  · rintro ⟨plural, rfl | rfl, rfl⟩
    · exact .inl rfl
    · exact .inr rfl

/-- A number is one word. -/
theorem isWord_of_isDecimalDigit {digits : Text}
    (h : digits ≠ [] ∧ ∀ c ∈ digits, Text.isDecimalDigit c = true) : Text.IsWord digits where
  ne_nil := h.1
  no_blank c hc := by
    rw [← Bool.not_eq_true]
    intro hblank
    have hdigit := h.2 c hc
    rw [Text.isDecimalDigit_of_isBlank hblank] at hdigit
    cases hdigit

/-- A number ends where blanks follow it. -/
theorem stopsAt_isDecimalDigit {gap : Text}
    (h : gap ≠ [] ∧ ∀ c ∈ gap, Text.isBlank c = true) (rest : Text) :
    Text.StopsAt Text.isDecimalDigit (gap ++ rest) := by
  obtain ⟨c, gap, rfl⟩ := List.exists_cons_of_ne_nil h.1
  exact Text.stopsAt_cons _ (Text.isDecimalDigit_of_isBlank (h.2 c List.mem_cons_self))

theorem countClause?_eq_some {clause count : Text} :
    countClause? clause = some count ↔ IsCountClause count clause := by
  -- The steps of the reader, each of them as what it takes off.
  simp only [countClause?, Option.bind_eq_bind, Option.bind_eq_some_iff, Prod.exists,
    Option.ite_none_right_eq_some, Option.some.injEq, wordEndsAt_plural_iff,
    Text.afterBlanks?_eq_some, spanDigits?_eq_some, Text.after?_eq_some]
  constructor
  · rintro ⟨_, ⟨space, hne, hspace, rfl, -⟩, _, _, ⟨rfl, hcount, -⟩, _, ⟨gap, hne', hgap, rfl, -⟩,
      _, rfl, _, ⟨margin, hne'', hmargin, rfl, -⟩, _, rfl, ⟨plural, tail, hplural, rfl, htail⟩, rfl⟩
    have hclause := IsCountClause.intro ⟨hne, hspace⟩ hcount ⟨hne', hgap⟩ ⟨hne'', hmargin⟩
      (noun_iff.2 ⟨plural, hplural, rfl⟩) (wordEndsAt_iff.1 htail)
    simpa only [List.append_assoc] using hclause
  · rintro ⟨hspace, hcount, hgap, hmargin, hnoun, htail⟩
    rename_i space gap margin noun tail
    obtain ⟨plural, hplural, rfl⟩ := noun_iff.1 hnoun
    have hunicast : ∀ rest, Text.StopsAt Text.isBlank ("unicast".toList ++ rest) := fun rest =>
      Text.stopsAt_cons _ (by decide)
    have hhop : ∀ rest, Text.StopsAt Text.isBlank ("next-hop".toList ++ rest) := fun rest =>
      Text.stopsAt_cons _ (by decide)
    have hdigits := (isWord_of_isDecimalDigit hcount).stopsAt
    simp only [List.append_assoc]
    exact ⟨_, ⟨space, hspace.1, hspace.2, rfl, hdigits _⟩, count, _,
      ⟨rfl, hcount, stopsAt_isDecimalDigit hgap _⟩, _, ⟨gap, hgap.1, hgap.2, rfl, hunicast _⟩, _,
      rfl, _, ⟨margin, hmargin.1, hmargin.2, rfl, hhop _⟩, _, rfl,
      ⟨plural, tail, hplural, rfl, wordEndsAt_iff.2 htail⟩, rfl⟩

/-! ## The line -/

theorem announces_iff {target count line : Text} :
    Announces target count line ↔ ∃ clause,
      spanPrefix? line = some (target, ',' :: clause) ∧ countClause? clause = some count := by
  simp only [spanPrefix?_eq_some, cutBefore_comma_iff, countClause?_eq_some]
  constructor
  · rintro ⟨htarget, hclause⟩
    exact ⟨_, ⟨rfl, htarget⟩, hclause⟩
  · rintro ⟨clause, ⟨rfl, htarget⟩, hclause⟩
    exact .intro htarget hclause

/-- A line announces one count to one target. -/
theorem Announces.unique {target target' count count' line : Text}
    (h : Announces target count line) (h' : Announces target' count' line) :
    target = target' ∧ count = count' := by
  obtain ⟨clause, hspan, hcount⟩ := announces_iff.1 h
  obtain ⟨clause', hspan', hcount'⟩ := announces_iff.1 h'
  rw [hspan, Option.some.injEq, Prod.mk.injEq, List.cons.injEq] at hspan'
  obtain ⟨rfl, -, rfl⟩ := hspan'
  exact ⟨rfl, Option.some.inj (hcount.symm.trans hcount')⟩

theorem ribHeader?_eq_some {line : Text} {header : Header} :
    ribHeader? line = some header ↔ ∃ target count, Announces target count line ∧
      Prefix.read? target = some header.target ∧
      header.declared = Text.toCount? Text.wordMax count := by
  simp only [announces_iff, ribHeader?, Option.bind_eq_bind, Option.bind_eq_some_iff, Prod.exists,
    Text.after?_eq_some, List.singleton_append]
  constructor
  · rintro ⟨target, _, hspan, clause, rfl, count, hcount, p, hp, hheader⟩
    obtain rfl := Option.some.inj hheader
    exact ⟨target, count, ⟨clause, hspan, hcount⟩, hp, rfl⟩
  · rintro ⟨target, count, ⟨clause, hspan, hcount⟩, hp, hdeclared⟩
    exact ⟨target, _, hspan, clause, rfl, count, hcount, header.target, hp, by rw [← hdeclared]; rfl⟩

/-- **The reader of RIB headers accepts the lines of the grammar whose target is a prefix, and no
others.** A line announces one count to one target; the header has the prefix that the target reads
as, and the count as far as a machine word holds it. What a display writes above a route is such a
line. -/
theorem ribHeader_grammar :
    (∀ (line : Text) (header : Header), (grammar .rib).header? line = some header ↔
      ∃ target count, Announces target count line ∧ Prefix.read? target = some header.target ∧
        header.declared = Text.toCount? Text.wordMax count) ∧
    (∀ line target target' count count' : Text, Announces target count line →
      Announces target' count' line → target = target' ∧ count = count') ∧
    ∀ p : Prefix, p.Fits → ∀ n : Nat, (grammar .rib).header?
        (p.cidr ++ ", ".toList ++ Text.ofNat n ++ " unicast next-hops".toList) =
      some ⟨p, if n ≤ Text.wordMax then some n else none⟩ := by
  refine ⟨fun line header => ribHeader?_eq_some, fun _ _ _ _ _ h h' => h.unique h', ?_⟩
  intro p hp n
  rw [← Text.toCount?_ofNat_eq]
  exact ribHeader?_counted hp n

/-- A line that announces more next-hops than a machine word counts. -/
def overfullLine : Text := "10.0.0.0/24,\u00a018446744073709551616  unicast next-hop, stale".toList

theorem ribHeader_grammar_overfullLine :
    Announces "10.0.0.0/24".toList "18446744073709551616".toList overfullLine ∧
      (grammar .rib).header? overfullLine = some ⟨⟨.v4 10 0 0 0, 24⟩, none⟩ ∧
      (∀ target count, Announces target count overfullLine → target = "10.0.0.0/24".toList) ∧
      Prefix.Fits ⟨.v4 10 0 0 0, 24⟩ ∧
      (grammar .rib).header? "10.0.0.0/24, 4 unicast next-hops".toList =
        some ⟨⟨.v4 10 0 0 0, 24⟩, some 4⟩ := by
  obtain ⟨hread, hunique, hcounted⟩ := ribHeader_grammar
  have hannounces : Announces "10.0.0.0/24".toList "18446744073709551616".toList overfullLine :=
    announces_iff.2 ⟨"\u00a018446744073709551616  unicast next-hop, stale".toList, by decide,
      by decide⟩
  exact ⟨hannounces, (hread _ _).2 ⟨_, _, hannounces, by decide, by decide⟩,
    fun target count h => (hunique _ _ _ _ _ h hannounces).1, by decide,
    hcounted ⟨.v4 10 0 0 0, 24⟩ (by decide) 4⟩

end RouteWatch.Display
