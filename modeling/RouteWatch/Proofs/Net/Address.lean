/-
An address is read back from its written form. The four numbers of an IPv4
address read back one by one. For IPv6 the reader first looks for an IPv4
address at every group and then for a group, so what is shown is where each
of the two fails: a text without points is no IPv4 address, and `::` begins
neither. The run of zeros that the writer leaves out is what the reader puts
in to come to eight groups.

Whatever else is read as an address, in whichever spelling, is made of
hexadecimal digits, colons and points.
-/
import RouteWatch.Proofs.Text.Blank
import RouteWatch.Proofs.Text.Count
import RouteWatch.Net.Address.Printer
import RouteWatch.Net.Address.Reader

namespace RouteWatch.Address

/-- No number of this base goes on at `s`. -/
abbrev NoDigit (base : Nat) (s : Text) : Prop :=
  Text.StopsAt (fun c => (Text.digitValue? base c).isSome) s

theorem readDigits?_toDigits {base most n : Nat} {rest : Text} (hb : 1 < base) (hb' : base ≤ 16)
    (hlen : (Nat.toDigits base n).length ≤ most) (hrest : NoDigit base rest) :
    readDigits? base most (Nat.toDigits base n ++ rest) = some (Nat.toDigits base n, n, rest) := by
  rw [readDigits?, Text.span_append (fun c hc => Text.isSome_digitValue?_of_mem hb hb' hc) hrest]
  simp [hlen, Text.toNat?_toDigits hb hb']

theorem readDigits?_noDigit {base most : Nat} {s : Text} (h : NoDigit base s) :
    readDigits? base most s = none := by
  rw [readDigits?, Text.span_stopsAt h]
  simp [Text.toNat?]

/-! ## Characters -/

/-- The character may stand in the text of an address. -/
def IsChar (c : Char) : Prop := (Text.digitValue? 16 c).isSome = true ∨ c = ':' ∨ c = '.'

instance (c : Char) : Decidable (IsChar c) := inferInstanceAs (Decidable (_ ∨ _ ∨ _))

theorem IsChar.not_blank {c : Char} (h : IsChar c) : Text.isBlank c = false := by
  rcases h with h | rfl | rfl
  · have := Text.toNat_of_isSome_digitValue? h
    simp only [Text.isBlank, Bool.or_eq_false_iff, Bool.and_eq_false_iff, beq_eq_false_iff_ne,
      decide_eq_false_iff_not]
    omega
  · decide
  · decide

/-- What was read of `s` before `rest` are characters of an address. -/
def Reads (s rest : Text) : Prop := ∃ read, s = read ++ rest ∧ ∀ c ∈ read, IsChar c

theorem Reads.refl (s : Text) : Reads s s := ⟨[], rfl, by simp⟩

theorem Reads.trans {s t u : Text} (h : Reads s t) (h' : Reads t u) : Reads s u := by
  obtain ⟨a, rfl, ha⟩ := h
  obtain ⟨b, rfl, hb⟩ := h'
  refine ⟨a ++ b, by simp, fun c hc => ?_⟩
  rcases List.mem_append.1 hc with hc | hc
  · exact ha c hc
  · exact hb c hc

theorem Reads.suffix {s rest : Text} (h : Reads s rest) : rest <:+ s := by
  obtain ⟨read, rfl, -⟩ := h
  exact List.suffix_append read rest

theorem reads_of_after? {separator s rest : Text} (hs : separator.all (decide <| IsChar ·) = true)
    (h : Text.after? separator s = some rest) : Reads s rest :=
  ⟨separator, Text.after?_eq_some.1 h, fun c hc => of_decide_eq_true (List.all_eq_true.1 hs c hc)⟩

theorem reads_of_readDigits? {base most value : Nat} (hb : base ≤ 16) {s digits rest : Text}
    (h : readDigits? base most s = some (digits, value, rest)) : Reads s rest := by
  rw [readDigits?, Option.ite_none_right_eq_some] at h
  obtain ⟨-, h⟩ := h
  obtain ⟨n, -, hn⟩ := Option.map_eq_some_iff.1 h
  simp only [Text.span, Prod.mk.injEq] at hn
  refine ⟨digits, ?_, fun c hc => .inl (Text.isSome_digitValue?_mono hb ?_)⟩
  · rw [← hn.1, ← hn.2.2, List.takeWhile_append_dropWhile]
  · rw [← hn.1] at hc
    exact List.all_eq_true.1 List.all_takeWhile c hc

theorem reads_of_readOctet? {s rest : Text} {octet : UInt8}
    (h : readOctet? s = some (octet, rest)) : Reads s rest := by
  rw [readOctet?] at h
  split at h
  · rename_i hdigits
    split at h
    · cases h
    · simp only [Option.some.injEq, Prod.mk.injEq] at h
      exact h.2 ▸ reads_of_readDigits? (by decide) hdigits
  · cases h

theorem reads_of_readOctets? {s rest : Text} {octets : UInt8 × UInt8 × UInt8 × UInt8}
    (h : readOctets? s = some (octets, rest)) : Reads s rest := by
  have hpoint : ['.'].all (decide <| IsChar ·) = true := by decide
  simp only [readOctets?, Option.bind_eq_bind, Option.bind_eq_some_iff] at h
  obtain ⟨⟨a, s₁⟩, ha, s₂, h₁, ⟨b, s₃⟩, hb, s₄, h₂, ⟨c, s₅⟩, hc, s₆, h₃, ⟨d, s₇⟩, hd, h⟩ := h
  obtain rfl : s₇ = rest := by
    simp only [Option.pure_def, Option.some.injEq, Prod.mk.injEq] at h
    exact h.2
  have first := (reads_of_readOctet? ha).trans (reads_of_after? hpoint h₁)
  have second := (reads_of_readOctet? hb).trans (reads_of_after? hpoint h₂)
  have third := (reads_of_readOctet? hc).trans (reads_of_after? hpoint h₃)
  exact ((first.trans second).trans third).trans (reads_of_readOctet? hd)

theorem reads_of_afterSeparator? {first : Bool} {s rest : Text}
    (h : afterSeparator? first s = some rest) : Reads s rest := by
  rw [afterSeparator?] at h
  split at h
  · obtain rfl := Option.some.inj h
    exact Reads.refl s
  · exact reads_of_after? (by decide) h

theorem reads_of_readGroup? {s rest : Text} {group : UInt16}
    (h : readGroup? s = some (group, rest)) : Reads s rest := by
  obtain ⟨⟨digits, value, rest'⟩, hdigits, hgroup⟩ := Option.map_eq_some_iff.1 h
  obtain rfl : rest' = rest := (Prod.mk.inj hgroup).2
  exact reads_of_readDigits? (Nat.le_refl _) hdigits

theorem reads_of_readGroups : ∀ {limit : Nat} {first : Bool} {s : Text},
    Reads s (readGroups limit first s).2.2
  | 0, _, s => Reads.refl s
  | limit + 1, first, s => by
    rw [readGroups]
    split
    · rename_i hquad
      rw [Option.ite_none_left_eq_some] at hquad
      obtain ⟨s', hs', hquad⟩ := Option.bind_eq_some_iff.1 hquad.2
      exact (reads_of_afterSeparator? hs').trans (reads_of_readOctets? hquad)
    · split
      · rename_i hgroup
        obtain ⟨s', hs', hgroup⟩ := Option.bind_eq_some_iff.1 hgroup
        exact ((reads_of_afterSeparator? hs').trans (reads_of_readGroup? hgroup)).trans
          reads_of_readGroups
      · exact Reads.refl s

theorem reads_of_readSix? {s rest : Text} {groups : List UInt16}
    (h : readSix? s = some (groups, rest)) : Reads s rest := by
  rw [readSix?] at h
  split at h
  rename_i head quad rest₁ hhead
  have hreads : Reads s (readGroups 8 true s).2.2 := reads_of_readGroups
  rw [hhead] at hreads
  split at h
  · obtain rfl := (Prod.mk.inj (Option.some.inj h)).2
    exact hreads
  · split at h
    · cases h
    · simp only [Option.bind_eq_bind, Option.bind_eq_some_iff] at h
      obtain ⟨s', hs', h⟩ := h
      obtain rfl := (Prod.mk.inj (Option.some.inj h)).2
      exact (hreads.trans (reads_of_after? (by decide) hs')).trans reads_of_readGroups

/-- **Whatever is read as an address is made of the characters of addresses.** -/
theorem isChar_of_read? {s : Text} {address : Address} (h : read? s = some address) :
    s ≠ [] ∧ ∀ c ∈ s, IsChar c := by
  have hreads : Reads s [] := by
    rw [read?] at h
    split at h
    · rename_i hquad
      rw [Option.ite_none_right_eq_some, List.isEmpty_iff] at h
      exact h.1 ▸ reads_of_readOctets? hquad
    · split at h
      · rename_i hsix
        rw [Option.ite_none_right_eq_some, List.isEmpty_iff] at h
        exact h.1 ▸ reads_of_readSix? hsix
      · cases h
  refine ⟨?_, ?_⟩
  · rintro rfl
    cases h
  · obtain ⟨read, rfl, hread⟩ := hreads
    simpa using hread

/-! ## IPv4 -/

theorem readOctet?_ofNat (octet : UInt8) {rest : Text} (hrest : NoDigit 10 rest) :
    readOctet? (Text.ofNat octet.toNat ++ rest) = some (octet, rest) := by
  have hlt : octet.toNat < 256 := octet.toNat_lt
  have hzero : (Nat.toDigits 10 octet.toNat).head? = some '0' →
      (Nat.toDigits 10 octet.toNat).length = 1 := by
    rcases Nat.eq_zero_or_pos octet.toNat with h | h
    · simp [h]
    · exact fun hhead => absurd hhead (Text.head?_toDigits_ne_zero (by decide) h)
  have hlen : (Nat.toDigits 10 octet.toNat).length ≤ 3 :=
    (Nat.length_toDigits_le_iff (by decide) (by decide)).2 (by omega)
  rw [readOctet?, Text.ofNat, readDigits?_toDigits (by decide) (by decide) hlen hrest]
  have hle : ¬ 255 < octet.toNat := by omega
  simpa [hle] using hzero

theorem readOctet?_noDigit {s : Text} (h : NoDigit 10 s) : readOctet? s = none := by
  rw [readOctet?, readDigits?_noDigit h]

theorem readOctets?_noDigit {s : Text} (h : NoDigit 10 s) : readOctets? s = none := by
  rw [readOctets?, readOctet?_noDigit h]
  rfl

theorem readOctets?_printOctets (a b c d : UInt8) {rest : Text} (hrest : NoDigit 10 rest) :
    readOctets? (printOctets a b c d ++ rest) = some ((a, b, c, d), rest) := by
  have hpoint : ∀ s : Text, NoDigit 10 ('.' :: s) := fun s => Text.stopsAt_cons s (by decide)
  have hform : printOctets a b c d ++ rest =
      Text.ofNat a.toNat ++ '.' :: (Text.ofNat b.toNat ++ '.' :: (Text.ofNat c.toNat ++
        '.' :: (Text.ofNat d.toNat ++ rest))) := by
    simp [printOctets, Text.joinWith]
  simp [hform, readOctets?, readOctet?_ofNat, hpoint, hrest, Text.after?]

/-- A text without points is no IPv4 address. -/
theorem readOctets?_of_no_point {s : Text} (h : '.' ∉ s) : readOctets? s = none := by
  cases hs : readOctet? s with
  | none => rw [readOctets?, hs]; rfl
  | some first =>
    obtain ⟨octet, rest⟩ := first
    have hafter : Text.after? ['.'] rest = none := by
      cases hrest : Text.after? ['.'] rest with
      | none => rfl
      | some rest' =>
        rw [Text.after?_eq_some] at hrest
        have hmem : '.' ∈ rest := by simp [hrest]
        exact absurd ((reads_of_readOctet? hs).suffix.subset hmem) h
    simp [readOctets?, hs, hafter]

/-! ## Groups of IPv6 -/

/-- Nothing more of a list of groups can be read: the text ends, or `::` stands for a run of
zeros. -/
def EndsGroups (s : Text) : Prop := s = [] ∨ ∃ rest, s = ':' :: ':' :: rest

theorem EndsGroups.noDigit {s : Text} (h : EndsGroups s) : NoDigit 16 s := by
  rcases h with rfl | ⟨rest, rfl⟩
  · exact Text.stopsAt_nil _
  · exact Text.stopsAt_cons _ (by decide)

/-- The written form of groups that are not the first ones. -/
def moreGroups (groups : List UInt16) : Text :=
  groups.flatMap fun group => ':' :: Nat.toDigits 16 group.toNat

theorem printGroups_cons (group : UInt16) (groups : List UInt16) :
    printGroups (group :: groups) = Nat.toDigits 16 group.toNat ++ moreGroups groups := by
  rw [printGroups, List.map_cons, Text.joinWith_cons, moreGroups, List.flatMap_map]
  rfl

theorem no_point_moreGroups (groups : List UInt16) : '.' ∉ moreGroups groups := by
  intro h
  rw [moreGroups, List.mem_flatMap] at h
  obtain ⟨group, -, h⟩ := h
  rw [List.mem_cons] at h
  rcases h with h | h
  · exact absurd h (by decide)
  · exact absurd (Text.isSome_digitValue?_of_mem (by decide) (by decide) h) (by decide)

theorem no_point_printGroups (groups : List UInt16) : '.' ∉ printGroups groups := by
  cases groups with
  | nil => simp [printGroups, Text.joinWith]
  | cons group groups =>
    rw [printGroups_cons, List.mem_append]
    rintro (h | h)
    · exact absurd (Text.isSome_digitValue?_of_mem (by decide) (by decide) h) (by decide)
    · exact no_point_moreGroups groups h

theorem noDigit_moreGroups (groups : List UInt16) {rest : Text} (hrest : EndsGroups rest) :
    NoDigit 16 (moreGroups groups ++ rest) := by
  cases groups with
  | nil => exact hrest.noDigit
  | cons group groups => exact Text.stopsAt_cons _ (by decide)

theorem readGroup?_toDigits (group : UInt16) {rest : Text} (hrest : NoDigit 16 rest) :
    readGroup? (Nat.toDigits 16 group.toNat ++ rest) = some (group, rest) := by
  have hlen : (Nat.toDigits 16 group.toNat).length ≤ 4 :=
    (Nat.length_toDigits_le_iff (by decide) (by decide)).2 group.toNat_lt
  rw [readGroup?, readDigits?_toDigits (by decide) (by decide) hlen hrest]
  simp

theorem readGroup?_noDigit {s : Text} (h : NoDigit 16 s) : readGroup? s = none := by
  rw [readGroup?, readDigits?_noDigit h]
  rfl

theorem readGroups_cons {limit : Nat} {first : Bool} {s rest : Text} {group : UInt16}
    (hquad : (afterSeparator? first s).bind readOctets? = none)
    (hgroup : (afterSeparator? first s).bind readGroup? = some (group, rest)) :
    readGroups (limit + 1) first s =
      (group :: (readGroups limit false rest).1, (readGroups limit false rest).2) := by
  simp [readGroups, hquad, hgroup]

theorem readGroups_nil {limit : Nat} {first : Bool} {s : Text}
    (hquad : (afterSeparator? first s).bind readOctets? = none)
    (hgroup : (afterSeparator? first s).bind readGroup? = none) :
    readGroups limit first s = ([], false, s) := by
  cases limit <;> simp [readGroups, hquad, hgroup]

theorem readGroups_moreGroups {rest : Text} (hrest : EndsGroups rest) (hpoint : '.' ∉ rest) :
    ∀ {groups : List UInt16} {limit : Nat}, groups.length ≤ limit →
      readGroups limit false (moreGroups groups ++ rest) = (groups, false, rest)
  | [], limit, _ => by
    show readGroups limit false rest = ([], false, rest)
    rcases hrest with rfl | ⟨rest, rfl⟩
    · exact readGroups_nil rfl rfl
    · have hafter : afterSeparator? false (':' :: ':' :: rest) = some (':' :: rest) := rfl
      refine readGroups_nil ?_ ?_
      · rw [hafter]
        exact readOctets?_noDigit (Text.stopsAt_cons _ (by decide))
      · rw [hafter]
        exact readGroup?_noDigit (Text.stopsAt_cons _ (by decide))
  | group :: groups, 0, hle => by simp at hle
  | group :: groups, limit + 1, hle => by
    have hafter : afterSeparator? false (moreGroups (group :: groups) ++ rest) =
        some (Nat.toDigits 16 group.toNat ++ (moreGroups groups ++ rest)) := by
      simp [afterSeparator?, moreGroups, Text.after?]
    have hquad : (afterSeparator? false (moreGroups (group :: groups) ++ rest)).bind readOctets? =
        none := by
      rw [hafter]
      refine readOctets?_of_no_point ?_
      have := no_point_printGroups (group :: groups)
      rw [printGroups_cons] at this
      simpa [hpoint] using this
    have hgroup : (afterSeparator? false (moreGroups (group :: groups) ++ rest)).bind readGroup? =
        some (group, moreGroups groups ++ rest) := by
      rw [hafter]
      exact readGroup?_toDigits group (noDigit_moreGroups groups hrest)
    rw [readGroups_cons hquad hgroup, readGroups_moreGroups hrest hpoint (by simpa using hle)]

/-- **Groups read back**, as many as the limit allows, up to the end or to `::`. -/
theorem readGroups_printGroups {groups : List UInt16} {limit : Nat} {rest : Text}
    (hle : groups.length ≤ limit) (hrest : EndsGroups rest) (hpoint : '.' ∉ rest) :
    readGroups limit true (printGroups groups ++ rest) = (groups, false, rest) := by
  have hnone : '.' ∉ printGroups groups ++ rest := by
    simp [no_point_printGroups, hpoint]
  cases groups with
  | nil =>
    refine readGroups_nil (readOctets?_of_no_point hnone) (readGroup?_noDigit ?_)
    exact hrest.noDigit
  | cons group groups =>
    cases limit with
    | zero => simp at hle
    | succ limit =>
      have hquad : (afterSeparator? true (printGroups (group :: groups) ++ rest)).bind
          readOctets? = none := readOctets?_of_no_point hnone
      have hgroup : (afterSeparator? true (printGroups (group :: groups) ++ rest)).bind
          readGroup? = some (group, moreGroups groups ++ rest) := by
        rw [printGroups_cons, List.append_assoc]
        exact readGroup?_toDigits group (noDigit_moreGroups groups hrest)
      rw [readGroups_cons hquad hgroup, readGroups_moreGroups hrest hpoint (by simpa using hle)]

/-! ## IPv6 -/

theorem readSix?_printGroups {groups : List UInt16} (h : groups.length = 8) :
    readSix? (printGroups groups) = some (groups, []) := by
  have hread := readGroups_printGroups (Nat.le_of_eq h) (.inl rfl) (by simp)
  rw [List.append_nil] at hread
  rw [readSix?, hread]
  simp [h]

/-- The reader puts as many zeros for `::` as eight groups need. -/
theorem readSix?_gap {s more rest : Text} {head tail : List UInt16} {quad : Bool}
    (hhead : readGroups 8 true s = (head, false, ':' :: ':' :: more)) (hne : head.length ≠ 8)
    (htail : readGroups (7 - head.length) true more = (tail, quad, rest)) :
    readSix? s =
      some (head ++ List.replicate (8 - head.length - tail.length) 0 ++ tail, rest) := by
  have hafter : Text.after? [':', ':'] (':' :: ':' :: more) = some more := rfl
  simp [readSix?, hhead, hne, hafter, htail]

theorem readSix?_shortened {head tail : List UInt16} (h : head.length + tail.length ≤ 7) :
    readSix? (printGroups head ++ ':' :: ':' :: printGroups tail) =
      some (head ++ List.replicate (8 - head.length - tail.length) 0 ++ tail, []) := by
  have hle : tail.length ≤ 7 - head.length := by omega
  have htail := readGroups_printGroups hle (.inl rfl) List.not_mem_nil
  rw [List.append_nil] at htail
  refine readSix?_gap (readGroups_printGroups (by omega) (.inr ⟨_, rfl⟩) ?_) (by omega) htail
  simp [no_point_printGroups]

theorem longestZeros_cons (group : UInt16) (rest : List UInt16) :
    longestZeros (group :: rest) =
      if (longestZeros rest).2 ≤ leadingZeros (group :: rest) then
        (0, leadingZeros (group :: rest))
      else ((longestZeros rest).1 + 1, (longestZeros rest).2) := rfl

theorem printShortened_eq (groups : List UInt16) :
    printShortened groups =
      if (longestZeros groups).2 ≤ 1 then printGroups groups
      else printGroups (groups.take (longestZeros groups).1) ++ ':' :: ':' ::
        printGroups (groups.drop ((longestZeros groups).1 + (longestZeros groups).2)) := by
  simp only [printShortened, List.append_assoc]
  rfl

/-- The run of zeros that the writer shortens is one, and lies within the groups. -/
theorem longestZeros_spec (groups : List UInt16) :
    (longestZeros groups).1 + (longestZeros groups).2 ≤ groups.length ∧
      (groups.drop (longestZeros groups).1).take (longestZeros groups).2 =
        List.replicate (longestZeros groups).2 0 := by
  induction groups with
  | nil => simp [longestZeros]
  | cons group rest ih =>
    rw [longestZeros_cons]
    split
    · have hle := (List.takeWhile_prefix (· == 0) (l := group :: rest)).length_le
      have htake := List.prefix_iff_eq_take.1 (List.takeWhile_prefix (· == 0) (l := group :: rest))
      refine ⟨by simpa [leadingZeros] using hle, ?_⟩
      rw [List.drop_zero, leadingZeros, ← htake, List.eq_replicate_iff]
      exact ⟨rfl, fun g hg => by simpa using List.all_eq_true.1 List.all_takeWhile g hg⟩
    · refine ⟨by simp only [List.length_cons]; omega, ?_⟩
      rw [List.drop_succ_cons]
      exact ih.2

theorem readSix?_printShortened {groups : List UInt16} (h : groups.length = 8) :
    readSix? (printShortened groups) = some (groups, []) := by
  obtain ⟨hle, hzeros⟩ := longestZeros_spec groups
  rw [printShortened_eq]
  split
  · exact readSix?_printGroups h
  · rename_i hlong
    have hhead : (groups.take (longestZeros groups).1).length = (longestZeros groups).1 := by
      rw [List.length_take]
      omega
    have hrun : 8 - (groups.take (longestZeros groups).1).length -
        (groups.drop ((longestZeros groups).1 + (longestZeros groups).2)).length =
          (longestZeros groups).2 := by
      rw [hhead, List.length_drop]
      omega
    rw [readSix?_shortened (by rw [hhead, List.length_drop]; omega), hrun, ← hzeros,
      ← List.drop_drop, List.append_assoc, List.take_append_drop, List.take_append_drop]

theorem no_point_printShortened (groups : List UInt16) : '.' ∉ printShortened groups := by
  rw [printShortened_eq]
  split
  · exact no_point_printGroups groups
  · simp [no_point_printGroups]

/-- What maps an IPv4 address is ten zeros, two bytes of ones and the four octets. -/
theorem mapped?_eq_some {groups : List UInt16} {a b c d : UInt8}
    (h : mapped? groups = some (a, b, c, d)) :
    groups = [0, 0, 0, 0, 0, 0xFFFF, (a.toNat * 256 + b.toNat).toUInt16,
      (c.toNat * 256 + d.toNat).toUInt16] := by
  have join : ∀ n : UInt16, ((n.toNat / 256).toUInt8.toNat * 256 +
      (n.toNat % 256).toUInt8.toNat).toUInt16 = n := fun n => by
    have hlt : n.toNat < 65536 := n.toNat_lt
    apply UInt16.toNat_inj.mp
    simp only [Nat.toUInt16_eq, Nat.toUInt8_eq, UInt8.toNat_ofNat', UInt16.toNat_ofNat']
    omega
  rw [mapped?.eq_def] at h
  split at h
  · simp only [Option.some.injEq, Prod.mk.injEq] at h
    obtain ⟨rfl, rfl, rfl, rfl⟩ := h
    rw [join, join]
  · cases h

theorem readSix?_mapped (a b c d : UInt8) :
    readSix? ("::ffff:".toList ++ printOctets a b c d) =
      some ([0, 0, 0, 0, 0, 0xFFFF, (a.toNat * 256 + b.toNat).toUInt16,
        (c.toNat * 256 + d.toNat).toUInt16], []) := by
  have hoctets : readOctets? (printOctets a b c d) = some ((a, b, c, d), []) := by
    simpa using readOctets?_printOctets a b c d (Text.stopsAt_nil _)
  have hquad : readGroups 6 false (':' :: printOctets a b c d) =
      ([(a.toNat * 256 + b.toNat).toUInt16, (c.toNat * 256 + d.toNat).toUInt16], true, []) := by
    simp [readGroups, afterSeparator?, Text.after?, hoctets]
  have hffff : readGroups 7 true ("ffff:".toList ++ printOctets a b c d) =
      (0xFFFF :: (readGroups 6 false (':' :: printOctets a b c d)).1,
        (readGroups 6 false (':' :: printOctets a b c d)).2) := by
    refine readGroups_cons (readOctets?_noDigit (Text.stopsAt_cons _ (by decide))) ?_
    exact readGroup?_toDigits 0xFFFF (Text.stopsAt_cons _ (by decide))
  rw [hquad] at hffff
  have hnone : readGroups 8 true ("::ffff:".toList ++ printOctets a b c d) =
      ([], false, ':' :: ':' :: ("ffff:".toList ++ printOctets a b c d)) :=
    readGroups_nil (readOctets?_noDigit (Text.stopsAt_cons _ (by decide)))
      (readGroup?_noDigit (Text.stopsAt_cons _ (by decide)))
  exact readSix?_gap hnone (by decide) hffff

/-- **An address is read back from its written form.** -/
theorem read?_print (address : Address) : read? address.print = some address := by
  cases address with
  | v4 a b c d =>
    have hoctets := readOctets?_printOctets a b c d (Text.stopsAt_nil _)
    rw [List.append_nil] at hoctets
    simp [read?, print, hoctets]
  | v6 groups =>
    have hgroups : ofGroups? groups.toList = some (.v6 groups) := by
      simp [ofGroups?, groups.length_eq]
    cases hmapped : mapped? groups.toList with
    | some octets =>
      obtain ⟨a, b, c, d⟩ := octets
      have hprint : (v6 groups).print = "::ffff:".toList ++ printOctets a b c d := by
        rw [print, hmapped]
      have hnone : readOctets? ("::ffff:".toList ++ printOctets a b c d) = none :=
        readOctets?_noDigit (Text.stopsAt_cons _ (by decide))
      rw [hprint, read?, hnone, readSix?_mapped, ← mapped?_eq_some hmapped]
      exact hgroups
    | none =>
      have hprint : (v6 groups).print = printShortened groups.toList := by rw [print, hmapped]
      rw [hprint, read?, readOctets?_of_no_point (no_point_printShortened _),
        readSix?_printShortened groups.length_eq]
      exact hgroups

theorem isChar_of_mem_print {address : Address} {c : Char} (h : c ∈ address.print) : IsChar c :=
  (isChar_of_read? (read?_print address)).2 c h

theorem print_ne_nil (address : Address) : address.print ≠ [] := by
  intro hnil
  have hread := read?_print address
  rw [hnil] at hread
  cases hread

end RouteWatch.Address
