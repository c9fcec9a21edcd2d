/-
The lines of a display are read as what they were printed from: a header line
as its route's prefix, a next-hop line as its identifier and attributes. The
two never pass for one another, as a header line begins with an address and
next-hop lines are indented.
-/
import RouteWatch.Dump.Display.Printer
import RouteWatch.Proofs.Dump.Display.NextHop
import RouteWatch.Proofs.Net.Prefix
import RouteWatch.Proofs.Text.Lines

namespace RouteWatch

/-- The next-hop as a display shows it: an absent distance or metric is zero. -/
def NextHop.zeroFilled (hop : NextHop) : NextHop :=
  ⟨some (hop.distance.getD ['0']), some (hop.metric.getD ['0']), hop.protocol⟩

theorem NextHop.zeroFilled_eq {hop : NextHop} (hdistance : hop.distance ≠ none)
    (hmetric : hop.metric ≠ none) : hop.zeroFilled = hop := by
  obtain ⟨distance, hdistance⟩ := Option.ne_none_iff_exists'.1 hdistance
  obtain ⟨metric, hmetric⟩ := Option.ne_none_iff_exists'.1 hmetric
  rw [zeroFilled, hdistance, hmetric, Option.getD_some, Option.getD_some, ← hdistance, ← hmetric]

namespace Display

/-- A text of ASCII digits, or none at all. -/
def IsNumber (number : Option Text) : Prop :=
  ∀ s, number = some s → s ≠ [] ∧ ∀ c ∈ s, c.isDigit = true

/-- What makes a next-hop line readable: an identifier that is one word without commas, numbers
for distance and metric, and a protocol that names itself in one field of the line. -/
structure PrintableHop (id : Text) (hop : NextHop) : Prop where
  id_ne_nil : id ≠ []
  id_char : ∀ c ∈ id, c ≠ ',' ∧ Text.isBlank c = false
  distance : IsNumber hop.distance
  metric : IsNumber hop.metric
  protocol : ∃ s, hop.protocol = Protocol.read s
  no_comma : ',' ∉ hop.protocol.print
  no_feed : '\n' ∉ hop.protocol.print

/-- A text of digits of any script, or none at all. -/
def IsNumeral (number : Option Text) : Prop :=
  ∀ s, number = some s → s ≠ [] ∧ ∀ c ∈ s, Text.isDecimalDigit c = true

/-- What a next-hop line can show and be read back from: as for `PrintableHop`, but with digits of
any script, as lines that were captured may have them. -/
structure LegibleHop (id : Text) (hop : NextHop) : Prop where
  id_ne_nil : id ≠ []
  id_char : ∀ c ∈ id, c ≠ ',' ∧ Text.isBlank c = false
  distance : IsNumeral hop.distance
  metric : IsNumeral hop.metric
  protocol : hop.protocol.Canonical
  no_comma : ',' ∉ hop.protocol.print
  no_feed : '\n' ∉ hop.protocol.print

theorem IsNumber.isNumeral {number : Option Text} (h : IsNumber number) : IsNumeral number :=
  fun s hs => ⟨(h s hs).1, fun c hc => Text.isDecimalDigit_of_isDigit ((h s hs).2 c hc)⟩

theorem PrintableHop.legible {id : Text} {hop : NextHop} (h : PrintableHop id hop) :
    LegibleHop id hop where
  id_ne_nil := h.id_ne_nil
  id_char := h.id_char
  distance := h.distance.isNumeral
  metric := h.metric.isNumeral
  protocol := by
    obtain ⟨s, hs⟩ := h.protocol
    exact hs ▸ Protocol.canonical_read s
  no_comma := h.no_comma
  no_feed := h.no_feed

/-! ## Header lines -/

theorem isAddressChar_iff {c : Char} : isAddressChar c = true ↔ Address.IsChar c := by
  simp [isAddressChar, Address.IsChar, or_assoc]

/-- What is cut off as a prefix before `rest`: the characters of an address, and perhaps a slash and
one to three digits. -/
inductive CutBefore (rest : Text) : Text → Prop
  | bare {address : Text} (hne : address ≠ []) (haddress : ∀ c ∈ address, isAddressChar c = true)
      (hrest : Text.StopsAt isAddressChar rest) (hslash : rest.head? ≠ some '/') :
      CutBefore rest address
  | slash {address digits : Text} (hne : address ≠ [])
      (haddress : ∀ c ∈ address, isAddressChar c = true)
      (hdigits : ∀ c ∈ digits, Text.isDecimalDigit c = true)
      (hlength : 1 ≤ digits.length ∧ digits.length ≤ 3)
      (hrest : Text.StopsAt Text.isDecimalDigit rest) :
      CutBefore rest (address ++ '/' :: digits)

theorem CutBefore.spanPrefix?_eq {target rest : Text} (h : CutBefore rest target) :
    spanPrefix? (target ++ rest) = some (target, rest) := by
  cases h with
  | bare hne haddress hrest hslash =>
    rw [spanPrefix?, Text.span_append haddress hrest]
    simp only [List.isEmpty_iff, if_neg hne]
    split
    · exact absurd rfl hslash
    · rfl
  | @slash address digits hne haddress hdigits hlength hrest =>
    have hcut : Text.span isAddressChar (address ++ '/' :: (digits ++ rest)) =
        (address, '/' :: (digits ++ rest)) :=
      Text.span_append haddress (Text.stopsAt_cons _ (by decide))
    rw [List.append_assoc, List.cons_append, spanPrefix?, hcut]
    simp [hne, Text.span_append hdigits hrest, hlength.1, hlength.2]

theorem spanPrefix?_eq_some {s target rest : Text} :
    spanPrefix? s = some (target, rest) ↔ s = target ++ rest ∧ CutBefore rest target := by
  constructor
  · intro h
    obtain ⟨hs, haddress, hstop⟩ := Text.span_spec isAddressChar s
    rw [spanPrefix?] at h
    simp only [List.isEmpty_iff, Option.ite_none_left_eq_some] at h
    obtain ⟨hne, h⟩ := h
    split at h
    · rename_i behind hbehind
      obtain ⟨hdigits, hdigit, hend⟩ := Text.span_spec Text.isDecimalDigit behind
      simp only [Option.ite_none_right_eq_some, Bool.and_eq_true, decide_eq_true_eq,
        Option.some.injEq, Prod.mk.injEq] at h
      obtain ⟨hlength, rfl, rfl⟩ := h
      refine ⟨?_, .slash hne haddress hdigit hlength hend⟩
      rw [List.append_assoc, List.cons_append, ← hdigits, ← hbehind, ← hs]
    · rename_i hslash
      obtain ⟨rfl, rfl⟩ := Prod.mk.inj (Option.some.inj h)
      refine ⟨hs, .bare hne haddress hstop fun hhead => ?_⟩
      obtain ⟨behind, hbehind⟩ := List.head?_eq_some_iff.1 hhead
      exact hslash behind hbehind
  · rintro ⟨rfl, hcut⟩
    exact hcut.spanPrefix?_eq

/-- A prefix is cut off where no digit follows its length. -/
theorem spanPrefix?_cidr {p : Prefix} (h : p.Fits) {rest : Text}
    (hrest : Text.StopsAt Text.isDecimalDigit rest) :
    spanPrefix? (p.cidr ++ rest) = some (p.cidr, rest) := by
  have hmost : (Text.ofNat p.length).length ≤ 3 := by
    have := h.length_le
    exact (Nat.length_toDigits_le_iff (by decide) (by decide)).2 (by omega)
  have hcut : CutBefore rest p.cidr := .slash (Address.print_ne_nil _)
    (fun c hc => isAddressChar_iff.2 (Address.isChar_of_mem_print hc))
    (fun c hc => Text.isDecimalDigit_of_isDigit (Text.isDigit_of_mem_ofNat hc))
    ⟨Nat.length_toDigits_pos, hmost⟩ hrest
  exact hcut.spanPrefix?_eq

theorem spanPrefix?_stopsAt {s : Text} (h : Text.StopsAt isAddressChar s) :
    spanPrefix? s = none := by simp [spanPrefix?, Text.span_stopsAt h]

theorem countClause?_ofNat (n : Nat) :
    countClause? (' ' :: (Text.ofNat n ++ " unicast next-hops".toList)) =
      some (Text.ofNat n) := by
  have hblank : Text.afterBlanks? (' ' :: (Text.ofNat n ++ " unicast next-hops".toList)) =
      some (Text.ofNat n ++ " unicast next-hops".toList) :=
    (Text.isWord_ofNat n).afterBlanks?_append _
  have hdigits : spanDigits? (Text.ofNat n ++ " unicast next-hops".toList) =
      some (Text.ofNat n, " unicast next-hops".toList) :=
    spanDigits?_eq_some.2 ⟨rfl, ⟨Text.ofNat_ne_nil n,
      fun c hc => Text.isDecimalDigit_of_isDigit (Text.isDigit_of_mem_ofNat hc)⟩,
      Text.stopsAt_cons _ (by decide)⟩
  rw [countClause?, hblank, Option.bind_eq_bind, Option.bind_some, hdigits]
  rfl

/-- What the header line of a route says. -/
def headerOf (kind : Kind) (route : Route) : Header :=
  ⟨route.target, match kind with
    | .rib => Text.toCount? Text.wordMax (Text.ofNat route.count)
    | .fib => none⟩

/-- A line that announces a number of next-hops to a prefix is read as both. -/
theorem ribHeader?_counted {p : Prefix} (h : p.Fits) (n : Nat) :
    ribHeader? (p.cidr ++ ", ".toList ++ Text.ofNat n ++ " unicast next-hops".toList) =
      some ⟨p, Text.toCount? Text.wordMax (Text.ofNat n)⟩ := by
  have hline : p.cidr ++ ", ".toList ++ Text.ofNat n ++ " unicast next-hops".toList =
      p.cidr ++ ',' :: ' ' :: (Text.ofNat n ++ " unicast next-hops".toList) := by simp
  have hcount := countClause?_ofNat n
  generalize " unicast next-hops".toList = clause at hline hcount
  rw [ribHeader?, hline, spanPrefix?_cidr h (Text.stopsAt_cons _ (by decide))]
  simp [Text.after?, hcount, Prefix.read?_cidr h]

theorem ribHeader?_headerLine {route : Route} (h : route.target.Fits) :
    ribHeader? (headerLine .rib route) = some (headerOf .rib route) :=
  ribHeader?_counted h route.count

theorem fibHeader?_headerLine {route : Route} (h : route.target.Fits) :
    fibHeader? (headerLine .fib route) = some (headerOf .fib route) := by
  have hspan : spanPrefix? route.target.cidr = some (route.target.cidr, []) := by
    simpa using spanPrefix?_cidr h (Text.stopsAt_nil _)
  have htail : isFibTail [] = true := rfl
  have htrim : Text.trimEnd route.target.cidr = route.target.cidr :=
    Text.trimEnd_stopsAt (Prefix.isWord_cidr _).trimmed.last
  simp [fibHeader?, headerLine, htrim, hspan, htail, Prefix.read?_cidr h, headerOf]

/-- **A header line is read as its route's prefix.** -/
theorem header?_headerLine (kind : Kind) {route : Route} (h : route.target.Fits) :
    (grammar kind).header? (headerLine kind route) = some (headerOf kind route) := by
  cases kind with
  | rib => exact ribHeader?_headerLine h
  | fib => exact fibHeader?_headerLine h

/-- A line that begins with no character of an address is no header line. -/
theorem header?_stopsAt (kind : Kind) {line : Text} (h : Text.StopsAt isAddressChar line) :
    (grammar kind).header? line = none := by
  cases kind with
  | rib =>
    show ribHeader? line = none
    simp [ribHeader?, spanPrefix?_stopsAt h]
  | fib =>
    have htrim : Text.StopsAt isAddressChar (Text.trimEnd line) := fun c hc =>
      h c (Text.head?_of_head?_trimEnd hc)
    show fibHeader? line = none
    simp [fibHeader?, spanPrefix?_stopsAt htrim]

/-! ## Next-hop lines -/

theorem isNumber_some {s : Text} (hne : s ≠ []) (h : s.all Char.isDigit = true) :
    IsNumber (some s) := by
  rintro t ⟨⟩
  exact ⟨hne, List.all_eq_true.1 h⟩

theorem isNumber_none : IsNumber none := nofun

theorem IsNumeral.getD {number : Option Text} (h : IsNumeral number) :
    number.getD ['0'] ≠ [] ∧ ∀ c ∈ number.getD ['0'], Text.isDecimalDigit c = true := by
  cases number with
  | none => exact (isNumber_some (s := ['0']) (by decide) (by decide)).isNumeral ['0'] rfl
  | some s => exact h s rfl

theorem IsNumeral.not_mem {number : Option Text} (h : IsNumeral number) {c : Char}
    (hc : Text.isDecimalDigit c = false) : c ∉ number.getD ['0'] := by
  intro hmem
  rw [h.getD.2 c hmem] at hc
  cases hc

/-- The text of a next-hop line behind its indentation and marker. -/
def hopText (id distance metric rest : Text) : Text :=
  "via ".toList ++ (id ++ ", [".toList ++ (distance ++ '/' :: (metric ++ ']' :: rest)))

/-- What stands behind the brackets of a next-hop line. -/
def hopTail (even : Bool) (hop : NextHop) : Text :=
  (if even then ", ".toList else ", 00:01:10, ".toList) ++ hop.protocol.print

theorem nextHopLine_eq (even : Bool) (id : Text) (hop : NextHop) :
    nextHopLine even id hop = (if even then "  * ".toList else "    ".toList) ++
      hopText id (hop.distance.getD ['0']) (hop.metric.getD ['0']) (hopTail even hop) := by
  cases even <;> simp [nextHopLine, hopText, hopTail]

theorem read_lastField_hopTail {even : Bool} {id : Text} {hop : NextHop}
    (h : LegibleHop id hop) : Protocol.read (lastField (hopTail even hop)) = hop.protocol := by
  have hcomma : ',' ∉ ' ' :: hop.protocol.print := by simp [h.no_comma]
  have htail : IsLastField (hopTail even hop) ([' '] ++ hop.protocol.print) := by
    cases even with
    | true => exact @IsLastField.behind [] _ hcomma
    | false => exact @IsLastField.behind ", 00:01:10".toList _ hcomma
  rw [htail.lastField_eq, Protocol.read_append (List.forall_mem_singleton.2 (by decide))]
  exact h.protocol

/-- A next-hop line is one of the grammar. -/
theorem writtenIn_nextHopLine (even : Bool) {id : Text} {hop : NextHop} (h : LegibleHop id hop) :
    HopFields.WrittenIn ⟨id, hop.distance.getD ['0'], hop.metric.getD ['0'], hopTail even hop⟩
      (nextHopLine even id hop) := by
  have hfeed : '\n' ∉ hopTail even hop := by
    rw [hopTail, List.mem_append, not_or]
    exact ⟨by cases even <;> decide, h.no_feed⟩
  have hblank : ∀ c ∈ [' '], Text.isBlank c = true := List.forall_mem_singleton.2 (by decide)
  have hwritten : ∀ indent marker gap : Text, (∀ c ∈ indent, Text.isBlank c = true) →
      (marker = [] ∨ marker = ['*']) → (∀ c ∈ gap, Text.isBlank c = true) →
      HopFields.WrittenIn ⟨id, hop.distance.getD ['0'], hop.metric.getD ['0'], hopTail even hop⟩
        (indent ++ marker ++ gap ++
          hopText id (hop.distance.getD ['0']) (hop.metric.getD ['0']) (hopTail even hop)) := by
    intro indent marker gap hindent hmarker hgap
    have hline := @HopFields.WrittenIn.intro
      ⟨id, hop.distance.getD ['0'], hop.metric.getD ['0'], hopTail even hop⟩ indent marker gap [' ']
      [' '] hindent hmarker hgap ⟨List.cons_ne_nil _ _, hblank⟩ ⟨h.id_ne_nil, h.id_char⟩ hblank
      h.distance.getD h.metric.getD hfeed
    simpa [hopText] using hline
  rw [nextHopLine_eq]
  cases even with
  | true =>
    exact hwritten "  ".toList ['*'] [' '] (List.all_eq_true.1 (by decide)) (.inr rfl) hblank
  | false =>
    exact hwritten "    ".toList [] [] (List.all_eq_true.1 (by decide)) (.inl rfl)
      (List.forall_mem_nil _)

/-- **A next-hop line is read as its identifier and attributes**, at even and odd places alike. -/
theorem nextHop?_nextHopLine (even : Bool) {id : Text} {hop : NextHop} (h : LegibleHop id hop) :
    nextHop? (nextHopLine even id hop) = some (id, hop.zeroFilled) := by
  refine nextHop?_eq_some.2 ⟨_, writtenIn_nextHopLine even h, rfl, ?_⟩
  rw [read_lastField_hopTail h]
  rfl

theorem stopsAt_nextHopLine (even : Bool) (id : Text) (hop : NextHop) :
    Text.StopsAt isAddressChar (nextHopLine even id hop) := by
  rw [nextHopLine_eq]
  cases even <;> exact Text.stopsAt_cons _ (by decide)

/-! ## Captured lines -/

theorem mem_lastField {s : Text} {c : Char} (h : c ∈ lastField s) : c ≠ ',' ∧ c ∈ s := by
  have hlast : IsLastField s (lastField s) := lastField_eq_iff.1 rfl
  generalize lastField s = field at h hlast
  cases hlast with
  | whole hcomma => exact ⟨fun hc => hcomma (hc ▸ h), h⟩
  | behind hcomma => exact ⟨fun hc => hcomma (hc ▸ h), by simp [h]⟩

theorem not_isAddressChar_of_isBlank {c : Char} (h : Text.isBlank c = true) :
    isAddressChar c = false := by
  rw [← Bool.not_eq_true, isAddressChar_iff]
  intro hc
  rw [hc.not_blank] at h
  cases h

theorem stopsAt_blanks_append {blanks s : Text} (hblanks : ∀ c ∈ blanks, Text.isBlank c = true)
    (h : Text.StopsAt isAddressChar s) : Text.StopsAt isAddressChar (blanks ++ s) := by
  cases blanks with
  | nil => exact h
  | cons c blanks =>
    exact Text.stopsAt_cons _ (not_isAddressChar_of_isBlank (hblanks c List.mem_cons_self))

/-- A line of the grammar of next-hops begins with a blank, the marker or its keyword, so it is no
header line. -/
theorem HopFields.WrittenIn.header?_eq {fields : HopFields} {line : Text}
    (h : fields.WrittenIn line) (kind : Kind) : (grammar kind).header? line = none := by
  refine header?_stopsAt kind ?_
  cases h with
  | intro hindent hmarker hgap =>
    have hvia : ∀ s, Text.StopsAt isAddressChar ("via".toList ++ s) := fun s =>
      Text.stopsAt_cons _ (by decide)
    simp only [List.append_assoc]
    refine stopsAt_blanks_append hindent ?_
    rcases hmarker with rfl | rfl
    · rw [List.nil_append]
      exact stopsAt_blanks_append hgap (hvia _)
    · exact Text.stopsAt_cons _ (by decide)

/-- **Whatever line is read as a next-hop, a display can show the next-hop as it was read**: both
numbers are there, and no part has a character that ends it. -/
theorem legibleHop_of_nextHop? {line id : Text} {hop : NextHop}
    (h : nextHop? line = some (id, hop)) : LegibleHop id hop ∧ hop.zeroFilled = hop := by
  obtain ⟨fields, ⟨-, -, -, -, hid, -, hdistance, hmetric, hfeed⟩, rfl, rfl⟩ := nextHop?_eq_some.1 h
  refine ⟨⟨hid.1, hid.2, ?_, ?_, Protocol.canonical_read _, ?_, ?_⟩, rfl⟩
  · rintro _ ⟨⟩
    exact hdistance
  · rintro _ ⟨⟩
    exact hmetric
  · exact Protocol.not_mem_print_read (by decide) fun hc => (mem_lastField hc).1 rfl
  · exact Protocol.not_mem_print_read (by decide) fun hc => hfeed (mem_lastField hc).2

/-- Whatever line is read as a header, its prefix fits. -/
theorem fits_of_header? {kind : Kind} {line : Text} {header : Header}
    (h : (grammar kind).header? line = some header) : header.target.Fits := by
  cases kind with
  | rib =>
    change ribHeader? line = some header at h
    simp only [ribHeader?, Option.bind_eq_bind, Option.bind_eq_some_iff, Prod.exists] at h
    obtain ⟨_, _, -, _, -, _, -, target, hread, h⟩ := h
    obtain rfl := Option.some.inj h
    exact Prefix.fits_of_read? hread
  | fib =>
    change fibHeader? line = some header at h
    simp only [fibHeader?, Option.bind_eq_bind, Option.bind_eq_some_iff, Prod.exists,
      Option.ite_none_right_eq_some] at h
    obtain ⟨_, _, -, -, target, hread, h⟩ := h
    obtain rfl := Option.some.inj h
    exact Prefix.fits_of_read? hread

/-! ## Both are lines -/

theorem isLine_headerLine (kind : Kind) (route : Route) :
    Text.IsLine (headerLine kind route) := by
  cases kind with
  | rib =>
    have hcount : '\n' ∉ Text.ofNat route.count := (Text.isWord_ofNat _).not_mem (by decide)
    have hcidr : '\n' ∉ route.target.cidr := (Prefix.isWord_cidr _).not_mem (by decide)
    have hfront : '\n' ∉ route.target.cidr ++ ", ".toList ++ Text.ofNat route.count := by
      simp [hcidr, hcount]
    exact .append hfront (by decide) (by decide)
  | fib => exact (Prefix.isWord_cidr _).isLine

theorem headerLine_ne_nil (kind : Kind) (route : Route) : headerLine kind route ≠ [] := by
  cases kind <;> simp [headerLine, Prefix.cidr]

theorem isLine_nextHopLine (even : Bool) {id : Text} {hop : NextHop} (h : LegibleHop id hop) :
    Text.IsLine (nextHopLine even id hop) := by
  have hid : '\n' ∉ id := fun hm => absurd (h.id_char _ hm).2 (by decide)
  have hdistance : '\n' ∉ hop.distance.getD ['0'] := h.distance.not_mem (by decide)
  have hmetric : '\n' ∉ hop.metric.getD ['0'] := h.metric.not_mem (by decide)
  refine .append ?_ (h.protocol.trimmed_print.isLine h.no_feed) h.protocol.print_ne_nil
  cases even <;> simp [hid, hdistance, hmetric]

theorem nextHopLine_ne_nil (even : Bool) (id : Text) (hop : NextHop) :
    nextHopLine even id hop ≠ [] := by
  cases even <;> simp [nextHopLine]

end Display
end RouteWatch
