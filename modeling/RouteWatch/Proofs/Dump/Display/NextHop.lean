/-
The next-hop lines of a display are those of a grammar, and a line has its
fields in one way only. Every part ends at a character that it cannot hold, so
a reader that takes the longest run of each never has to go back. What the
grammar leaves open is where the indentation ends when no marker follows, and
that is no field.
-/
import RouteWatch.Dump.Display
import RouteWatch.Proofs.Route.Protocol

namespace RouteWatch.Display

/-! ## The grammar -/

/-- The line has these fields: it is perhaps indented and perhaps marked, names the identifier
behind its keyword, and has two numbers in brackets before its tail. -/
inductive HopFields.WrittenIn (fields : HopFields) : Text → Prop
  | intro {indent marker gap space margin : Text}
      (hindent : ∀ c ∈ indent, Text.isBlank c = true)
      (hmarker : marker = [] ∨ marker = ['*'])
      (hgap : ∀ c ∈ gap, Text.isBlank c = true)
      (hspace : space ≠ [] ∧ ∀ c ∈ space, Text.isBlank c = true)
      (hid : fields.id ≠ [] ∧ ∀ c ∈ fields.id, c ≠ ',' ∧ Text.isBlank c = false)
      (hmargin : ∀ c ∈ margin, Text.isBlank c = true)
      (hdistance : fields.distance ≠ [] ∧ ∀ c ∈ fields.distance, Text.isDecimalDigit c = true)
      (hmetric : fields.metric ≠ [] ∧ ∀ c ∈ fields.metric, Text.isDecimalDigit c = true)
      (htail : '\n' ∉ fields.tail) :
      fields.WrittenIn (indent ++ marker ++ gap ++ "via".toList ++ space ++ fields.id ++
        ',' :: margin ++ '[' :: fields.distance ++ '/' :: fields.metric ++ ']' :: fields.tail)

/-- The field is what stands behind the last comma, or everything when there is none. -/
inductive IsLastField : Text → Text → Prop
  | whole {s : Text} (h : ',' ∉ s) : IsLastField s s
  | behind {before field : Text} (h : ',' ∉ field) : IsLastField (before ++ ',' :: field) field

/-! ## The parts of a line -/

theorem id_char_of_all {id : Text} (h : id.all isIdChar = true) :
    ∀ c ∈ id, c ≠ ',' ∧ Text.isBlank c = false := by
  intro c hc
  simpa [isIdChar] using List.all_eq_true.1 h c hc

theorem spanDigits?_eq_some {s digits rest : Text} :
    spanDigits? s = some (digits, rest) ↔
      s = digits ++ rest ∧ (digits ≠ [] ∧ ∀ c ∈ digits, Text.isDecimalDigit c = true) ∧
        Text.StopsAt Text.isDecimalDigit rest := by
  constructor
  · intro h
    obtain ⟨hs, hdigits, hrest⟩ := Text.span_spec Text.isDecimalDigit s
    simp only [spanDigits?, Option.ite_none_left_eq_some, List.isEmpty_iff, Option.some.injEq,
      Prod.mk.injEq] at h
    obtain ⟨hne, rfl, rfl⟩ := h
    exact ⟨hs, ⟨hne, hdigits⟩, hrest⟩
  · rintro ⟨rfl, ⟨hne, hdigits⟩, hrest⟩
    have hspan : Text.span Text.isDecimalDigit (digits ++ rest) = (digits, rest) :=
      Text.span_append hdigits hrest
    simp [spanDigits?, hspan, hne]

/-- A number in front of a character that is no digit is read whole. -/
theorem spanDigits?_append_cons {digits : Text} {c : Char}
    (hdigits : digits ≠ [] ∧ ∀ c ∈ digits, Text.isDecimalDigit c = true)
    (hc : Text.isDecimalDigit c = false) (rest : Text) :
    spanDigits? (digits ++ c :: rest) = some (digits, c :: rest) :=
  spanDigits?_eq_some.2 ⟨rfl, hdigits, Text.stopsAt_cons rest hc⟩

/-- Indentation, marker and the blanks behind it are skipped. -/
theorem afterMarker_append {indent marker gap s : Text}
    (hindent : ∀ c ∈ indent, Text.isBlank c = true) (hmarker : marker = [] ∨ marker = ['*'])
    (hgap : ∀ c ∈ gap, Text.isBlank c = true) (hs : Text.StopsAt Text.isBlank s)
    (hstar : s.head? ≠ some '*') : afterMarker (indent ++ marker ++ gap ++ s) = s := by
  have hskip : Text.trimStart (gap ++ s) = s := by
    rw [Text.trimStart_append hgap, Text.trimStart_stopsAt hs]
  rw [afterMarker, List.append_assoc, List.append_assoc, Text.trimStart_append hindent]
  rcases hmarker with rfl | rfl
  · have hnone : Text.after? ['*'] s = none := Option.eq_none_iff_forall_ne_some.2 fun rest h => by
      rw [Text.after?_eq_some.1 h] at hstar
      exact hstar rfl
    simp [hskip, hnone, Text.trimStart_stopsAt hs]
  · have hopen : Text.trimStart (['*'] ++ (gap ++ s)) = ['*'] ++ (gap ++ s) :=
      Text.trimStart_stopsAt (Text.stopsAt_cons _ (by decide))
    rw [hopen, Text.after?_eq_some.2 rfl, Option.getD_some, hskip]

/-- What is skipped is indentation, perhaps a marker, and blanks. -/
theorem exists_afterMarker (line : Text) :
    ∃ indent marker gap, (∀ c ∈ indent, Text.isBlank c = true) ∧ (marker = [] ∨ marker = ['*']) ∧
      (∀ c ∈ gap, Text.isBlank c = true) ∧ line = indent ++ marker ++ gap ++ afterMarker line := by
  obtain ⟨indent, hindent, hline⟩ := Text.exists_blanks_trimStart line
  cases hmark : Text.after? ['*'] (Text.trimStart line) with
  | none =>
    obtain ⟨gap, hgap, hrest⟩ := Text.exists_blanks_trimStart (Text.trimStart line)
    refine ⟨indent, [], gap, hindent, .inl rfl, hgap, ?_⟩
    rw [afterMarker, hmark, Option.getD_none, List.append_nil, List.append_assoc, ← hrest, ← hline]
  | some rest =>
    obtain ⟨gap, hgap, hrest⟩ := Text.exists_blanks_trimStart rest
    refine ⟨indent, ['*'], gap, hindent, .inr rfl, hgap, ?_⟩
    rw [afterMarker, hmark, Option.getD_some, List.append_assoc, List.append_assoc, ← hrest,
      ← Text.after?_eq_some.1 hmark, ← hline]

/-! ## The fields of a line -/

/-- A line of the grammar is read as its fields. -/
theorem HopFields.WrittenIn.hopFields?_eq {fields : HopFields} {line : Text}
    (h : fields.WrittenIn line) : hopFields? line = some fields := by
  cases h with
  | @intro indent marker gap space margin hindent hmarker hgap hspace hid hmargin hdistance hmetric
      htail =>
    have hword : Text.IsWord fields.id := ⟨hid.1, fun c hc => (hid.2 c hc).2⟩
    have hmark : ∀ s, afterMarker (indent ++ marker ++ gap ++ ("via".toList ++ s)) =
        "via".toList ++ s := fun s => afterMarker_append hindent hmarker hgap
      (Text.stopsAt_cons _ (by decide)) (by simp)
    have hvia : ∀ s, Text.after? "via".toList ("via".toList ++ s) = some s := fun s =>
      Text.after?_eq_some.2 rfl
    have hblanks : ∀ s, Text.afterBlanks? (space ++ (fields.id ++ s)) = some (fields.id ++ s) :=
      fun s => Text.afterBlanks?_eq_some.2 ⟨space, hspace.1, hspace.2, rfl, hword.stopsAt s⟩
    have hspan : ∀ s, Text.span isIdChar (fields.id ++ ',' :: s) = (fields.id, ',' :: s) :=
      fun s => Text.span_append (fun c hc => by simpa [isIdChar] using hid.2 c hc)
        (Text.stopsAt_cons s (by decide))
    have hbracket : ∀ s, Text.trimStart (margin ++ '[' :: s) = '[' :: s := fun s => by
      rw [Text.trimStart_append hmargin, Text.trimStart_stopsAt (Text.stopsAt_cons s (by decide))]
    have hslash := spanDigits?_append_cons (c := '/') hdistance (by decide)
    have hclose := spanDigits?_append_cons (c := ']') hmetric (by decide)
    simp only [List.append_assoc, List.cons_append] at hmark ⊢
    rw [hopFields?, hmark, hvia, Option.bind_eq_bind, Option.bind_some, hblanks]
    simp [hspan, hid.1, Text.after?, hbracket, hslash, hclose, htail]

/-- A line that is read has the fields that were read. -/
theorem writtenIn_of_hopFields? {fields : HopFields} {line : Text}
    (h : hopFields? line = some fields) : fields.WrittenIn line := by
  obtain ⟨indent, marker, gap, hindent, hmarker, hgap, hline⟩ := exists_afterMarker line
  simp only [hopFields?, Option.bind_eq_bind, Option.bind_eq_some_iff,
    Option.ite_none_left_eq_some, Prod.exists, List.isEmpty_iff, Option.some.injEq,
    Text.after?_eq_some, Text.afterBlanks?_eq_some, spanDigits?_eq_some] at h
  obtain ⟨_, hvia, s, ⟨space, hne, hspace, rfl, -⟩, hid, t, hcomma, _, hbracket, distance, _,
    ⟨rfl, hdistance, -⟩, _, rfl, metric, _, ⟨rfl, hmetric, -⟩, tail, rfl, hfeed, rfl⟩ := h
  obtain ⟨hs, hchar, -⟩ := Text.span_spec isIdChar s
  obtain ⟨margin, hmargin, ht⟩ := Text.exists_blanks_trimStart t
  generalize (Text.span isIdChar s).1 = id at hs hid hchar ⊢
  have hchar : ∀ c ∈ id, c ≠ ',' ∧ Text.isBlank c = false := fun c hc => by
    simpa [isIdChar] using hchar c hc
  have hwritten : HopFields.WrittenIn ⟨id, distance, metric, tail⟩ _ :=
    .intro hindent hmarker hgap ⟨hne, hspace⟩ ⟨hid, hchar⟩ hmargin hdistance hmetric
      (by simpa using hfeed)
  rw [hline, hvia, hs, hcomma, ht, hbracket]
  simpa only [List.append_assoc, List.cons_append, List.nil_append] using hwritten

/-- **The reader accepts the lines of the grammar and no others.** -/
theorem hopFields?_eq_some {line : Text} {fields : HopFields} :
    hopFields? line = some fields ↔ fields.WrittenIn line :=
  ⟨writtenIn_of_hopFields?, fun h => h.hopFields?_eq⟩

/-- A line has its fields in one way only. -/
theorem HopFields.WrittenIn.unique {fields fields' : HopFields} {line : Text}
    (h : fields.WrittenIn line) (h' : fields'.WrittenIn line) : fields = fields' :=
  Option.some.inj (h.hopFields?_eq.symm.trans h'.hopFields?_eq)

/-! ## The last field of the tail -/

theorem IsLastField.lastField_eq {s field : Text} (h : IsLastField s field) :
    lastField s = field := by
  have hpiece : ',' ∉ field → ∀ c ∈ field, (c == ',') = false := fun hcomma c hc =>
    beq_eq_false_iff_ne.2 fun heq => hcomma (heq ▸ hc)
  cases h with
  | whole hcomma =>
    rw [lastField, Text.splitOn, Text.splitBy_eq_singleton (hpiece hcomma)]
    rfl
  | behind hcomma =>
    rw [lastField, Text.splitOn, Text.getLast?_splitBy_append_cons (by rfl) _ (hpiece hcomma)]
    rfl

theorem exists_isLastField (s : Text) : ∃ field, IsLastField s field := by
  by_cases hcomma : ',' ∈ s
  · -- The last comma is the first one from the end.
    obtain ⟨a, b, hs, ha⟩ := List.eq_append_cons_of_mem (List.mem_reverse.2 hcomma)
    have hs : s = b.reverse ++ ',' :: a.reverse := by
      rw [← List.reverse_reverse s, hs]
      simp
    exact ⟨a.reverse, hs ▸ .behind (mt List.mem_reverse.1 ha)⟩
  · exact ⟨s, .whole hcomma⟩

theorem lastField_eq_iff {s field : Text} : lastField s = field ↔ IsLastField s field := by
  refine ⟨?_, IsLastField.lastField_eq⟩
  rintro rfl
  obtain ⟨field, h⟩ := exists_isLastField s
  exact h.lastField_eq.symm ▸ h

/-! ## The next-hop of a line -/

/-- The numbers are there, as neither of them is empty. -/
theorem HopFields.WrittenIn.make_eq {fields : HopFields} {line : Text} (h : fields.WrittenIn line)
    (protocol : Protocol) : NextHop.make fields.distance fields.metric protocol =
      ⟨some fields.distance, some fields.metric, protocol⟩ := by
  cases h with
  | intro _ _ _ _ _ _ hdistance hmetric =>
    simp [NextHop.make, NextHop.present?, hdistance.1, hmetric.1]

theorem nextHop?_eq_some {line id : Text} {hop : NextHop} :
    nextHop? line = some (id, hop) ↔ ∃ fields : HopFields, fields.WrittenIn line ∧
      fields.id = id ∧
      hop = ⟨some fields.distance, some fields.metric, Protocol.read (lastField fields.tail)⟩ := by
  rw [nextHop?, Option.map_eq_some_iff]
  refine exists_congr fun fields => ?_
  rw [hopFields?_eq_some, and_congr_right_iff]
  intro hwritten
  rw [Prod.mk.injEq, hwritten.make_eq, eq_comm (b := hop)]

theorem isNextHop_eq (kind : Kind) (line : Text) :
    (grammar kind).isNextHop line = (nextHop? line).isSome := Option.isSome_map.symm

/-- **The reader of next-hop lines accepts the lines of the grammar and no others**, and reads them
in the one way there is. Its next-hop has both numbers as they stand there and the protocol that the
last field names. What counts as a next-hop line below a header is what is read as one. -/
theorem nextHop_grammar (line : Text) :
    (∀ id hop, nextHop? line = some (id, hop) ↔
      ∃ fields : HopFields, fields.WrittenIn line ∧ fields.id = id ∧
        ∃ field, IsLastField fields.tail field ∧
          hop = ⟨some fields.distance, some fields.metric, Protocol.read (Text.trim field)⟩) ∧
    (∀ fields fields' : HopFields,
      fields.WrittenIn line → fields'.WrittenIn line → fields = fields') ∧
    ∀ kind, (grammar kind).isNextHop line = (nextHop? line).isSome := by
  refine ⟨fun id hop => ?_, fun _ _ h h' => h.unique h', fun kind => isNextHop_eq kind line⟩
  rw [nextHop?_eq_some]
  refine exists_congr fun fields => and_congr_right fun _ => and_congr_right fun _ => ?_
  simp only [← lastField_eq_iff, exists_eq_left', Protocol.read_trim]

/-- A marked line with a column in front of its protocol. -/
def markedLine : Text := "  * via Ethernet4,  [20/100], 00:01:10, BGP \r".toList

/-- The fields of the line. -/
def markedFields : HopFields :=
  ⟨"Ethernet4".toList, "20".toList, "100".toList, ", 00:01:10, BGP \r".toList⟩

theorem nextHop_grammar_markedLine :
    markedFields.WrittenIn markedLine ∧
      nextHop? markedLine = some ("Ethernet4".toList, ⟨some "20".toList, some "100".toList, .bgp⟩) ∧
      (∀ fields : HopFields, fields.WrittenIn markedLine → fields = markedFields) ∧
      (grammar .fib).isNextHop markedLine = true := by
  have hwritten : markedFields.WrittenIn markedLine :=
    @HopFields.WrittenIn.intro markedFields "  ".toList ['*'] [' '] [' '] "  ".toList
      (List.all_eq_true.1 (by decide)) (.inr rfl) (List.all_eq_true.1 (by decide))
      ⟨by decide, List.all_eq_true.1 (by decide)⟩ ⟨by decide, id_char_of_all (by decide)⟩
      (List.all_eq_true.1 (by decide)) ⟨by decide, List.all_eq_true.1 (by decide)⟩
      ⟨by decide, List.all_eq_true.1 (by decide)⟩ (by decide)
  have hfield : IsLastField markedFields.tail " BGP \r".toList :=
    @IsLastField.behind ", 00:01:10".toList " BGP \r".toList (by decide)
  obtain ⟨hread, hunique, hnextHop⟩ := nextHop_grammar markedLine
  have hhop : nextHop? markedLine =
      some ("Ethernet4".toList, ⟨some "20".toList, some "100".toList, .bgp⟩) :=
    (hread _ _).2 ⟨markedFields, hwritten, rfl, _, hfield, by decide⟩
  refine ⟨hwritten, hhop, fun fields h => hunique _ _ h hwritten, ?_⟩
  rw [hnextHop, hhop]
  rfl

end RouteWatch.Display
