/-
The header lines of the two displays are not told apart by their shape. A FIB
header may have any text behind a comma, and the count clause of a RIB header
is such a text, so a line that is a RIB header is a FIB header to the same
prefix; only a line feed within the line would prevent it, and no line of a
dump has one. A RIB display that is taken for a FIB display therefore shows
every route that it has, installed or not.
-/
import RouteWatch.Proofs.Dump.Display
import RouteWatch.Proofs.Text.Trailing

namespace RouteWatch.Display

/-! ## One line -/

theorem CutBefore.congr {target rest rest' : Text} (h : CutBefore rest target)
    (hhead : rest'.head? = rest.head?) : CutBefore rest' target := by
  cases h with
  | bare hne haddress hrest hslash =>
    exact .bare hne haddress (fun c hc => hrest c (hhead ▸ hc)) (hhead ▸ hslash)
  | slash hne haddress hdigits hlength hrest =>
    exact .slash hne haddress hdigits hlength fun c hc => hrest c (hhead ▸ hc)

theorem CutBefore.no_feed {target rest : Text} (h : CutBefore rest target) : '\n' ∉ target := by
  cases h with
  | bare _ haddress _ _ => exact fun hc => absurd (haddress _ hc) (by decide)
  | slash _ haddress hdigits _ _ =>
    rw [List.mem_append, List.mem_cons, not_or, not_or]
    exact ⟨fun hc => absurd (haddress _ hc) (by decide), by decide,
      fun hc => absurd (hdigits _ hc) (by decide)⟩

/-- **A RIB header is a FIB header to the same prefix**, unless a line feed is in its way. -/
theorem fibHeader?_of_ribHeader? {line : Text} {header : Header}
    (h : ribHeader? line = some header) :
    fibHeader? line = if '\n' ∈ Text.trimEnd line then none else some ⟨header.target, none⟩ := by
  simp only [ribHeader?, Option.bind_eq_bind, Option.bind_eq_some_iff, Prod.exists] at h
  obtain ⟨text, rest, hspan, clause, hcomma, count, -, target, hread, hheader⟩ := h
  obtain rfl : rest = ',' :: clause := Text.after?_eq_some.1 hcomma
  obtain ⟨rfl, hcut⟩ := spanPrefix?_eq_some.1 hspan
  -- The blanks behind the line are behind its comma, so that the prefix is cut off as before.
  have htrim : Text.trimEnd (text ++ ',' :: clause) = text ++ ',' :: Text.trimEnd clause :=
    Text.trimEnd_append_cons text clause (by decide)
  have htrimmed : CutBefore (',' :: Text.trimEnd clause) text := hcut.congr rfl
  have hfeed : '\n' ∈ text ++ ',' :: Text.trimEnd clause ↔ '\n' ∈ Text.trimEnd clause := by
    simp [hcut.no_feed]
  have htail : isFibTail (',' :: Text.trimEnd clause) = !(Text.trimEnd clause).contains '\n' := rfl
  obtain rfl := Option.some.inj hheader
  rw [fibHeader?, htrim, htrimmed.spanPrefix?_eq]
  by_cases hmem : '\n' ∈ Text.trimEnd clause
  · simp [hfeed, htail, hmem]
  · simp [hfeed, htail, hmem, hread]

/-- **Only a line feed keeps a RIB header from being a FIB header.** Without one within the line the
two displays read the same prefix from it, and the number that is announced is lost. -/
theorem fib_rejects_rib_iff {line : Text} {header : Header}
    (h : (grammar .rib).header? line = some header) :
    ((grammar .fib).header? line = none ↔ '\n' ∈ Text.trimEnd line) ∧
      ('\n' ∉ Text.trimEnd line →
        (grammar .fib).header? line = some ⟨header.target, none⟩) := by
  have hfib : (grammar .fib).header? line =
      if '\n' ∈ Text.trimEnd line then none else some ⟨header.target, none⟩ :=
    fibHeader?_of_ribHeader? h
  refine ⟨?_, fun hfeed => by rw [hfib, if_neg hfeed]⟩
  rw [hfib, ite_eq_left_iff]
  simp

/-- A RIB header line of four next-hops. -/
def countedLine : Text := "10.0.0.0/24, 4 unicast next-hops".toList

theorem fib_rejects_rib_iff_countedLine :
    let feedLine := countedLine ++ "\n,".toList
    let header : Header := ⟨⟨.v4 10 0 0 0, 24⟩, some 4⟩
    (grammar .rib).header? countedLine = some header ∧
      (grammar .rib).header? feedLine = some header ∧
      (grammar .fib).header? countedLine = some ⟨header.target, none⟩ ∧
      (grammar .fib).header? feedLine = none := by
  intro feedLine header
  have hcounted : (grammar .rib).header? countedLine = some header := by decide +kernel
  have hfeed : (grammar .rib).header? feedLine = some header := by decide +kernel
  exact ⟨hcounted, hfeed, (fib_rejects_rib_iff hcounted).2 (by decide +kernel),
    (fib_rejects_rib_iff hfeed).1.2 (by decide +kernel)⟩

/-- The header grammars are not disjoint. -/
theorem headers_not_disjoint :
    ¬ ∀ line, ((grammar .rib).header? line).isSome = true →
      (grammar .fib).header? line = none := by
  intro h
  have hrib : ((grammar .rib).header? countedLine).isSome = true := by decide +kernel
  have hfib : (grammar .fib).header? countedLine ≠ none := by decide +kernel
  exact hfib (h countedLine hrib)

/-! ## Whole displays -/

/-- **What a RIB display has is found when it is taken for a FIB display**, whatever else stands in
the text. -/
theorem isSome_extract_fib {text : Text} {query : Query}
    (h : (Format.rib.extract text query).isSome = true) :
    (Format.fib.extract text query).isSome = true := by
  obtain ⟨route, hroute⟩ := Option.isSome_iff_exists.1 h
  obtain ⟨block, hblock, htarget, -⟩ := exists_block_of_extract hroute
  obtain ⟨i, line, header, hline, hheader, rfl⟩ := Grammar.mem_blocks.1 hblock
  have hfeed : '\n' ∉ Text.trimEnd line := fun hc =>
    (Text.of_mem_lines (List.mem_of_getElem? hline) _ ((Text.trimEnd_prefix line).subset hc)).2 rfl
  have hfib : fibHeader? line = some ⟨header.target, none⟩ := by
    rw [fibHeader?_of_ribHeader? hheader, if_neg hfeed]
  have hmem : ⟨⟨i, line, ⟨header.target, none⟩⟩, (grammar .fib).owned (Text.lines text) i⟩ ∈
      (grammar .fib).blocks (Text.lines text) :=
    Grammar.mem_blocks.2 ⟨i, line, _, hline, hfib, rfl⟩
  show (extract .fib (Text.lines text) query).isSome = true
  rw [extract, Option.isSome_map, Grammar.blockFor?, List.find?_isSome]
  exact ⟨_, hmem, beq_iff_eq.2 htarget⟩

end RouteWatch.Display
