/-
Taking the lines out of a display that name one identifier as a next-hop. The
mark of an identifier is its text between the keyword and a comma, and a line
may hold that text by accident: one identifier may end with another, and a
protocol tag may spell out the keyword. But an identifier holds no blank and
no comma, and the tag is the last field, so that the mark is found in the
next-hop lines of the identifier and in no other line. When all prefixes fit,
what is left is read as before, with every route short of that one next-hop,
although the header line above it announces as many as it did.
-/
import RouteWatch.Proofs.Dump.Display
import RouteWatch.Proofs.Route.Difference

namespace RouteWatch.Display

/-- How a next-hop line names an identifier. -/
def viaMark (id : Text) : Text := "via ".toList ++ id ++ [',']

/-! ## Lines that have the mark -/

theorem mem_viaMark (id : Text) : 'v' ∈ viaMark id ∧ ',' ∈ viaMark id := by
  unfold viaMark
  simp

theorem mentions_viaMark_eq_false {s : Text} (id : Text) (h : 'v' ∉ s) :
    Text.mentions (viaMark id) s = false :=
  Text.mentions_eq_false (mem_viaMark id).1 h

/-- Behind the keyword and its blank a word is told from every other. -/
theorem via_suffix_iff {front id other : Text} (hid : ' ' ∉ id) (hother : ' ' ∉ other) :
    "via ".toList ++ id <:+ front ++ "via ".toList ++ other ↔ id = other := by
  have hlast : ∀ before word : Text, ' ' ∉ word →
      (Text.splitOn ' ' (before ++ "via ".toList ++ word)).getLast? = some word := by
    intro before word hword
    have hsplit : before ++ "via ".toList ++ word = (before ++ "via".toList) ++ ' ' :: word := by
      simp
    rw [hsplit]
    refine Text.getLast?_splitBy_append_cons (by rfl) _ fun c hc => ?_
    rw [beq_eq_false_iff_ne]
    rintro rfl
    exact hword hc
  constructor
  · rintro ⟨before, heq⟩
    have hword := hlast before id hid
    rw [List.append_assoc, heq, hlast front other hother] at hword
    exact (Option.some.inj hword).symm
  · rintro rfl
    exact ⟨front, (List.append_assoc _ _ _).symm⟩

/-- A field without the first letter of the keyword does not have the mark. -/
theorem mentions_viaMark_field {id field rest : Text} (hid : ',' ∉ id) (hv : 'v' ∉ field)
    (hcomma : ',' ∉ field) (hrest : Text.mentions (viaMark id) rest = false) :
    Text.mentions (viaMark id) (field ++ ',' :: rest) = false := by
  have hword : ',' ∉ "via ".toList ++ id := by simp [hid]
  unfold viaMark at hrest ⊢
  rw [← Bool.not_eq_true, Text.mentions_append_cons hword hcomma, not_or, Bool.not_eq_true]
  exact ⟨fun hsuffix => hv (hsuffix.subset (by simp)), hrest⟩

/-- Behind its identifier a next-hop line does not have the mark, whatever its tag is. -/
theorem mentions_viaMark_hopTail (even : Bool) {id other : Text} {hop : NextHop} (hid : ',' ∉ id)
    (h : LegibleHop other hop) :
    Text.mentions (viaMark id) (" [".toList ++ (hop.distance.getD ['0'] ++
      '/' :: (hop.metric.getD ['0'] ++ ']' :: hopTail even hop))) = false := by
  have hfield : ∀ c, Text.isDecimalDigit c = false → c ∉ " [".toList → c ≠ '/' → c ≠ ']' →
      c ∉ " [".toList ++ (hop.distance.getD ['0'] ++ '/' :: (hop.metric.getD ['0'] ++ [']'])) := by
    intro c hc hopen hslash hclose
    simp only [List.mem_append, List.mem_cons, List.not_mem_nil, or_false, not_or]
    exact ⟨hopen, h.distance.not_mem hc, hslash, h.metric.not_mem hc, hclose⟩
  have htag : Text.mentions (viaMark id) (' ' :: hop.protocol.print) = false :=
    Text.mentions_eq_false (mem_viaMark id).2 (by simp [h.no_comma])
  have hrest : ∃ rest, hopTail even hop = ',' :: rest ∧
      Text.mentions (viaMark id) rest = false := by
    cases even with
    | true => exact ⟨_, rfl, htag⟩
    | false =>
      have huptime : 'v' ∉ " 00:01:10".toList := by decide
      exact ⟨_, rfl, mentions_viaMark_field hid huptime (by decide) htag⟩
  obtain ⟨rest, hrest, hnone⟩ := hrest
  have hline := mentions_viaMark_field hid (hfield 'v' (by decide) (by decide) (by decide)
    (by decide)) (hfield ',' (by decide) (by decide) (by decide) (by decide)) hnone
  rw [hrest]
  simpa using hline

/-- **A next-hop line has the mark of its own identifier only.** -/
theorem mentions_viaMark_nextHopLine (even : Bool) {id other : Text} {hop : NextHop}
    (hid : ∀ c ∈ id, c ≠ ',' ∧ Text.isBlank c = false) (h : LegibleHop other hop) :
    Text.mentions (viaMark id) (nextHopLine even other hop) = decide (id = other) := by
  have hplain : ∀ {word : Text}, (∀ c ∈ word, c ≠ ',' ∧ Text.isBlank c = false) →
      ' ' ∉ word ∧ ',' ∉ word := fun hword =>
    ⟨fun hc => absurd (hword _ hc).2 (by decide), fun hc => (hword _ hc).1 rfl⟩
  obtain ⟨hblank, hcomma⟩ := hplain hid
  obtain ⟨hother_blank, hother_comma⟩ := hplain h.id_char
  have hmark : ',' ∉ "via ".toList ++ id := by simp [hcomma]
  have hfront :
      ',' ∉ (if even then "  * ".toList else "    ".toList) ++ "via ".toList ++ other := by
    cases even <;> simp [hother_comma]
  have hline : nextHopLine even other hop =
      ((if even then "  * ".toList else "    ".toList) ++ "via ".toList ++ other) ++
        ',' :: (" [".toList ++ (hop.distance.getD ['0'] ++
          '/' :: (hop.metric.getD ['0'] ++ ']' :: hopTail even hop))) := by
    have hopen : ", [".toList = ',' :: " [".toList := by decide
    rw [nextHopLine_eq, hopText, hopen]
    simp only [List.append_assoc, List.cons_append]
  have htail := mentions_viaMark_hopTail even hcomma h
  unfold viaMark at htail ⊢
  rw [Bool.eq_iff_iff, decide_eq_true_eq, hline, Text.mentions_append_cons hmark hfront,
    via_suffix_iff hblank hother_blank, htail]
  exact or_iff_left Bool.false_ne_true

theorem mentions_viaMark_headerLine (kind : Kind) (route : Route) (id : Text) :
    Text.mentions (viaMark id) (headerLine kind route) = false := by
  have hcidr : 'v' ∉ route.target.cidr := fun hc =>
    absurd (Prefix.isChar_of_mem_cidr hc) (by decide)
  have hcount : 'v' ∉ Text.ofNat route.count := fun hc =>
    absurd (Text.isDigit_of_mem_ofNat hc) (by decide)
  refine mentions_viaMark_eq_false id ?_
  cases kind <;> simp [headerLine, hcidr, hcount]

theorem mentions_viaMark_openingLines (kind : Kind) (id : Text) :
    ∀ line ∈ openingLines kind, Text.mentions (viaMark id) line = false := by
  have hbanner : ∀ line ∈ banner, 'v' ∉ line := by decide +kernel
  intro line hline
  cases kind with
  | rib => exact mentions_viaMark_eq_false id (hbanner line hline)
  | fib => cases hline

/-! ## The lines that are left -/

section

variable {id : Text} (hid : ∀ c ∈ id, c ≠ ',' ∧ Text.isBlank c = false)

/-- The paragraph of a route without the lines that have the mark. -/
def cutParagraph (id : Text) (kind : Kind) (route : Route) : Paragraph :=
  ⟨headerLine kind route,
    (nextHopLines true route.hops).filter (!Text.mentions (viaMark id) ·)⟩

include hid in
/-- Of the next-hop lines those are left that name other identifiers. -/
theorem filterMap_filter_nextHopLines : ∀ {hops : List (Text × NextHop)} (even : Bool),
    (∀ hop ∈ hops, LegibleHop hop.1 hop.2) →
    ((nextHopLines even hops).filter (!Text.mentions (viaMark id) ·)).filterMap nextHop? =
      (hops.filter (·.1 ≠ id)).map fun hop => (hop.1, hop.2.zeroFilled)
  | [], _, _ => rfl
  | (other, hop) :: hops, even, h => by
    rw [List.forall_mem_cons] at h
    have hrest := filterMap_filter_nextHopLines (!even) h.2
    rw [nextHopLines, List.filter_cons, List.filter_cons,
      mentions_viaMark_nextHopLine even hid h.1]
    by_cases heq : id = other
    · simpa [heq] using hrest
    · simpa [heq, Ne.symm heq, nextHop?_nextHopLine even h.1] using hrest

theorem isParagraph_cutParagraph (id : Text) (kind : Kind) {route : Route} (h : Legible route) :
    (grammar kind).IsParagraph (cutParagraph id kind route) where
  top := (isParagraph_paragraphOf kind h).top
  below line hline := (isParagraph_paragraphOf kind h).below line (List.mem_filter.1 hline).1

/-- What a block tells: what its header says, the header line, and the route. -/
def readWhole (header : Header) (line : Text) (hops : List Text) : Header × Text × Route :=
  (header, line, routeFrom header line hops)

include hid in
/-- The header line is read as before, and the route is short of the identifier. -/
theorem readParagraph_cutParagraph (kind : Kind) {route : Route} (h : Legible route) :
    (grammar kind).readParagraph readWhole (cutParagraph id kind route) =
      some (headerOf kind route, headerLine kind route, shown (route.erase id)) := by
  rw [Grammar.readParagraph, cutParagraph, header?_headerLine kind h.fits, Option.map_some,
    readWhole, routeFrom, filterMap_filter_isNextHop, filterMap_filter_nextHopLines hid true h.hops]
  rfl

/-- The lines of a display without those that have the mark. -/
theorem lines_withoutLines_print (id : Text) (kind : Kind) {routes : List Route}
    (h : ∀ route ∈ routes, Legible route) (hne : routes ≠ []) :
    Text.lines (Text.withoutLines (print kind routes) (viaMark id)) =
      openingLines kind ++ (routes.map (cutParagraph id kind)).flatMap Paragraph.lines := by
  have hstays : ∃ line ∈ routes.flatMap (routeLines kind),
      Text.mentions (viaMark id) line = false := by
    obtain ⟨route, rest, rfl⟩ := List.exists_cons_of_ne_nil hne
    exact ⟨headerLine kind route, by simp [routeLines], mentions_viaMark_headerLine kind route id⟩
  have hopening : (openingLines kind).filter (!Text.mentions (viaMark id) ·) =
      openingLines kind :=
    List.filter_eq_self.2 fun line hline => by
      rw [mentions_viaMark_openingLines kind id line hline]
      rfl
  rw [print, printLines_eq, Text.lines_withoutLines (isLine_openingLines kind)
    (isLine_flatMap_routeLines kind h) hstays, hopening, List.filter_flatMap, List.flatMap_map]
  congr 1
  refine List.flatMap_congr fun route _ => ?_
  rw [routeLines, List.filter_cons, mentions_viaMark_headerLine]
  rfl

include hid in
/-- **The blocks that are left are those of the routes short of the identifier**, each below the
header line that it had. -/
theorem map_blocks_withoutLines (kind : Kind) {routes : List Route}
    (h : ∀ route ∈ routes, Legible route) (hne : routes ≠ []) :
    ((grammar kind).blocks
        (Text.lines (Text.withoutLines (print kind routes) (viaMark id)))).map
        (fun block => readWhole block.header block.headerLine.line block.nextHopLines) =
      routes.map fun route =>
        (headerOf kind route, headerLine kind route, shown (route.erase id)) := by
  have hdump : (grammar kind).IsDump (routes.map (cutParagraph id kind))
      (Text.lines (Text.withoutLines (print kind routes) (viaMark id))) :=
    ⟨openingLines kind, fun line hline =>
      Grammar.isHeader_eq_false.2 (header?_openingLines kind line hline),
      lines_withoutLines_print id kind h hne⟩
  exact Grammar.map_blocks_of_read (separates_grammar kind) readWhole
    (fun route hroute => ⟨isParagraph_cutParagraph id kind (h route hroute),
      readParagraph_cutParagraph hid kind (h route hroute)⟩)
    hdump

include hid in
/-- The block of a prefix is that of the first route that has it. -/
theorem blockFor?_withoutLines (kind : Kind) {routes : List Route}
    (h : ∀ route ∈ routes, Legible route) {target : Prefix} {route : Route}
    (hfirst : routes.find? (·.target == target) = some route) :
    ∃ block, (grammar kind).blockFor?
        (Text.lines (Text.withoutLines (print kind routes) (viaMark id))) target = some block ∧
      block.header = headerOf kind route ∧ block.headerLine.line = headerLine kind route ∧
      routeOf block = shown (route.erase id) := by
  have hne : routes ≠ [] := List.ne_nil_of_mem (List.mem_of_find?_eq_some hfirst)
  have hread := congrArg (List.find? (·.1.target == target))
    (map_blocks_withoutLines hid kind h hne)
  rw [List.find?_map, List.find?_map] at hread
  have hroute : routes.find? ((fun told : Header × Text × Route => told.1.target == target) ∘
      fun route => (headerOf kind route, headerLine kind route, shown (route.erase id))) =
      some route := hfirst
  rw [hroute, Option.map_some, Option.map_eq_some_iff] at hread
  obtain ⟨block, hblock, htold⟩ := hread
  obtain ⟨hheader, hline, hshown⟩ : _ ∧ _ ∧ _ := by
    simpa only [readWhole, Prod.mk.injEq] using htold
  exact ⟨block, hblock, hheader, hline, hshown⟩

end

/-- **A next-hop whose line is taken out is missing, and nothing else is.** From a RIB display
of routes with prefixes that fit, without the lines that name an identifier, the first route of a
prefix is extracted short of that identifier. A comparison with the route says so and that there
is one next-hop less, while the header line still announces them all. -/
theorem extract_withoutLines {routes : List Route} (h : ∀ route ∈ routes, Printable route)
    {query : Query} {route : Route}
    (hfirst : routes.find? (·.target == query.target) = some route)
    (hprotocol : query.protocol = none)
    (hnumbers : ∀ other hop, route.get? other = some hop →
      hop.distance ≠ none ∧ hop.metric ≠ none)
    {id : Text} {hop : NextHop} (hget : route.get? id = some hop) :
    let dump := Text.withoutLines (print .rib routes) (viaMark id)
    Format.rib.extract dump query = some (route.erase id) ∧
      route.differences (Format.rib.extract dump query) =
        [.count route.count (route.count - 1), .missing id] ∧
      ∃ block, (grammar .rib).blockFor? (Text.lines dump) query.target = some block ∧
        block.headerLine.line = headerLine .rib route ∧
        (route.count ≤ Text.wordMax → block.header.declared = some route.count) := by
  intro dump
  have hlegible : ∀ route ∈ routes, Legible route := fun route hroute => (h route hroute).legible
  have hhop := (h route (List.mem_of_find?_eq_some hfirst)).hops (id, hop)
    (Route.get?_eq_some.1 hget)
  obtain ⟨block, hblock, hheader, hline, hroute⟩ :=
    blockFor?_withoutLines hhop.id_char .rib hlegible hfirst
  have hshown : shown (route.erase id) = route.erase id := by
    refine shown_eq fun other hop hleft => ?_
    obtain ⟨hdistance, hmetric⟩ :=
      hnumbers other hop ((Route.isPartOf_erase route id).get? _ _ hleft)
    exact NextHop.zeroFilled_eq hdistance hmetric
  have hextract : Format.rib.extract dump query = some (route.erase id) := by
    show extract .rib (Text.lines dump) query = _
    rw [extract, hblock, Option.map_some, hprotocol, hroute, hshown]
    rfl
  refine ⟨hextract, ?_, block, hblock, hline, fun hcount => ?_⟩
  · rw [hextract, Route.differences_erase hget]
  · rw [hheader, headerOf, Text.toCount?_ofNat hcount]

/-- A route with an identifier that ends with the other one and stands there in its tag again. -/
def suffixRoute : Route :=
  ((Route.empty ⟨.v4 10 0 0 0, 24⟩).insert "1.1.1.2".toList
    ⟨some ['1'], some ['0'], .static⟩).insert "11.1.1.2".toList
    ⟨some "20".toList, some ['0'], .other "via 1.1.1.2".toList⟩

theorem hops_suffixRoute : suffixRoute.hops =
    [("1.1.1.2".toList, ⟨some ['1'], some ['0'], .static⟩),
      ("11.1.1.2".toList, ⟨some "20".toList, some ['0'], .other "via 1.1.1.2".toList⟩)] := by rfl

theorem printable_suffixRoute : Printable suffixRoute where
  fits := by decide
  hops := by
    rw [hops_suffixRoute, List.forall_mem_cons, List.forall_mem_singleton]
    exact ⟨printableHop_static (by decide) (by decide),
      ⟨by decide, id_char_of_all (by decide), isNumber_some (by decide) (by decide),
        isNumber_some (by decide) (by decide), ⟨"via 1.1.1.2".toList, by decide⟩, by decide,
        by decide⟩⟩

/-- Only the shorter identifier is missing. -/
theorem extract_withoutLines_suffixRoute :
    let routes := [wideRoute, suffixRoute]
    let query : Query := ⟨suffixRoute, none, none⟩
    (∀ route ∈ routes, Printable route) ∧
      routes.find? (·.target == query.target) = some suffixRoute ∧ query.protocol = none ∧
      (∀ other hop, suffixRoute.get? other = some hop →
        hop.distance ≠ none ∧ hop.metric ≠ none) ∧
      suffixRoute.get? "1.1.1.2".toList = some ⟨some ['1'], some ['0'], .static⟩ ∧
      let dump := Text.withoutLines (print .rib routes) "via 1.1.1.2,".toList
      Format.rib.extract dump query = some (suffixRoute.erase "1.1.1.2".toList) ∧
        suffixRoute.differences (Format.rib.extract dump query) =
          [.count 2 1, .missing "1.1.1.2".toList] ∧
        ∃ block, (grammar .rib).blockFor? (Text.lines dump) query.target = some block ∧
          block.headerLine.line = "10.0.0.0/24, 2 unicast next-hops".toList ∧
          block.header.declared = some 2 := by
  intro routes query
  have h : ∀ route ∈ routes, Printable route := by
    rw [List.forall_mem_cons, List.forall_mem_singleton]
    exact ⟨printable_wideRoute, printable_suffixRoute⟩
  have hnumbers : ∀ other hop, suffixRoute.get? other = some hop →
      hop.distance ≠ none ∧ hop.metric ≠ none := by
    intro other hop hget
    have hmem := Route.get?_eq_some.1 hget
    rw [hops_suffixRoute] at hmem
    exact (by decide : ∀ hop ∈ _, hop.2.distance ≠ none ∧ hop.2.metric ≠ none) (other, hop) hmem
  have hfirst : routes.find? (·.target == query.target) = some suffixRoute := by decide
  have hget : suffixRoute.get? "1.1.1.2".toList = some ⟨some ['1'], some ['0'], .static⟩ := by
    decide
  obtain ⟨hextract, hdifferences, block, hblock, hline, hcount⟩ :=
    extract_withoutLines h hfirst rfl hnumbers hget
  exact ⟨h, hfirst, rfl, hnumbers, hget, hextract, hdifferences, block, hblock, hline,
    hcount (by decide)⟩

/-- Above a route whose prefix does not fit, a route without its next-hop line is read as one over
the next-hop of the other, and a comparison finds no fewer next-hops than announced. -/
theorem extract_withoutLines_overlongRoute :
    let routes := [networkRoute, overlongRoute]
    let query : Query := ⟨networkRoute, none, none⟩
    let dump := Text.withoutLines (print .rib routes) "via 1.1.1.1,".toList
    (∃ value, Prefix.ofJson? value = some overlongRoute.target) ∧
      (∀ route ∈ routes, ∀ hop ∈ route.hops, PrintableHop hop.1 hop.2) ∧
      (∀ route ∈ routes, ∀ hop ∈ route.hops, hop.2.distance ≠ none ∧ hop.2.metric ≠ none) ∧
      routes.find? (·.target == query.target) = some networkRoute ∧
      networkRoute.nextHops.keys = ["1.1.1.1".toList] ∧
      Format.rib.extract dump query = some ((networkRoute.erase "1.1.1.1".toList).insert
        "2.2.2.2".toList ⟨some ['1'], some ['0'], .static⟩) ∧
      networkRoute.differences (Format.rib.extract dump query) =
        [.missing "1.1.1.1".toList, .unexpected "2.2.2.2".toList] := by
  intro routes query dump
  have hextract : Format.rib.extract dump query = some ((networkRoute.erase
      "1.1.1.1".toList).insert "2.2.2.2".toList ⟨some ['1'], some ['0'], .static⟩) := by
    decide +kernel
  refine ⟨⟨_, Prefix.ofJson?_toJson (by decide)⟩, printableHop_overlongRoute, by decide, by decide,
    by decide, hextract, ?_⟩
  rw [hextract]
  decide

end RouteWatch.Display
