/-
A RIB or FIB display is read back route by route: whichever routes are
printed, what is extracted for a prefix is the first of them that has it, and
neither the banner nor the announced number of next-hops nor a neighbour adds
anything to it. What a display cannot show is an absent distance or metric,
which it writes as zero. All prefixes must be within their family's bits, as
one that is not has no header line that is read as such.
-/
import RouteWatch.Dump.Format
import RouteWatch.Proofs.Dump.Display.Line
import RouteWatch.Proofs.Dump.Paragraph
import RouteWatch.Proofs.Net.Record
import RouteWatch.Proofs.Route.Basic

namespace RouteWatch.Display

/-- The format that captures a display. -/
def Kind.format : Kind → Format
  | rib => .rib
  | fib => .fib

/-- What makes a route readable from its lines. A prefix that is made or read from a text fits. One
that is read from a record need not, and then its header line is not read as one. -/
structure Printable (route : Route) : Prop where
  fits : route.target.Fits
  hops : ∀ hop ∈ route.hops, PrintableHop hop.1 hop.2

/-- What a display can show and be read back from, with digits of any script. -/
structure Legible (route : Route) : Prop where
  fits : route.target.Fits
  hops : ∀ hop ∈ route.hops, LegibleHop hop.1 hop.2

theorem Printable.legible {route : Route} (h : Printable route) : Legible route :=
  ⟨h.fits, fun hop hmem => (h.hops hop hmem).legible⟩

/-- The lines of one route. -/
def routeLines (kind : Kind) (route : Route) : List Text :=
  headerLine kind route :: nextHopLines true route.hops

/-- The lines before the routes of a display. -/
def openingLines : Kind → List Text
  | .rib => banner
  | .fib => []

theorem printLines_eq (kind : Kind) (routes : List Route) :
    printLines kind routes = openingLines kind ++ routes.flatMap (routeLines kind) := by
  cases kind <;> rfl

/-! ## The printed lines are the lines read -/

theorem isLine_openingLines (kind : Kind) : ∀ line ∈ openingLines kind, Text.IsLine line := by
  cases kind with
  | rib => exact (by decide +kernel : ∀ line ∈ banner, Text.IsLine line)
  | fib => exact List.forall_mem_nil _

theorem isLine_nextHopLines : ∀ {hops : List (Text × NextHop)} (even : Bool),
    (∀ hop ∈ hops, LegibleHop hop.1 hop.2) →
    ∀ line ∈ nextHopLines even hops, Text.IsLine line ∧ line ≠ []
  | [], _, _ => by simp [nextHopLines]
  | (id, hop) :: hops, even, h => by
    rw [nextHopLines, List.forall_mem_cons]
    refine ⟨⟨isLine_nextHopLine even (h (id, hop) (by simp)), nextHopLine_ne_nil even id hop⟩, ?_⟩
    exact isLine_nextHopLines (!even) fun hop hmem => h hop (by simp [hmem])

theorem isLine_routeLines (kind : Kind) {route : Route} (h : Legible route) :
    ∀ line ∈ routeLines kind route, Text.IsLine line ∧ line ≠ [] := by
  rw [routeLines, List.forall_mem_cons]
  exact ⟨⟨isLine_headerLine kind route, headerLine_ne_nil kind route⟩,
    isLine_nextHopLines true h.hops⟩

/-- The lines below the opening of a display, of which every route has some. -/
theorem isLine_flatMap_routeLines (kind : Kind) {routes : List Route}
    (h : ∀ route ∈ routes, Legible route) :
    ∀ line ∈ routes.flatMap (routeLines kind), Text.IsLine line ∧ line ≠ [] := by
  intro line hline
  obtain ⟨route, hroute, hmem⟩ := List.mem_flatMap.1 hline
  exact isLine_routeLines kind (h route hroute) line hmem

/-- The lines of a display are those printed, unless there is no route: then the empty last line
of the banner is not told from the end of the text. -/
theorem lines_print (kind : Kind) {routes : List Route} (h : ∀ route ∈ routes, Legible route)
    (hne : routes ≠ []) : Text.lines (print kind routes) = printLines kind routes := by
  have hlines : routes.flatMap (routeLines kind) ≠ [] := by
    obtain ⟨route, rest, rfl⟩ := List.exists_cons_of_ne_nil hne
    exact List.cons_ne_nil _ _
  rw [print, printLines_eq]
  exact Text.lines_joinWith_append (isLine_openingLines kind) (isLine_flatMap_routeLines kind h)
    hlines

/-! ## Reading the routes -/

@[simp] theorem target_routeOf (block : Block) : (routeOf block).target = block.header.target :=
  Route.target_insertAll _ _

/-- What is extracted is the first route with the prefix, of all that stand in the lines. -/
theorem extract_eq (kind : Kind) (lines : List Text) (query : Query) :
    extract kind lines query =
      ((((grammar kind).blocks lines).map routeOf).find? (·.target == query.target)).map
        (·.keep? query.protocol) := by
  rw [extract, Grammar.blockFor?, List.find?_map, Option.map_map]
  simp [Function.comp_def]

/-- What is extracted is a block of the prefix, narrowed to the protocol. -/
theorem exists_block_of_extract {kind : Kind} {lines : List Text} {query : Query} {route : Route}
    (h : extract kind lines query = some route) :
    ∃ block ∈ (grammar kind).blocks lines, block.header.target = query.target ∧
      route = (routeOf block).keep? query.protocol := by
  obtain ⟨block, hblock, rfl⟩ := Option.map_eq_some_iff.1 h
  rw [Grammar.blockFor?] at hblock
  exact ⟨block, List.mem_of_find?_eq_some hblock, by simpa using List.find?_some hblock, rfl⟩

/-- The next-hops of a block are read from its lines. -/
theorem exists_line_of_routeOf {block : Block} {id : Text} {hop : NextHop}
    (h : (routeOf block).get? id = some hop) :
    ∃ line ∈ block.nextHopLines, nextHop? line = some (id, hop) := by
  rw [routeOf, Route.get?_insertAll, Route.get?_empty, Option.or_none] at h
  exact List.mem_filterMap.1 (List.mem_reverse.1 (mem_of_valueOf? h))

theorem header?_openingLines (kind : Kind) :
    ∀ line ∈ openingLines kind, (grammar kind).header? line = none := by
  have hall : ∀ line ∈ banner, ribHeader? line = none := by decide +kernel
  intro line hline
  cases kind with
  | rib => exact hall line hline
  | fib => cases hline

/-- A display of no routes holds none. -/
theorem blocks_print_nil (kind : Kind) :
    (grammar kind).blocks (Text.lines (print kind [])) = [] := by
  cases kind with
  | rib =>
    have hline : ∀ line ∈ banner.dropLast, line ∈ openingLines .rib := fun line hmem =>
      List.dropLast_subset banner hmem
    have hlines : Text.lines (print .rib []) = banner.dropLast :=
      Text.lines_joinWith_concat_nil fun line hmem =>
        isLine_openingLines .rib line (hline line hmem)
    have hheader : ∀ line ∈ banner.dropLast, (grammar .rib).header? line = none :=
      fun line hmem => header?_openingLines .rib line (hline line hmem)
    rw [hlines, Grammar.blocks_eq_blocksFrom, ← List.append_nil banner.dropLast,
      Grammar.blocksFrom_append hheader]
    rfl
  | fib => rfl

/-- The route as a display shows it. -/
def shown (route : Route) : Route :=
  (Route.empty route.target).insertAll (route.hops.map fun hop => (hop.1, hop.2.zeroFilled))

@[simp] theorem target_shown (route : Route) : (shown route).target = route.target :=
  Route.target_insertAll _ _

theorem get?_shown (route : Route) (id : Text) :
    (shown route).get? id = (route.get? id).map NextHop.zeroFilled := by
  have hkeys : ((route.hops.map fun hop => (hop.1, hop.2.zeroFilled)).map (·.1)).Nodup := by
    rw [List.map_map]
    exact route.nextHops.increasing.nodup_keys
  rw [shown, Route.get?_insertAll_empty hkeys, valueOf?_map]
  rfl

/-- A route whose numbers are all there is shown as it is. -/
theorem shown_eq {route : Route}
    (h : ∀ id hop, route.get? id = some hop → hop.zeroFilled = hop) : shown route = route := by
  refine Route.ext_get? (target_shown _) fun id => ?_
  rw [get?_shown]
  cases hget : route.get? id with
  | none => rfl
  | some hop => exact congrArg some (h id hop hget)

theorem header?_nextHopLines (kind : Kind) : ∀ (even : Bool) (hops : List (Text × NextHop)),
    ∀ line ∈ nextHopLines even hops, (grammar kind).header? line = none
  | _, [] => by simp [nextHopLines]
  | even, (id, hop) :: hops => by
    rw [nextHopLines, List.forall_mem_cons]
    exact ⟨header?_stopsAt kind (stopsAt_nextHopLine even id hop),
      header?_nextHopLines kind (!even) hops⟩

theorem filterMap_nextHopLines : ∀ {hops : List (Text × NextHop)} (even : Bool),
    (∀ hop ∈ hops, LegibleHop hop.1 hop.2) →
    (nextHopLines even hops).filterMap nextHop? =
      hops.map fun hop => (hop.1, hop.2.zeroFilled)
  | [], _, _ => rfl
  | (id, hop) :: hops, even, h => by
    have hhop : nextHop? (nextHopLine even id hop) = some (id, hop.zeroFilled) :=
      nextHop?_nextHopLine even (h (id, hop) (by simp))
    rw [nextHopLines, List.filterMap_cons, hhop,
      filterMap_nextHopLines (!even) fun hop hmem => h hop (by simp [hmem])]
    rfl

/-- Of the lines below a header those that are next-hop lines are read. -/
theorem filterMap_filter_isNextHop (kind : Kind) (lines : List Text) :
    (lines.filter (grammar kind).isNextHop).filterMap nextHop? = lines.filterMap nextHop? := by
  rw [List.filterMap_filter]
  congr 1
  funext line
  rw [isNextHop_eq]
  cases nextHop? line <;> rfl

theorem separates_grammar (kind : Kind) : (grammar kind).Separates := fun _ h => by
  obtain ⟨fields, hfields⟩ := Option.isSome_iff_exists.1 h
  exact (hopFields?_eq_some.1 hfields).header?_eq kind

/-- The route of a header and its next-hop lines. -/
def routeFrom (header : Header) (_ : Text) (hops : List Text) : Route :=
  (Route.empty header.target).insertAll (hops.filterMap nextHop?)

/-- The paragraph of a route. -/
def paragraphOf (kind : Kind) (route : Route) : Paragraph :=
  ⟨headerLine kind route, nextHopLines true route.hops⟩

theorem isParagraph_paragraphOf (kind : Kind) {route : Route} (h : Legible route) :
    (grammar kind).IsParagraph (paragraphOf kind route) where
  top := by simp [paragraphOf, Grammar.isHeader, header?_headerLine kind h.fits]
  below line hline := .inr (Grammar.isHeader_eq_false.2
    (header?_nextHopLines kind true route.hops line hline))

/-- The paragraph of a route is read as the route. -/
theorem readParagraph_paragraphOf (kind : Kind) {route : Route} (h : Legible route) :
    (grammar kind).readParagraph routeFrom (paragraphOf kind route) = some (shown route) := by
  rw [Grammar.readParagraph, paragraphOf, header?_headerLine kind h.fits, Option.map_some,
    routeFrom, filterMap_filter_isNextHop, filterMap_nextHopLines true h.hops]
  rfl

theorem isDump_printLines (kind : Kind) (routes : List Route) :
    (grammar kind).IsDump (routes.map (paragraphOf kind)) (printLines kind routes) := by
  refine ⟨openingLines kind, fun line hline =>
    Grammar.isHeader_eq_false.2 (header?_openingLines kind line hline), ?_⟩
  rw [printLines_eq, List.flatMap_map]
  rfl

/-- **The routes that stand in printed lines are those printed.** -/
theorem map_routeOf_blocks (kind : Kind) {routes : List Route}
    (h : ∀ route ∈ routes, Legible route) :
    ((grammar kind).blocks (printLines kind routes)).map routeOf = routes.map shown :=
  Grammar.map_blocks_of_read (separates_grammar kind) routeFrom
    (fun route hroute => ⟨isParagraph_paragraphOf kind (h route hroute),
      readParagraph_paragraphOf kind (h route hroute)⟩)
    (isDump_printLines kind routes)

/-- Extracting from a display finds among the routes printed. -/
theorem extract_legible (kind : Kind) {routes : List Route}
    (h : ∀ route ∈ routes, Legible route) (query : Query) :
    kind.format.extract (print kind routes) query =
      (routes.find? (·.target == query.target)).map fun route =>
        (shown route).keep? query.protocol := by
  have hformat : kind.format.extract (print kind routes) query =
      extract kind (Text.lines (print kind routes)) query := by
    cases kind <;> rfl
  rw [hformat]
  by_cases hne : routes = []
  · rw [hne, extract_eq, blocks_print_nil]
    rfl
  · rw [lines_print kind h hne, extract_eq, map_routeOf_blocks kind h, List.find?_map,
      Option.map_map]
    simp [Function.comp_def]

theorem extract_printed (kind : Kind) {routes : List Route}
    (h : ∀ route ∈ routes, Printable route) (query : Query) :
    kind.format.extract (print kind routes) query =
      (routes.find? (·.target == query.target)).map fun route =>
        (shown route).keep? query.protocol :=
  extract_legible kind (fun route hroute => (h route hroute).legible) query

/-- **A display is read back route by route.** Of any printed routes, all with prefixes that fit,
what is extracted for a prefix is the first one that has it, and nothing if none has: under each
identifier stand the attributes printed there with zero for an absent number, for the protocol
asked for alone if there is one. -/
theorem extract_print (kind : Kind) (routes : List Route)
    (h : ∀ route ∈ routes, Printable route) (query : Query) :
    match routes.find? (·.target == query.target) with
    | none => kind.format.extract (print kind routes) query = none
    | some route => ∃ seen, kind.format.extract (print kind routes) query = some seen ∧
        seen.target = query.target ∧
        ∀ id hop, seen.get? id = some hop ↔ ∃ printed, route.get? id = some printed ∧
          hop = printed.zeroFilled ∧ ∀ p, query.protocol = some p → printed.protocol = p := by
  rw [extract_printed kind h query]
  cases hfind : routes.find? (·.target == query.target) with
  | none => rfl
  | some route =>
    have htarget : route.target = query.target := by
      simpa using List.find?_some hfind
    refine ⟨_, rfl, by simp [htarget], fun id hop => ?_⟩
    rw [Route.get?_keep?, get?_shown, Option.map_eq_some_iff]
    constructor
    · rintro ⟨⟨printed, hprinted, rfl⟩, hprotocol⟩
      exact ⟨printed, hprinted, rfl, hprotocol⟩
    · rintro ⟨printed, hprinted, rfl, hprotocol⟩
      exact ⟨⟨printed, hprinted, rfl⟩, hprotocol⟩

/-- Distance and metric of a static route are readable behind every identifier that is. -/
theorem printableHop_static {id : Text} (hne : id ≠ []) (hchar : id.all isIdChar = true) :
    PrintableHop id ⟨some ['1'], some ['0'], .static⟩ where
  id_ne_nil := hne
  id_char := id_char_of_all hchar
  distance := isNumber_some (by decide) (by decide)
  metric := isNumber_some (by decide) (by decide)
  protocol := ⟨"static".toList, by decide⟩
  no_comma := by decide
  no_feed := by decide

/-- A route over an interface whose protocol has a tag of its own and whose distance is absent. -/
def narrowRoute : Route :=
  (Route.empty ⟨.v4 10 0 0 0, 24⟩).insert "Ethernet0".toList
    ⟨none, some "20".toList, .other "rip".toList⟩

/-- A default route whose text holds no digit but zero. -/
def wideRoute : Route :=
  (Route.empty (Prefix.defaultRoute .v6)).insert "fe80::1".toList
    ⟨some ['1'], some ['0'], .static⟩

theorem printable_narrowRoute : Printable narrowRoute where
  fits := by decide
  hops := by
    have hhops : narrowRoute.hops =
        [("Ethernet0".toList, ⟨none, some "20".toList, .other "rip".toList⟩)] := by rfl
    rw [hhops, List.forall_mem_singleton]
    exact ⟨by decide, id_char_of_all (by decide), isNumber_none,
      isNumber_some (by decide) (by decide), ⟨"rip".toList, by decide⟩, by decide, by decide⟩

theorem printable_wideRoute : Printable wideRoute where
  fits := by decide
  hops := by
    have hhops : wideRoute.hops =
        [("fe80::1".toList, ⟨some ['1'], some ['0'], .static⟩)] := by rfl
    rw [hhops, List.forall_mem_singleton]
    exact printableHop_static (by decide) (by decide)

theorem extract_print_narrowRoute :
    (∀ route ∈ [wideRoute, narrowRoute], Printable route) ∧
      ∃ seen, Format.fib.extract (print .fib [wideRoute, narrowRoute]) ⟨narrowRoute, none, none⟩ =
        some seen ∧ seen.target = narrowRoute.target ∧
        ∀ id hop, seen.get? id = some hop ↔ ∃ printed, narrowRoute.get? id = some printed ∧
          hop = printed.zeroFilled ∧ ∀ p, none = some p → printed.protocol = p := by
  have h : ∀ route ∈ [wideRoute, narrowRoute], Printable route := by
    rw [List.forall_mem_cons, List.forall_mem_singleton]
    exact ⟨printable_wideRoute, printable_narrowRoute⟩
  exact ⟨h, extract_print .fib [wideRoute, narrowRoute] h ⟨narrowRoute, none, none⟩⟩

/-- A route to a network. -/
def networkRoute : Route :=
  (Route.empty ⟨.v4 10 0 0 0, 24⟩).insert "1.1.1.1".toList ⟨some ['1'], some ['0'], .static⟩

/-- A route whose prefix has one bit too many. -/
def overlongRoute : Route :=
  (Route.empty ⟨.v4 10 0 0 0, 33⟩).insert "2.2.2.2".toList ⟨some ['1'], some ['0'], .static⟩

/-- But for the prefix of the second one these routes are readable. -/
theorem printableHop_overlongRoute : ∀ route ∈ [networkRoute, overlongRoute],
    ∀ hop ∈ route.hops, PrintableHop hop.1 hop.2 := by
  have hnetwork : networkRoute.hops =
      [("1.1.1.1".toList, ⟨some ['1'], some ['0'], .static⟩)] := by rfl
  have hoverlong : overlongRoute.hops =
      [("2.2.2.2".toList, ⟨some ['1'], some ['0'], .static⟩)] := by rfl
  rw [List.forall_mem_cons, List.forall_mem_singleton, hnetwork, hoverlong,
    List.forall_mem_singleton, List.forall_mem_singleton]
  exact ⟨printableHop_static (by decide) (by decide), printableHop_static (by decide) (by decide)⟩

/-- A record may hold a prefix that does not fit. The header line that is printed for it is not read
as one, so that its next-hop goes to the route above, and for the prefix itself nothing is
extracted. -/
theorem extract_print_overlongRoute :
    let routes := [networkRoute, overlongRoute]
    (∃ value, Prefix.ofJson? value = some overlongRoute.target) ∧
      (∀ route ∈ routes, ∀ hop ∈ route.hops, PrintableHop hop.1 hop.2) ∧
      (∀ route ∈ routes, routes.find? (·.target == route.target) = some route) ∧
      networkRoute.get? "2.2.2.2".toList = none ∧
      Format.rib.extract (print .rib routes) ⟨networkRoute, none, none⟩ =
        some (networkRoute.insert "2.2.2.2".toList ⟨some ['1'], some ['0'], .static⟩) ∧
      Format.rib.extract (print .rib routes) ⟨overlongRoute, none, none⟩ = none := by
  exact ⟨⟨_, Prefix.ofJson?_toJson (by decide)⟩, printableHop_overlongRoute, by decide, by decide,
    by decide +kernel⟩

end RouteWatch.Display
