/-
A kernel dump is read back as a union. Whichever routes are printed, in
whichever of the three shapes, what is extracted for a prefix has the
next-hops of all of them with that prefix and no others. All prefixes must be
within their family's bits, as one that is not has no header line that is read
as such.
-/
import RouteWatch.Dump.Format
import RouteWatch.Proofs.Dump.Kernel.Line
import RouteWatch.Proofs.Dump.Paragraph
import RouteWatch.Proofs.Net.Record
import RouteWatch.Proofs.Route.Basic

namespace RouteWatch.Kernel

theorem lines_print {routes : List Route} (h : ∀ route ∈ routes, Printable route) :
    Text.lines (print routes) = routes.flatMap routeLines := by
  have hlines : ∀ line ∈ routes.flatMap routeLines, Text.IsLine line ∧ line ≠ [] := by
    intro line hline
    obtain ⟨route, hroute, hmem⟩ := List.mem_flatMap.1 hline
    exact isLine_routeLines (h route hroute) line hmem
  exact Text.lines_joinWith (fun line hline => (hlines line hline).1) fun line hlast =>
    (hlines line (List.mem_of_getLast? hlast)).2

/-! ## Reading the routes -/

/-- The identifiers that a block names. -/
def blockIds (block : Block) : List Text := block.lines.filterMap nextHop?

theorem separates_grammar (family : Family) : (grammar family).Separates := fun _ h =>
  header?_of_isNextHopLine family h

/-- The prefix of a header, and the identifiers that it and its next-hop lines name. -/
def namesFrom (header : Header) (top : Text) (hops : List Text) : Prefix × List Text :=
  (header.target, (top :: hops).filterMap nextHop?)

/-- A header line and next-hop lines below it are a paragraph, read as their prefix and the
next-hops that they name. -/
theorem read_paragraph {family : Family} {target : Prefix} {ids : List Text} {p : Paragraph}
    (hheader : header? family p.top = some ⟨target, none⟩)
    (hbelow : ∀ line ∈ p.below, isNextHopLine line = true)
    (hids : p.lines.filterMap nextHop? = ids) :
    (grammar family).IsParagraph p ∧
      (grammar family).readParagraph namesFrom p = some (target, ids) := by
  have htop : (grammar family).header? p.top = some ⟨target, none⟩ := hheader
  have hfilter : p.below.filter (grammar family).isNextHop = p.below :=
    List.filter_eq_self.2 hbelow
  refine ⟨⟨by rw [Grammar.isHeader, htop]; rfl, fun line hline => .inl (hbelow line hline)⟩, ?_⟩
  rw [Grammar.readParagraph, htop, Option.map_some, hfilter, namesFrom]
  exact congrArg (fun ids => some (target, ids)) hids

/-- The paragraph of a route. -/
def paragraphOf (route : Route) : Paragraph :=
  ⟨(routeLines route).headD [], (routeLines route).tail⟩

theorem describes_paragraphOf {route : Route} (h : Printable route) :
    (paragraphOf route).lines = routeLines route ∧
      Describes route (paragraphOf route).top (paragraphOf route).below := by
  obtain ⟨line, below, heq, hdescribes⟩ := describes_routeLines h
  rw [paragraphOf, heq]
  exact ⟨rfl, hdescribes⟩

/-- The paragraph of a route names its prefix and its next-hops. -/
theorem read_paragraphOf {route : Route} (h : Printable route) :
    (grammar route.target.family).IsParagraph (paragraphOf route) ∧
      (grammar route.target.family).readParagraph namesFrom (paragraphOf route) =
        some (route.target, route.nextHops.keys) := by
  obtain ⟨-, hdescribes⟩ := describes_paragraphOf h
  exact read_paragraph hdescribes.header hdescribes.hops hdescribes.ids

section

variable {family : Family} {routes : List Route}
  (h : ∀ route ∈ routes, Printable route ∧ route.target.family = family)
include h

theorem isDump_routeLines :
    (grammar family).IsDump (routes.map paragraphOf) (routes.flatMap routeLines) := by
  refine ⟨[], List.forall_mem_nil _, ?_⟩
  rw [List.nil_append, List.flatMap_map]
  exact List.flatMap_congr fun route hroute => (describes_paragraphOf (h route hroute).1).1.symm

/-- **The blocks of printed lines are the routes printed**, each with its prefix and next-hops. -/
theorem map_blocks_routeLines :
    ((grammar family).blocks (routes.flatMap routeLines)).map
        (fun block => (block.header.target, blockIds block)) =
      routes.map fun route => (route.target, route.nextHops.keys) := by
  refine Grammar.map_blocks_of_read (separates_grammar family) namesFrom (fun route hroute => ?_)
    (isDump_routeLines h)
  obtain ⟨hprintable, rfl⟩ := h route hroute
  exact read_paragraphOf hprintable

/-- The blocks of a prefix name the next-hops of the routes that have it. -/
theorem map_blocksFor (target : Prefix) :
    ((grammar family).blocksFor (routes.flatMap routeLines) target).map blockIds =
      (routes.filter (·.target == target)).map (·.nextHops.keys) := by
  have hpairs := congrArg (fun pairs => (pairs.filter (·.1 == target)).map (·.2))
    (map_blocks_routeLines h)
  simpa [List.filter_map, Function.comp_def, Grammar.blocksFor] using hpairs

end

/-- What is extracted has the identifiers of all blocks of the prefix, if there is one. -/
theorem extract_eq (lines : List Text) (query : Query) :
    extract lines query =
      match ((grammar query.target.family).blocksFor lines query.target).map blockIds with
      | [] => none
      | ids => some ((Route.empty query.target).insertAll
          (ids.flatten.map (·, NextHop.plain (query.protocol.getD .kernel)))) := by
  rw [extract]
  cases hblocks : (grammar query.target.family).blocksFor lines query.target with
  | nil => rfl
  | cons first rest =>
    have hfirst : first ∈ (grammar query.target.family).blocksFor lines query.target := by
      simp [hblocks]
    have htarget : first.header.target = query.target := by
      simpa using (List.mem_filter.1 hfirst).2
    simp only [htarget, List.map_cons, List.flatMap, blockIds]
    rfl

/-- What is extracted has the identifiers of the blocks of the prefix, of which there is one. -/
theorem exists_blocks_of_extract {lines : List Text} {query : Query} {route : Route}
    (h : extract lines query = some route) :
    ∃ blocks, blocks ≠ [] ∧
      (∀ block ∈ blocks, block ∈ (grammar query.target.family).blocks lines ∧
        block.header.target = query.target) ∧
      route = (Route.empty query.target).insertAll
        ((blocks.flatMap blockIds).map (·, NextHop.plain (query.protocol.getD .kernel))) := by
  refine ⟨(grammar query.target.family).blocksFor lines query.target, ?_, ?_, ?_⟩
  · rintro hnil
    rw [extract_eq, hnil] at h
    cases h
  · intro block hblock
    simpa using List.mem_filter.1 hblock
  · rw [extract_eq] at h
    split at h
    · cases h
    · rw [← Option.some.inj h, List.flatMap_def]

/-- A prefix that does not fit is in no dump. -/
theorem fits_of_extract {lines : List Text} {query : Query} {route : Route}
    (h : extract lines query = some route) : query.target.Fits := by
  obtain ⟨blocks, hne, hblocks, -⟩ := exists_blocks_of_extract h
  obtain ⟨block, rest, rfl⟩ := List.exists_cons_of_ne_nil hne
  obtain ⟨hblock, htarget⟩ := hblocks block List.mem_cons_self
  obtain ⟨i, line, header, -, hheader, rfl⟩ := Grammar.mem_blocks.1 hblock
  exact htarget ▸ fits_of_header? hheader

/-- The dump of one route is read as its identifiers. -/
theorem extract_print_singleton {route : Route} (h : Printable route) {query : Query}
    (htarget : route.target = query.target) :
    Format.kernel.extract (print [route]) query = some ((Route.empty query.target).insertAll
      (route.nextHops.keys.map (·, NextHop.plain (query.protocol.getD .kernel)))) := by
  have hlines : Text.lines (print [route]) = [route].flatMap routeLines :=
    lines_print (List.forall_mem_singleton.2 h)
  have hfamily : ∀ r ∈ [route], Printable r ∧ r.target.family = query.target.family :=
    List.forall_mem_singleton.2 ⟨h, congrArg Prefix.family htarget⟩
  have hids : ((grammar query.target.family).blocksFor ([route].flatMap routeLines)
      query.target).map blockIds = [route.nextHops.keys] := by
    rw [map_blocksFor hfamily]
    simp [htarget]
  show extract (Text.lines (print [route])) query = _
  rw [hlines, extract_eq, hids]
  simp

/-- **A kernel dump is read back as a union.** Of any printed routes of one family, all with
prefixes that fit, what is extracted for a prefix has the next-hops of all those with that prefix
and no others, without distance and metric and of the protocol that was asked for; if no route has
the prefix, nothing is extracted. -/
theorem extract_union (routes : List Route) (query : Query)
    (h : ∀ route ∈ routes, Printable route ∧ route.target.family = query.target.family) :
    if query.target ∈ routes.map (·.target) then
      ∃ seen, Format.kernel.extract (print routes) query = some seen ∧
        seen.target = query.target ∧
        ∀ id hop, seen.get? id = some hop ↔
          hop = NextHop.plain (query.protocol.getD .kernel) ∧
            ∃ route ∈ routes, route.target = query.target ∧ (route.get? id).isSome = true
    else Format.kernel.extract (print routes) query = none := by
  have hextract : Format.kernel.extract (print routes) query =
      extract (routes.flatMap routeLines) query := by
    rw [← lines_print fun route hroute => (h route hroute).1]
    rfl
  have hfound : ∀ route, route ∈ routes.filter (·.target == query.target) ↔
      route ∈ routes ∧ route.target = query.target := by simp
  rw [hextract, extract_eq, map_blocksFor h]
  generalize routes.filter (·.target == query.target) = found at hfound
  cases found with
  | nil =>
    have hnot : query.target ∉ routes.map (·.target) := by
      rintro hmem
      obtain ⟨route, hroute⟩ := List.mem_map.1 hmem
      exact absurd ((hfound route).2 hroute) List.not_mem_nil
    rw [if_neg hnot]
    rfl
  | cons first rest =>
    rw [if_pos (List.mem_map.2 ⟨first, (hfound first).1 List.mem_cons_self⟩)]
    refine ⟨_, rfl, Route.target_insertAll _ _, fun id hop => ?_⟩
    have hids : id ∈ ((first :: rest).map (·.nextHops.keys)).flatten ↔
        ∃ route ∈ routes, route.target = query.target ∧ (route.get? id).isSome = true := by
      rw [← List.flatMap_def, List.mem_flatMap]
      simp only [hfound, Keyed.mem_keys, and_assoc]
      rfl
    rw [Route.get?_insertAll_pair, Option.ite_none_right_eq_some, hids, Option.some.injEq,
      eq_comm (a := NextHop.plain _), and_comm]

/-- A default route over a gateway in a spelling of its own and a device that is called `via`,
once more as a blackhole and over a device that is called `dev`, and a host beside them. -/
def viaRoutes : List Route :=
  [((Route.empty (Prefix.defaultRoute .v6)).insert "via".toList (.plain .bgp)).insert
      "FE80:0::1".toList (.plain .static),
    Route.empty (Prefix.defaultRoute .v6),
    (Route.empty (Prefix.host (Family.unspecified .v6))).insert "a.via".toList (.plain .bgp),
    (Route.empty (Prefix.defaultRoute .v6)).insert "dev".toList (.plain .kernel)]

theorem extract_union_viaRoutes :
    (∀ route ∈ viaRoutes, Printable route ∧ route.target.family = .v6) ∧
      ∃ seen, Format.kernel.extract (print viaRoutes)
          ⟨Route.empty (Prefix.defaultRoute .v6), some .static, none⟩ = some seen ∧
        seen.target = Prefix.defaultRoute .v6 ∧
        ∀ id hop, seen.get? id = some hop ↔ hop = NextHop.plain .static ∧
          ∃ route ∈ viaRoutes, route.target = Prefix.defaultRoute .v6 ∧
            (route.get? id).isSome = true := by
  have h : ∀ route ∈ viaRoutes, Printable route ∧ route.target.family = .v6 := by
    have hall : ∀ route ∈ viaRoutes, (route.target.Fits ∧
        ∀ id ∈ route.nextHops.keys, Text.IsWord id) ∧ route.target.family = .v6 := by
      decide +kernel
    exact fun route hroute => ⟨⟨(hall route hroute).1.1, (hall route hroute).1.2⟩,
      (hall route hroute).2⟩
  have hunion := extract_union viaRoutes
    ⟨Route.empty (Prefix.defaultRoute .v6), some .static, none⟩ h
  rw [if_pos (by decide)] at hunion
  exact ⟨h, hunion⟩

/-- A route to a network. -/
def networkRoute : Route :=
  (Route.empty ⟨.v4 10 0 0 0, 24⟩).insert "1.1.1.1".toList (.plain .kernel)

/-- A route over two gateways whose prefix has one bit too many. -/
def overlongRoute : Route :=
  ((Route.empty ⟨.v4 10 0 0 0, 33⟩).insert "2.2.2.2".toList (.plain .kernel)).insert
    "3.3.3.3".toList (.plain .kernel)

/-- A record may hold a prefix that does not fit. The header line that is printed for it is not read
as one, so that its next-hop lines go to the route above, and for the prefix itself nothing is
extracted. -/
theorem extract_union_overlongRoute :
    let routes := [networkRoute, overlongRoute]
    (∃ value, Prefix.ofJson? value = some overlongRoute.target) ∧
      (∀ route ∈ routes, (∀ id ∈ route.nextHops.keys, Text.IsWord id) ∧
        route.target.family = .v4) ∧
      (∀ route ∈ routes, route.target = networkRoute.target →
        route.nextHops.keys = ["1.1.1.1".toList]) ∧
      overlongRoute.target ∈ routes.map (·.target) ∧
      Format.kernel.extract (print routes) ⟨networkRoute, none, none⟩ =
        some ((networkRoute.insert "2.2.2.2".toList (.plain .kernel)).insert "3.3.3.3".toList
          (.plain .kernel)) ∧
      Format.kernel.extract (print routes) ⟨overlongRoute, none, none⟩ = none := by
  exact ⟨⟨_, Prefix.ofJson?_toJson (by decide)⟩, by decide, by decide, by decide,
    by decide +kernel⟩

end RouteWatch.Kernel
