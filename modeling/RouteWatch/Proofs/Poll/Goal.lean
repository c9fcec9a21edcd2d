/-
What a tick decides. Differences are found by comparing texts, and still a
dump satisfies a goal exactly by the route read from it: both the expected
route, which comes from a mapping form, and the observed one are canonical,
so no two different routes look alike.
-/
import RouteWatch.Poll.Watch
import RouteWatch.Proofs.Dump.Canonical
import RouteWatch.Proofs.Route.Difference
import RouteWatch.Proofs.Route.Mapping

namespace RouteWatch

theorem Goal.isSatisfied_present {differences : List Difference} :
    present.isSatisfied differences = true ↔ differences = [] := List.isEmpty_iff

theorem Goal.isSatisfied_absent {differences : List Difference} :
    absent.isSatisfied differences = true ↔ differences ≠ [] := by
  rw [isSatisfied, Bool.not_eq_true', List.isEmpty_eq_false_iff]

/-- The query of a route that was read from a mapping form, for a protocol that was read. -/
theorem Query.canonical_of_mapping {query : Query} {value : Json}
    (he : Route.ofMapping value = .ok query.expected)
    (hp : ∀ p, query.protocol = some p → ∃ s, p = Protocol.read s) : query.Canonical where
  expected := Route.canonical_of_mapping he
  protocol := by
    intro p h
    obtain ⟨s, rfl⟩ := hp p h
    exact Protocol.canonical_read s

/-- **A tick is decided by equality of routes.** In every format and for every text, what is
extracted has the prefix that was looked for and is canonical, the comparison never tells of
another prefix, and the route counts as present exactly when the expected route itself was
extracted, as absent exactly when it was not. -/
theorem isSatisfied_iff_extracted (format : Format) (text : Text) (query : Query) (value : Json)
    (he : Route.ofMapping value = .ok query.expected)
    (hp : ∀ p, query.protocol = some p → ∃ s, p = Protocol.read s) :
    (∀ route, format.extract text query = some route →
      route.target = query.target ∧ ∀ id hop, route.get? id = some hop →
        hop.distance ≠ some [] ∧ hop.metric ≠ some [] ∧
          Protocol.read hop.protocol.print = hop.protocol) ∧
    (∀ a b, Difference.target a b ∉
      query.expected.differences (format.extract text query)) ∧
    (Goal.present.isSatisfied (query.expected.differences (format.extract text query)) = true ↔
      format.extract text query = some query.expected) ∧
    (Goal.absent.isSatisfied (query.expected.differences (format.extract text query)) = true ↔
      format.extract text query ≠ some query.expected) := by
  have hquery : query.Canonical := Query.canonical_of_mapping he hp
  have hanswer : ∀ route, format.extract text query = some route → query.Answer route :=
    fun route h => Format.extract_answer hquery h
  have hnil : query.expected.differences (format.extract text query) = [] ↔
      format.extract text query = some query.expected :=
    hquery.expected.differences_eq_nil fun route h => (hanswer route h).canonical
  refine ⟨fun route h => ⟨(hanswer route h).target, fun id hop hget => ?_⟩,
    Route.target_not_mem_differences fun route h => (hanswer route h).target, ?_, ?_⟩
  · have hhop : hop.Canonical := (hanswer route h).canonical id hop hget
    exact ⟨hhop.distance, hhop.metric, hhop.protocol⟩
  · rw [Goal.isSatisfied_present, hnil]
  · rw [Goal.isSatisfied_absent, ne_eq, hnil]

theorem isSatisfied_iff_extracted_default :
    let expected : Route := (Route.empty (Prefix.defaultRoute .v4)).insert "Ethernet0".toList
      (NextHop.plain (.other "rip".toList))
    let query : Query := ⟨expected, some (.other "rip".toList), none⟩
    let value : Json := .object [(routeKey, .string "0.0.0.0/0".toList),
      ("Ethernet0".toList, .object [(Field.protocol.key, .string " RIP".toList)])]
    let text : Text := "default dev Ethernet0".toList
    let differences := query.expected.differences (Format.kernel.extract text query)
    (Route.ofMapping value = .ok query.expected ∧
      (∀ p, query.protocol = some p → ∃ s, p = Protocol.read s) ∧
      Format.kernel.extract text query = some query.expected) ∧
    query.expected.target = query.target ∧
    (∀ id hop, query.expected.get? id = some hop →
      hop.distance ≠ some [] ∧ hop.metric ≠ some [] ∧
        Protocol.read hop.protocol.print = hop.protocol) ∧
    (∀ a b, Difference.target a b ∉ differences) ∧
    Goal.present.isSatisfied differences = true ∧
    ¬ Goal.absent.isSatisfied differences = true := by
  intro expected query value text differences
  have he : Route.ofMapping value = .ok query.expected := by rfl
  have hp : ∀ p, query.protocol = some p → ∃ s, p = Protocol.read s := by
    rintro p ⟨⟩
    exact ⟨"rip".toList, by decide⟩
  have hextract : Format.kernel.extract text query = some query.expected := by decide +kernel
  obtain ⟨hroute, htarget, hpresent, habsent⟩ :=
    isSatisfied_iff_extracted .kernel text query value he hp
  obtain ⟨hsame, hhops⟩ := hroute query.expected hextract
  exact ⟨⟨he, hp, hextract⟩, hsame, hhops, htarget, hpresent.2 hextract,
    fun h => habsent.1 h hextract⟩

end RouteWatch
