/-
What any dump is read as, however broken its text: a route to the prefix that
was looked for, and a canonical one. Every format builds its next-hops from
`NextHop.make` or `NextHop.plain` with a protocol that was read from a text or
asked for, except the running configuration, which answers with next-hops of
the expected route.
-/
import RouteWatch.Proofs.Dump.DatabaseEntry
import RouteWatch.Proofs.Dump.Display
import RouteWatch.Proofs.Dump.Kernel
import RouteWatch.Proofs.Dump.RunningConfig
import RouteWatch.Proofs.Route.Canonical

namespace RouteWatch

/-- What a query must hold for its answers to be canonical. -/
structure Query.Canonical (query : Query) : Prop where
  expected : query.expected.Canonical
  protocol : ∀ p, query.protocol = some p → p.Canonical

/-- The route answers the query: it has the prefix and is canonical. -/
structure Query.Answer (query : Query) (route : Route) : Prop where
  target : route.target = query.target
  canonical : route.Canonical

namespace Query

theorem Canonical.getD_protocol {query : Query} (h : query.Canonical) :
    (query.protocol.getD .kernel).Canonical := by
  cases hp : query.protocol with
  | none => exact (by decide : Protocol.kernel.Canonical)
  | some p => exact h.protocol p hp

/-- Canonical next-hops put into a route without any. -/
theorem Answer.insertAll {query : Query} {target : Prefix} {hops : List (Text × NextHop)}
    (ht : target = query.target) (h : ∀ hop ∈ hops, hop.2.Canonical) :
    query.Answer ((Route.empty target).insertAll hops) where
  target := by rw [Route.target_insertAll]; exact ht
  canonical := (Route.canonical_empty target).insertAll h

theorem Answer.keep? {query : Query} {route : Route} (h : query.Answer route)
    (protocol : Option Protocol) : query.Answer (route.keep? protocol) where
  target := by rw [Route.target_keep?]; exact h.target
  canonical := h.canonical.keep? protocol

end Query

/-! ## The formats -/

/-- Whatever line is read as a next-hop, neither number of it is empty. -/
theorem Display.canonical_of_nextHop? {line id : Text} {hop : NextHop}
    (h : nextHop? line = some (id, hop)) : hop.Canonical := by
  obtain ⟨hlegible, -⟩ := legibleHop_of_nextHop? h
  exact ⟨fun hdistance => (hlegible.distance [] hdistance).1 rfl,
    fun hmetric => (hlegible.metric [] hmetric).1 rfl, hlegible.protocol⟩

theorem Display.extract_answer {kind : Display.Kind} {lines : List Text} {query : Query}
    {route : Route} (h : extract kind lines query = some route) : query.Answer route := by
  obtain ⟨block, -, htarget, rfl⟩ := exists_block_of_extract h
  refine Query.Answer.keep? ⟨(target_routeOf block).trans htarget, fun id hop hget => ?_⟩ _
  obtain ⟨line, -, hline⟩ := exists_line_of_routeOf hget
  exact canonical_of_nextHop? hline

theorem Kernel.extract_answer {lines : List Text} {query : Query} (hq : query.Canonical)
    {route : Route} (h : extract lines query = some route) : query.Answer route := by
  obtain ⟨blocks, -, -, rfl⟩ := exists_blocks_of_extract h
  exact Query.Answer.insertAll rfl (List.forall_mem_map.2 fun _ _ =>
    NextHop.canonical_plain hq.getD_protocol)

theorem RunningConfig.extract_answer {lines : List Text} {query : Query} (hq : query.Canonical)
    {route : Route} (h : extract lines query = some route) : query.Answer route where
  target := (extract_eq_some h).1
  canonical id hop hget := hq.expected id hop (((extract_eq_some h).2 id hop).1 hget).1

theorem DatabaseEntry.canonical_protocolOf (entry : Keyed Text) {query : Query}
    (hq : query.Canonical) : (protocolOf entry query).Canonical := by
  unfold protocolOf
  split
  · exact Protocol.canonical_read _
  · exact hq.getD_protocol

theorem DatabaseEntry.extract_answer {lines : List Text} {query : Query} (hq : query.Canonical)
    {route : Route} (h : extract lines query = some route) : query.Answer route := by
  rcases exists_ids_of_extract h with rfl | ⟨ids, rfl⟩
  · exact ⟨rfl, Route.canonical_empty _⟩
  · refine Query.Answer.keep? (Query.Answer.insertAll rfl ?_) query.protocol
    exact List.forall_mem_map.2 fun _ _ => NextHop.canonical_plain (canonical_protocolOf _ hq)

/-- **Whatever is extracted answers the query**, in every format and from any text. -/
theorem Format.extract_answer {format : Format} {text : Text} {query : Query}
    (hq : query.Canonical) {route : Route} (h : format.extract text query = some route) :
    query.Answer route := by
  cases format with
  | rib => exact Display.extract_answer h
  | fib => exact Display.extract_answer h
  | kernel => exact Kernel.extract_answer hq h
  | runningConfig => exact RunningConfig.extract_answer hq h
  | applDb => exact DatabaseEntry.extract_answer hq h

end RouteWatch
