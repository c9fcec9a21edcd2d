/-
The canonical form of next-hops and routes. A comparison goes by texts, and
texts do not tell an absent distance from an empty one or a named protocol
from a tag that prints like it. Canonical next-hops have neither an empty
distance nor an empty metric, and their protocol reads as itself: for these,
equal texts mean equal next-hops.
-/
import RouteWatch.Proofs.Route.Basic
import RouteWatch.Proofs.Route.Protocol
import RouteWatch.Route.Mapping

namespace RouteWatch

namespace NextHop

structure Canonical (hop : NextHop) : Prop where
  distance : hop.distance ≠ some []
  metric : hop.metric ≠ some []
  protocol : hop.protocol.Canonical

theorem present?_ne_empty (s : Text) : present? s ≠ some [] := by
  unfold present?
  split
  · simp
  · rename_i hs
    intro h
    exact hs (by simp [Option.some.inj h])

theorem canonical_make (distance metric : Text) {protocol : Protocol} (h : protocol.Canonical) :
    (make distance metric protocol).Canonical where
  distance := present?_ne_empty distance
  metric := present?_ne_empty metric
  protocol := h

theorem canonical_plain {protocol : Protocol} (h : protocol.Canonical) :
    (plain protocol).Canonical where
  distance := nofun
  metric := nofun
  protocol := h

theorem eq_of_getD {a b : Option Text} (ha : a ≠ some []) (hb : b ≠ some [])
    (h : a.getD [] = b.getD []) : a = b := by
  cases a with
  | none =>
    cases b with
    | none => rfl
    | some t => exact absurd (congrArg some h.symm) hb
  | some s =>
    cases b with
    | none => exact absurd (congrArg some h) ha
    | some t => exact congrArg some h

/-- Canonical next-hops with the same texts are the same. -/
theorem Canonical.eq_of_text {a b : NextHop} (ha : a.Canonical) (hb : b.Canonical)
    (h : ∀ field, a.text field = b.text field) : a = b := by
  have hdistance : a.distance = b.distance := eq_of_getD ha.distance hb.distance (h .distance)
  have hmetric : a.metric = b.metric := eq_of_getD ha.metric hb.metric (h .metric)
  have hprotocol : a.protocol = b.protocol := ha.protocol.eq_of_print hb.protocol (h .protocol)
  cases a
  cases b
  simp only [mk.injEq]
  exact ⟨hdistance, hmetric, hprotocol⟩

end NextHop

namespace Route

/-- All next-hops are canonical. -/
def Canonical (route : Route) : Prop := ∀ id hop, route.get? id = some hop → hop.Canonical

theorem canonical_empty (target : Prefix) : (empty target).Canonical := by
  intro id hop h
  simp at h

theorem Canonical.of_mem_hops {route : Route} (h : route.Canonical) {hop : Text × NextHop}
    (hmem : hop ∈ route.hops) : hop.2.Canonical := h hop.1 hop.2 (get?_eq_some.2 hmem)

theorem Canonical.insertAll {route : Route} (h : route.Canonical) {hops : List (Text × NextHop)}
    (hhops : ∀ hop ∈ hops, hop.2.Canonical) : (route.insertAll hops).Canonical := by
  intro id hop hget
  rw [get?_insertAll, Option.or_eq_some_iff] at hget
  rcases hget with hnew | ⟨-, hold⟩
  · exact hhops (id, hop) (List.mem_reverse.1 (mem_of_valueOf? hnew))
  · exact h id hop hold

theorem Canonical.keep? {route : Route} (h : route.Canonical) (protocol : Option Protocol) :
    (route.keep? protocol).Canonical := fun id hop hget => h id hop (get?_keep?.1 hget).1

end Route
end RouteWatch
