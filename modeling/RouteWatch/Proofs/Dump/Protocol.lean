/-
The protocol that is asked for. The displays and the database entry read every
next-hop and keep those of the protocol, and the kernel's next-hops, which
name none, are taken to be of it. The running configuration alone takes no
notice: it answers with next-hops as they are expected, so there the protocol
is kept to only as far as the expected route does.
-/
import RouteWatch.Proofs.Dump.DatabaseEntry
import RouteWatch.Proofs.Dump.Display
import RouteWatch.Proofs.Dump.Kernel
import RouteWatch.Proofs.Dump.RunningConfig

namespace RouteWatch

/-- All next-hops are of one protocol. -/
def Route.IsOf (route : Route) (protocol : Protocol) : Prop :=
  ∀ id hop, route.get? id = some hop → hop.protocol = protocol

namespace Route

theorem isOf_empty (target : Prefix) (protocol : Protocol) : (empty target).IsOf protocol := by
  intro id hop h
  simp at h

theorem isOf_keep? (route : Route) (protocol : Protocol) :
    (route.keep? (some protocol)).IsOf protocol := by
  intro id hop h
  exact (get?_keep?.1 h).2 protocol rfl

theorem isOf_insertAll_plain (target : Prefix) (ids : List Text) (protocol : Protocol) :
    ((empty target).insertAll (ids.map (·, NextHop.plain protocol))).IsOf protocol := by
  intro id hop h
  rw [get?_insertAll_pair, Option.ite_none_right_eq_some] at h
  obtain rfl := Option.some.inj h.2
  rfl

end Route

section

variable {lines : List Text} {query : Query} {protocol : Protocol}
  (hasked : query.protocol = some protocol) {route : Route}
include hasked

theorem Display.isOf_extract {kind : Display.Kind} (h : extract kind lines query = some route) :
    route.IsOf protocol := by
  obtain ⟨block, -, -, rfl⟩ := exists_block_of_extract h
  rw [hasked]
  exact Route.isOf_keep? _ protocol

theorem Kernel.isOf_extract (h : extract lines query = some route) : route.IsOf protocol := by
  obtain ⟨blocks, -, -, rfl⟩ := exists_blocks_of_extract h
  rw [hasked, Option.getD_some]
  exact Route.isOf_insertAll_plain _ _ protocol

theorem DatabaseEntry.isOf_extract (h : extract lines query = some route) :
    route.IsOf protocol := by
  rcases exists_ids_of_extract h with rfl | ⟨ids, rfl⟩
  · exact Route.isOf_empty _ protocol
  · rw [hasked]
    exact Route.isOf_keep? _ protocol

/-- **The protocol that is asked for is the only one extracted**, in every format but the running
configuration, and there too if all expected next-hops are of it. A running configuration is read
as if no protocol had been asked for, and its next-hops are those expected, whatever they are of. -/
theorem Format.extract_narrowed {format : Format} {text : Text}
    (h : format.extract text query = some route) :
    (format ≠ .runningConfig → route.IsOf protocol) ∧
    (query.expected.IsOf protocol → route.IsOf protocol) ∧
    (format = .runningConfig →
      format.extract text { query with protocol := none } = some route ∧
        ∀ id hop, route.get? id = some hop → query.expected.get? id = some hop) := by
  cases format with
  | rib =>
    have hroute : route.IsOf protocol := Display.isOf_extract hasked h
    exact ⟨fun _ => hroute, fun _ => hroute, nofun⟩
  | fib =>
    have hroute : route.IsOf protocol := Display.isOf_extract hasked h
    exact ⟨fun _ => hroute, fun _ => hroute, nofun⟩
  | kernel =>
    have hroute : route.IsOf protocol := Kernel.isOf_extract hasked h
    exact ⟨fun _ => hroute, fun _ => hroute, nofun⟩
  | applDb =>
    have hroute : route.IsOf protocol := DatabaseEntry.isOf_extract hasked h
    exact ⟨fun _ => hroute, fun _ => hroute, nofun⟩
  | runningConfig =>
    have hexpected : ∀ id hop, route.get? id = some hop → query.expected.get? id = some hop :=
      fun id hop hget => (((RunningConfig.extract_eq_some h).2 id hop).1 hget).1
    exact ⟨fun hne => absurd rfl hne,
      fun hall id hop hget => hall id hop (hexpected id hop hget), fun _ => ⟨h, hexpected⟩⟩

end

/-- A route over two gateways of different protocols. -/
def twofoldRoute : Route :=
  (Route.empty ⟨.v4 10 0 0 0, 24⟩).insertAll
    [("10.1.1.1".toList, .plain .static), ("10.1.1.2".toList, .plain .bgp)]

/-- Of a display that has both gateways, only the one of the protocol that is asked for. -/
theorem Format.extract_narrowed_twofoldRoute :
    let text := "10.0.0.0/24\n via 10.1.1.1, [1/0], static\n via 10.1.1.2, [20/0], bgp".toList
    let query : Query := ⟨twofoldRoute, some .bgp, none⟩
    let route := (Route.empty ⟨.v4 10 0 0 0, 24⟩).insert "10.1.1.2".toList
      ⟨some "20".toList, some ['0'], .bgp⟩
    query.protocol = some .bgp ∧ fib.extract text query = some route ∧ route.IsOf .bgp := by
  intro text query route
  have hasked : query.protocol = some Protocol.bgp := rfl
  have h : fib.extract text query = some route := by decide +kernel
  exact ⟨hasked, h, (Format.extract_narrowed hasked h).1 (by decide)⟩

/-- A running configuration that has both gateways is read as having both, though only one of them
is of the protocol that is asked for. -/
theorem runningConfig_not_narrowed :
    ¬ ∀ (format : Format) (text : Text) (query : Query) (protocol : Protocol) (route : Route),
      query.protocol = some protocol → (∃ s, protocol = Protocol.read s) →
        format.extract text query = some route → route.IsOf protocol := by
  intro hall
  have h : Format.runningConfig.extract
      "ip route 10.0.0.0/24 10.1.1.1\nip route 10.0.0.0/24 10.1.1.2".toList
      ⟨twofoldRoute, some .static, none⟩ = some twofoldRoute := by decide +kernel
  have hof := hall .runningConfig _ _ .static twofoldRoute rfl ⟨"static".toList, by decide⟩ h
  exact absurd (hof "10.1.1.2".toList (.plain .bgp) (by decide)) (by decide)

end RouteWatch
