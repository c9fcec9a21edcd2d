/-
An entry is read back as the route for which it was printed. Two lists are
printed, and each identifier stands in one of them: a gateway in the first,
before the interface that all gateways share, and an interface in the second,
behind the address of zeros. Reading takes the one that tells, place by
place, so it does not matter what an identifier looks like, as long as it
fits into a list and is not itself an address of zeros.
-/
import RouteWatch.Dump.DatabaseEntry.Printer
import RouteWatch.Dump.Format
import RouteWatch.Proofs.Dump.DatabaseEntry.Fields
import RouteWatch.Proofs.Route.Basic
import RouteWatch.Proofs.Route.Protocol

namespace RouteWatch.DatabaseEntry

/-! ## Lists -/

/-- The text fits into a list on one line. -/
structure IsItem (s : Text) : Prop where
  ne_nil : s ≠ []
  trimmed : Text.Trimmed s
  no_comma : ',' ∉ s
  no_feed : '\n' ∉ s

/-- The identifier fits into a list and is not an address of zeros. -/
structure IsMember (id : Text) : Prop extends IsItem id where
  specified : ∀ address, Address.read? id = some address → address.isUnspecified = false

theorem IsItem.isUnspecified_eq_false {id : Text} (h : IsItem id) : isUnspecified id = false ↔
    ∀ address, Address.read? id = some address → address.isUnspecified = false := by
  have hne : id.isEmpty = false := by simpa using h.ne_nil
  rw [isUnspecified, hne, Bool.false_or]
  cases Address.read? id with
  | none => simp
  | some address => simp

theorem isUnspecified_print (family : Family) : isUnspecified family.unspecified.print = true := by
  cases family <;> decide

theorem isItem_unspecified (family : Family) : IsItem family.unspecified.print := by
  cases family <;> exact ⟨by decide, by decide, by decide, by decide⟩

theorem isItem_egress : IsItem Kernel.egress := ⟨by decide, by decide, by decide, by decide⟩

theorem isItem_memberOf (family : Family) {id : Text} (h : IsItem id) :
    IsItem (memberOf family id).1 ∧ IsItem (memberOf family id).2 := by
  unfold memberOf
  split
  · exact ⟨h, isItem_egress⟩
  · exact ⟨isItem_unspecified family, h⟩

section

variable {items : List Text} (h : ∀ s ∈ items, IsItem s)
include h

theorem trimmed_list : Text.Trimmed (Text.joinWith [','] items) :=
  Text.trimmed_joinWith [','] fun s hs => ⟨(h s hs).trimmed, (h s hs).ne_nil⟩

theorem no_feed_list : '\n' ∉ Text.joinWith [','] items := by
  intro hmem
  rcases Text.mem_joinWith hmem with hmem | ⟨s, hs, hmem⟩
  · exact absurd hmem (by decide)
  · exact (h s hs).no_feed hmem

theorem list_ne_nil (hne : items ≠ []) : Text.joinWith [','] items ≠ [] := by
  obtain ⟨s, items, rfl⟩ := List.exists_cons_of_ne_nil hne
  exact Text.joinWith_ne_nil (h s (by simp)).ne_nil

theorem members_list (hne : items ≠ []) : members (some (Text.joinWith [','] items)) = items := by
  rw [members, Text.splitOn_joinWith hne fun s hs => (h s hs).no_comma]
  exact Text.map_trim fun s hs => (h s hs).trimmed

end

/-- The identifier at one place of the two lists. -/
def idOf (place : Text × Text) : Text := if isUnspecified place.1 then place.2 else place.1

/-- The identifiers of two parallel lists are taken place by place. -/
theorem identifiers_map : ∀ places : List (Text × Text),
    identifiers (places.map (·.1)) (places.map (·.2)) = places.map idOf
  | [] => rfl
  | place :: places => by
    simp only [List.map_cons, identifiers, List.head?_cons, Option.getD_some, List.tail_cons,
      identifiers_map places, idOf]

/-- **Of each pair the identifier is taken that was put in.** -/
theorem map_idOf_memberOf (family : Family) {ids : List Text} (h : ∀ id ∈ ids, IsMember id) :
    (ids.map (memberOf family)).map idOf = ids := by
  rw [List.map_map]
  refine (List.map_congr_left fun id hid => ?_).trans (List.map_id ids)
  have hspecified := (h id hid).isUnspecified_eq_false.2 (h id hid).specified
  show idOf (memberOf family id) = id
  unfold idOf memberOf
  split
  · simp [hspecified]
  · simp [isUnspecified_print family]

/-- What is extracted is a blackhole, or some identifiers with the protocol of the entry. -/
theorem exists_ids_of_extract {lines : List Text} {query : Query} {route : Route}
    (h : extract lines query = some route) :
    route = Route.empty query.target ∨ ∃ ids : List Text,
      route = ((Route.empty query.target).insertAll
        (ids.map (·, .plain (protocolOf (fields lines) query)))).keep? query.protocol := by
  simp only [extract] at h
  split at h
  · cases h
  · split at h
    · exact .inl (Option.some.inj h).symm
    · exact .inr ⟨_, (Option.some.inj h).symm⟩

/-! ## An entry with both lists -/

/-- The two parallel lists of an entry have these members, place by place. -/
def HasMembers (entry places rest : List (Text × Text)) : Prop :=
  ∃ gateways interfaces,
    entry.Perm ((gatewaysField, gateways) :: (interfacesField, interfaces) :: rest) ∧
      members (some gateways) = places.map (·.1) ∧ members (some interfaces) = places.map (·.2)

/-- The route of an entry, from its other fields and the members of its lists. -/
def routeFrom (rest : Keyed Text) (places : List (Text × Text)) (query : Query) : Route :=
  ((Route.empty query.target).insertAll (((places.map idOf).filter (!·.isEmpty)).map
    (·, .plain (protocolOf rest query)))).keep? query.protocol

/-- **An entry with both lists is extracted place by place**, unless it is a blackhole. -/
theorem extract_of_hasMembers {lines : List Text} {entry places rest : List (Text × Text)}
    (hreplies : Replies lines entry) (hn : (entry.map (·.1)).Nodup)
    (h : HasMembers entry places rest) (query : Query) :
    extract lines query =
      if (valueOf? blackholeField rest).isSome then some (Route.empty query.target)
      else some (routeFrom (Keyed.ofList rest) places query) := by
  obtain ⟨gateways, interfaces, hperm, hgateways, hinterfaces⟩ := h
  have hnodup := (hperm.map (·.1)).nodup hn
  have hrest : (rest.map (·.1)).Nodup := (List.nodup_cons.1 (List.nodup_cons.1 hnodup).2).2
  have hget : ∀ name, (fields lines).get? name =
      valueOf? name ((gatewaysField, gateways) :: (interfacesField, interfaces) :: rest) := by
    intro name
    rw [hreplies.fields_eq, Keyed.ofList_perm hperm hn, Keyed.get?_ofList hnodup]
  have hother : ∀ name, name ≠ gatewaysField → name ≠ interfacesField →
      (fields lines).get? name = valueOf? name rest := by
    intro name hg hi
    rw [hget]
    simp [valueOf?, Ne.symm hg, Ne.symm hi]
  have hblackhole := hother blackholeField (by decide) (by decide)
  have hgatewaysField : (fields lines).get? gatewaysField = some gateways := by
    rw [hget]
    rfl
  have hinterfacesField : (fields lines).get? interfacesField = some interfaces := by
    rw [hget]
    rfl
  have hprotocol : protocolOf (fields lines) query = protocolOf (Keyed.ofList rest) query := by
    rw [protocolOf, protocolOf, hother protocolField (by decide) (by decide),
      Keyed.get?_ofList hrest]
  have hsize : (fields lines).size ≠ 0 := Keyed.size_ne_zero.2 ⟨_, _, hgatewaysField⟩
  simp only [extract, routeFrom, hsize, if_false, hblackhole, hgatewaysField, hinterfacesField,
    hgateways, hinterfaces, identifiers_map, hprotocol]

/-! ## The entry of a route -/

/-- The entry that lists identifiers. -/
def listEntry (family : Family) (ids : List Text) (protocol : Protocol) : List (Text × Text) :=
  [(gatewaysField, Text.joinWith [','] ((ids.map (memberOf family)).map (·.1))),
    (interfacesField, Text.joinWith [','] ((ids.map (memberOf family)).map (·.2))),
    (protocolField, protocol.print)]

section

variable {family : Family} {ids : List Text} (hids : ∀ id ∈ ids, IsMember id)
include hids

theorem isItem_gateways : ∀ s ∈ (ids.map (memberOf family)).map (·.1), IsItem s := by
  simp only [List.map_map, List.forall_mem_map]
  exact fun id hid => (isItem_memberOf family (hids id hid).toIsItem).1

theorem isItem_interfaces : ∀ s ∈ (ids.map (memberOf family)).map (·.2), IsItem s := by
  simp only [List.map_map, List.forall_mem_map]
  exact fun id hid => (isItem_memberOf family (hids id hid).toIsItem).2

variable (hne : ids ≠ []) {protocol : Protocol} (hprotocol : protocol.Canonical)
  (hfeed : '\n' ∉ protocol.print)
include hprotocol hfeed

theorem wellFormed_listEntry : WellFormed (listEntry family ids protocol) where
  nodup := by
    show [gatewaysField, interfacesField, protocolField].Nodup
    decide
  named := by
    have hnames : ∀ name ∈ (listEntry family ids protocol).map (·.1), name ≠ [] := by
      show ∀ name ∈ [gatewaysField, interfacesField, protocolField], name ≠ []
      decide
    exact fun field hfield => hnames field.1 (List.mem_map_of_mem hfield)
  trimmed := by
    simp only [listEntry, fieldLines_cons, List.forall_mem_cons]
    exact ⟨by decide, trimmed_list (isItem_gateways hids), by decide,
      trimmed_list (isItem_interfaces hids), by decide, hprotocol.trimmed_print, nofun⟩
  no_feed := by
    simp only [listEntry, fieldLines_cons, List.forall_mem_cons]
    exact ⟨by decide, no_feed_list (isItem_gateways hids), by decide,
      no_feed_list (isItem_interfaces hids), by decide, hfeed, nofun⟩

include hne

/-- The entry has no empty value, so no line of it is lost. -/
theorem replies_listEntry :
    Replies (Text.lines (reply (listEntry family ids protocol)))
      (listEntry family ids protocol) := by
  have hvalues : ∀ field ∈ listEntry family ids protocol, field.2 ≠ [] := by
    simp only [listEntry, List.forall_mem_cons]
    exact ⟨list_ne_nil (isItem_gateways hids) (by simpa using hne),
      list_ne_nil (isItem_interfaces hids) (by simpa using hne), hprotocol.print_ne_nil, nofun⟩
  simpa using replies_reply (wellFormed_listEntry hids hprotocol hfeed) (.inl rfl) hvalues

/-- What is extracted from the entry are the identifiers that it lists. -/
theorem extract_listEntry (query : Query) :
    extract (Text.lines (reply (listEntry family ids protocol))) query =
      some (((Route.empty query.target).insertAll (ids.map (·, .plain protocol))).keep?
        query.protocol) := by
  have hmembers : HasMembers (listEntry family ids protocol) (ids.map (memberOf family))
      [(protocolField, protocol.print)] :=
    ⟨_, _, .refl _, members_list (isItem_gateways hids) (by simpa using hne),
      members_list (isItem_interfaces hids) (by simpa using hne)⟩
  have hblackhole : valueOf? blackholeField [(protocolField, protocol.print)] = none := rfl
  have hread : protocolOf (Keyed.ofList [(protocolField, protocol.print)]) query = protocol :=
    hprotocol
  have hnonempty : ids.filter (!·.isEmpty) = ids := by
    rw [List.filter_eq_self]
    intro id hid
    simpa using (hids id hid).ne_nil
  rw [extract_of_hasMembers (replies_listEntry hids hne hprotocol hfeed)
    (wellFormed_listEntry hids hprotocol hfeed).nodup hmembers, hblackhole, Option.isSome_none,
    if_neg Bool.false_ne_true, routeFrom, hread, map_idOf_memberOf family hids, hnonempty]

end

/-! ## The route that is printed -/

/-- All next-hops have this protocol alone, and everything fits on the lines of an entry. -/
structure Printable (route : Route) (protocol : Protocol) : Prop where
  plain : ∀ id hop, route.get? id = some hop → hop = .plain protocol
  members : ∀ id ∈ route.nextHops.keys, IsMember id
  canonical : ∃ s, protocol = Protocol.read s
  no_feed : '\n' ∉ protocol.print

section

variable {route : Route} {protocol : Protocol} (h : Printable route protocol)
include h

/-- The route has the listed identifiers, all with the same attributes. -/
theorem Printable.insertAll_keys :
    (Route.empty route.target).insertAll (route.nextHops.keys.map (·, .plain protocol)) =
      route := Route.insertAll_keys h.plain

/-- Nothing is lost when that protocol is asked for. -/
theorem Printable.keep?_eq {asked : Option Protocol} (hasked : ∀ p, asked = some p → p = protocol) :
    route.keep? asked = route := by
  refine Route.ext_get? (Route.target_keep? _ _) fun id => ?_
  ext hop
  rw [Route.get?_keep?]
  constructor
  · exact And.left
  · intro hget
    refine ⟨hget, fun p hp => ?_⟩
    rw [h.plain id hop hget, hasked p hp]
    rfl

theorem Printable.print_eq (hcount : route.count ≠ 0) :
    print (some route) =
      reply (listEntry route.target.family route.nextHops.keys protocol) := by
  have hne : route.hops ≠ [] := fun hnil => hcount (congrArg List.length hnil)
  obtain ⟨hop, hops, hhops⟩ := List.exists_cons_of_ne_nil hne
  have hprotocol : hop.2.protocol = protocol := by
    rw [h.plain hop.1 hop.2 (Route.get?_eq_some.2 (by simp [hhops]))]
    rfl
  have hkeys : route.nextHops.keys.isEmpty = false :=
    List.isEmpty_eq_false_iff.2 fun hnil => hcount (Keyed.keys_eq_nil.1 hnil)
  simp only [print, printLines, hhops, hprotocol, hkeys]
  rfl

end

/-- A route without next-hops is printed as a blackhole. -/
theorem extract_blackhole (target : Prefix) (query : Query) :
    extract (Text.lines (print (some (Route.empty target)))) query =
      some (Route.empty query.target) := by
  rfl

/-- **What is extracted from a printed entry is the route itself**, for its prefix and for its own
protocol or none; a route without next-hops is extracted whatever protocol is asked for. Where
there is no entry nothing is extracted. -/
theorem extract_entry {route : Route} {protocol : Protocol} (h : Printable route protocol)
    {query : Query} (htarget : query.target = route.target)
    (hasked : ∀ p, query.protocol = some p → p = protocol ∨ route.count = 0) :
    Format.applDb.extract (print (some route)) query = some route ∧
      Format.applDb.extract (print none) query = none := by
  refine ⟨?_, rfl⟩
  show extract (Text.lines (print (some route))) query = some route
  by_cases hcount : route.count = 0
  · have hempty : route = Route.empty route.target := by
      rw [← h.insertAll_keys, Keyed.keys_eq_nil.2 hcount]
      rfl
    rw [hempty, extract_blackhole, htarget]
  · obtain ⟨s, hs⟩ := h.canonical
    have hcanonical : protocol.Canonical := hs ▸ Protocol.canonical_read s
    have hne : route.nextHops.keys ≠ [] := fun hnil => hcount (Keyed.keys_eq_nil.1 hnil)
    have hkeep := h.keep?_eq fun p hp => (hasked p hp).resolve_right hcount
    rw [h.print_eq hcount, extract_listEntry h.members hne hcanonical h.no_feed, htarget,
      h.insertAll_keys, hkeep]

/-- A default route over a gateway in a spelling of its own, a gateway of the other family and a
device with a blank in its name. -/
def mixedRoute : Route :=
  (Route.empty (Prefix.defaultRoute .v6)).insertAll
    (["FE80:0::1".toList, "10.1.1.1".toList, "Port 4".toList].map
      (·, .plain (.other "rip".toList)))

theorem extract_entry_mixedRoute :
    Printable mixedRoute (.other "rip".toList) ∧
      (∀ p, some (Protocol.other "rip".toList) = some p →
        p = .other "rip".toList ∨ mixedRoute.count = 0) ∧
      Format.applDb.extract (print (some mixedRoute))
        ⟨Route.empty (Prefix.defaultRoute .v6), some (.other "rip".toList), none⟩ =
        some mixedRoute := by
  have hkeys : mixedRoute.nextHops.keys =
      ["10.1.1.1".toList, "FE80:0::1".toList, "Port 4".toList] := by rfl
  have hitem : ∀ id ∈ mixedRoute.nextHops.keys, IsItem id := by
    rw [hkeys]
    simp only [List.forall_mem_cons]
    exact ⟨⟨by decide, by decide, by decide, by decide⟩, ⟨by decide, by decide, by decide,
      by decide⟩, ⟨by decide, by decide, by decide, by decide⟩, nofun⟩
  have hspecified : ∀ id ∈ mixedRoute.nextHops.keys, isUnspecified id = false := by
    rw [hkeys]
    decide +kernel
  have h : Printable mixedRoute (.other "rip".toList) := by
    refine ⟨fun id hop hget => ?_, fun id hid => ⟨hitem id hid, ?_⟩, ⟨"rip".toList, by decide⟩,
      by decide⟩
    · rw [mixedRoute, Route.get?_insertAll_pair, Option.ite_none_right_eq_some] at hget
      exact (Option.some.inj hget.2).symm
    · exact (hitem id hid).isUnspecified_eq_false.1 (hspecified id hid)
  have hasked : ∀ p, some (Protocol.other "rip".toList) = some p →
      p = .other "rip".toList ∨ mixedRoute.count = 0 :=
    fun p hp => .inl (Option.some.inj hp).symm
  exact ⟨h, hasked, (extract_entry h rfl hasked).1⟩

end RouteWatch.DatabaseEntry
