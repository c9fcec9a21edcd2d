/-
The mapping form is a normal form. Identifiers share their names with two
keys, that of the prefix and that of the number of next-hops. A route that
leaves these alone is read back from the form it writes; one that takes them
puts a next-hop where a text is expected, so it is refused and never taken
for another route. Reading never yields a route of the second kind: whatever
was read is read back, and values that are read as the same route are those
with the same normal form.
-/
import Mathlib.Data.List.Forall2
import RouteWatch.Proofs.Net.Prefix
import RouteWatch.Proofs.Route.Mapping

namespace RouteWatch

theorem Json.object?_ofKeyed (fields : Keyed Json) : (ofKeyed fields).object? = some fields :=
  congrArg some fields.ofList_entries

/-! ## Next-hops -/

namespace NextHop

theorem present?_getD {number : Option Text} (h : number ≠ some []) :
    present? (number.getD []) = number := by
  cases number with
  | none => rfl
  | some s =>
    have hs : s ≠ [] := fun hs => h (by rw [hs])
    simp [present?, hs]

/-- The fields of a mapping form are the texts of the attributes. -/
theorem mappedText_toMapping {hop : NextHop} {fields : Keyed Json}
    (h : hop.toMapping.object? = some fields) (id : Text) (field : Field) :
    mappedText id fields field = .ok (hop.text field) := by
  obtain rfl := Option.some.inj h
  have hkeys : (([.distance, .metric, .protocol].map fun field : Field =>
      (field.key, Json.string (hop.text field))).map (·.1)).Nodup := by
    show ([.distance, .metric, .protocol].map Field.key).Nodup
    decide
  have hget : (Keyed.ofList ([.distance, .metric, .protocol].map fun field : Field =>
      (field.key, Json.string (hop.text field)))).get? field.key =
        some (.string (hop.text field)) := by
    rw [Keyed.get?_ofList hkeys, valueOf?_eq_some hkeys]
    cases field <;> simp
  rw [mappedText, hget]
  rfl

/-- **A canonical next-hop is read back from its mapping form.** -/
theorem Canonical.ofMapping_eq {hop : NextHop} (h : hop.Canonical) (id : Text) :
    ofMapping id hop.toMapping = .ok hop := by
  have hdistance : present? (hop.text .distance) = hop.distance := present?_getD h.distance
  have hmetric : present? (hop.text .metric) = hop.metric := present?_getD h.metric
  have hprotocol : Protocol.read (hop.text .protocol) = hop.protocol := h.protocol
  obtain ⟨fields, hfields⟩ : ∃ fields, hop.toMapping.object? = some fields := ⟨_, rfl⟩
  have htext := mappedText_toMapping hfields id
  have hmake : ofMapping id hop.toMapping =
      .ok (make (hop.text .distance) (hop.text .metric) (Protocol.read (hop.text .protocol))) := by
    simp only [ofMapping, hfields, htext]
    rfl
  rw [hmake, make, hdistance, hmetric, hprotocol]

theorem Canonical.eq_of_toMapping {a b : NextHop} (ha : a.Canonical) (hb : b.Canonical)
    (h : a.toMapping = b.toMapping) : a = b := by
  have hread := ha.ofMapping_eq []
  rw [h, hb.ofMapping_eq] at hread
  exact (Except.ok.inj hread).symm

end NextHop

/-! ## Routes -/

namespace Route

/-- The key means something of its own in the mapping form. -/
def isReserved (key : Text) : Bool := key = routeKey || key = countKey

/-- The mapping form can hold the route. -/
structure Mappable (route : Route) : Prop where
  fits : route.target.Fits
  canonical : route.Canonical
  free : ∀ key, isReserved key = true → route.get? key = none

/-- The next-hops that are read are those of the entries that no reserved key has, in order. -/
theorem mappedHops_eq_ok {entries : List (Text × Json)} {hops : List (Text × NextHop)} :
    mappedHops entries = .ok hops ↔
      List.Forall₂
        (fun entry hop => hop.1 = entry.1 ∧ NextHop.ofMapping entry.1 entry.2 = .ok hop.2)
        (entries.filter (!isReserved ·.1)) hops := by
  induction entries generalizing hops with
  | nil => simp [mappedHops, eq_comm]
  | cons entry entries ih =>
    obtain ⟨key, value⟩ := entry
    rw [mappedHops, List.filter_cons]
    cases hkey : isReserved key with
    | true =>
      have hskip : (key = routeKey || key = countKey) = true := hkey
      simp only [hskip, if_true, Bool.not_true, Bool.false_eq_true, if_false, ih]
    | false =>
      have hread : (key = routeKey || key = countKey) = false := hkey
      simp only [hread, Bool.false_eq_true, if_false, Bool.not_false, if_true, bind_eq_ok, ih,
        List.forall₂_cons_left_iff]
      constructor
      · rintro ⟨hop, hhop, rest, hrest, h⟩
        exact ⟨(key, hop), rest, ⟨rfl, hhop⟩, hrest, (Except.ok.inj h).symm⟩
      · rintro ⟨⟨id, hop⟩, rest, ⟨rfl, hhop⟩, hrest, rfl⟩
        exact ⟨hop, hhop, rest, hrest, rfl⟩

/-- What the mapping form has under a key: the next-hop of that name, or the text that the key is
reserved for. -/
theorem get?_mapping (route : Route) (key : Text) :
    route.mapping.get? key = ((route.get? key).map NextHop.toMapping).or
      (valueOf? key [(countKey, .string (Text.ofNat route.count)),
        (routeKey, .string route.target.print)]) := by
  rw [mapping, Keyed.ofList, Keyed.get?_foldl_insert, Keyed.get?_empty, Option.or_none,
    List.reverse_cons, List.reverse_cons, List.append_assoc, valueOf?_append, valueOf?_reverse,
    valueOf?_map]
  · rfl
  · rw [List.map_map]
    exact route.nextHops.nodup_keys

theorem get?_mapping_of_eq_none {route : Route} {key : Text} (h : route.get? key = none) :
    route.mapping.get? key = valueOf? key [(countKey, .string (Text.ofNat route.count)),
      (routeKey, .string route.target.print)] := by
  rw [get?_mapping, h]
  rfl

theorem get?_mapping_of_eq_some {route : Route} {key : Text} {hop : NextHop}
    (h : route.get? key = some hop) : route.mapping.get? key = some hop.toMapping := by
  rw [get?_mapping, h]
  rfl

theorem valueOf?_of_not_reserved {key : Text} (h : isReserved key = false) (count target : Json) :
    valueOf? key [(countKey, count), (routeKey, target)] = none := by
  rw [isReserved, Bool.or_eq_false_iff, decide_eq_false_iff_not, decide_eq_false_iff_not] at h
  simp [valueOf?, Ne.symm h.1, Ne.symm h.2]

/-- The entries of the mapping form that no reserved key has are the next-hops that none has. -/
theorem filter_entries_mapping (route : Route) :
    route.mapping.entries.filter (!isReserved ·.1) =
      (route.hops.filter (!isReserved ·.1)).map fun hop => (hop.1, hop.2.toMapping) := by
  refine eq_of_valueOf?_eq (route.mapping.increasing.filter _) ?_ fun key => ?_
  · rw [KeysIncrease, List.pairwise_map]
    exact route.nextHops.increasing.filter _
  · have hhops : valueOf? key route.hops = route.get? key := rfl
    have hentries : valueOf? key route.mapping.entries = route.mapping.get? key := rfl
    rw [valueOf?_map, valueOf?_filter (!isReserved ·), valueOf?_filter (!isReserved ·), hhops,
      hentries]
    cases hkey : isReserved key with
    | true => rfl
    | false => rw [get?_mapping, valueOf?_of_not_reserved hkey, Option.or_none]; rfl

/-- The next-hops are read back from the mapping form, but for those that reserved keys have. -/
theorem mappedHops_mapping {route : Route} (h : route.Canonical) :
    mappedHops route.mapping.entries = .ok (route.hops.filter (!isReserved ·.1)) := by
  rw [mappedHops_eq_ok, filter_entries_mapping, List.forall₂_map_left_iff, List.forall₂_same]
  intro hop hmem
  exact ⟨rfl, (h.of_mem_hops (List.mem_filter.1 hmem).1).ofMapping_eq hop.1⟩

theorem ofPrefixText_print {target : Prefix} (h : target.Fits) :
    ofPrefixText target.print = .ok (empty target) := by
  rw [ofPrefixText, (Prefix.isWord_print target).trimmed.trim_eq,
    Prefix.parse_eq_ok.2 (Prefix.read?_print h)]

theorem checkCount_ofNat (n : Nat) : checkCount (some (.string (Text.ofNat n))) n =
    if n ≤ Text.wordMax then .ok () else .error .countNotNumber := by
  have hread : (Json.string (Text.ofNat n)).scalarText?.bind
      (fun s => Text.toCount? Text.wordMax (Text.trim s)) =
        if n ≤ Text.wordMax then some n else none := by
    rw [← Text.toCount?_ofNat_eq, Json.scalarText?, Option.bind_some,
      (Text.isWord_ofNat n).trimmed.trim_eq]
  rw [checkCount, hread]
  by_cases hn : n ≤ Text.wordMax <;> simp [hn]

section

variable {route : Route} (hfits : route.target.Fits) (hcanonical : route.Canonical)

/-- A next-hop in the place of the prefix is refused before anything else is read. -/
theorem ofMapping_toMapping_routeKey {hop : NextHop} (h : route.get? routeKey = some hop) :
    ofMapping route.toMapping = .error .missingRoute := by
  have hroute : (route.mapping.get? routeKey).bind Json.scalarText? = none := by
    rw [get?_mapping_of_eq_some h]
    rfl
  rw [ofMapping, toMapping, Json.object?_ofKeyed]
  simp only [hroute]

include hfits hcanonical

/-- With the prefix where it belongs, it is the count that decides on the route. -/
theorem ofMapping_toMapping_of_eq_none (h : route.get? routeKey = none) {seen : Route}
    (hseen : (empty route.target).insertAll (route.hops.filter (!isReserved ·.1)) = seen) :
    ofMapping route.toMapping =
      (checkCount (route.mapping.get? countKey) seen.count).map fun _ => seen := by
  have hroute : (route.mapping.get? routeKey).bind Json.scalarText? = some route.target.print := by
    rw [get?_mapping_of_eq_none h]
    rfl
  rw [ofMapping, toMapping, Json.object?_ofKeyed]
  simp only [hroute, ofPrefixText_print hfits, mappedHops_mapping hcanonical]
  subst hseen
  rfl

theorem ofMapping_toMapping_countKey (h : route.get? routeKey = none) {hop : NextHop}
    (hcount : route.get? countKey = some hop) :
    ofMapping route.toMapping = .error .countNotNumber := by
  rw [ofMapping_toMapping_of_eq_none hfits hcanonical h rfl, get?_mapping_of_eq_some hcount]
  rfl

end

/-- **A route that the mapping form can hold is read back from it**, as far as a count goes. -/
theorem Mappable.ofMapping_toMapping_eq {route : Route} (h : route.Mappable) :
    ofMapping route.toMapping =
      if route.count ≤ Text.wordMax then .ok route else .error .countNotNumber := by
  have hfree : route.hops.filter (!isReserved ·.1) = route.hops := by
    rw [List.filter_eq_self]
    intro hop hmem
    cases hkey : isReserved hop.1 with
    | false => rfl
    | true => exact absurd (get?_eq_some.2 hmem) (by simp [h.free hop.1 hkey])
  have hseen : (empty route.target).insertAll (route.hops.filter (!isReserved ·.1)) = route := by
    rw [hfree, insertAll_hops]
  have hcount : route.mapping.get? countKey = some (.string (Text.ofNat route.count)) :=
    get?_mapping_of_eq_none (h.free countKey (by decide))
  rw [ofMapping_toMapping_of_eq_none h.fits h.canonical (h.free routeKey (by decide)) hseen,
    hcount, checkCount_ofNat]
  split <;> rfl

/-! ## What was read -/

theorem fits_of_prefixText {s : Text} {route : Route} (h : ofPrefixText s = .ok route) :
    route.target.Fits := by
  unfold ofPrefixText at h
  split at h
  · rename_i hparse
    obtain rfl := Except.ok.inj h
    exact Prefix.fits_of_parse hparse
  · cases h

theorem get?_of_prefixText {s : Text} {route : Route} (h : ofPrefixText s = .ok route)
    (id : Text) : route.get? id = none := by
  unfold ofPrefixText at h
  split at h
  · obtain rfl := Except.ok.inj h
    rfl
  · cases h

/-- What is read from entries keeps their keys. -/
theorem keys_of_mappedHops {entries : List (Text × Json)} {hops : List (Text × NextHop)}
    (h : mappedHops entries = .ok hops) :
    hops.map (·.1) = (entries.filter (!isReserved ·.1)).map (·.1) := by
  have hread := mappedHops_eq_ok.1 h
  clear h
  generalize entries.filter (!isReserved ·.1) = free at hread ⊢
  induction hread with
  | nil => rfl
  | cons hfirst _ ih => rw [List.map_cons, List.map_cons, hfirst.1, ih]

/-- **What was read can be written**: a fitting prefix, canonical next-hops and none that has a
reserved key. -/
theorem mappable_of_mapping {value : Json} {route : Route} (h : ofMapping value = .ok route) :
    route.Mappable := by
  have hcanonical := canonical_of_mapping h
  unfold ofMapping at h
  split at h
  · cases h
  · rename_i fields _
    split at h
    · cases h
    · simp only [bind_eq_ok] at h
      obtain ⟨bare, hbare, hops, hhops, -, -, h⟩ := h
      obtain rfl := Except.ok.inj h
      refine ⟨?_, hcanonical, fun key hkey => ?_⟩
      · rw [target_insertAll]
        exact fits_of_prefixText hbare
      · rw [get?_insertAll, get?_of_prefixText hbare, Option.or_none,
          Option.eq_none_iff_forall_ne_some]
        intro hop hget
        have hmem : key ∈ hops.map (·.1) :=
          List.mem_map_of_mem (List.mem_reverse.1 (mem_of_valueOf? hget))
        rw [keys_of_mappedHops hhops] at hmem
        obtain ⟨entry, hentry, rfl⟩ := List.mem_map.1 hmem
        have hfree := (List.mem_filter.1 hentry).2
        rw [hkey] at hfree
        cases hfree

/-- Routes that the mapping form can hold are told apart by it. -/
theorem Mappable.eq_of_toMapping {a b : Route} (ha : a.Mappable) (hb : b.Mappable)
    (h : a.toMapping = b.toMapping) : a = b := by
  have hentries : a.mapping = b.mapping := by
    have hobject := congrArg Json.object? h
    rwa [toMapping, toMapping, Json.object?_ofKeyed, Json.object?_ofKeyed, Option.some.injEq]
      at hobject
  have hget : ∀ key, a.mapping.get? key = b.mapping.get? key := fun key => by rw [hentries]
  refine ext_get? ?_ fun id => ?_
  · have hprint := hget routeKey
    rw [get?_mapping_of_eq_none (ha.free routeKey (by decide)),
      get?_mapping_of_eq_none (hb.free routeKey (by decide))] at hprint
    have hprint : a.target.print = b.target.print := Json.string.inj (Option.some.inj hprint)
    have hread := Prefix.read?_print ha.fits
    rw [hprint, Prefix.read?_print hb.fits] at hread
    exact (Option.some.inj hread).symm
  · cases hid : isReserved id with
    | true => rw [ha.free id hid, hb.free id hid]
    | false =>
      have hhops := hget id
      rw [get?_mapping, get?_mapping, valueOf?_of_not_reserved hid, valueOf?_of_not_reserved hid,
        Option.or_none, Option.or_none] at hhops
      cases hseen : a.get? id with
      | none =>
        rw [hseen, Option.map_none, eq_comm, Option.map_eq_none_iff] at hhops
        exact hhops.symm
      | some hop =>
        rw [hseen, Option.map_some, eq_comm, Option.map_eq_some_iff] at hhops
        obtain ⟨hop', hseen', hmapping⟩ := hhops
        rw [hseen', (hb.canonical id hop' hseen').eq_of_toMapping (ha.canonical id hop hseen)
          hmapping]

/-- **The mapping form is a normal form.** A route with a fitting prefix and canonical next-hops
is read back from the form that it writes, whatever its identifiers, unless one of them is a
reserved key: then nothing is read at all. (Nor is anything read when no machine word holds the
count, but a route in memory has no such number of next-hops.) So every route that was read is read
back, and of two values that were read, the routes are equal exactly when their normal forms
are. -/
theorem ofMapping_toMapping :
    (∀ route : Route, route.target.Fits → route.Canonical →
      ofMapping route.toMapping =
        if (route.get? routeKey).isSome then .error .missingRoute
        else if (route.get? countKey).isSome then .error .countNotNumber
        else if route.count ≤ Text.wordMax then .ok route
        else .error .countNotNumber) ∧
    (∀ value route, ofMapping value = .ok route →
      ofMapping route.toMapping =
        if route.count ≤ Text.wordMax then .ok route else .error .countNotNumber) ∧
    ∀ value value' route route', ofMapping value = .ok route → ofMapping value' = .ok route' →
      (route = route' ↔ route.toMapping = route'.toMapping) := by
  refine ⟨fun route hfits hcanonical => ?_, fun value route h => ?_,
    fun value value' route route' h h' => ⟨congrArg toMapping, fun heq => ?_⟩⟩
  · cases hroute : route.get? routeKey with
    | some hop => exact ofMapping_toMapping_routeKey hroute
    | none =>
      cases hcount : route.get? countKey with
      | some hop => exact ofMapping_toMapping_countKey hfits hcanonical hroute hcount
      | none =>
        have hfree : ∀ key, isReserved key = true → route.get? key = none := by
          intro key hkey
          rw [isReserved, Bool.or_eq_true, decide_eq_true_eq, decide_eq_true_eq] at hkey
          rcases hkey with rfl | rfl
          · exact hroute
          · exact hcount
        exact Mappable.ofMapping_toMapping_eq ⟨hfits, hcanonical, hfree⟩
  · exact (mappable_of_mapping h).ofMapping_toMapping_eq
  · exact (mappable_of_mapping h).eq_of_toMapping (mappable_of_mapping h') heq

/-- A host route over a next-hop that is called like the key of the count. -/
def reservedRoute : Route :=
  (Route.empty (Prefix.host (.v4 10 0 0 1))).insertAll
    [("Ethernet0".toList, .plain .static), (countKey, .make ['1'] [] (.other "rip".toList))]

/-- It is refused, and without that next-hop it is read back. -/
theorem ofMapping_toMapping_reservedRoute :
    reservedRoute.target.Fits ∧ reservedRoute.Canonical ∧
      ofMapping reservedRoute.toMapping = .error .countNotNumber ∧
      ofMapping (reservedRoute.keep .static).toMapping = .ok (reservedRoute.keep .static) := by
  have hfits : reservedRoute.target.Fits := by decide
  have hcanonical : reservedRoute.Canonical := by
    refine (canonical_empty _).insertAll (List.forall_mem_cons.2 ⟨?_, List.forall_mem_cons.2
      ⟨?_, nofun⟩⟩)
    · exact NextHop.canonical_plain (by decide)
    · exact NextHop.canonical_make _ _ (by decide)
  exact ⟨hfits, hcanonical, ofMapping_toMapping.1 reservedRoute hfits hcanonical,
    ofMapping_toMapping.1 (reservedRoute.keep .static) hfits (hcanonical.keep? (some .static))⟩

end Route
end RouteWatch
