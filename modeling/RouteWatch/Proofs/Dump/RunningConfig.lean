/-
A next-hop is found in a running configuration exactly when it is configured
there: in the VRF that was asked for, to the same prefix and at the same
distance, where no distance is the default one. What is observed is therefore
a part of what was expected, and a comparison can only tell what it lacks.
-/
import RouteWatch.Dump.Format
import RouteWatch.Proofs.Dump.RunningConfig.Line
import RouteWatch.Proofs.Route.Difference

namespace RouteWatch.RunningConfig

/-- Some of the routes has the next-hop, to this prefix and at the same distance. -/
def IsStatic (routes : List Route) (target : Prefix) (id : Text) (hop : NextHop) : Prop :=
  ∃ route ∈ routes, route.target = target ∧ ∃ printed, route.get? id = some printed ∧
    effectiveDistance printed.distance = effectiveDistance hop.distance

theorem staticLine_mem_routeLines {routes : List Route}
    (h : ∀ route ∈ routes, Printable route) {id : Text} {hop : NextHop}
    (hhop : PrintableHop id hop) (target : Prefix) :
    staticLine target id hop.distance ∈ routeLines routes ↔ IsStatic routes target id hop := by
  rw [routeLines, List.mem_flatMap]
  simp only [List.mem_map]
  constructor
  · rintro ⟨route, hroute, ⟨id', hop'⟩, hmem, hline⟩
    have hprintable := (h route hroute).hops _ hmem
    obtain ⟨htarget, rfl, hdistance⟩ := (staticLine_eq_iff hprintable hhop).1 hline
    exact ⟨route, hroute, htarget, hop', Route.get?_eq_some.2 hmem, hdistance⟩
  · rintro ⟨route, hroute, htarget, printed, hprinted, hdistance⟩
    have hmem := Route.get?_eq_some.1 hprinted
    have hprintable := (h route hroute).hops _ hmem
    exact ⟨route, hroute, (id, printed), hmem,
      (staticLine_eq_iff hprintable hhop).2 ⟨htarget, rfl, hdistance⟩⟩

theorem explicit_not_mem_routeLines {routes : List Route}
    (h : ∀ route ∈ routes, Printable route) {id : Text} (hid : Text.IsWord id)
    (target : Prefix) :
    staticLine target id none ++ ' ' :: defaultDistance ∉ routeLines routes := by
  rw [routeLines, List.mem_flatMap]
  simp only [List.mem_map]
  rintro ⟨route, hroute, ⟨id', hop'⟩, hmem, hline⟩
  exact staticLine_ne_explicit ((h route hroute).hops _ hmem) hid hline

/-- The default distance may also be spelled out. -/
theorem mem_staticLines {target : Prefix} {id line : Text} {distance : Option Text}
    (h : line ∈ staticLines target id distance) :
    line = staticLine target id distance ∨
      line = staticLine target id none ++ ' ' :: defaultDistance := by
  rw [staticLines] at h
  split at h
  · rename_i hdistance
    rw [List.mem_cons, List.mem_singleton, hdistance, staticLine_some, if_pos rfl] at h
    rwa [hdistance, staticLine_some, if_pos rfl]
  · exact .inl (List.mem_singleton.1 h)

theorem head?_of_mem_staticLines {target : Prefix} {id line : Text} {distance : Option Text}
    (h : line ∈ staticLines target id distance) : line.head? = some 'i' := by
  rcases mem_staticLines h with rfl | rfl
  · exact head?_staticLine target id distance
  · rw [List.head?_append, head?_staticLine]
    rfl

theorem staticLine_mem_staticLines (target : Prefix) (id : Text) (distance : Option Text) :
    staticLine target id distance ∈ staticLines target id distance := by
  rw [staticLines]
  split <;> exact List.mem_cons_self

section

variable {routes : List Route} (h : ∀ route ∈ routes, Printable route) {vrf : Option Text}
  (hvrf : ∀ name, vrf = some name → Text.trim name = name) (wanted : Option Text)
include h hvrf

/-- In the lines of a VRF, what begins like a static route line is one. -/
theorem mem_vrfLines_printLines {line : Text} (hi : line.head? = some 'i') :
    line ∈ vrfLines (printLines routes vrf) wanted ↔
      wanted = vrf ∧ line ∈ routeLines routes := by
  have hopening : line ∉ openingScope := by
    have hall : ∀ line ∈ openingScope, line.head? ≠ some 'i' := by decide
    exact fun hmem => hall line hmem hi
  have hend : line ≠ "end".toList := by
    rintro rfl
    exact absurd hi (by decide)
  rw [vrfLines_printLines h hvrf]
  constructor
  · intro hmem
    rcases List.mem_append.1 hmem with hmem | hmem
    · split at hmem
      · exact absurd hmem hopening
      · cases hmem
    · rcases List.mem_append.1 hmem with hmem | hmem
      · split at hmem
        · rename_i heq
          exact ⟨heq.symm, hmem⟩
        · cases hmem
      · split at hmem
        · exact absurd (List.mem_singleton.1 hmem) hend
        · cases hmem
  · rintro ⟨rfl, hmem⟩
    simp [hmem]

/-- **A next-hop is found exactly when it is configured**, and never by the spelling of the default
distance. -/
theorem isConfigured_iff {id : Text} {hop : NextHop} (hhop : PrintableHop id hop)
    (target : Prefix) :
    isConfigured (vrfLines (printLines routes vrf) wanted) target (id, hop) = true ↔
      wanted = vrf ∧ IsStatic routes target id hop := by
  have hplain := mem_vrfLines_printLines h hvrf wanted (head?_staticLine target id hop.distance)
  rw [isConfigured, List.any_eq_true]
  constructor
  · rintro ⟨line, hline, hmem⟩
    rw [List.contains_iff_mem] at hmem
    have hi := head?_of_mem_staticLines hline
    rcases mem_staticLines hline with rfl | rfl
    · obtain ⟨hwanted, hmem⟩ := hplain.1 hmem
      exact ⟨hwanted, (staticLine_mem_routeLines h hhop target).1 hmem⟩
    · have hroutes := ((mem_vrfLines_printLines h hvrf wanted hi).1 hmem).2
      exact absurd hroutes (explicit_not_mem_routeLines h hhop.id target)
  · rintro ⟨hwanted, hstatic⟩
    have hmem := hplain.2 ⟨hwanted, (staticLine_mem_routeLines h hhop target).2 hstatic⟩
    exact ⟨_, staticLine_mem_staticLines target id hop.distance, List.contains_iff_mem.2 hmem⟩

end

/-! ## What is extracted -/

section

variable {lines : List Text} {query : Query}

theorem extract_eq_none :
    extract lines query = none ↔ ∀ id hop, query.expected.get? id = some hop →
      isConfigured (vrfLines lines query.vrf) query.target (id, hop) = false := by
  have hnone : extract lines query = none ↔
      query.expected.hops.filter (isConfigured (vrfLines lines query.vrf) query.target) = [] := by
    rw [extract]
    cases query.expected.hops.filter (isConfigured (vrfLines lines query.vrf) query.target) with
    | nil => simp
    | cons hop hops => simp
  rw [hnone, List.filter_eq_nil_iff]
  simp only [Route.get?_eq_some, Prod.forall, Bool.not_eq_true]

theorem extract_eq_some {seen : Route} (h : extract lines query = some seen) :
    seen.target = query.target ∧ ∀ id hop, seen.get? id = some hop ↔
      query.expected.get? id = some hop ∧
        isConfigured (vrfLines lines query.vrf) query.target (id, hop) = true := by
  have hseen : (Route.empty query.target).insertAll (query.expected.hops.filter
      (isConfigured (vrfLines lines query.vrf) query.target)) = seen := by
    rw [extract] at h
    split at h
    · cases h
    · exact Option.some.inj h
  have hkeys : ((query.expected.hops.filter
      (isConfigured (vrfLines lines query.vrf) query.target)).map (·.1)).Nodup :=
    query.expected.nextHops.increasing.nodup_keys.sublist (List.filter_sublist.map _)
  subst hseen
  refine ⟨Route.target_insertAll _ _, fun id hop => ?_⟩
  rw [Route.get?_insertAll_empty hkeys, valueOf?_eq_some hkeys, List.mem_filter,
    Route.get?_eq_some]

end

/-- What is extracted confirms the expected next-hops that are configured in the VRF. -/
theorem confirms_extract_print {routes : List Route} (hroutes : ∀ route ∈ routes, Printable route)
    {vrf : Option Text} (hvrf : ∀ name, vrf = some name → Text.Trimmed name ∧ '\n' ∉ name)
    {query : Query} (hexpected : Printable query.expected) :
    query.expected.Confirms
      (fun id hop => query.vrf = vrf ∧ IsStatic routes query.target id hop)
      (Format.runningConfig.extract (print routes vrf) query) := by
  have hextract : Format.runningConfig.extract (print routes vrf) query =
      extract (printLines routes vrf) query := by
    rw [← lines_print hroutes hvrf]
    rfl
  have hconfigured : ∀ id hop, query.expected.get? id = some hop →
      (isConfigured (vrfLines (printLines routes vrf) query.vrf) query.target (id, hop) = true ↔
        query.vrf = vrf ∧ IsStatic routes query.target id hop) := fun id hop hget =>
    isConfigured_iff hroutes (fun name hname => (hvrf name hname).1.trim_eq) query.vrf
      (hexpected.hops _ (Route.get?_eq_some.1 hget)) query.target
  rw [hextract]
  refine ⟨?_, fun seen hseen => (extract_eq_some hseen).1, fun seen hseen id hop => ?_⟩
  · rw [extract_eq_none]
    refine forall_congr' fun id => forall_congr' fun hop => imp_congr_right fun hget => ?_
    rw [← hconfigured id hop hget, Bool.not_eq_true]
  · rw [(extract_eq_some hseen).2 id hop]
    exact and_congr_right (hconfigured id hop)

/-- **What is extracted from a running configuration is what is configured there.** In the VRF for
which it was printed these are the expected next-hops that some route has, to the same prefix and
at the same distance, with all their expected attributes; in any other VRF there is nothing. So a
comparison matches exactly when all of at least one next-hop are configured, and it tells nothing
but that the route is absent or which next-hops, and how many, are missing. -/
theorem extract_configured (routes : List Route) (vrf : Option Text) (query : Query)
    (hroutes : ∀ route ∈ routes, Printable route) (hexpected : Printable query.expected)
    (hvrf : ∀ name, vrf = some name → Text.Trimmed name ∧ '\n' ∉ name) :
    let observed := Format.runningConfig.extract (print routes vrf) query
    (query.vrf ≠ vrf → observed = none) ∧
    (query.vrf = vrf →
      (observed = none ↔ ∀ id hop, query.expected.get? id = some hop →
        ¬ IsStatic routes query.target id hop) ∧
      ∀ seen, observed = some seen → seen.target = query.target ∧
        ∀ id hop, seen.get? id = some hop ↔
          query.expected.get? id = some hop ∧ IsStatic routes query.target id hop) ∧
    (query.expected.differences observed = [] ↔
      query.vrf = vrf ∧ query.expected.count ≠ 0 ∧
        ∀ id hop, query.expected.get? id = some hop → IsStatic routes query.target id hop) ∧
    ∀ d ∈ query.expected.differences observed, d = .routeAbsent ∨
      (∃ expected observed, d = .count expected observed) ∨ ∃ id, d = .missing id := by
  intro observed
  have h := confirms_extract_print hroutes hvrf hexpected
  refine ⟨fun hne => h.eq_none.2 fun id hop _ hboth => hne hboth.1, fun heq => ⟨?_, ?_⟩, ?_,
    fun d => h.of_mem_differences⟩
  · simpa [heq] using h.eq_none
  · intro seen hseen
    exact ⟨h.target seen hseen, by simpa [heq] using h.get? seen hseen⟩
  · rw [h.differences_eq_nil]
    constructor
    · rintro ⟨hcount, hall⟩
      obtain ⟨id, hop, hget⟩ := Route.count_ne_zero.1 hcount
      exact ⟨(hall id hop hget).1, hcount, fun id hop hget => (hall id hop hget).2⟩
    · rintro ⟨heq, hcount, hall⟩
      exact ⟨hcount, fun id hop hget => ⟨heq, hall id hop hget⟩⟩

/-- A route over a gateway at the default distance and over an interface at another. -/
def staticRoute : Route :=
  ((Route.empty ⟨.v4 10 0 0 0, 8⟩).insert "10.1.1.1".toList ⟨none, none, .static⟩).insert
    "Ethernet4".toList ⟨some "20".toList, none, .static⟩

/-- The same route with the default distance spelled out and a metric. -/
def spelledRoute : Route :=
  ((Route.empty ⟨.v4 10 0 0 0, 8⟩).insert "10.1.1.1".toList ⟨some ['1'], none, .static⟩).insert
    "Ethernet4".toList ⟨some "20".toList, some ['0'], .static⟩

theorem printable_of_hops {route : Route}
    (h : ∀ hop ∈ route.hops, Text.IsWord hop.1 ∧ Text.IsWord (effectiveDistance hop.2.distance)) :
    Printable route where
  hops hop hmem := by
    obtain ⟨hid, hdistance⟩ := h hop hmem
    exact ⟨hid, fun s hs => by simpa [effectiveDistance, hs] using hdistance⟩

/-- Where the first of them is printed the second is found, in a VRF whose name is two words. -/
theorem extract_configured_staticRoute :
    (∀ route ∈ [staticRoute], Printable route) ∧ Printable spelledRoute ∧
      (∀ name, some "Vrf RED".toList = some name → Text.Trimmed name ∧ '\n' ∉ name) ∧
      spelledRoute.differences (Format.runningConfig.extract
        (print [staticRoute] (some "Vrf RED".toList))
        ⟨spelledRoute, none, some "Vrf RED".toList⟩) = [] := by
  have hstatic : ∀ route ∈ [staticRoute], Printable route :=
    List.forall_mem_singleton.2 (printable_of_hops (by decide +kernel))
  have hspelled : Printable spelledRoute := printable_of_hops (by decide +kernel)
  have hvrf : ∀ name, some "Vrf RED".toList = some name → Text.Trimmed name ∧ '\n' ∉ name := by
    rintro name ⟨⟩
    have htrim : Text.trim "Vrf RED".toList = "Vrf RED".toList := by decide
    exact ⟨htrim ▸ Text.trimmed_trim _, by decide⟩
  have hconfigured := extract_configured [staticRoute] (some "Vrf RED".toList)
    ⟨spelledRoute, none, some "Vrf RED".toList⟩ hstatic hspelled hvrf
  refine ⟨hstatic, hspelled, hvrf, hconfigured.2.2.1.2 ⟨rfl, by decide, fun id hop hget => ?_⟩⟩
  have hhops : spelledRoute.hops = [("10.1.1.1".toList, ⟨some ['1'], none, .static⟩),
      ("Ethernet4".toList, ⟨some "20".toList, some ['0'], .static⟩)] := by rfl
  have hmem := Route.get?_eq_some.1 hget
  rw [hhops, List.mem_cons, List.mem_singleton, Prod.mk.injEq, Prod.mk.injEq] at hmem
  rcases hmem with ⟨rfl, rfl⟩ | ⟨rfl, rfl⟩
  · exact ⟨staticRoute, List.mem_cons_self, rfl, ⟨none, none, .static⟩, by rfl, rfl⟩
  · exact ⟨staticRoute, List.mem_cons_self, rfl, ⟨some "20".toList, none, .static⟩, by rfl, rfl⟩

end RouteWatch.RunningConfig
