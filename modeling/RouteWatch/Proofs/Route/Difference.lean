/-
What a comparison tells. Without differences the two routes answer every
identifier with equal texts, so between canonical routes a comparison is empty
exactly when they are the same route. A part of the expected route differs
from it in the next-hops it lacks and in nothing else.
-/
import RouteWatch.Proofs.Route.Canonical
import RouteWatch.Route.Difference

namespace RouteWatch

namespace NextHop

theorem differences_eq_nil {id : Text} {expected observed : NextHop} :
    expected.differences id observed = [] ↔
      ∀ field, expected.text field = observed.text field := by
  rw [differences, List.map_eq_nil_iff, List.filter_eq_nil_iff]
  constructor
  · intro h field
    have hfield : field ∈ [Field.distance, .metric, .protocol] := by
      cases field <;> simp
    simpa using h field hfield
  · intro h field _
    simp [h field]

theorem Canonical.differences_eq_nil {id : Text} {expected observed : NextHop}
    (he : expected.Canonical) (ho : observed.Canonical) :
    expected.differences id observed = [] ↔ expected = observed := by
  rw [NextHop.differences_eq_nil]
  constructor
  · exact he.eq_of_text ho
  · rintro rfl field
    rfl

end NextHop

namespace Route

theorem targetDifference_eq_nil {expected observed : Route} :
    expected.targetDifference observed = [] ↔ expected.target = observed.target := by
  unfold targetDifference
  split <;> simp [*]

theorem countDifference_eq_nil {expected observed : Route} :
    expected.countDifference observed = [] ↔ expected.count = observed.count := by
  unfold countDifference
  split <;> simp [*]

theorem hopDifferences_eq_nil {expected observed : Route} :
    expected.hopDifferences observed = [] ↔
      ∀ id hop, expected.get? id = some hop →
        ∃ seen, observed.get? id = some seen ∧ hop.differences id seen = [] := by
  rw [hopDifferences, List.flatMap_eq_nil_iff]
  constructor
  · intro h id hop hget
    have hhop := h (id, hop) (get?_eq_some.1 hget)
    cases hseen : observed.get? id with
    | none => simp [hseen] at hhop
    | some seen => exact ⟨seen, rfl, by simpa [hseen] using hhop⟩
  · intro h hop hmem
    obtain ⟨seen, hseen, hnil⟩ := h hop.1 hop.2 (get?_eq_some.2 hmem)
    simp [hseen, hnil]

theorem unexpectedHops_eq_nil {expected observed : Route} :
    expected.unexpectedHops observed = [] ↔
      ∀ id, expected.get? id = none → observed.get? id = none := by
  rw [unexpectedHops, List.map_eq_nil_iff, List.filter_eq_nil_iff]
  constructor
  · intro h id hnone
    cases hseen : observed.get? id with
    | none => rfl
    | some seen =>
      have hmem : id ∈ observed.nextHops.keys := Keyed.mem_keys.2 (by
        rw [show observed.nextHops.get? id = some seen from hseen]
        rfl)
      exact absurd (by simp [hnone]) (h id hmem)
  · intro h id hmem hnone
    have hseen := h id (Option.isNone_iff_eq_none.1 hnone)
    rw [Keyed.mem_keys, show observed.nextHops.get? id = none from hseen] at hmem
    cases hmem

theorem differences_self (route : Route) : route.differences (some route) = [] := by
  have hhops : route.hopDifferences route = [] :=
    hopDifferences_eq_nil.2 fun id hop hget =>
      ⟨hop, hget, NextHop.differences_eq_nil.2 fun field => rfl⟩
  have hunexpected : route.unexpectedHops route = [] :=
    unexpectedHops_eq_nil.2 fun id hget => hget
  rw [differences, targetDifference_eq_nil.2 rfl, countDifference_eq_nil.2 rfl, hhops,
    hunexpected]
  rfl

/-- **Canonical routes differ in nothing only if they are the same**, and a route that was not
found is no route. -/
theorem Canonical.differences_eq_nil {expected : Route} (he : expected.Canonical)
    {observed : Option Route} (ho : ∀ route, observed = some route → route.Canonical) :
    expected.differences observed = [] ↔ observed = some expected := by
  cases observed with
  | none => simp [differences]
  | some observed =>
    have hobserved : observed.Canonical := ho observed rfl
    rw [Option.some.injEq]
    constructor
    · intro hnil
      simp only [differences, List.append_eq_nil_iff, targetDifference_eq_nil,
        hopDifferences_eq_nil, unexpectedHops_eq_nil] at hnil
      obtain ⟨⟨⟨htarget, -⟩, hhops⟩, hunexpected⟩ := hnil
      refine ext_get? htarget.symm fun id => ?_
      cases hget : expected.get? id with
      | none => exact hunexpected id hget
      | some hop =>
        obtain ⟨seen, hseen, hnil⟩ := hhops id hop hget
        have heq : hop = seen :=
          ((he id hop hget).differences_eq_nil (hobserved id seen hseen)).1 hnil
        rw [hseen, heq]
    · rintro rfl
      exact differences_self observed

/-- Observations of the expected prefix never differ in their prefix. -/
theorem target_not_mem_differences {expected : Route} {observed : Option Route}
    (h : ∀ route, observed = some route → route.target = expected.target) (a b : Text) :
    Difference.target a b ∉ expected.differences observed := by
  cases observed with
  | none => simp [differences]
  | some observed =>
    have htarget : expected.targetDifference observed = [] :=
      targetDifference_eq_nil.2 (h observed rfl).symm
    have hcount : Difference.target a b ∉ expected.countDifference observed := by
      unfold countDifference
      split <;> simp
    have hhops : Difference.target a b ∉ expected.hopDifferences observed := by
      rw [hopDifferences, List.mem_flatMap]
      rintro ⟨hop, -, hmem⟩
      split at hmem
      · simp [NextHop.differences] at hmem
      · simp at hmem
    have hunexpected : Difference.target a b ∉ expected.unexpectedHops observed := by
      simp [unexpectedHops]
    simp [differences, htarget, hcount, hhops, hunexpected]

/-! ## Parts of a route -/

/-- The observed route has nothing but next-hops of the expected one, with their attributes. -/
structure IsPartOf (observed expected : Route) : Prop where
  target : observed.target = expected.target
  get? : ∀ id hop, observed.get? id = some hop → expected.get? id = some hop

/-- The expected next-hops that were not observed. -/
def missingHops (expected observed : Route) : List Difference :=
  (expected.hops.filter fun hop => (observed.get? hop.1).isNone).map (.missing ·.1)

section

variable {expected observed : Route} (h : observed.IsPartOf expected)
include h

theorem IsPartOf.get?_eq_none {id : Text} (hnone : expected.get? id = none) :
    observed.get? id = none := by
  rw [Option.eq_none_iff_forall_ne_some]
  intro hop hseen
  rw [h.get? id hop hseen] at hnone
  cases hnone

theorem IsPartOf.hopDifferences_eq :
    expected.hopDifferences observed = expected.missingHops observed := by
  have hhop : ∀ hop ∈ expected.hops, ∀ seen, observed.get? hop.1 = some seen → hop.2 = seen := by
    intro hop hmem seen hseen
    exact Option.some.inj ((get?_eq_some.2 hmem).symm.trans (h.get? hop.1 seen hseen))
  rw [hopDifferences, missingHops]
  generalize expected.hops = hops at hhop
  induction hops with
  | nil => rfl
  | cons hop hops ih =>
    have ih := ih fun other hmem => hhop other (by simp [hmem])
    rw [List.flatMap_cons, ih, List.filter_cons]
    cases hseen : observed.get? hop.1 with
    | none => rfl
    | some seen =>
      have hsame : hop.2.differences hop.1 seen = [] :=
        NextHop.differences_eq_nil.2 fun field => by rw [hhop hop (by simp) seen hseen]
      simp only [hsame]
      rfl

/-- **A part differs from the whole by what it lacks**, and by the number of that. -/
theorem IsPartOf.differences_eq :
    expected.differences (some observed) =
      expected.countDifference observed ++ expected.missingHops observed := by
  have hunexpected : expected.unexpectedHops observed = [] :=
    unexpectedHops_eq_nil.2 fun _ => h.get?_eq_none
  rw [differences, targetDifference_eq_nil.2 h.target.symm, h.hopDifferences_eq, hunexpected,
    List.nil_append, List.append_nil]

theorem IsPartOf.of_mem_differences {d : Difference}
    (hd : d ∈ expected.differences (some observed)) :
    (∃ a b, d = .count a b) ∨ ∃ id, d = .missing id := by
  rw [h.differences_eq, List.mem_append] at hd
  rcases hd with hd | hd
  · rw [countDifference] at hd
    split at hd
    · cases hd
    · exact .inl ⟨_, _, List.mem_singleton.1 hd⟩
  · obtain ⟨hop, -, rfl⟩ := List.mem_map.1 hd
    exact .inr ⟨hop.1, rfl⟩

/-- A part without differences is the whole. -/
theorem IsPartOf.differences_eq_nil :
    expected.differences (some observed) = [] ↔
      ∀ id hop, expected.get? id = some hop → observed.get? id = some hop := by
  constructor
  · intro hnil id hop hget
    rw [h.differences_eq, List.append_eq_nil_iff, ← h.hopDifferences_eq,
      hopDifferences_eq_nil] at hnil
    obtain ⟨seen, hseen, -⟩ := hnil.2 id hop hget
    rw [hseen, ← hget, h.get? id seen hseen]
  · intro hall
    have hwhole : observed = expected := ext_get? h.target fun id => by
      cases hget : expected.get? id with
      | some hop => exact hall id hop hget
      | none => exact h.get?_eq_none hget
    rw [hwhole, differences_self]

end

theorem isPartOf_erase (route : Route) (id : Text) : (route.erase id).IsPartOf route where
  target := target_erase route id
  get? other hop hget := by
    rw [get?_erase, Option.ite_none_left_eq_some] at hget
    exact hget.2

theorem missingHops_erase {route : Route} {id : Text} {hop : NextHop}
    (h : route.get? id = some hop) : route.missingHops (route.erase id) = [.missing id] := by
  have hmissing : ∀ other ∈ route.hops,
      ((route.erase id).get? other.1).isNone = decide (other.1 = id) := by
    intro other hmem
    rw [get?_erase, get?_eq_some.2 hmem]
    by_cases hid : other.1 = id <;> simp [hid]
  have hone : route.hops.filter (·.1 = id) = [(id, hop)] := Keyed.filter_entries_eq h
  rw [missingHops, List.filter_congr hmissing, hone, List.map_singleton]

/-- **A route without one of its next-hops differs from it by that one**, and by the number. -/
theorem differences_erase {route : Route} {id : Text} {hop : NextHop}
    (h : route.get? id = some hop) :
    route.differences (some (route.erase id)) =
      [.count route.count (route.count - 1), .missing id] := by
  have hcount := count_erase h
  have hdifference : route.countDifference (route.erase id) =
      [.count route.count (route.count - 1)] := by
    rw [countDifference, if_neg (by omega), show (route.erase id).count = route.count - 1 by omega]
  rw [(isPartOf_erase route id).differences_eq, hdifference, missingHops_erase h,
    List.singleton_append]

/-- Those of the expected next-hops are observed that have a property, and no route if there are
none. -/
structure Confirms (expected : Route) (holds : Text → NextHop → Prop)
    (observed : Option Route) : Prop where
  eq_none : observed = none ↔ ∀ id hop, expected.get? id = some hop → ¬ holds id hop
  target : ∀ seen, observed = some seen → seen.target = expected.target
  get? : ∀ seen, observed = some seen → ∀ id hop, seen.get? id = some hop ↔
    expected.get? id = some hop ∧ holds id hop

section

variable {expected : Route} {holds : Text → NextHop → Prop} {observed : Option Route}
  (h : expected.Confirms holds observed)
include h

theorem Confirms.isPartOf {seen : Route} (hseen : observed = some seen) :
    seen.IsPartOf expected where
  target := h.target seen hseen
  get? id hop hget := ((h.get? seen hseen id hop).1 hget).1

/-- Such an observation matches when all of at least one next-hop have the property. -/
theorem Confirms.differences_eq_nil :
    expected.differences observed = [] ↔
      expected.count ≠ 0 ∧ ∀ id hop, expected.get? id = some hop → holds id hop := by
  cases hobserved : observed with
  | none =>
    have hnone := h.eq_none.1 hobserved
    simp only [differences, List.cons_ne_nil, false_iff, not_and]
    intro hcount hall
    obtain ⟨id, hop, hget⟩ := count_ne_zero.1 hcount
    exact hnone id hop hget (hall id hop hget)
  | some seen =>
    have hget := h.get? seen hobserved
    rw [(h.isPartOf hobserved).differences_eq_nil]
    constructor
    · intro hall
      have hholds : ∀ id hop, expected.get? id = some hop → holds id hop :=
        fun id hop hexpected => ((hget id hop).1 (hall id hop hexpected)).2
      refine ⟨fun hcount => ?_, hholds⟩
      -- Without any next-hop nothing would have been observed.
      have hnone : observed = none := h.eq_none.2 fun id hop hexpected =>
        absurd hcount (count_ne_zero.2 ⟨id, hop, hexpected⟩)
      rw [hnone] at hobserved
      cases hobserved
    · rintro ⟨-, hall⟩ id hop hexpected
      exact (hget id hop).2 ⟨hexpected, hall id hop hexpected⟩

/-- It differs in nothing but next-hops that are missing, and in their number. -/
theorem Confirms.of_mem_differences {d : Difference} (hd : d ∈ expected.differences observed) :
    d = .routeAbsent ∨ (∃ a b, d = .count a b) ∨ ∃ id, d = .missing id := by
  cases hobserved : observed with
  | none =>
    rw [hobserved] at hd
    exact .inl (List.mem_singleton.1 hd)
  | some seen =>
    rw [hobserved] at hd
    exact .inr ((h.isPartOf hobserved).of_mem_differences hd)

end

end Route
end RouteWatch
