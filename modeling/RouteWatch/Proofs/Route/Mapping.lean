/-
The mapping form only yields canonical routes: an empty text is read as an
absent attribute, and the protocol is what its text names.
-/
import RouteWatch.Proofs.Route.Canonical

namespace RouteWatch

/-- A computation in two steps succeeds when both do. -/
theorem bind_eq_ok {x : Except ε α} {f : α → Except ε β} {b : β} :
    (x >>= f) = .ok b ↔ ∃ a, x = .ok a ∧ f a = .ok b := by
  cases x with
  | error e =>
    constructor
    · intro h
      cases h
    · rintro ⟨a, h, -⟩
      cases h
  | ok a =>
    constructor
    · exact fun h => ⟨a, rfl, h⟩
    · rintro ⟨a', h, hf⟩
      obtain rfl := Except.ok.inj h
      exact hf

/-- A computation in two steps fails in the first one or else in the second. -/
theorem bind_eq_error {x : Except ε α} {f : α → Except ε β} {e : ε} :
    (x >>= f) = .error e ↔ x = .error e ∨ ∃ a, x = .ok a ∧ f a = .error e := by
  cases x with
  | error e' =>
    constructor
    · exact fun h => .inl (congrArg Except.error (Except.error.inj h))
    · rintro (h | ⟨a, h, -⟩)
      · exact congrArg Except.error (Except.error.inj h)
      · cases h
  | ok a =>
    constructor
    · exact fun h => .inr ⟨a, rfl, h⟩
    · rintro (h | ⟨a', h, hf⟩)
      · cases h
      · obtain rfl := Except.ok.inj h
        exact hf

theorem mapError_eq_ok {f : ε → ε'} {x : Except ε α} {a : α} :
    x.mapError f = .ok a ↔ x = .ok a := by
  cases x with
  | error e => exact ⟨nofun, nofun⟩
  | ok b =>
    constructor
    · rintro ⟨⟩
      rfl
    · rintro ⟨⟩
      rfl

theorem toOption_eq_some {x : Except ε α} {a : α} : x.toOption = some a ↔ x = .ok a := by
  cases x with
  | error e => exact ⟨nofun, nofun⟩
  | ok b => simp only [Except.toOption, Option.some.injEq, Except.ok.injEq]

namespace Route

theorem canonical_of_hopMapping {id : Text} {value : Json} {hop : NextHop}
    (h : NextHop.ofMapping id value = .ok hop) : hop.Canonical := by
  unfold NextHop.ofMapping at h
  split at h
  · cases h
  · simp only [bind_eq_ok] at h
    obtain ⟨distance, -, metric, -, protocol, -, h⟩ := h
    obtain rfl := Except.ok.inj h
    exact NextHop.canonical_make distance metric (Protocol.canonical_read protocol)

theorem canonical_of_mappedHops : ∀ {entries : List (Text × Json)}
    {hops : List (Text × NextHop)}, mappedHops entries = .ok hops →
    ∀ hop ∈ hops, hop.2.Canonical
  | [], _, h => by
    obtain rfl := Except.ok.inj h
    simp
  | (key, value) :: rest, hops, h => by
    rw [mappedHops] at h
    split at h
    · exact canonical_of_mappedHops h
    · simp only [bind_eq_ok] at h
      obtain ⟨first, hfirst, others, hothers, h⟩ := h
      obtain rfl := Except.ok.inj h
      rw [List.forall_mem_cons]
      exact ⟨canonical_of_hopMapping hfirst, canonical_of_mappedHops hothers⟩

theorem canonical_of_prefixText {s : Text} {route : Route} (h : ofPrefixText s = .ok route) :
    route.Canonical := by
  unfold ofPrefixText at h
  split at h
  · obtain rfl := Except.ok.inj h
    exact canonical_empty _
  · cases h

/-- **A route of a mapping form is canonical.** -/
theorem canonical_of_mapping {value : Json} {route : Route} (h : ofMapping value = .ok route) :
    route.Canonical := by
  unfold ofMapping at h
  split at h
  · cases h
  · split at h
    · cases h
    · simp only [bind_eq_ok] at h
      obtain ⟨bare, hbare, hops, hhops, -, -, h⟩ := h
      obtain rfl := Except.ok.inj h
      exact (canonical_of_prefixText hbare).insertAll (canonical_of_mappedHops hhops)

end Route
end RouteWatch
