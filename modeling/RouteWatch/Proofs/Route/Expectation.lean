/-
Which values are expected states. Any key but two names a next-hop, so
whatever else stands in the object has to be a next-hop too, and the declared
number is compared with that of the next-hops only after all of them were
read. A value is accepted exactly when nothing is wrong with any part of it:
an accepted one is read as the route that it describes, and for any other one
the complaint that is made is true.
-/
import RouteWatch.Proofs.Route.Normal

namespace RouteWatch

/-! ## Texts -/

/-- The value is a string or a number, and this is its text. -/
inductive Json.IsScalar : Json → Text → Prop
  | string (s : Text) : IsScalar (.string s) s
  | number (n : JsonNumber) : IsScalar (.number n) n.text

theorem Json.scalarText?_eq_some {value : Json} {s : Text} :
    value.scalarText? = some s ↔ value.IsScalar s := by
  constructor
  · intro h
    cases value with
    | string => exact Option.some.inj h ▸ .string _
    | number => exact Option.some.inj h ▸ .number _
    | null | bool | array | object => cases h
  · rintro (_ | _) <;> rfl

theorem Json.IsScalar.unique {value : Json} {s t : Text} (hs : value.IsScalar s)
    (ht : value.IsScalar t) : s = t := by
  rw [← scalarText?_eq_some] at hs ht
  exact Option.some.inj (hs.symm.trans ht)

/-- What is found under the key of an attribute: nothing or a null, which are an empty text, or the
text of a string or of a number. -/
inductive IsAttribute : Option Json → Text → Prop
  | absent : IsAttribute none []
  | null : IsAttribute (some .null) []
  | scalar {value : Json} {s : Text} (h : value.IsScalar s) : IsAttribute (some value) s

/-! ## Next-hops -/

namespace NextHop

section

variable {id s : Text} {fields : Keyed Json} {field : Field} {e : ExpectationError}

theorem mappedText_eq_ok :
    mappedText id fields field = .ok s ↔ IsAttribute (fields.get? field.key) s := by
  rw [mappedText]
  generalize fields.get? field.key = found
  constructor
  · intro h
    split at h
    · exact Except.ok.inj h ▸ .absent
    · exact Except.ok.inj h ▸ .null
    · split at h
      · rename_i hs
        exact Except.ok.inj h ▸ .scalar (Json.scalarText?_eq_some.1 hs)
      · cases h
  · rintro (_ | _ | h)
    · rfl
    · rfl
    · cases h <;> rfl

theorem mappedText_eq_error (h : mappedText id fields field = .error e) :
    e = .fieldNotText id field ∧ ∀ s, ¬ IsAttribute (fields.get? field.key) s := by
  refine ⟨?_, fun s hs => ?_⟩
  · rw [mappedText] at h
    split at h
    · cases h
    · cases h
    · split at h
      · cases h
      · exact (Except.error.inj h).symm
  · rw [mappedText_eq_ok.2 hs] at h
    cases h

end

/-- The value describes the next-hop: it is an object, an empty distance or metric is an absent one,
and the protocol is the one that its text names. -/
def Describes (value : Json) (hop : NextHop) : Prop :=
  ∃ fields, value.object? = some fields ∧ ∃ distance metric protocol,
    IsAttribute (fields.get? Field.distance.key) distance ∧
    IsAttribute (fields.get? Field.metric.key) metric ∧
    IsAttribute (fields.get? Field.protocol.key) protocol ∧
    hop = ⟨present? distance, present? metric, Protocol.read protocol⟩

/-- The value is an object in which each of the attributes is absent, null, a string or a number. -/
def WellFormed (value : Json) : Prop :=
  ∃ fields, value.object? = some fields ∧
    ∀ field : Field, ∃ s, IsAttribute (fields.get? field.key) s

theorem Describes.wellFormed {value : Json} {hop : NextHop} (h : Describes value hop) :
    WellFormed value := by
  obtain ⟨fields, hfields, distance, metric, protocol, hdistance, hmetric, hprotocol, -⟩ := h
  refine ⟨fields, hfields, fun field => ?_⟩
  cases field with
  | distance => exact ⟨distance, hdistance⟩
  | metric => exact ⟨metric, hmetric⟩
  | protocol => exact ⟨protocol, hprotocol⟩

/-- What can be wrong with the value under an identifier, and what is said then. -/
inductive Flaw (id : Text) (value : Json) : ExpectationError → Prop
  | notMapping (h : value.object? = none) : Flaw id value (.hopNotMapping id)
  | notText {fields : Keyed Json} {field : Field} (h : value.object? = some fields)
      (hnot : ∀ s, ¬ IsAttribute (fields.get? field.key) s) : Flaw id value (.fieldNotText id field)

/-- **A next-hop that was accepted is the one that the value describes.** -/
theorem describes_of_mapping {id : Text} {value : Json} {hop : NextHop}
    (h : ofMapping id value = .ok hop) : Describes value hop := by
  unfold ofMapping at h
  split at h
  · cases h
  · rename_i fields hfields
    simp only [bind_eq_ok, mappedText_eq_ok] at h
    obtain ⟨distance, hdistance, metric, hmetric, protocol, hprotocol, h⟩ := h
    obtain rfl := Except.ok.inj h
    exact ⟨fields, hfields, distance, metric, protocol, hdistance, hmetric, hprotocol, rfl⟩

theorem flaw_of_mapping {id : Text} {value : Json} {e : ExpectationError}
    (h : ofMapping id value = .error e) : Flaw id value e := by
  unfold ofMapping at h
  split at h
  · rename_i hnone
    exact Except.error.inj h ▸ .notMapping hnone
  · rename_i fields hfields
    have hflaw : ∀ {field : Field}, mappedText id fields field = .error e → Flaw id value e := by
      intro field hfield
      obtain ⟨rfl, hnot⟩ := mappedText_eq_error hfield
      exact .notText hfields hnot
    simp only [bind_eq_error] at h
    rcases h with h | ⟨_, -, h | ⟨_, -, h | ⟨_, -, h⟩⟩⟩
    · exact hflaw h
    · exact hflaw h
    · exact hflaw h
    · cases h

theorem Flaw.not_wellFormed {id : Text} {value : Json} {e : ExpectationError}
    (h : Flaw id value e) : ¬ WellFormed value := by
  rintro ⟨fields, hfields, htext⟩
  cases h with
  | notMapping hnone => simp [hnone] at hfields
  | @notText fields' field hfields' hnot =>
    rw [hfields', Option.some.injEq] at hfields
    subst hfields
    obtain ⟨s, hs⟩ := htext field
    exact hnot s hs

end NextHop

/-! ## Expected states -/

namespace Route

/-- The keys that name a next-hop: all but those of the prefix and of the number. -/
def hopKeys (fields : Keyed Json) : List Text := fields.keys.filter (!isReserved ·)

/-- The fields are those of an expected state: the prefix is a string or a number that a prefix can
be read from, under every other key but that of the number there are attributes of a next-hop, and
the number, if there is one, is a string or a number that the number of these keys can be read
from. -/
structure WellFormed (fields : Keyed Json) : Prop where
  target : ∃ value s p, fields.get? routeKey = some value ∧ value.IsScalar s ∧
    Prefix.read? (Text.trim s) = some p
  hops : ∀ id value, isReserved id = false → fields.get? id = some value → NextHop.WellFormed value
  count : ∀ value, fields.get? countKey = some value →
    ∃ s, value.IsScalar s ∧ Text.toCount? Text.wordMax (Text.trim s) = some (hopKeys fields).length

/-- The fields describe the route: it has the prefix that is read from them and their next-hops,
each with the attributes that stand there. -/
structure Describes (fields : Keyed Json) (route : Route) : Prop where
  target : ∃ value s, fields.get? routeKey = some value ∧ value.IsScalar s ∧
    Prefix.read? (Text.trim s) = some route.target
  keys : route.nextHops.keys = hopKeys fields
  hops : ∀ id hop, route.get? id = some hop →
    ∃ value, fields.get? id = some value ∧ NextHop.Describes value hop

/-- What can be wrong with the value of an expected state, and what is said then. -/
inductive Flaw (value : Json) : ExpectationError → Prop
  | notMapping (h : value.object? = none) : Flaw value .notMapping
  | missingRoute {fields : Keyed Json} (h : value.object? = some fields)
      (hnot : ∀ found s, fields.get? routeKey = some found → ¬ found.IsScalar s) :
      Flaw value .missingRoute
  | badPrefix {fields : Keyed Json} {found : Json} {s : Text} {reason : PrefixError}
      (h : value.object? = some fields) (hfound : fields.get? routeKey = some found)
      (hs : found.IsScalar s) (hparse : Prefix.parse (Text.trim s) = .error reason) :
      Flaw value (.badPrefix reason)
  | hop {fields : Keyed Json} {id : Text} {found : Json} {e : ExpectationError}
      (h : value.object? = some fields) (hid : isReserved id = false)
      (hfound : fields.get? id = some found) (hflaw : NextHop.Flaw id found e) : Flaw value e
  | countNotNumber {fields : Keyed Json} {found : Json} (h : value.object? = some fields)
      (hfound : fields.get? countKey = some found)
      (hnot : ∀ s n, found.IsScalar s → Text.toCount? Text.wordMax (Text.trim s) ≠ some n) :
      Flaw value .countNotNumber
  | countMismatch {fields : Keyed Json} {found : Json} {s : Text} {declared : Nat}
      (h : value.object? = some fields) (hfound : fields.get? countKey = some found)
      (hs : found.IsScalar s)
      (hcount : Text.toCount? Text.wordMax (Text.trim s) = some declared)
      (hne : declared ≠ (hopKeys fields).length) :
      Flaw value (.countMismatch declared (hopKeys fields).length)

section

variable {value : Json} {fields : Keyed Json} {route : Route} {e : ExpectationError}

/-- **Where something is wrong, the value is not well formed.** -/
theorem Flaw.not_wellFormed (h : Flaw value e) (hfields : value.object? = some fields) :
    ¬ WellFormed fields := by
  intro hformed
  have hsame : ∀ {fields' : Keyed Json}, value.object? = some fields' → fields' = fields :=
    fun h' => Option.some.inj (h'.symm.trans hfields)
  cases h with
  | notMapping h =>
    rw [h] at hfields
    cases hfields
  | missingRoute h hnot =>
    obtain rfl := hsame h
    obtain ⟨found, s, _, hfound, hs, -⟩ := hformed.target
    exact hnot found s hfound hs
  | badPrefix h hfound hs hparse =>
    obtain rfl := hsame h
    obtain ⟨found', s', p, hfound', hs', hp⟩ := hformed.target
    obtain rfl := Option.some.inj (hfound.symm.trans hfound')
    obtain rfl := hs.unique hs'
    rw [← Prefix.parse_eq_ok, hparse] at hp
    cases hp
  | hop h hid hfound hflaw =>
    obtain rfl := hsame h
    exact hflaw.not_wellFormed (hformed.hops _ _ hid hfound)
  | countNotNumber h hfound hnot =>
    obtain rfl := hsame h
    obtain ⟨s, hs, hcount⟩ := hformed.count _ hfound
    exact hnot s _ hs hcount
  | countMismatch h hfound hs hcount hne =>
    obtain rfl := hsame h
    obtain ⟨s', hs', hcount'⟩ := hformed.count _ hfound
    obtain rfl := hs.unique hs'
    exact hne (Option.some.inj (hcount.symm.trans hcount'))

/-- Where the next-hops are refused, one of the entries is. -/
theorem mappedHops_eq_error {entries : List (Text × Json)} (h : mappedHops entries = .error e) :
    ∃ entry ∈ entries, isReserved entry.1 = false ∧ NextHop.Flaw entry.1 entry.2 e := by
  induction entries with
  | nil => cases h
  | cons entry entries ih =>
    obtain ⟨key, value⟩ := entry
    rw [mappedHops] at h
    split at h
    · obtain ⟨entry, hentry, hflaw⟩ := ih h
      exact ⟨entry, List.mem_cons_of_mem _ hentry, hflaw⟩
    · rename_i hkey
      rcases bind_eq_error.1 h with h | ⟨_, -, h⟩
      · exact ⟨_, List.mem_cons_self, eq_false_of_ne_true hkey, NextHop.flaw_of_mapping h⟩
      · rcases bind_eq_error.1 h with h | ⟨_, -, h⟩
        · obtain ⟨entry, hentry, hflaw⟩ := ih h
          exact ⟨entry, List.mem_cons_of_mem _ hentry, hflaw⟩
        · cases h

/-- The number that a value declares. -/
theorem declared_eq_some {found : Json} {n : Nat} :
    (found.scalarText?.bind fun s => Text.toCount? Text.wordMax (Text.trim s)) = some n ↔
      ∃ s, found.IsScalar s ∧ Text.toCount? Text.wordMax (Text.trim s) = some n := by
  simp only [Option.bind_eq_some_iff, Json.scalarText?_eq_some]

theorem count_of_checkCount {declared : Option Json} {listed : Nat}
    (h : checkCount declared listed = .ok ()) : ∀ found, declared = some found →
      ∃ s, found.IsScalar s ∧ Text.toCount? Text.wordMax (Text.trim s) = some listed := by
  rintro found rfl
  rw [← declared_eq_some]
  simp only [checkCount] at h
  split at h
  · cases h
  · rename_i n hcount
    by_cases heq : n = listed
    · exact heq ▸ hcount
    · rw [if_neg heq] at h
      cases h

theorem flaw_of_checkCount (hfields : value.object? = some fields)
    (h : checkCount (fields.get? countKey) (hopKeys fields).length = .error e) : Flaw value e := by
  cases hfound : fields.get? countKey with
  | none =>
    rw [hfound] at h
    cases h
  | some found =>
    rw [hfound] at h
    simp only [checkCount] at h
    split at h
    · rename_i hnone
      refine Except.error.inj h ▸ .countNotNumber hfields hfound fun s n hs hn => ?_
      rw [declared_eq_some.2 ⟨s, hs, hn⟩] at hnone
      cases hnone
    · rename_i n hcount
      obtain ⟨s, hs, hn⟩ := declared_eq_some.1 hcount
      by_cases heq : n = (hopKeys fields).length
      · rw [if_pos heq] at h
        cases h
      · rw [if_neg heq] at h
        exact Except.error.inj h ▸ .countMismatch hfields hfound hs hn heq

theorem exists_right_of_forall₂ {R : α → β → Prop} {as : List α} {bs : List β}
    (h : List.Forall₂ R as bs) {a : α} (ha : a ∈ as) : ∃ b ∈ bs, R a b := by
  induction h with
  | nil => cases ha
  | cons hab _ ih =>
    rcases List.mem_cons.1 ha with rfl | ha
    · exact ⟨_, List.mem_cons_self, hab⟩
    · obtain ⟨b, hb, hab⟩ := ih ha
      exact ⟨b, List.mem_cons_of_mem _ hb, hab⟩

theorem exists_left_of_forall₂ {R : α → β → Prop} {as : List α} {bs : List β}
    (h : List.Forall₂ R as bs) {b : β} (hb : b ∈ bs) : ∃ a ∈ as, R a b :=
  exists_right_of_forall₂ h.flip hb

/-- Next-hops that are put into no route by increasing identifier are listed as they are. -/
theorem hops_insertAll_empty {target : Prefix} {hops : List (Text × NextHop)}
    (h : KeysIncrease hops) : ((empty target).insertAll hops).hops = hops := by
  have hlist := Keyed.ofList_entries ⟨hops, h⟩
  rw [insertAll_eq]
  exact congrArg Keyed.entries hlist

/-- **The next-hops that are read are those that the fields describe.** -/
theorem describes_insertAll {target : Prefix} {hops : List (Text × NextHop)}
    (htarget : ∃ value s, fields.get? routeKey = some value ∧ value.IsScalar s ∧
      Prefix.read? (Text.trim s) = some target)
    (hhops : mappedHops fields.entries = .ok hops) :
    Describes fields ((empty target).insertAll hops) ∧
      ∀ id value, isReserved id = false → fields.get? id = some value →
        NextHop.WellFormed value := by
  have hkeys : hops.map (·.1) = hopKeys fields := by
    rw [keys_of_mappedHops hhops, hopKeys, Keyed.keys, List.filter_map]
    rfl
  have hincrease : KeysIncrease hops := by
    have hsorted := fields.increasing.filter (!isReserved ·.1)
    rw [KeysIncrease, ← List.pairwise_map, keys_of_mappedHops hhops, List.pairwise_map]
    exact hsorted
  have hentries : ((empty target).insertAll hops).hops = hops := hops_insertAll_empty hincrease
  have hread := mappedHops_eq_ok.1 hhops
  refine ⟨⟨?_, ?_, fun id hop hget => ?_⟩, fun id value hid hvalue => ?_⟩
  · rw [target_insertAll]
    exact htarget
  · exact (congrArg (List.map (·.1)) hentries).trans hkeys
  · rw [get?_eq_some, hentries] at hget
    obtain ⟨⟨key, value⟩, hentry, rfl, hhop⟩ := exists_left_of_forall₂ hread hget
    have hvalue := Keyed.get?_eq_some.2 (List.mem_filter.1 hentry).1
    exact ⟨value, hvalue, NextHop.describes_of_mapping hhop⟩
  · have hentry : (id, value) ∈ fields.entries.filter (!isReserved ·.1) :=
      List.mem_filter.2 ⟨Keyed.get?_eq_some.1 hvalue, by simp [hid]⟩
    obtain ⟨hop, -, -, hhop⟩ := exists_right_of_forall₂ hread hentry
    exact (NextHop.describes_of_mapping hhop).wellFormed

/-- The text of the prefix is found where the fields have a string or a number. -/
theorem routeText_eq_some {s : Text} : (fields.get? routeKey).bind Json.scalarText? = some s ↔
    ∃ found, fields.get? routeKey = some found ∧ found.IsScalar s := by
  simp only [Option.bind_eq_some_iff, Json.scalarText?_eq_some]

theorem ofPrefixText_eq_ok {s : Text} {bare : Route} :
    ofPrefixText s = .ok bare ↔ ∃ target, Prefix.read? (Text.trim s) = some target ∧
      bare = empty target := by
  rw [ofPrefixText]
  simp only [← Prefix.parse_eq_ok]
  cases Prefix.parse (Text.trim s) <;> simp [eq_comm]

theorem ofPrefixText_eq_error {s : Text} : ofPrefixText s = .error e ↔
    ∃ reason, Prefix.parse (Text.trim s) = .error reason ∧ e = .badPrefix reason := by
  rw [ofPrefixText]
  cases Prefix.parse (Text.trim s) <;> simp [eq_comm]

theorem Describes.count_eq (h : Describes fields route) :
    route.count = (hopKeys fields).length := by
  rw [← h.keys, Keyed.length_keys, count]

/-- **What was accepted is well formed, and the route is the one that it describes.** -/
theorem wellFormed_of_mapping (h : ofMapping value = .ok route) :
    ∃ fields, value.object? = some fields ∧ WellFormed fields ∧ Describes fields route := by
  unfold ofMapping at h
  split at h
  · cases h
  · rename_i fields hfields
    split at h
    · cases h
    · rename_i s hs
      obtain ⟨found, hfound, hs⟩ := routeText_eq_some.1 hs
      simp only [bind_eq_ok, ofPrefixText_eq_ok] at h
      obtain ⟨_, ⟨target, hread, rfl⟩, hops, hhops, ⟨⟩, hcount, h⟩ := h
      obtain rfl := Except.ok.inj h
      obtain ⟨hdescribes, hformed⟩ := describes_insertAll ⟨found, s, hfound, hs, hread⟩ hhops
      rw [hdescribes.count_eq] at hcount
      exact ⟨fields, hfields, ⟨⟨found, s, target, hfound, hs, hread⟩, hformed,
        count_of_checkCount hcount⟩, hdescribes⟩

/-- **Whatever is said of a value that was refused is true.** -/
theorem flaw_of_mapping (h : ofMapping value = .error e) : Flaw value e := by
  unfold ofMapping at h
  split at h
  · rename_i hnone
    exact Except.error.inj h ▸ .notMapping hnone
  · rename_i fields hfields
    split at h
    · rename_i hnone
      refine Except.error.inj h ▸ .missingRoute hfields fun found s hfound hs => ?_
      rw [routeText_eq_some.2 ⟨found, hfound, hs⟩] at hnone
      cases hnone
    · rename_i s hs
      obtain ⟨found, hfound, hs⟩ := routeText_eq_some.1 hs
      simp only [bind_eq_error, ofPrefixText_eq_ok, ofPrefixText_eq_error] at h
      rcases h with ⟨reason, hparse, rfl⟩ | ⟨_, ⟨target, hread, rfl⟩, h⟩
      · exact .badPrefix hfields hfound hs hparse
      · rcases h with h | ⟨hops, hhops, h⟩
        · obtain ⟨⟨key, found⟩, hentry, hkey, hflaw⟩ := mappedHops_eq_error h
          exact .hop hfields hkey (Keyed.get?_eq_some.2 hentry) hflaw
        · rcases h with h | ⟨_, -, h⟩
          · obtain ⟨hdescribes, -⟩ := describes_insertAll ⟨found, s, hfound, hs, hread⟩ hhops
            rw [hdescribes.count_eq] at h
            exact flaw_of_checkCount hfields h
          · cases h

end

/-- **Exactly the well-formed values are accepted.** Whatever the value, it is read as a route when
it is an object with the fields of an expected state, and never otherwise. The route has the prefix
that is written there and the next-hops under all other keys, and no more; a value that is not well
formed is refused, with a complaint that is true of it. -/
theorem ofMapping_accepts (value : Json) :
    ((∃ route, ofMapping value = .ok route) ↔
      ∃ fields, value.object? = some fields ∧ WellFormed fields) ∧
    (∀ route, ofMapping value = .ok route →
      ∃ fields, value.object? = some fields ∧ Describes fields route) ∧
    ((¬ ∃ fields, value.object? = some fields ∧ WellFormed fields) →
      ∃ e, ofMapping value = .error e ∧ Flaw value e ∧
        "Invalid expected route state: ".toList <+: e.message) := by
  refine ⟨⟨?_, ?_⟩, fun route h => ?_, fun hnot => ?_⟩
  · rintro ⟨route, h⟩
    obtain ⟨fields, hfields, hformed, -⟩ := wellFormed_of_mapping h
    exact ⟨fields, hfields, hformed⟩
  · rintro ⟨fields, hfields, hformed⟩
    cases h : ofMapping value with
    | ok route => exact ⟨route, rfl⟩
    | error e => exact absurd hformed ((flaw_of_mapping h).not_wellFormed hfields)
  · obtain ⟨fields, hfields, -, hdescribes⟩ := wellFormed_of_mapping h
    exact ⟨fields, hfields, hdescribes⟩
  · cases h : ofMapping value with
    | ok route =>
      obtain ⟨fields, hfields, hformed, -⟩ := wellFormed_of_mapping h
      exact absurd ⟨fields, hfields, hformed⟩ hnot
    | error e => exact ⟨e, rfl, flaw_of_mapping h, List.prefix_append _ _⟩

/-- An object with a prefix, a number of next-hops and two of these, one of them called like a
number, with a number and a null for texts. -/
def mixedObject (declared : Json) : Json :=
  .object [("Route".toList, .string " 123.0.0.1/32\n".toList),
    ("NumberNexthops".toList, declared),
    ("1.1.1.2".toList, .object [("Distance".toList, .string ['1']),
      ("RouteType".toList, .string "Static".toList)]),
    ("2".toList, .object [("Distance".toList, .number (.natural 1)), ("Metric".toList, .null)])]

/-- With the right number it is read, and without a number in place of it refused. -/
theorem ofMapping_accepts_mixedObject :
    (∃ fields, (mixedObject (.string "+02".toList)).object? = some fields ∧
      Describes fields ((Route.empty (Prefix.host (.v4 123 0 0 1))).insertAll
        [("1.1.1.2".toList, ⟨some ['1'], none, .static⟩),
          ("2".toList, ⟨some ['1'], none, .kernel⟩)])) ∧
    ∃ e, ofMapping (mixedObject .null) = .error e ∧ Flaw (mixedObject .null) e := by
  have hread : ofMapping (mixedObject (.string "+02".toList)) =
      .ok ((Route.empty (Prefix.host (.v4 123 0 0 1))).insertAll
        [("1.1.1.2".toList, ⟨some ['1'], none, .static⟩),
          ("2".toList, ⟨some ['1'], none, .kernel⟩)]) := by decide +kernel
  have hrefused : ofMapping (mixedObject .null) = .error .countNotNumber := by decide +kernel
  refine ⟨(ofMapping_accepts _).2.1 _ hread, ?_⟩
  obtain ⟨e, he, hflaw, -⟩ := (ofMapping_accepts (mixedObject .null)).2.2 <| by
    rintro ⟨fields, hfields, hformed⟩
    exact (flaw_of_mapping hrefused).not_wellFormed hfields hformed
  exact ⟨e, he, hflaw⟩

end Route
end RouteWatch
