/-
A route under changes in any order: next-hops are put in, also over others
with the same identifier, and those of one protocol are kept. What is found
under an identifier is told by the history alone: it is what was put in last,
as long as nothing since has dropped it. The order and the number of the
next-hops are the map's own and need no history.
-/
import Mathlib.Data.Set.Card
import RouteWatch.Proofs.Route.Basic
import RouteWatch.Proofs.Text.Utf8

namespace RouteWatch

/-- A change of the next-hops of a route. -/
inductive Change where
  | insert (id : Text) (hop : NextHop)
  | keep (protocol : Protocol)

/-- The change leaves a next-hop as it is: it puts in none of its identifier and keeps its
protocol. -/
def Change.Leaves (id : Text) (hop : NextHop) : Change → Prop
  | insert other _ => other ≠ id
  | keep protocol => hop.protocol = protocol

namespace Route

/-- The answer to a change, and the route after it. -/
def change (route : Route) : Change → Option NextHop × Route
  | .insert id hop => route.exchange id hop
  | .keep protocol => (none, route.keep protocol)

/-- The answers to some changes, one after the other, and the route behind them. -/
def changeAll : List Change → Route → List (Option NextHop) × Route
  | [], route => ([], route)
  | change :: changes, route =>
    let first := route.change change
    let rest := changeAll changes first.2
    (first.1 :: rest.1, rest.2)

/-! ## One change -/

/-- An insertion answers what was found before. -/
theorem change_insert (route : Route) (id : Text) (hop : NextHop) :
    route.change (.insert id hop) = (route.get? id, route.insert id hop) := by
  rw [change, exchange, Keyed.exchange_eq]
  rfl

theorem target_change (route : Route) (change : Change) :
    (route.change change).2.target = route.target := by cases change <;> rfl

/-- **A next-hop is found after a change if it was put in by it**, or was found before and left as
it was. -/
theorem get?_change {route : Route} {change : Change} {id : Text} {hop : NextHop} :
    (route.change change).2.get? id = some hop ↔
      change = .insert id hop ∨ route.get? id = some hop ∧ change.Leaves id hop := by
  cases change with
  | insert other new =>
    rw [change_insert, get?, insert, Change.Leaves, Change.insert.injEq]
    by_cases hother : other = id
    · subst hother
      simp
    · rw [Keyed.get?_insert_other _ _ (Ne.symm hother)]
      simp [hother, get?]
  | keep protocol =>
    have hkeep : (route.keep protocol).get? id = some hop ↔
        route.get? id = some hop ∧ ∀ p, some protocol = some p → hop.protocol = p :=
      @get?_keep? route (some protocol) id hop
    simpa [change, Change.Leaves] using hkeep

/-! ## A history of changes -/

theorem target_changeAll : ∀ (changes : List Change) (route : Route),
    (changeAll changes route).2.target = route.target
  | [], _ => rfl
  | change :: changes, route => by
    rw [changeAll, target_changeAll changes, target_change]

/-- A change is answered from the route that the changes before it leave. -/
theorem getElem?_changeAll : ∀ (changes : List Change) (route : Route) {i : Nat} {change : Change},
    changes[i]? = some change →
    (changeAll changes route).1[i]? = some ((changeAll (changes.take i) route).2.change change).1
  | _ :: _, _, 0, _, hchange => by
    cases hchange
    rfl
  | _ :: changes, _, _ + 1, _, hchange => getElem?_changeAll changes _ hchange

/-- The changes put a next-hop in, and those behind the insertion leave it. -/
def PutIn (changes : List Change) (id : Text) (hop : NextHop) : Prop :=
  ∃ before after, changes = before ++ .insert id hop :: after ∧
    ∀ change ∈ after, change.Leaves id hop

theorem putIn_cons {change : Change} {changes : List Change} {id : Text} {hop : NextHop} :
    PutIn (change :: changes) id hop ↔
      PutIn changes id hop ∨ change = .insert id hop ∧ ∀ c ∈ changes, c.Leaves id hop := by
  constructor
  · rintro ⟨before, after, hchanges, hleaves⟩
    rcases List.cons_eq_append_iff.1 hchanges with ⟨rfl, hrest⟩ | ⟨before, rfl, hrest⟩
    · obtain ⟨rfl, rfl⟩ := List.cons.inj hrest
      exact .inr ⟨rfl, hleaves⟩
    · exact .inl ⟨before, after, hrest, hleaves⟩
  · rintro (⟨before, after, rfl, hleaves⟩ | ⟨rfl, hleaves⟩)
    · exact ⟨change :: before, after, rfl, hleaves⟩
    · exact ⟨[], changes, rfl, hleaves⟩

/-- What is found after some changes was put in by them, or was found before and left by all. -/
theorem get?_changeAll {id : Text} {hop : NextHop} : ∀ {changes : List Change} {route : Route},
    (changeAll changes route).2.get? id = some hop ↔
      PutIn changes id hop ∨ route.get? id = some hop ∧ ∀ c ∈ changes, c.Leaves id hop
  | [], route => by simp [changeAll, PutIn]
  | change :: changes, route => by
    rw [changeAll, get?_changeAll, get?_change, putIn_cons, List.forall_mem_cons]
    tauto

/-- A next-hop is left by changes none of which puts in its identifier or keeps another
protocol. -/
theorem forall_leaves_iff {changes : List Change} {id : Text} {hop : NextHop} :
    (∀ c ∈ changes, c.Leaves id hop) ↔
      (∀ other, .insert id other ∉ changes) ∧
        ∀ protocol, .keep protocol ∈ changes → hop.protocol = protocol := by
  constructor
  · exact fun h => ⟨fun other hmem => h _ hmem rfl, fun protocol hmem => h _ hmem⟩
  · rintro ⟨hinsert, hkeep⟩ (⟨other, new⟩ | protocol) hmem
    · rintro rfl
      exact hinsert new hmem
    · exact hkeep protocol hmem

/-! ## The next-hops as a list -/

/-- The count is that of the identifiers under which a next-hop is found. -/
theorem encard_isSome_get? (route : Route) :
    {id | (route.get? id).isSome = true}.encard = route.count := by
  have hkeys : {id | (route.get? id).isSome = true} =
      (route.nextHops.keys.toFinset : Set Text) := by
    ext id
    simp [get?, Keyed.mem_keys]
  rw [hkeys, Set.encard_coe_eq_coe_finsetCard,
    List.toFinset_card_of_nodup route.nextHops.nodup_keys, Keyed.length_keys]
  rfl

/-- The next-hops are listed by the bytes of their identifiers. -/
theorem pairwise_encode_hops (route : Route) :
    route.hops.Pairwise fun a b => Utf8.encode a.1 < Utf8.encode b.1 :=
  route.nextHops.increasing.imp Utf8.encode_lt

/-- **A route is a map in which the last write wins**, whatever is done to it. An identifier has the
attributes that were put in last for it, unless another protocol was kept since; an insertion
answers what it replaces; and the next-hops that are found are counted and listed once each, by
the bytes of their identifiers. -/
theorem changeAll_empty (target : Prefix) (changes : List Change) :
    let run := changeAll changes (empty target)
    (∀ id hop, run.2.get? id = some hop ↔
      ∃ before after, changes = before ++ .insert id hop :: after ∧
        (∀ other, .insert id other ∉ after) ∧
        ∀ protocol, .keep protocol ∈ after → hop.protocol = protocol) ∧
    (∀ i id hop, changes[i]? = some (.insert id hop) →
      run.1[i]? = some ((changeAll (changes.take i) (empty target)).2.get? id)) ∧
    {id | (run.2.get? id).isSome = true}.encard = run.2.count ∧
    (∀ id hop, (id, hop) ∈ run.2.hops ↔ run.2.get? id = some hop) ∧
    (run.2.hops.Pairwise fun a b => Utf8.encode a.1 < Utf8.encode b.1) ∧
    run.2.target = target := by
  intro run
  refine ⟨fun id hop => ?_, fun i id hop hchange => ?_, encard_isSome_get? run.2,
    fun id hop => get?_eq_some.symm, pairwise_encode_hops run.2, target_changeAll changes _⟩
  · simp only [← forall_leaves_iff]
    rw [get?_changeAll, get?_empty, PutIn]
    simp
  · rw [getElem?_changeAll changes _ hchange, change_insert]

/-- A next-hop that is replaced, one that is dropped, and one that is put in at the end. -/
def mixedChanges : List Change :=
  [.insert ['a'] (.plain .static), .insert ['b'] (.plain .static), .insert ['a'] (.plain .bgp),
    .keep .bgp, .insert ['é'] (.plain .static)]

theorem changeAll_empty_mixedChanges :
    mixedChanges[2]? = some (.insert ['a'] (.plain .bgp)) ∧
      let run := changeAll mixedChanges (empty (Prefix.defaultRoute .v4))
      run.1[2]? = some (some (.plain .static)) ∧ run.2.get? ['a'] = some (.plain .bgp) ∧
        run.2.get? ['b'] = none ∧ run.2.hops = [(['a'], .plain .bgp), (['é'], .plain .static)] := by
  obtain ⟨hget, hanswer, -⟩ := changeAll_empty (Prefix.defaultRoute .v4) mixedChanges
  have hlast : (changeAll mixedChanges (empty (Prefix.defaultRoute .v4))).2.get? ['a'] =
      some (.plain .bgp) :=
    (hget _ _).2 ⟨mixedChanges.take 2, mixedChanges.drop 3, rfl, by simp [mixedChanges],
      by simp [mixedChanges, NextHop.plain]⟩
  exact ⟨rfl, hanswer 2 ['a'] _ rfl, hlast, rfl, rfl⟩

end Route
end RouteWatch
