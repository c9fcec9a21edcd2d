/-
Routes as maps from identifiers to next-hops: what is found under an
identifier after next-hops were put in, or after those of one protocol were
kept. Two routes to one prefix are equal when they answer every identifier
alike.
-/
import RouteWatch.Proofs.Keyed
import RouteWatch.Route.Basic

namespace RouteWatch.Route

theorem ext_get? {a b : Route} (ht : a.target = b.target) (h : ∀ id, a.get? id = b.get? id) :
    a = b := by
  obtain ⟨target, hops⟩ := a
  obtain ⟨target', hops'⟩ := b
  obtain rfl : target = target' := ht
  obtain rfl : hops = hops' := Keyed.ext_get? h
  rfl

theorem get?_eq_some {route : Route} {id : Text} {hop : NextHop} :
    route.get? id = some hop ↔ (id, hop) ∈ route.hops := Keyed.get?_eq_some

theorem count_ne_zero {route : Route} :
    route.count ≠ 0 ↔ ∃ id hop, route.get? id = some hop := Keyed.size_ne_zero

@[simp] theorem get?_empty (target : Prefix) (id : Text) : (empty target).get? id = none := rfl

theorem insertAll_eq (route : Route) (hops : List (Text × NextHop)) :
    route.insertAll hops =
      ⟨route.target, hops.foldl (fun m hop => m.insert hop.1 hop.2) route.nextHops⟩ := by
  induction hops generalizing route with
  | nil => rfl
  | cons hop hops ih => exact ih (route.insert hop.1 hop.2)

@[simp] theorem target_insertAll (route : Route) (hops : List (Text × NextHop)) :
    (route.insertAll hops).target = route.target := by rw [insertAll_eq]

theorem get?_insertAll (route : Route) (hops : List (Text × NextHop)) (id : Text) :
    (route.insertAll hops).get? id = (valueOf? id hops.reverse).or (route.get? id) := by
  rw [insertAll_eq]
  exact Keyed.get?_foldl_insert hops route.nextHops id

/-- Next-hops with distinct identifiers are found as they are listed. -/
theorem get?_insertAll_empty {target : Prefix} {hops : List (Text × NextHop)}
    (hn : (hops.map (·.1)).Nodup) (id : Text) :
    ((empty target).insertAll hops).get? id = valueOf? id hops := by
  rw [get?_insertAll, valueOf?_reverse hn, get?_empty, Option.or_none]

/-- A route is that of its own next-hops. -/
theorem insertAll_hops (route : Route) : (empty route.target).insertAll route.hops = route :=
  ext_get? (target_insertAll _ _) fun id => get?_insertAll_empty route.nextHops.nodup_keys id

/-- Next-hops that are all put in with the same attributes have these. -/
theorem get?_insertAll_pair (target : Prefix) (ids : List Text) (hop : NextHop) (id : Text) :
    ((empty target).insertAll (ids.map (·, hop))).get? id =
      if id ∈ ids then some hop else none := by
  rw [get?_insertAll, ← List.map_reverse, valueOf?_map_pair, get?_empty, Option.or_none]
  simp

/-- With the same attributes for all of them it only counts which next-hops are put in. -/
theorem insertAll_pair_congr {target : Prefix} {a b : List Text} (h : ∀ id, id ∈ a ↔ id ∈ b)
    (hop : NextHop) :
    (empty target).insertAll (a.map (·, hop)) = (empty target).insertAll (b.map (·, hop)) := by
  refine ext_get? (by simp) fun id => ?_
  simp only [get?_insertAll_pair, h id]

/-- A route whose next-hops all have the same attributes is that of its identifiers. -/
theorem insertAll_keys {route : Route} {hop : NextHop}
    (h : ∀ id other, route.get? id = some other → other = hop) :
    (empty route.target).insertAll (route.nextHops.keys.map (·, hop)) = route := by
  refine ext_get? (target_insertAll _ _) fun id => ?_
  have hkey : id ∈ route.nextHops.keys ↔ (route.get? id).isSome = true := Keyed.mem_keys
  rw [get?_insertAll_pair]
  cases hget : route.get? id with
  | none => rw [if_neg (by simp [hkey, hget])]
  | some other => rw [if_pos (by simp [hkey, hget]), h id other hget]

/-! ## One protocol -/

@[simp] theorem target_keep? (route : Route) (protocol : Option Protocol) :
    (route.keep? protocol).target = route.target := by cases protocol <;> rfl

/-- What is kept for a protocol are the next-hops that have it. -/
theorem get?_keep? {route : Route} {protocol : Option Protocol} {id : Text} {hop : NextHop} :
    (route.keep? protocol).get? id = some hop ↔
      route.get? id = some hop ∧ ∀ p, protocol = some p → hop.protocol = p := by
  cases protocol with
  | none => simp [keep?]
  | some p =>
    show (route.nextHops.filter (·.protocol == p)).get? id = some hop ↔ _
    rw [Keyed.get?_filter, Option.filter_eq_some_iff]
    simp [get?]

theorem keep?_keep? (route : Route) (protocol : Option Protocol) :
    (route.keep? protocol).keep? protocol = route.keep? protocol := by
  refine ext_get? (target_keep? _ _) fun id => ?_
  ext hop
  rw [get?_keep?, get?_keep?]
  exact ⟨And.left, fun h => ⟨h, h.2⟩⟩

/-! ## One next-hop less -/

/-- The route without one next-hop. -/
def erase (route : Route) (id : Text) : Route :=
  { route with nextHops := route.nextHops.erase id }

@[simp] theorem target_erase (route : Route) (id : Text) :
    (route.erase id).target = route.target := rfl

@[simp] theorem get?_erase (route : Route) (id other : Text) :
    (route.erase id).get? other = if other = id then none else route.get? other :=
  Keyed.get?_erase _ _ _

theorem count_erase {route : Route} {id : Text} {hop : NextHop} (h : route.get? id = some hop) :
    (route.erase id).count + 1 = route.count := Keyed.size_erase h

end RouteWatch.Route
