/-
What a comparison reports, told without the comparison. A report on two
routes holds what sets them apart and nothing else, in one order: the prefix,
the number of next-hops, the expected next-hops by identifier, each missing
or with its attributes one by one, and then the unexpected ones. There is
only one such report, and between canonical routes the comparison makes it.

What the reports have in common follows from that alone: nothing is said
twice, the numbers of next-hops differ by what is missing less what is
unexpected, and the report from the other side is the same one turned around.
-/
import Mathlib.Data.List.Nodup
import RouteWatch.Proofs.Route.Difference

namespace RouteWatch

/-- The place of an attribute in a report. -/
def Field.place : Field → Nat
  | distance => 0
  | metric => 1
  | protocol => 2

namespace Difference

/-- The part of a report to which a difference belongs. -/
def part : Difference → Nat
  | routeAbsent => 0
  | target .. => 1
  | count .. => 2
  | missing _ => 3
  | field .. => 3
  | unexpected _ => 4

/-- The next-hop that a difference is about. -/
def subject : Difference → Text
  | missing id => id
  | unexpected id => id
  | field id .. => id
  | _ => []

/-- The place of a difference among those of one next-hop. -/
def place : Difference → Nat
  | field _ name _ _ => name.place
  | _ => 0

/-- The order of a report: by part, then by next-hop, then by attribute. -/
def Before (d e : Difference) : Prop :=
  d.part < e.part ∨
    d.part = e.part ∧ (d.subject < e.subject ∨ d.subject = e.subject ∧ d.place < e.place)

/-- The difference as it is seen from the other side. -/
def swap : Difference → Difference
  | routeAbsent => routeAbsent
  | target expected observed => target observed expected
  | count expected observed => count observed expected
  | missing id => unexpected id
  | unexpected id => missing id
  | field id name expected observed => field id name observed expected

def isMissing : Difference → Bool
  | missing _ => true
  | _ => false

def isUnexpected : Difference → Bool
  | unexpected _ => true
  | _ => false

theorem Before.irrefl (d : Difference) : ¬ d.Before d := by
  intro h
  rcases h with h | ⟨-, h | ⟨-, h⟩⟩
  · exact Nat.lt_irrefl _ h
  · exact List.lt_irrefl _ h
  · exact Nat.lt_irrefl _ h

theorem Before.asymm {d e : Difference} (h : d.Before e) : ¬ e.Before d := by
  intro h'
  rcases h with h | ⟨hp, h | ⟨hs, h⟩⟩
  · rcases h' with h' | ⟨hp', -⟩ <;> omega
  · rcases h' with h' | ⟨-, h' | ⟨hs', -⟩⟩
    · omega
    · exact List.lt_asymm h h'
    · rw [hs'] at h
      exact List.lt_irrefl _ h
  · rcases h' with h' | ⟨-, h' | ⟨-, h'⟩⟩
    · omega
    · rw [hs] at h'
      exact List.lt_irrefl _ h'
    · omega

/-- The differences make up one part of a report. -/
structure IsPart (n : Nat) (l : List Difference) : Prop where
  ordered : l.Pairwise Before
  part : ∀ d ∈ l, d.part = n

/-- The differences make up a report as far as a part. -/
structure EndsBefore (n : Nat) (l : List Difference) : Prop where
  ordered : l.Pairwise Before
  part : ∀ d ∈ l, d.part < n

theorem endsBefore_nil (n : Nat) : EndsBefore n [] := ⟨List.Pairwise.nil, nofun⟩

theorem EndsBefore.append {n : Nat} {a b : List Difference} (ha : EndsBefore n a)
    (hb : IsPart n b) : EndsBefore (n + 1) (a ++ b) where
  ordered := by
    refine List.pairwise_append.2 ⟨ha.ordered, hb.ordered, fun d hd e he => .inl ?_⟩
    rw [hb.part e he]
    exact ha.part d hd
  part d hd := by
    rcases List.mem_append.1 hd with hd | hd
    · exact Nat.lt_succ_of_lt (ha.part d hd)
    · rw [hb.part d hd]
      exact Nat.lt_succ_self n

theorem swap_swap (d : Difference) : d.swap.swap = d := by cases d <;> rfl

theorem swap_inj {d e : Difference} (h : d.swap = e.swap) : d = e := by
  rw [← swap_swap d, h, swap_swap]

end Difference

/-- The values of an attribute differ, not just their texts. -/
def NextHop.Differ (a b : NextHop) : Field → Prop
  | .distance => a.distance ≠ b.distance
  | .metric => a.metric ≠ b.metric
  | .protocol => a.protocol ≠ b.protocol

theorem NextHop.Differ.symm {a b : NextHop} {name : Field} (h : a.Differ b name) :
    b.Differ a name := by
  cases name with
  | distance => exact Ne.symm h
  | metric => exact Ne.symm h
  | protocol => exact Ne.symm h

/-- Of canonical next-hops the texts differ where the values do. -/
theorem NextHop.Canonical.differ_iff {a b : NextHop} (ha : a.Canonical) (hb : b.Canonical)
    (name : Field) : a.Differ b name ↔ a.text name ≠ b.text name := by
  cases name with
  | distance =>
    exact not_congr ⟨fun h => congrArg (·.getD []) h, eq_of_getD ha.distance hb.distance⟩
  | metric => exact not_congr ⟨fun h => congrArg (·.getD []) h, eq_of_getD ha.metric hb.metric⟩
  | protocol => exact not_congr ⟨congrArg Protocol.print, ha.protocol.eq_of_print hb.protocol⟩

theorem NextHop.mem_differences {id : Text} {expected observed : NextHop} {d : Difference} :
    d ∈ expected.differences id observed ↔
      ∃ name, expected.text name ≠ observed.text name ∧
        d = .field id name (expected.text name) (observed.text name) := by
  rw [differences, List.mem_map]
  constructor
  · rintro ⟨name, hname, rfl⟩
    exact ⟨name, by simpa using (List.mem_filter.1 hname).2, rfl⟩
  · rintro ⟨name, hne, rfl⟩
    have hall : name ∈ [Field.distance, .metric, .protocol] := by cases name <;> simp
    exact ⟨name, List.mem_filter.2 ⟨hall, by simpa using hne⟩, rfl⟩

theorem NextHop.pairwise_differences (id : Text) (expected observed : NextHop) :
    (expected.differences id observed).Pairwise Difference.Before := by
  have hplaces : [Field.distance, .metric, .protocol].Pairwise fun a b => a.place < b.place := by
    decide
  rw [differences, List.pairwise_map]
  refine (hplaces.filter _).imp ?_
  intro a b hlt
  exact .inr ⟨rfl, .inr ⟨rfl, hlt⟩⟩

namespace Route

/-- What sets two routes apart. -/
inductive Differs (expected observed : Route) : Difference → Prop
  | target (h : expected.target ≠ observed.target) :
    Differs expected observed (.target expected.target.print observed.target.print)
  | count (h : expected.count ≠ observed.count) :
    Differs expected observed (.count expected.count observed.count)
  | missing {id : Text} (he : (expected.get? id).isSome = true) (ho : observed.get? id = none) :
    Differs expected observed (.missing id)
  | field {id : Text} {hop seen : NextHop} {name : Field} (he : expected.get? id = some hop)
    (ho : observed.get? id = some seen) (h : hop.Differ seen name) :
    Differs expected observed (.field id name (hop.text name) (seen.text name))
  | unexpected {id : Text} (he : expected.get? id = none) (ho : (observed.get? id).isSome = true) :
    Differs expected observed (.unexpected id)

/-- The report on two routes. -/
structure IsReport (expected observed : Route) (report : List Difference) : Prop where
  mem : ∀ d, d ∈ report ↔ Differs expected observed d
  ordered : report.Pairwise Difference.Before

theorem Differs.swap {expected observed : Route} {d : Difference}
    (h : Differs expected observed d) : Differs observed expected d.swap := by
  cases h with
  | target h => exact .target (Ne.symm h)
  | count h => exact .count (Ne.symm h)
  | missing he ho => exact .unexpected ho he
  | field he ho h => exact .field ho he h.symm
  | unexpected he ho => exact .missing ho he

/-! ## What follows from being the report -/

section

variable {expected observed : Route} {report : List Difference}
  (h : expected.IsReport observed report)
include h

theorem IsReport.nodup : report.Nodup := by
  rw [List.nodup_iff_pairwise_ne]
  refine h.ordered.imp ?_
  rintro d e hbefore rfl
  exact hbefore.irrefl

/-- There is one report only. -/
theorem IsReport.unique {other : List Difference} (h' : expected.IsReport observed other) :
    report = other := by
  have hperm : report.Perm other := by
    rw [List.perm_ext_iff_of_nodup h.nodup h'.nodup]
    intro d
    rw [h.mem, h'.mem]
  refine List.Perm.eq_of_pairwise ?_ h.ordered h'.ordered hperm
  intro d e _ _ hde hed
  exact absurd hed hde.asymm

/-- The report from the other side is this one turned around. -/
theorem IsReport.perm_swap {other : List Difference} (h' : observed.IsReport expected other) :
    other.Perm (report.map Difference.swap) := by
  rw [List.perm_ext_iff_of_nodup h'.nodup (h.nodup.map fun _ _ => Difference.swap_inj)]
  intro d
  rw [h'.mem, List.mem_map]
  constructor
  · intro hd
    exact ⟨d.swap, (h.mem _).2 hd.swap, d.swap_swap⟩
  · rintro ⟨e, he, rfl⟩
    exact ((h.mem e).1 he).swap

/-- The differences of one kind are as many as the next-hops that they name. -/
theorem IsReport.countP_eq {p : Difference → Bool} {ids : List Text} {make : Text → Difference}
    (hids : ids.Nodup) (hmake : Function.Injective make)
    (hp : ∀ d, Differs expected observed d ∧ p d = true ↔ ∃ id ∈ ids, make id = d) :
    report.countP p = ids.length := by
  have hperm : (report.filter p).Perm (ids.map make) := by
    rw [List.perm_ext_iff_of_nodup (h.nodup.sublist List.filter_sublist) (hids.map hmake)]
    intro d
    rw [List.mem_filter, h.mem, List.mem_map, hp]
  rw [List.countP_eq_length_filter, hperm.length_eq, List.length_map]

theorem IsReport.countP_isMissing :
    report.countP Difference.isMissing =
      (expected.nextHops.keysNotIn observed.nextHops).length := by
  refine h.countP_eq (Keyed.nodup_keysNotIn _ _) (fun _ _ => Difference.missing.inj) fun d => ?_
  constructor
  · rintro ⟨hd, hmissing⟩
    cases hd with
    | missing he ho => exact ⟨_, Keyed.mem_keysNotIn.2 ⟨he, ho⟩, rfl⟩
    | target | count | field | unexpected => cases hmissing
  · rintro ⟨id, hid, rfl⟩
    obtain ⟨he, ho⟩ := Keyed.mem_keysNotIn.1 hid
    exact ⟨.missing he ho, rfl⟩

theorem IsReport.countP_isUnexpected :
    report.countP Difference.isUnexpected =
      (observed.nextHops.keysNotIn expected.nextHops).length := by
  refine h.countP_eq (Keyed.nodup_keysNotIn _ _) (fun _ _ => Difference.unexpected.inj) fun d => ?_
  constructor
  · rintro ⟨hd, hunexpected⟩
    cases hd with
    | unexpected he ho => exact ⟨_, Keyed.mem_keysNotIn.2 ⟨ho, he⟩, rfl⟩
    | target | count | field | missing => cases hunexpected
  · rintro ⟨id, hid, rfl⟩
    obtain ⟨ho, he⟩ := Keyed.mem_keysNotIn.1 hid
    exact ⟨.unexpected he ho, rfl⟩

/-- The numbers of next-hops differ by what is missing less what is unexpected. -/
theorem IsReport.count_add :
    expected.count + report.countP Difference.isUnexpected =
      observed.count + report.countP Difference.isMissing := by
  rw [h.countP_isMissing, h.countP_isUnexpected]
  exact Keyed.size_add_length_keysNotIn expected.nextHops observed.nextHops

/-- Another number of next-hops is never all there is. -/
theorem IsReport.ne_count (m n : Nat) : report ≠ [.count m n] := by
  rintro rfl
  have hdiffers : Differs expected observed (.count m n) := (h.mem _).1 List.mem_cons_self
  have hcount := h.count_add
  -- Nothing is missing and nothing unexpected, so the numbers agree after all.
  simp only [List.countP_singleton, Difference.isMissing, Difference.isUnexpected] at hcount
  cases hdiffers with
  | count hne => exact hne hcount

end

/-! ## The comparison makes the report -/

theorem mem_targetDifference {expected observed : Route} {d : Difference} :
    d ∈ expected.targetDifference observed ↔ expected.target ≠ observed.target ∧
      d = .target expected.target.print observed.target.print := by
  unfold targetDifference
  split <;> simp [*]

theorem mem_countDifference {expected observed : Route} {d : Difference} :
    d ∈ expected.countDifference observed ↔ expected.count ≠ observed.count ∧
      d = .count expected.count observed.count := by
  unfold countDifference
  split <;> simp [*]

theorem mem_unexpectedHops {expected observed : Route} {d : Difference} :
    d ∈ expected.unexpectedHops observed ↔
      ∃ id, expected.get? id = none ∧ (observed.get? id).isSome = true ∧ d = .unexpected id := by
  have hkeys : expected.unexpectedHops observed =
      (observed.nextHops.keysNotIn expected.nextHops).map .unexpected := rfl
  rw [hkeys, List.mem_map]
  constructor
  · rintro ⟨id, hid, rfl⟩
    obtain ⟨ho, he⟩ := Keyed.mem_keysNotIn.1 hid
    exact ⟨id, he, ho, rfl⟩
  · rintro ⟨id, he, ho, rfl⟩
    exact ⟨id, Keyed.mem_keysNotIn.2 ⟨ho, he⟩, rfl⟩

/-- What is wrong with one expected next-hop. -/
def differencesOf (observed : Route) (hop : Text × NextHop) : List Difference :=
  match observed.get? hop.1 with
  | some seen => hop.2.differences hop.1 seen
  | none => [.missing hop.1]

theorem hopDifferences_eq (expected observed : Route) :
    expected.hopDifferences observed = expected.hops.flatMap observed.differencesOf := rfl

theorem mem_hopDifferences {expected observed : Route} {d : Difference} :
    d ∈ expected.hopDifferences observed ↔
      ∃ id hop, expected.get? id = some hop ∧ d ∈ observed.differencesOf (id, hop) := by
  rw [hopDifferences_eq, List.mem_flatMap]
  constructor
  · rintro ⟨⟨id, hop⟩, hmem, hd⟩
    exact ⟨id, hop, get?_eq_some.2 hmem, hd⟩
  · rintro ⟨id, hop, hget, hd⟩
    exact ⟨(id, hop), get?_eq_some.1 hget, hd⟩

theorem mem_differencesOf {observed : Route} {id : Text} {hop : NextHop} {d : Difference} :
    d ∈ observed.differencesOf (id, hop) ↔
      observed.get? id = none ∧ d = .missing id ∨
        ∃ seen name, observed.get? id = some seen ∧ hop.text name ≠ seen.text name ∧
          d = .field id name (hop.text name) (seen.text name) := by
  simp only [differencesOf]
  cases observed.get? id with
  | none => simp
  | some seen => simp [NextHop.mem_differences]

/-- The differences of one next-hop are about it. -/
theorem of_mem_differencesOf {observed : Route} {hop : Text × NextHop} {d : Difference}
    (h : d ∈ observed.differencesOf hop) : d.part = 3 ∧ d.subject = hop.1 := by
  rcases mem_differencesOf.1 h with ⟨-, rfl⟩ | ⟨seen, name, -, -, rfl⟩
  · exact ⟨rfl, rfl⟩
  · exact ⟨rfl, rfl⟩

/-- Its attributes stand in their order. -/
theorem pairwise_differencesOf (observed : Route) (hop : Text × NextHop) :
    (observed.differencesOf hop).Pairwise Difference.Before := by
  rw [differencesOf]
  cases observed.get? hop.1 with
  | none => exact List.pairwise_singleton _ _
  | some seen => exact NextHop.pairwise_differences hop.1 hop.2 seen

section

variable (expected observed : Route)

theorem isPart_targetDifference : Difference.IsPart 1 (expected.targetDifference observed) where
  ordered := by
    unfold targetDifference
    split <;> simp
  part d hd := by
    obtain ⟨-, rfl⟩ := mem_targetDifference.1 hd
    rfl

theorem isPart_countDifference : Difference.IsPart 2 (expected.countDifference observed) where
  ordered := by
    unfold countDifference
    split <;> simp
  part d hd := by
    obtain ⟨-, rfl⟩ := mem_countDifference.1 hd
    rfl

theorem isPart_hopDifferences : Difference.IsPart 3 (expected.hopDifferences observed) where
  ordered := by
    rw [hopDifferences_eq, List.pairwise_flatMap]
    refine ⟨fun hop _ => pairwise_differencesOf observed hop, ?_⟩
    -- The identifiers increase, and what is told of a next-hop names its identifier.
    refine expected.nextHops.increasing.imp ?_
    intro a b hlt d hd e he
    obtain ⟨hpart, hsubject⟩ := of_mem_differencesOf hd
    obtain ⟨hpart', hsubject'⟩ := of_mem_differencesOf he
    exact .inr ⟨hpart.trans hpart'.symm, .inl (by rw [hsubject, hsubject']; exact hlt)⟩
  part d hd := by
    obtain ⟨id, hop, -, hd⟩ := mem_hopDifferences.1 hd
    exact (of_mem_differencesOf hd).1

theorem isPart_unexpectedHops : Difference.IsPart 4 (expected.unexpectedHops observed) where
  ordered := by
    rw [unexpectedHops, List.pairwise_map]
    have hkeys : observed.nextHops.keys.Pairwise (· < ·) :=
      List.pairwise_map.2 observed.nextHops.increasing
    refine (hkeys.filter _).imp ?_
    intro id id' hlt
    exact .inr ⟨rfl, .inl hlt⟩
  part d hd := by
    obtain ⟨id, -, -, rfl⟩ := mem_unexpectedHops.1 hd
    rfl

end

/-- **Between canonical routes the comparison makes the report.** -/
theorem Canonical.isReport_differences {expected observed : Route} (he : expected.Canonical)
    (ho : observed.Canonical) :
    expected.IsReport observed (expected.differences (some observed)) where
  mem d := by
    simp only [differences, List.mem_append, mem_targetDifference, mem_countDifference,
      mem_hopDifferences, mem_differencesOf, mem_unexpectedHops]
    constructor
    · rintro (((⟨hne, rfl⟩ | ⟨hne, rfl⟩) | ⟨id, hop, hget, hd⟩) | ⟨id, hget, hseen, rfl⟩)
      · exact .target hne
      · exact .count hne
      · rcases hd with ⟨hseen, rfl⟩ | ⟨seen, name, hseen, hne, rfl⟩
        · exact .missing (by rw [hget]; rfl) hseen
        · exact .field hget hseen (((he id hop hget).differ_iff (ho id seen hseen) name).2 hne)
      · exact .unexpected hget hseen
    · intro hd
      cases hd with
      | target hne => exact .inl (.inl (.inl ⟨hne, rfl⟩))
      | count hne => exact .inl (.inl (.inr ⟨hne, rfl⟩))
      | @missing id hget hseen =>
        obtain ⟨hop, hhop⟩ := Option.isSome_iff_exists.1 hget
        exact .inl (.inr ⟨id, hop, hhop, .inl ⟨hseen, rfl⟩⟩)
      | @field id hop seen name hget hseen hdiffer =>
        have hne := ((he id hop hget).differ_iff (ho id seen hseen) name).1 hdiffer
        exact .inl (.inr ⟨id, hop, hget, .inr ⟨seen, name, hseen, hne, rfl⟩⟩)
      | @unexpected id hget hseen => exact .inr ⟨id, hget, hseen, rfl⟩
  ordered :=
    ((((Difference.endsBefore_nil 1).append (isPart_targetDifference expected observed)).append
      (isPart_countDifference expected observed)).append
      (isPart_hopDifferences expected observed)).append
      (isPart_unexpectedHops expected observed) |>.ordered

/-- **A comparison of canonical routes reports exactly what sets them apart.** It tells nothing if
and only if they are the same route, it is the one report on them and holds nothing twice, the
numbers of next-hops differ by what is missing less what is unexpected and never alone, and from
the other side the same differences are reported turned around. A route that was not found is
reported as absent and in no other way. -/
theorem differences_report {expected observed : Route} (he : expected.Canonical)
    (ho : observed.Canonical) :
    (expected.differences (some observed) = [] ↔ expected = observed) ∧
    expected.IsReport observed (expected.differences (some observed)) ∧
    (∀ report, expected.IsReport observed report →
      report = expected.differences (some observed)) ∧
    (expected.differences (some observed)).Nodup ∧
    ((expected.count : Int) - observed.count =
      (expected.differences (some observed)).countP Difference.isMissing -
        (expected.differences (some observed)).countP Difference.isUnexpected) ∧
    (∀ m n, expected.differences (some observed) ≠ [.count m n]) ∧
    (observed.differences (some expected)).Perm
      ((expected.differences (some observed)).map Difference.swap) ∧
    expected.differences none = [.routeAbsent] := by
  have hreport := he.isReport_differences ho
  have hcount := hreport.count_add
  refine ⟨?_, hreport, fun report h => h.unique hreport, hreport.nodup, ?_, hreport.ne_count,
    hreport.perm_swap (ho.isReport_differences he), rfl⟩
  · rw [he.differences_eq_nil fun route h => Option.some.inj h ▸ ho, Option.some.injEq, eq_comm]
  · omega

/-- A route over a gateway, an interface and an address of the other family. -/
def wideRoute : Route :=
  (empty ⟨.v4 10 0 0 0, 8⟩).insertAll [("10.1.1.1".toList, ⟨some ['1'], none, .static⟩),
    ("Ethernet0".toList, .plain .kernel), ("fe80::1".toList, .plain (.other "rip".toList))]

/-- A longer prefix over the same gateway, with other attributes, and over another interface. -/
def narrowRoute : Route :=
  (empty ⟨.v4 10 0 0 0, 24⟩).insertAll [("Ethernet4".toList, .plain .kernel),
    ("10.1.1.1".toList, ⟨some "20".toList, none, .bgp⟩)]

/-- Two routes that differ in everything in which routes can differ. -/
theorem differences_report_wideRoute :
    wideRoute.Canonical ∧ narrowRoute.Canonical ∧
      wideRoute.IsReport narrowRoute [.target "10.0.0.0/8".toList "10.0.0.0/24".toList,
        .count 3 2, .field "10.1.1.1".toList .distance ['1'] "20".toList,
        .field "10.1.1.1".toList .protocol "static".toList "bgp".toList,
        .missing "Ethernet0".toList, .missing "fe80::1".toList,
        .unexpected "Ethernet4".toList] ∧
      wideRoute ≠ narrowRoute := by
  have hwide : wideRoute.Canonical := (canonical_empty _).insertAll (by
    simp only [List.forall_mem_cons]
    exact ⟨⟨by decide, by decide, by decide⟩, NextHop.canonical_plain (by decide),
      NextHop.canonical_plain (by decide), by simp⟩)
  have hnarrow : narrowRoute.Canonical := (canonical_empty _).insertAll (by
    simp only [List.forall_mem_cons]
    exact ⟨NextHop.canonical_plain (by decide), ⟨by decide, by decide, by decide⟩, by simp⟩)
  have hreport := differences_report hwide hnarrow
  refine ⟨hwide, hnarrow, hreport.2.1, fun h => ?_⟩
  exact absurd (hreport.1.2 h) (by decide)

end Route
end RouteWatch
