/-
Which VRF a line belongs to, told by the lines above it. The lines are read in
one pass that remembers the VRF that is open, through stanzas that are opened
inside others, opened again or never closed; here a line belongs to what the
nearest boundary above it has opened, and to the default VRF where that one
closes or there is none. Read so, no line of another VRF has a part in what is
found for a VRF.
-/
import RouteWatch.Proofs.Dump.RunningConfig.Boundary

namespace RouteWatch.RunningConfig

/-! ## The nearest boundary -/

/-- The line opens this VRF: it is not indented, and the name behind the keyword is trimmed. -/
def Opens (name line : Text) : Prop := ∃ s, line = "vrf ".toList ++ s ∧ name = Text.trim s

/-- The line closes whatever VRF is open. -/
def Closes (line : Text) : Prop := Text.trim line = "exit-vrf".toList ∨ line = ['!']

def IsBoundary (line : Text) : Prop := (∃ name, Opens name line) ∨ Closes line

/-- The boundary nearest above line number `i` is this line, number `j`. -/
structure NearestBoundary (lines : List Text) (i j : Nat) (line : Text) : Prop where
  above : j < i
  at_line : lines[j]? = some line
  boundary : IsBoundary line
  between : ∀ k other, j < k → k < i → lines[k]? = some other → ¬ IsBoundary other

/-- Line number `i` belongs to this VRF, or to the default one. -/
inductive InScope (lines : List Text) (i : Nat) : Option Text → Prop
  | opened {j : Nat} {line name : Text} (h : NearestBoundary lines i j line)
      (hopens : Opens name line) : InScope lines i (some name)
  | closed {j : Nat} {line : Text} (h : NearestBoundary lines i j line) (hcloses : Closes line) :
      InScope lines i none
  | top (h : ∀ j line, j < i → lines[j]? = some line → ¬ IsBoundary line) : InScope lines i none

theorem Opens.unique {name name' line : Text} (h : Opens name line) (h' : Opens name' line) :
    name = name' := by
  obtain ⟨s, rfl, rfl⟩ := h
  obtain ⟨s', heq, rfl⟩ := h'
  rw [List.append_cancel_left heq]

/-- A line that opens a VRF begins with the keyword, and none that closes one does. -/
theorem Opens.not_closes {name line : Text} (h : Opens name line) : ¬ Closes line := by
  obtain ⟨s, rfl, -⟩ := h
  rintro (hexit | hmark)
  · have hstart : Text.trimStart ("vrf ".toList ++ s) = "vrf ".toList ++ s :=
      Text.trimStart_stopsAt (Text.stopsAt_cons _ (by decide))
    have hhead : (Text.trimEnd ("vrf ".toList ++ s)).head? = some 'e' := by
      rw [← hstart, ← Text.trim, hexit]
      rfl
    cases Text.head?_of_head?_trimEnd hhead
  · cases hmark

theorem boundary?_eq_opens {line name : Text} :
    boundary? line = some (.opens name) ↔ Opens name line := by
  cases hafter : Text.after? "vrf ".toList line with
  | some s =>
    rw [boundary?_of_some hafter, Option.some.injEq, Boundary.opens.injEq]
    rw [Text.after?_eq_some] at hafter
    constructor
    · rintro rfl
      exact ⟨s, hafter, rfl⟩
    · rintro ⟨s', hs', rfl⟩
      rw [List.append_cancel_left (hafter.symm.trans hs')]
  | none =>
    refine iff_of_false ?_ ?_
    · rw [boundary?_of_none hafter]
      split <;> simp
    · rintro ⟨s, hs, -⟩
      rw [Text.after?_eq_some.2 hs] at hafter
      cases hafter

theorem boundary?_eq_closes {line : Text} : boundary? line = some .closes ↔ Closes line := by
  cases hafter : Text.after? "vrf ".toList line with
  | some s =>
    have hopens : Opens (Text.trim s) line := ⟨s, Text.after?_eq_some.1 hafter, rfl⟩
    rw [boundary?_of_some hafter]
    exact iff_of_false (by simp) hopens.not_closes
  | none =>
    rw [boundary?_of_none hafter, Option.ite_none_right_eq_some]
    exact and_iff_left rfl

theorem boundary?_eq_none {line : Text} : boundary? line = none ↔ ¬ IsBoundary line := by
  rw [IsBoundary, ← boundary?_eq_closes]
  simp only [← boundary?_eq_opens]
  cases boundary? line with
  | none => simp
  | some boundary => cases boundary <;> simp

instance : DecidablePred IsBoundary := fun line =>
  decidable_of_iff ((boundary? line).isSome = true) (by
    rw [← not_iff_not, ← boundary?_eq_none, Bool.not_eq_true, Option.isSome_eq_false_iff,
      Option.isNone_iff_eq_none])

/-! ## The VRF that is open -/

/-- The VRF that is open behind a line. -/
def openBehind (current : Option Text) (line : Text) : Option Text :=
  match boundary? line with
  | some (.opens name) => some name
  | some .closes => none
  | none => current

/-- The VRF that is open where line number `i` stands. -/
def openAt (lines : List Text) (i : Nat) : Option Text := (lines.take i).foldl openBehind none

theorem openAt_succ {lines : List Text} {i : Nat} {line : Text} (h : lines[i]? = some line) :
    openAt lines (i + 1) = openBehind (openAt lines i) line := by
  rw [openAt, List.take_add_one, h, Option.toList_some, List.foldl_append]
  rfl

/-- Beyond the last line nothing is opened any more. -/
theorem openAt_succ_of_none {lines : List Text} {i : Nat} (h : lines[i]? = none) :
    openAt lines (i + 1) = openAt lines i := by
  rw [openAt, List.take_add_one, h, Option.toList_none, List.append_nil, openAt]

section

variable {lines : List Text} {i : Nat}

theorem nearestBoundary_succ {line : Text} (h : lines[i]? = some line) (hline : IsBoundary line) :
    NearestBoundary lines (i + 1) i line where
  above := i.lt_succ_self
  at_line := h
  boundary := hline
  between k other hik hki := absurd hki (by omega)

/-- A line that is no boundary leaves the nearest boundary what it is. -/
theorem InScope.succ {vrf : Option Text} (h : InScope lines i vrf)
    (hline : ∀ line, lines[i]? = some line → ¬ IsBoundary line) : InScope lines (i + 1) vrf := by
  have hnearest : ∀ {j line}, NearestBoundary lines i j line →
      NearestBoundary lines (i + 1) j line := by
    intro j line hj
    refine ⟨Nat.lt_succ_of_lt hj.above, hj.at_line, hj.boundary, fun k other hjk hki hk => ?_⟩
    rcases Nat.lt_or_eq_of_le (Nat.le_of_lt_succ hki) with hlt | rfl
    · exact hj.between k other hjk hlt hk
    · exact hline other hk
  cases h with
  | opened hj hopens => exact .opened (hnearest hj) hopens
  | closed hj hcloses => exact .closed (hnearest hj) hcloses
  | top hnone =>
    refine .top fun j line hji hj => ?_
    rcases Nat.lt_or_eq_of_le (Nat.le_of_lt_succ hji) with hlt | rfl
    · exact hnone j line hlt hj
    · exact hline line hj

/-- **The pass keeps in mind what the nearest boundary has opened.** -/
theorem inScope_openAt (lines : List Text) (i : Nat) : InScope lines i (openAt lines i) := by
  induction i with
  | zero => exact .top fun j line hj => absurd hj (Nat.not_lt_zero j)
  | succ i ih =>
    cases hline : lines[i]? with
    | none =>
      rw [openAt_succ_of_none hline]
      exact ih.succ fun line heq => absurd (hline.symm.trans heq) (by simp)
    | some line =>
      rw [openAt_succ hline, openBehind]
      split
      · rename_i name hopens
        rw [boundary?_eq_opens] at hopens
        exact .opened (nearestBoundary_succ hline (.inl ⟨name, hopens⟩)) hopens
      · rename_i hcloses
        rw [boundary?_eq_closes] at hcloses
        exact .closed (nearestBoundary_succ hline (.inr hcloses)) hcloses
      · rename_i hnone
        rw [boundary?_eq_none] at hnone
        refine ih.succ fun other heq => ?_
        obtain rfl : line = other := Option.some.inj (hline.symm.trans heq)
        exact hnone

theorem NearestBoundary.unique {j j' : Nat} {line line' : Text}
    (h : NearestBoundary lines i j line) (h' : NearestBoundary lines i j' line') :
    line = line' := by
  rcases Nat.lt_trichotomy j j' with hlt | rfl | hlt
  · exact absurd h'.boundary (h.between j' line' hlt h'.above h'.at_line)
  · exact Option.some.inj (h.at_line.symm.trans h'.at_line)
  · exact absurd h.boundary (h'.between j line hlt h.above h.at_line)

/-- A line belongs to one VRF. -/
theorem InScope.unique {vrf vrf' : Option Text} (h : InScope lines i vrf)
    (h' : InScope lines i vrf') : vrf = vrf' := by
  cases h with
  | opened hj hopens =>
    cases h' with
    | opened hj' hopens' => rw [hopens.unique (hj.unique hj' ▸ hopens')]
    | closed hj' hcloses => exact absurd (hj.unique hj' ▸ hcloses) hopens.not_closes
    | top hnone => exact absurd hj.boundary (hnone _ _ hj.above hj.at_line)
  | closed hj hcloses =>
    cases h' with
    | opened hj' hopens => exact absurd (hj'.unique hj ▸ hcloses) hopens.not_closes
    | closed => rfl
    | top => rfl
  | top hnone =>
    cases h' with
    | opened hj' => exact absurd hj'.boundary (hnone _ _ hj'.above hj'.at_line)
    | closed => rfl
    | top => rfl

theorem inScope_iff {vrf : Option Text} : InScope lines i vrf ↔ openAt lines i = vrf := by
  constructor
  · exact (inScope_openAt lines i).unique
  · rintro rfl
    exact inScope_openAt lines i

end

instance (lines : List Text) (i : Nat) (vrf : Option Text) : Decidable (InScope lines i vrf) :=
  decidable_of_iff (openAt lines i = vrf) inScope_iff.symm

/-! ## Lines with the VRF in which they stand -/

/-- Each line with the VRF that is open where it stands. -/
def withScopes (current : Option Text) : List Text → List (Text × Option Text)
  | [] => []
  | line :: rest => (line, current) :: withScopes (openBehind current line) rest

theorem map_zipIdx_openAt (above rest : List Text) :
    (rest.zipIdx above.length).map (fun line => (line.1, openAt (above ++ rest) line.2)) =
      withScopes (above.foldl openBehind none) rest := by
  induction rest generalizing above with
  | nil => rfl
  | cons line rest ih =>
    have ih := ih (above ++ [line])
    rw [List.length_append, List.length_singleton, List.append_assoc, List.singleton_append,
      List.foldl_append] at ih
    rw [List.zipIdx_cons, List.map_cons, ih, withScopes, openAt, List.take_left']
    · rfl
    · rfl

theorem withScopes_none (lines : List Text) :
    withScopes none lines = lines.zipIdx.map fun line => (line.1, openAt lines line.2) :=
  (map_zipIdx_openAt [] lines).symm

theorem vrfLinesFrom_cons (vrf current : Option Text) (line : Text) (rest : List Text) :
    vrfLinesFrom vrf current (line :: rest) =
      (if ¬ IsBoundary line ∧ current = vrf then [Text.trim line] else []) ++
        vrfLinesFrom vrf (openBehind current line) rest := by
  simp only [vrfLinesFrom, openBehind, ← boundary?_eq_none]
  cases boundary? line with
  | some boundary => cases boundary <;> simp
  | none => by_cases hopen : current = vrf <;> simp [hopen]

theorem vrfLinesFrom_eq (vrf current : Option Text) (lines : List Text) :
    vrfLinesFrom vrf current lines =
      ((withScopes current lines).filter fun line => ¬ IsBoundary line.1 ∧ line.2 = vrf).map
        fun line => Text.trim line.1 := by
  induction lines generalizing current with
  | nil => rfl
  | cons line rest ih =>
    rw [vrfLinesFrom_cons, withScopes, List.filter_cons, ih]
    by_cases hkept : ¬ IsBoundary line ∧ current = vrf <;> simp [hkept]

/-- The lines that are boundaries or belong to the VRF, when `current` is open at the first. -/
def keptFrom (vrf current : Option Text) (lines : List Text) : List Text :=
  ((withScopes current lines).filter fun line => IsBoundary line.1 ∨ line.2 = vrf).map (·.1)

/-- The lines that are not kept open and close nothing. -/
theorem vrfLinesFrom_keptFrom (vrf current : Option Text) (lines : List Text) :
    vrfLinesFrom vrf current (keptFrom vrf current lines) = vrfLinesFrom vrf current lines := by
  induction lines generalizing current with
  | nil => rfl
  | cons line rest ih =>
    have ih := ih (openBehind current line)
    rw [vrfLinesFrom_cons, keptFrom, withScopes, List.filter_cons]
    by_cases hkept : IsBoundary line ∨ current = vrf
    · rw [if_pos (decide_eq_true hkept), List.map_cons, vrfLinesFrom_cons]
      exact congrArg (_ ++ ·) ih
    · obtain ⟨hline, hopen⟩ := not_or.1 hkept
      have hsame : openBehind current line = current := by
        rw [openBehind, boundary?_eq_none.2 hline]
      rw [if_neg (by simpa using hkept), if_neg fun h => hopen h.2, List.nil_append, ← ih, hsame]
      rfl

/-- The configuration without the lines of other VRFs. Boundaries belong to none and stay. -/
def withoutOthers (lines : List Text) (vrf : Option Text) : List Text :=
  (lines.zipIdx.filter fun line => IsBoundary line.1 ∨ InScope lines line.2 vrf).map (·.1)

theorem vrfLines_withoutOthers (lines : List Text) (vrf : Option Text) :
    vrfLines (withoutOthers lines vrf) vrf = vrfLines lines vrf := by
  have hkept : withoutOthers lines vrf = keptFrom vrf none lines := by
    rw [withoutOthers, keptFrom, withScopes_none, List.filter_map, List.map_map]
    simp only [inScope_iff]
    rfl
  rw [hkept, vrfLines, vrfLines, vrfLinesFrom_keptFrom]

/-- **The lines of a VRF are those below its boundaries.** They are, in order and trimmed, the lines
that are no boundary and belong to the VRF by the nearest boundary above them. So two
configurations that are the same without the lines of other VRFs have the same lines and the same
routes in this one. -/
theorem vrfLines_scoped (vrf : Option Text) :
    (∀ lines, vrfLines lines vrf =
      (lines.zipIdx.filter fun line => ¬ IsBoundary line.1 ∧ InScope lines line.2 vrf).map
        fun line => Text.trim line.1) ∧
    ∀ lines lines', withoutOthers lines vrf = withoutOthers lines' vrf →
      (∀ wanted, containsLine lines vrf wanted = containsLine lines' vrf wanted) ∧
      ∀ query, query.vrf = vrf → extract lines query = extract lines' query := by
  constructor
  · intro lines
    rw [vrfLines, vrfLinesFrom_eq, withScopes_none, List.filter_map, List.map_map]
    simp only [inScope_iff]
    rfl
  · intro lines lines' h
    have hlines : vrfLines lines vrf = vrfLines lines' vrf := by
      rw [← vrfLines_withoutOthers lines, h, vrfLines_withoutOthers]
    refine ⟨fun wanted => by rw [containsLine, containsLine, hlines], ?_⟩
    rintro query rfl
    rw [extract, extract, hlines]

/-- A VRF that is opened inside another one and never closed, and one that is opened again. -/
def nestedLines : List Text :=
  ["vrf red".toList, " ip route 10.0.0.0/24 10.1.1.9".toList, "vrf  blue ".toList, gatewayLine,
    "vrf red".toList, gatewayLine]

/-- The same with other lines in the first VRF, at both of its places. -/
def nestedLines' : List Text :=
  ["vrf red".toList, "vrf  blue ".toList, gatewayLine, "vrf red".toList, "!!".toList,
    " exit".toList]

/-- What stands in one VRF decides nothing for the other. -/
theorem vrfLines_scoped_nested :
    withoutOthers nestedLines (some "blue".toList) =
        withoutOthers nestedLines' (some "blue".toList) ∧
      vrfLines nestedLines (some "red".toList) ≠ vrfLines nestedLines' (some "red".toList) ∧
      extract nestedLines ⟨gatewayRoute, none, some "blue".toList⟩ =
        extract nestedLines' ⟨gatewayRoute, none, some "blue".toList⟩ ∧
      extract nestedLines ⟨gatewayRoute, none, some "blue".toList⟩ = some gatewayRoute := by
  have hothers : withoutOthers nestedLines (some "blue".toList) =
      withoutOthers nestedLines' (some "blue".toList) := by decide +kernel
  exact ⟨hothers, by decide +kernel,
    ((vrfLines_scoped (some "blue".toList)).2 _ _ hothers).2 _ rfl, by decide +kernel⟩

end RouteWatch.RunningConfig
