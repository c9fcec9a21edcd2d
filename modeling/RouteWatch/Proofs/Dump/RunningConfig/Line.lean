/-
A static route line tells its next-hop apart from every other. It is five
words at most, and from them prefix, identifier and distance are read back;
the default distance is never written, so the line that spells it out is the
line of no next-hop.

In a printed configuration these lines stand in the one VRF that was named:
none of them opens or closes a VRF, and what stands around them is no line of
a static route.
-/
import RouteWatch.Dump.RunningConfig.Printer
import RouteWatch.Proofs.Net.Prefix
import RouteWatch.Proofs.Text.Lines

namespace RouteWatch.RunningConfig

/-! ## Static route lines -/

/-- The distance at which a next-hop is configured. -/
def effectiveDistance (distance : Option Text) : Text := distance.getD defaultDistance

/-- The first word of a static route line. -/
def afiWord : Family → Text
  | .v4 => "ip".toList
  | .v6 => "ipv6".toList

/-- The words of a static route line up to its next-hop. -/
def hopWords (target : Prefix) (id : Text) : List Text :=
  [afiWord target.family, "route".toList, target.cidr, id]

theorem hopWords_ne_nil (target : Prefix) (id : Text) : hopWords target id ≠ [] :=
  List.cons_ne_nil _ _

/-- The words behind the next-hop. -/
def distanceWords (distance : Option Text) : List Text :=
  if effectiveDistance distance = defaultDistance then [] else [effectiveDistance distance]

theorem staticLine_none (target : Prefix) (id : Text) :
    staticLine target id none = Text.joinWith [' '] (hopWords target id) := by
  show afiWord target.family ++ " route ".toList ++ target.cidr ++ ' ' :: id = _
  simp [hopWords, Text.joinWith]

theorem staticLine_some (target : Prefix) (id distance : Text) :
    staticLine target id (some distance) =
      if distance = defaultDistance then staticLine target id none
      else staticLine target id none ++ ' ' :: distance := by
  split
  · rename_i hdefault
    rw [hdefault]
    rfl
  · rename_i hother
    have hfilter : (some distance).filter (· ≠ defaultDistance) = some distance := by
      simp [Option.filter, hother]
    unfold staticLine
    rw [hfilter]
    rfl

theorem joinWith_distance (target : Prefix) (id distance : Text) :
    Text.joinWith [' '] (hopWords target id ++ [distance]) =
      staticLine target id none ++ ' ' :: distance := by
  rw [Text.joinWith_concat _ (hopWords_ne_nil target id), staticLine_none, List.append_assoc]
  rfl

/-- A static route line is its words with blanks between them. -/
theorem staticLine_eq (target : Prefix) (id : Text) (distance : Option Text) :
    staticLine target id distance =
      Text.joinWith [' '] (hopWords target id ++ distanceWords distance) := by
  cases distance with
  | none =>
    have hnone : distanceWords none = [] := if_pos rfl
    rw [staticLine_none, hnone, List.append_nil]
  | some distance =>
    have hsome : distanceWords (some distance) =
        if distance = defaultDistance then [] else [distance] := rfl
    rw [staticLine_some, hsome]
    split
    · rw [List.append_nil, staticLine_none]
    · rw [joinWith_distance]

/-- What makes a next-hop readable from its line. -/
structure PrintableHop (id : Text) (hop : NextHop) : Prop where
  id : Text.IsWord id
  distance : ∀ s, hop.distance = some s → Text.IsWord s

theorem isWord_afiWord (family : Family) : Text.IsWord (afiWord family) := by
  cases family <;> decide

theorem isWord_hopWords (target : Prefix) {id : Text} (h : Text.IsWord id) :
    ∀ word ∈ hopWords target id, Text.IsWord word := by
  simp only [hopWords, List.forall_mem_cons]
  exact ⟨isWord_afiWord _, by decide, Prefix.isWord_cidr target, h, nofun⟩

theorem isWord_effectiveDistance {distance : Option Text}
    (h : ∀ s, distance = some s → Text.IsWord s) : Text.IsWord (effectiveDistance distance) := by
  cases distance with
  | none => exact (by decide : Text.IsWord defaultDistance)
  | some s => exact h s rfl

section

variable {id : Text} {hop : NextHop} (h : PrintableHop id hop) (target : Prefix)
include h

theorem isWord_lineWords :
    ∀ word ∈ hopWords target id ++ distanceWords hop.distance, Text.IsWord word := by
  refine List.forall_mem_append.2 ⟨isWord_hopWords target h.id, ?_⟩
  rw [distanceWords]
  split
  · exact nofun
  · exact List.forall_mem_singleton.2 (isWord_effectiveDistance h.distance)

theorem words_staticLine :
    Text.words (staticLine target id hop.distance) =
      hopWords target id ++ distanceWords hop.distance := by
  rw [staticLine_eq, Text.words_joinWith (isWord_lineWords h target)]

theorem trimmed_staticLine : Text.Trimmed (staticLine target id hop.distance) := by
  rw [staticLine_eq]
  refine Text.trimmed_joinWith [' '] fun word hword => ?_
  have hword := isWord_lineWords h target word hword
  exact ⟨hword.trimmed, hword.ne_nil⟩

end

theorem distanceWords_inj {a b : Option Text} (h : distanceWords a = distanceWords b) :
    effectiveDistance a = effectiveDistance b := by
  rw [distanceWords, distanceWords] at h
  split at h <;> split at h <;> simp_all

theorem distanceWords_ne_default (distance : Option Text) :
    distanceWords distance ≠ [defaultDistance] := by
  rw [distanceWords]
  split <;> simp_all

theorem hopWords_append_inj {target target' : Prefix} {id id' : Text} {words words' : List Text}
    (h : hopWords target id ++ words = hopWords target' id' ++ words') :
    target = target' ∧ id = id' ∧ words = words' := by
  obtain ⟨hhop, hwords⟩ := List.append_inj h rfl
  simp only [hopWords, List.cons.injEq, and_true] at hhop
  exact ⟨Prefix.cidr_inj hhop.2.2.1, hhop.2.2.2, hwords⟩

section

variable {target target' : Prefix} {id id' : Text} {hop hop' : NextHop}

/-- **A static route line has its next-hop to itself**, but for those at the same distance. -/
theorem staticLine_eq_iff (h : PrintableHop id hop) (h' : PrintableHop id' hop') :
    staticLine target id hop.distance = staticLine target' id' hop'.distance ↔
      target = target' ∧ id = id' ∧
        effectiveDistance hop.distance = effectiveDistance hop'.distance := by
  constructor
  · intro heq
    have hwords := congrArg Text.words heq
    rw [words_staticLine h, words_staticLine h'] at hwords
    obtain ⟨htarget, hid, hdistance⟩ := hopWords_append_inj hwords
    exact ⟨htarget, hid, distanceWords_inj hdistance⟩
  · rintro ⟨rfl, rfl, hdistance⟩
    rw [staticLine_eq, staticLine_eq, distanceWords, distanceWords, hdistance]

/-- No next-hop has the line that spells the default distance out. -/
theorem staticLine_ne_explicit (h : PrintableHop id hop) (h' : Text.IsWord id') :
    staticLine target id hop.distance ≠ staticLine target' id' none ++ ' ' :: defaultDistance := by
  intro heq
  have hexplicit : ∀ word ∈ hopWords target' id' ++ [defaultDistance], Text.IsWord word :=
    List.forall_mem_append.2 ⟨isWord_hopWords target' h', by decide⟩
  have hwords := congrArg Text.words heq
  rw [← joinWith_distance, Text.words_joinWith hexplicit, words_staticLine h] at hwords
  exact distanceWords_ne_default _ (hopWords_append_inj hwords).2.2

end

/-! ## Lines of a VRF -/

/-- Lines that are no boundary belong to the VRF that is open. -/
theorem vrfLinesFrom_append {above : List Text} (h : ∀ line ∈ above, (boundary? line).isNone)
    (vrf current : Option Text) (lines : List Text) :
    vrfLinesFrom vrf current (above ++ lines) =
      (if current = vrf then above.map Text.trim else []) ++ vrfLinesFrom vrf current lines := by
  induction above with
  | nil => simp
  | cons line above ih =>
    have hline : boundary? line = none := by simpa using h line (by simp)
    have ih := ih fun l hl => h l (by simp [hl])
    by_cases hopen : current = vrf
    · subst hopen
      simp [vrfLinesFrom, hline, ih]
    · simp [vrfLinesFrom, hline, hopen, ih]

theorem vrfLinesFrom_closes {line : Text} (h : boundary? line = some .closes)
    (vrf current : Option Text) (lines : List Text) :
    vrfLinesFrom vrf current (line :: lines) = vrfLinesFrom vrf none lines := by
  rw [vrfLinesFrom, h]

/-- A line that begins with the letter `i` behind its indentation is no boundary. -/
theorem boundary?_append {blanks line : Text} (hb : ∀ c ∈ blanks, Text.isBlank c = true)
    (hline : Text.Trimmed line) (hi : line.head? = some 'i') :
    boundary? (blanks ++ line) = none := by
  have hopens : Text.after? "vrf ".toList (blanks ++ line) = none := by
    cases blanks with
    | nil =>
      obtain ⟨line, rfl⟩ := List.head?_eq_some_iff.1 hi
      rfl
    | cons c blanks =>
      have hc : 'v' ≠ c := by
        rintro rfl
        exact absurd (hb 'v' (by simp)) (by decide)
      exact if_neg hc
  have htrim : Text.trim (blanks ++ line) = line := by rw [Text.trim_append hb, hline.trim_eq]
  have hexit : line ≠ "exit-vrf".toList := by
    rintro rfl
    exact absurd hi (by decide)
  have hmark : blanks ++ line ≠ ['!'] := by
    intro heq
    have hmem : 'i' ∈ blanks ++ line := List.mem_append.2 (.inr (List.mem_of_head? hi))
    rw [heq] at hmem
    exact absurd hmem (by decide)
  rw [boundary?, hopens, htrim]
  simp only [hexit, hmark]
  rfl

theorem head?_staticLine (target : Prefix) (id : Text) (distance : Option Text) :
    (staticLine target id distance).head? = some 'i' := by
  rw [staticLine_eq, hopWords, List.cons_append, Text.joinWith_cons, List.head?_append]
  cases target.family <;> rfl

/-- The lines before the routes, in no VRF. -/
def openingScope : List Text :=
  ["Building configuration...".toList, [], "Current configuration:".toList,
    "frr version 8.5".toList, "hostname sonic".toList]

theorem vrfLinesFrom_preamble (vrf : Option Text) (lines : List Text) :
    vrfLinesFrom vrf none (preamble ++ lines) =
      (if none = vrf then openingScope else []) ++ vrfLinesFrom vrf none lines := by
  cases vrf <;> rfl

/-- The lines of routes, at any indentation. -/
theorem vrfLinesFrom_indented {blanks : Text} (hb : ∀ c ∈ blanks, Text.isBlank c = true)
    {above : List Text} (h : ∀ line ∈ above, Text.Trimmed line ∧ line.head? = some 'i')
    (vrf current : Option Text) (lines : List Text) :
    vrfLinesFrom vrf current (above.map (blanks ++ ·) ++ lines) =
      (if current = vrf then above else []) ++ vrfLinesFrom vrf current lines := by
  have hnone : ∀ line ∈ above.map (blanks ++ ·), (boundary? line).isNone := by
    refine List.forall_mem_map.2 fun line hline => ?_
    rw [boundary?_append hb (h line hline).1 (h line hline).2]
    rfl
  have htrim : (above.map (blanks ++ ·)).map Text.trim = above := by
    rw [List.map_map]
    refine (List.map_congr_left fun line hline => ?_).trans (List.map_id above)
    show Text.trim (blanks ++ line) = line
    rw [Text.trim_append hb, (h line hline).1.trim_eq]
  rw [vrfLinesFrom_append hnone, htrim]

/-- The routes whose next-hops are printed can be read back. -/
structure Printable (route : Route) : Prop where
  hops : ∀ hop ∈ route.hops, PrintableHop hop.1 hop.2

theorem routeLines_spec {routes : List Route} (h : ∀ route ∈ routes, Printable route) :
    ∀ line ∈ routeLines routes, Text.Trimmed line ∧ line.head? = some 'i' := by
  intro line hline
  obtain ⟨route, hroute, hline⟩ := List.mem_flatMap.1 hline
  obtain ⟨hop, hhop, rfl⟩ := List.mem_map.1 hline
  exact ⟨trimmed_staticLine ((h route hroute).hops hop hhop) route.target, head?_staticLine ..⟩

/-- What stands behind the routes is in no VRF, whether one is still open or not. -/
theorem vrfLinesFrom_closing (vrf current : Option Text) :
    vrfLinesFrom vrf current [['!'], "end".toList] =
      if none = vrf then ["end".toList] else [] := by
  cases vrf <;> rfl

theorem vrfLinesFrom_opens (name : Text) (vrf current : Option Text) (lines : List Text) :
    vrfLinesFrom vrf current (("vrf ".toList ++ name) :: lines) =
      vrfLinesFrom vrf (some (Text.trim name)) lines := rfl

theorem printLines_none (routes : List Route) :
    printLines routes none =
      preamble ++ ((routeLines routes).map ([] ++ ·) ++ [['!'], "end".toList]) := by
  show preamble ++ routeLines routes ++ [['!'], "end".toList] = _
  simp

theorem printLines_some (routes : List Route) (name : Text) :
    printLines routes (some name) =
      preamble ++ (("vrf ".toList ++ name) :: ((routeLines routes).map ([' '] ++ ·) ++
        "exit-vrf".toList :: [['!'], "end".toList])) := by
  show preamble ++ (("vrf ".toList ++ name) :: (routeLines routes).map ([' '] ++ ·) ++
    ["exit-vrf".toList]) ++ [['!'], "end".toList] = _
  simp only [List.append_assoc, List.cons_append, List.nil_append]

/-- **The lines of a VRF** in a printed configuration: those of the routes in the VRF that was
named, and the lines before and behind them in none. -/
theorem vrfLines_printLines {routes : List Route} (h : ∀ route ∈ routes, Printable route)
    {vrf : Option Text} (hvrf : ∀ name, vrf = some name → Text.trim name = name)
    (wanted : Option Text) :
    vrfLines (printLines routes vrf) wanted =
      (if none = wanted then openingScope else []) ++
        ((if vrf = wanted then routeLines routes else []) ++
          (if none = wanted then ["end".toList] else [])) := by
  cases vrf with
  | none =>
    rw [vrfLines, printLines_none, vrfLinesFrom_preamble,
      vrfLinesFrom_indented (List.forall_mem_nil _) (routeLines_spec h), vrfLinesFrom_closing]
  | some name =>
    have hexit : boundary? "exit-vrf".toList = some .closes := rfl
    rw [vrfLines, printLines_some, vrfLinesFrom_preamble, vrfLinesFrom_opens,
      vrfLinesFrom_indented (List.forall_mem_singleton.2 (by decide)) (routeLines_spec h),
      vrfLinesFrom_closes hexit,
      vrfLinesFrom_closing, hvrf name rfl]

/-! ## The printed lines are the lines read -/

theorem isLine_staticLine {id : Text} {hop : NextHop} (h : PrintableHop id hop)
    (target : Prefix) : Text.IsLine (staticLine target id hop.distance) := by
  refine (trimmed_staticLine h target).isLine fun hmem => ?_
  rw [staticLine_eq] at hmem
  rcases Text.mem_joinWith hmem with hmem | ⟨word, hword, hmem⟩
  · exact absurd hmem (by decide)
  · exact (isWord_lineWords h target word hword).not_mem (by decide) hmem

theorem isLine_routeLines {routes : List Route} (h : ∀ route ∈ routes, Printable route)
    {blanks : Text} (hb : '\n' ∉ blanks) :
    ∀ line ∈ (routeLines routes).map (blanks ++ ·), Text.IsLine line := by
  refine List.forall_mem_map.2 fun line hline => ?_
  have hi := (routeLines_spec h line hline).2
  obtain ⟨route, hroute, hmem⟩ := List.mem_flatMap.1 hline
  obtain ⟨hop, hhop, rfl⟩ := List.mem_map.1 hmem
  refine .append hb (isLine_staticLine ((h route hroute).hops hop hhop) route.target) ?_
  rintro hnil
  rw [hnil] at hi
  cases hi

theorem isLine_vrf {name : Text} (h : Text.Trimmed name) (hfeed : '\n' ∉ name) :
    Text.IsLine ("vrf ".toList ++ name) := by
  by_cases hname : name = []
  · rw [hname]
    decide
  · exact .append (by decide) (h.isLine hfeed) hname

theorem lines_print {routes : List Route} (h : ∀ route ∈ routes, Printable route)
    {vrf : Option Text} (hvrf : ∀ name, vrf = some name → Text.Trimmed name ∧ '\n' ∉ name) :
    Text.lines (print routes vrf) = printLines routes vrf := by
  have hlines : ∀ line ∈ printLines routes vrf, Text.IsLine line := by
    have hpreamble : ∀ line ∈ preamble, Text.IsLine line := by decide +kernel
    have hclosing : ∀ line ∈ ["exit-vrf".toList, ['!'], "end".toList], Text.IsLine line := by
      decide
    cases vrf with
    | none =>
      rw [printLines_none]
      exact List.forall_mem_append.2 ⟨hpreamble, List.forall_mem_append.2
        ⟨isLine_routeLines h (by decide), fun line hline => hclosing line (.tail _ hline)⟩⟩
    | some name =>
      rw [printLines_some]
      exact List.forall_mem_append.2 ⟨hpreamble, List.forall_mem_cons.2
        ⟨isLine_vrf (hvrf name rfl).1 (hvrf name rfl).2, List.forall_mem_append.2
          ⟨isLine_routeLines h (by decide), hclosing⟩⟩⟩
  refine Text.lines_joinWith hlines fun line hlast => ?_
  have hend : (printLines routes vrf).getLast? = some "end".toList := by
    show (preamble ++ _ ++ [['!'], "end".toList]).getLast? = _
    rw [List.getLast?_append]
    rfl
  obtain rfl : "end".toList = line := Option.some.inj (hend.symm.trans hlast)
  decide

end RouteWatch.RunningConfig
