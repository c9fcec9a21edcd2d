/-
A route over several next-hops has more than one layout in a kernel dump: a
header line with the next-hops nested below it, or a header line for each of
them, or some of both, with the blocks of other routes in between. Whichever
it is, what is extracted is the route that the nested layout is read as, and
no block of another route has a part in it.
-/
import RouteWatch.Proofs.Dump.Kernel.Spelling

namespace RouteWatch.Kernel

open Text (IsWord StopsAt)

/-! ## Groups of next-hops -/

/-- The two ways to show next-hops of a prefix: the only one on the header line, or each on a line
of its own below a header line that names none. -/
inductive Shows (target : Prefix) : (ids : List Text) → Paragraph → Prop
  | single {id hop : Text} (h : NamesHop id hop) :
      Shows target [id] ⟨target.print ++ ' ' :: hop ++ headerTail, []⟩
  | nested {ids hops : List Text} (h : List.Forall₂ NamesHop ids hops) {tail : Text}
      (htail : StopsAt (!Text.isBlank ·) tail) (hnone : nextHop? tail = none) :
      Shows target ids ⟨target.print ++ tail,
        hops.map fun hop => "\tnexthop ".toList ++ hop ++ " weight 1".toList⟩

/-- A printed prefix begins a header line of its own. -/
theorem spells_print {p : Prefix} (h : p.Fits) {rest : Text}
    (hrest : StopsAt (!Text.isBlank ·) rest) : Spells p.family p rest (p.print ++ rest) :=
  .intro [] p.print .none (destination?_eq_some.1 (destination?_print h)) hrest

theorem nextHop?_nested {id hop : Text} (h : NamesHop id hop) (hid : IsWord id) :
    nextHop? ("\tnexthop ".toList ++ hop ++ " weight 1".toList) = some id := by
  have hline : "\tnexthop ".toList ++ hop ++ " weight 1".toList =
      "\tnexthop".toList ++ ' ' :: (hop ++ ' ' :: "weight 1".toList) := by simp
  rw [hline]
  exact nextHop?_of_namesHop h (by decide) (by decide) hid (by decide) rfl

theorem filterMap_nested {ids hops : List Text} (h : List.Forall₂ NamesHop ids hops)
    (hids : ∀ id ∈ ids, IsWord id) :
    (hops.map fun hop => "\tnexthop ".toList ++ hop ++ " weight 1".toList).filterMap nextHop? =
      ids := by
  induction h with
  | nil => rfl
  | cons hhop _ ih =>
    rw [List.forall_mem_cons] at hids
    rw [List.map_cons, List.filterMap_cons_some (nextHop?_nested hhop hids.1), ih hids.2]

section

variable {target : Prefix} {ids : List Text} {p : Paragraph} (h : Shows target ids p)
include h

/-- **A group is a header line of the prefix and next-hop lines**, and its lines name the next-hops
of the group. -/
theorem Shows.describes (hfits : target.Fits) (hids : ∀ id ∈ ids, IsWord id) :
    header? target.family p.top = some ⟨target, none⟩ ∧
      (∀ line ∈ p.below, isNextHopLine line = true) ∧ p.lines.filterMap nextHop? = ids := by
  have hheader : ∀ {rest : Text}, StopsAt (!Text.isBlank ·) rest →
      header? target.family (target.print ++ rest) = some ⟨target, none⟩ := fun hrest =>
    header?_eq_some.2 ⟨rfl, _, spells_print hfits hrest⟩
  cases h with
  | @single id hop hhop =>
    obtain ⟨tail, htail, hvtail, hvia⟩ := exists_headerTail
    have hv : 'v' ∉ target.print := not_mem_print (by decide) (by decide)
    have hi : 'i' ∉ target.print := not_mem_print (by decide) (by decide)
    have hline : target.print ++ ' ' :: hop ++ headerTail =
        target.print ++ ' ' :: (hop ++ ' ' :: tail) := by simp [htail]
    have hnames := nextHop?_of_namesHop hhop hv hi (hids _ List.mem_cons_self) hvtail hvia
    refine ⟨hline ▸ hheader (Text.stopsAt_cons _ (by decide)), List.forall_mem_nil _, ?_⟩
    rw [Paragraph.lines, List.filterMap_cons_some (hline ▸ hnames)]
    rfl
  | nested hhops htail hnone =>
    have hbare := (spells_print hfits htail).nextHop?_eq.trans hnone
    refine ⟨hheader htail, List.forall_mem_map.2 fun _ _ => rfl, ?_⟩
    rw [Paragraph.lines, List.filterMap_cons_none hbare, filterMap_nested hhops hids]

/-- The two passes read a group as its prefix and its next-hops. -/
theorem Shows.read (hfits : target.Fits) (hids : ∀ id ∈ ids, IsWord id) :
    (grammar target.family).IsParagraph p ∧
      (grammar target.family).readParagraph namesFrom p = some (target, ids) := by
  obtain ⟨hheader, hbelow, hnames⟩ := h.describes hfits hids
  exact read_paragraph hheader hbelow hnames

end

/-! ## Layouts -/

/-- The block of another prefix of the family: a header line of that prefix, and no header line
below it. -/
structure IsOther (target : Prefix) (p : Paragraph) : Prop where
  paragraph : (grammar target.family).IsParagraph p
  other : ∀ header, header? target.family p.top = some header → header.target ≠ target

/-- However another route of the family is printed, it is the block of another prefix. -/
theorem isOther_paragraphOf {route : Route} {target : Prefix} (h : Printable route)
    (hfamily : route.target.family = target.family) (hother : route.target ≠ target) :
    IsOther target (paragraphOf route) := by
  refine ⟨hfamily ▸ (read_paragraphOf h).1, fun header hheader => ?_⟩
  rw [← hfamily, (describes_paragraphOf h).2.header] at hheader
  exact Option.some.inj hheader ▸ hother

/-- And so is each of its groups, when it has a layout of its own. -/
theorem Shows.isOther {target other : Prefix} {ids : List Text} {p : Paragraph}
    (h : Shows other ids p) (hfits : other.Fits) (hids : ∀ id ∈ ids, IsWord id)
    (hfamily : other.family = target.family) (hother : other ≠ target) : IsOther target p := by
  refine ⟨hfamily ▸ (h.read hfits hids).1, fun header hheader => ?_⟩
  rw [← hfamily, (h.describes hfits hids).1] at hheader
  exact Option.some.inj hheader ▸ hother

/-- The layouts of a prefix that show these next-hops: groups of them one after the other, with any
blocks of other prefixes in front, in between and behind. -/
inductive Layout (target : Prefix) : (ids : List Text) → List Paragraph → Prop
  | nil : Layout target [] []
  | group {ids rest : List Text} {p : Paragraph} {ps : List Paragraph} (h : Shows target ids p)
      (hrest : Layout target rest ps) : Layout target (ids ++ rest) (p :: ps)
  | other {ids : List Text} {p : Paragraph} {ps : List Paragraph} (h : IsOther target p)
      (hrest : Layout target ids ps) : Layout target ids (p :: ps)

section

variable {target : Prefix} {ids : List Text} {ps : List Paragraph} (h : Layout target ids ps)
include h

theorem Layout.isParagraph (hfits : target.Fits) (hids : ∀ id ∈ ids, IsWord id) :
    ∀ p ∈ ps, (grammar target.family).IsParagraph p := by
  induction h with
  | nil => exact List.forall_mem_nil _
  | group hshows _ ih =>
    rw [List.forall_mem_append] at hids
    exact List.forall_mem_cons.2 ⟨(hshows.read hfits hids.1).1, ih hids.2⟩
  | other hother _ ih => exact List.forall_mem_cons.2 ⟨hother.paragraph, ih hids⟩

/-- **The paragraphs of the prefix show its next-hops**, and those of other prefixes none. -/
theorem Layout.flatten_read (hfits : target.Fits) (hids : ∀ id ∈ ids, IsWord id) :
    (((ps.filterMap ((grammar target.family).readParagraph namesFrom)).filter
      (·.1 == target)).map (·.2)).flatten = ids := by
  induction h with
  | nil => rfl
  | group hshows _ ih =>
    rw [List.forall_mem_append] at hids
    rw [List.filterMap_cons_some (hshows.read hfits hids.1).2]
    simp [ih hids.2]
  | other hother _ ih =>
    obtain ⟨header, hheader⟩ := Option.isSome_iff_exists.1 hother.paragraph.top
    have hread : ∀ {p : Paragraph}, (grammar target.family).header? p.top = some header →
        (grammar target.family).readParagraph namesFrom p = some (namesFrom header p.top
          (p.below.filter (grammar target.family).isNextHop)) := fun hp => by
      rw [Grammar.readParagraph, hp, Option.map_some]
    have hnot := hother.other header hheader
    rw [List.filterMap_cons_some (hread hheader)]
    simp [namesFrom, hnot, ih hids]

/-- The blocks of the prefix show its next-hops, wherever they stand in the dump. -/
theorem Layout.flatten_blocksFor (hfits : target.Fits) (hids : ∀ id ∈ ids, IsWord id) :
    (((grammar target.family).blocksFor (ps.flatMap Paragraph.lines) target).map
      blockIds).flatten = ids := by
  have hblocks := Grammar.map_blocks_paragraphs (separates_grammar target.family) namesFrom
    (h.isParagraph hfits hids) ⟨[], List.forall_mem_nil _, rfl⟩
  rw [← h.flatten_read hfits hids, ← hblocks, List.filter_map, List.map_map]
  rfl

end

/-- What is extracted when the blocks of the prefix name these next-hops together. -/
theorem extract_of_flatten {lines ids : List Text} {query : Query}
    (h : (((grammar query.target.family).blocksFor lines query.target).map blockIds).flatten = ids)
    (hne : ids ≠ []) : extract lines query = some ((Route.empty query.target).insertAll
      (ids.map (·, NextHop.plain (query.protocol.getD .kernel)))) := by
  rw [extract_eq]
  subst h
  split
  · rename_i hnil
    rw [hnil] at hne
    exact absurd rfl hne
  · rfl

/-- **A layout is read as its next-hops.** -/
theorem Layout.extract_eq {route : Route} {query : Query} {ids : List Text} {ps : List Paragraph}
    {text : Text} (h : Layout route.target ids ps) (hfits : route.target.Fits)
    (hids : ∀ id ∈ route.nextHops.keys, IsWord id) (hcount : route.count ≠ 0)
    (hmem : ∀ id, id ∈ ids ↔ id ∈ route.nextHops.keys) (htarget : route.target = query.target)
    (htext : Text.lines text = ps.flatMap Paragraph.lines) :
    Format.kernel.extract text query = some ((Route.empty query.target).insertAll
      (ids.map (·, NextHop.plain (query.protocol.getD .kernel)))) := by
  have hne : ids ≠ [] := by
    rintro rfl
    obtain ⟨id, hop, hget⟩ := Route.count_ne_zero.1 hcount
    have hkey : id ∈ route.nextHops.keys := Keyed.mem_keys.2 (Option.isSome_of_mem hget)
    exact absurd ((hmem id).2 hkey) List.not_mem_nil
  have hblocks := h.flatten_blocksFor hfits fun id hid => hids id ((hmem id).1 hid)
  rw [htarget, ← htext] at hblocks
  exact extract_of_flatten hblocks hne

/-- A layout of the route: in whatever order and however often, its next-hops are shown and no
others. -/
def IsLayout (route : Route) (ps : List Paragraph) : Prop :=
  ∃ ids, (∀ id, id ∈ ids ↔ id ∈ route.nextHops.keys) ∧ Layout route.target ids ps

/-- **All layouts of a route are read alike.** However its next-hops are split into groups, on a
header line or nested below one, in whatever order, and whatever blocks of other prefixes of the
family stand between them, the same route is extracted as from the route printed alone: the prefix
over exactly those next-hops, without distance and metric and of the protocol that was asked for.
(A prefix that does not fit is found in neither.) -/
theorem extract_layout {route : Route} {query : Query} {ps : List Paragraph} {text : Text}
    (hids : ∀ id ∈ route.nextHops.keys, IsWord id) (hcount : route.count ≠ 0)
    (htarget : route.target = query.target) (hlayout : IsLayout route ps)
    (htext : Text.lines text = ps.flatMap Paragraph.lines) :
    Format.kernel.extract text query = Format.kernel.extract (print [route]) query ∧
      (route.target.Fits → ∃ seen, Format.kernel.extract text query = some seen ∧
        seen.target = route.target ∧ ∀ id hop, seen.get? id = some hop ↔
          hop = NextHop.plain (query.protocol.getD .kernel) ∧ (route.get? id).isSome = true) := by
  by_cases hfits : route.target.Fits
  · obtain ⟨ids, hmem, hshown⟩ := hlayout
    have hextract := hshown.extract_eq hfits hids hcount hmem htarget htext
    refine ⟨?_, fun _ => ⟨_, hextract, ?_, fun id hop => ?_⟩⟩
    · rw [hextract, extract_print_singleton ⟨hfits, hids⟩ htarget, Route.insertAll_pair_congr hmem]
    · rw [Route.target_insertAll, htarget]
      rfl
    · have hkey : id ∈ ids ↔ (route.get? id).isSome = true := (hmem id).trans Keyed.mem_keys
      rw [Route.get?_insertAll_pair, Option.ite_none_right_eq_some, Option.some.injEq, hkey,
        and_comm, eq_comm]
  · have hnone : ∀ text, Format.kernel.extract text query = none := fun text =>
      Option.eq_none_iff_forall_ne_some.2 fun seen hseen => hfits (htarget ▸ fits_of_extract hseen)
    exact ⟨(hnone text).trans (hnone _).symm, fun h => absurd h hfits⟩

/-- A route over two gateways and over a device that is called `via`. -/
def splitRoute : Route :=
  (Route.empty ⟨.v4 10 0 0 0, 24⟩).insertAll [("10.1.1.1".toList, .plain .bgp),
    ("10.1.1.2".toList, .plain .bgp), ("via".toList, .plain .static)]

/-- A host of the same network, over two devices. -/
def splitHost : Route :=
  (Route.empty (Prefix.host (.v4 10 0 0 0))).insertAll
    [("eth7".toList, .plain .bgp), ("eth8".toList, .plain .bgp)]

/-- One of the next-hops stands on a header line and two are nested below a line that is nothing but
the prefix, with blocks of the host in front and in between. -/
theorem extract_layout_splitRoute :
    let query : Query := ⟨splitRoute, some .bgp, none⟩
    let text : Text := Text.joinWith ['\n'] <| List.map String.toList
      ["10.0.0.0 proto static metric 20", "\tnexthop dev eth7 weight 1",
        "\tnexthop dev eth8 weight 1", "10.0.0.0/24 via 10.1.1.2 dev dev proto static metric 20",
        "10.0.0.0 dev eth7 proto static metric 20", "10.0.0.0/24", "\tnexthop dev via weight 1",
        "\tnexthop via 10.1.1.1 dev eth0 weight 1"]
    Format.kernel.extract text query = Format.kernel.extract (print [splitRoute]) query ∧
      ∃ seen, Format.kernel.extract text query = some seen ∧
        ∀ id hop, seen.get? id = some hop ↔
          hop = NextHop.plain .bgp ∧ (splitRoute.get? id).isSome = true := by
  intro query text
  have hids : ∀ route ∈ [splitRoute, splitHost],
      route.target.Fits ∧ ∀ id ∈ route.nextHops.keys, IsWord id := by decide +kernel
  have hhost : IsOther splitRoute.target (paragraphOf splitHost) :=
    isOther_paragraphOf ⟨(hids _ (by simp)).1, (hids _ (by simp)).2⟩ rfl (by decide +kernel)
  have hshows : Shows splitHost.target ["eth7".toList] _ := .single (.device "eth7".toList)
  have hmember : IsOther splitRoute.target _ :=
    hshows.isOther (hids _ (by simp)).1 (by decide) rfl (by decide +kernel)
  have hgateway : ∀ id ∈ ["10.1.1.1".toList, "10.1.1.2".toList], isGateway id = true := by
    decide +kernel
  have hlayout : Layout splitRoute.target ["10.1.1.2".toList, "via".toList, "10.1.1.1".toList] _ :=
    .other hhost <| .group (.single (.gateway (hgateway _ (by simp)) "dev".toList)) <|
      .other hmember <| .group (.nested (.cons (.device "via".toList)
        (.cons (.gateway (hgateway _ (by simp)) "eth0".toList) .nil))
        (nofun : StopsAt (!Text.isBlank ·) []) rfl) .nil
  have hmem : ∀ id, id ∈ ["10.1.1.2".toList, "via".toList, "10.1.1.1".toList] ↔
      id ∈ splitRoute.nextHops.keys := by
    have hperm : ["10.1.1.2".toList, "via".toList, "10.1.1.1".toList].Perm
        splitRoute.nextHops.keys := by decide +kernel
    exact fun id => hperm.mem_iff
  obtain ⟨heq, hfound⟩ := @extract_layout splitRoute query _ text (hids _ (by simp)).2
    (by decide +kernel) rfl ⟨_, hmem, hlayout⟩ (by decide +kernel)
  obtain ⟨seen, hseen, -, hget⟩ := hfound (hids _ (by simp)).1
  exact ⟨heq, seen, hseen, hget⟩

end RouteWatch.Kernel
