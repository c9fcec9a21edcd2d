/-
The lines of a kernel dump are read as what they were printed from. A search
for a keyword goes past everything that stands before it, a destination or
the word `nexthop`, as these lack one of its letters. A device may itself be
called like a keyword, or end like one behind a mark: then no address stands
behind it, and as a device it is cut off before it is searched.
-/
import RouteWatch.Dump.Kernel.Printer
import RouteWatch.Proofs.Dump.Display.Line

namespace RouteWatch.Kernel

/-! ## Searching for a keyword -/

/-- A keyword does not begin in a text that lacks one of its letters. -/
theorem after?_append_blank {keyword u : Text} {b c : Char} (hc : c ∈ keyword) (hb : b ∉ keyword)
    (hu : c ∉ u) (rest : Text) : Text.after? keyword (u ++ b :: rest) = none := by
  rw [Option.eq_none_iff_forall_ne_some]
  intro s h
  exact hu ((Text.prefix_of_after? hb h).subset hc)

section

variable {here? : Text → Option Text}

/-- A search goes past a text at none of whose places anything is found. -/
theorem search?_append_blank {u rest : Text} {b : Char}
    (h : ∀ v, v <:+ u → here? (v ++ b :: rest) = none) (before : Option Char) :
    search? here? before (u ++ b :: rest) = search? here? (some b) rest := by
  induction u generalizing before with
  | nil =>
    have hhere : here? (b :: rest) = none := h [] List.suffix_rfl
    simp [search?, hhere]
  | cons c u ih =>
    have hhere : here? (c :: (u ++ b :: rest)) = none := h (c :: u) List.suffix_rfl
    simp [search?, hhere, ih fun v hv => h v (hv.trans (List.suffix_cons c u))]

theorem search?_eq_none {s : Text} (h : ∀ v, v <:+ s → here? v = none) (before : Option Char) :
    search? here? before s = none := by
  induction s generalizing before with
  | nil => rfl
  | cons c s ih =>
    have hhere : here? (c :: s) = none := h (c :: s) List.suffix_rfl
    simp [search?, hhere, ih fun v hv => h v (hv.trans (List.suffix_cons c s))]

theorem search?_here {s found : Text} (hne : s ≠ []) (h : here? s = some found) :
    search? here? (some ' ') s = some found := by
  obtain ⟨c, s, rfl⟩ := List.exists_cons_of_ne_nil hne
  rw [search?, if_pos (by decide), h]

end

/-! ## Next-hops -/

theorem viaHere?_eq_none {s : Text} (h : Text.after? "via".toList s = none) :
    viaHere? s = none := by
  rw [viaHere?, afterKeyword?, h]
  rfl

theorem deviceHere?_eq_none {s : Text} (h : Text.after? "dev".toList s = none) :
    deviceHere? s = none := by
  rw [deviceHere?, afterKeyword?, h]
  rfl

theorem viaHere?_cons {c : Char} (hc : Text.isBlank c = false) (s : Text) :
    viaHere? ("via".toList ++ c :: s) = none := by
  have hblank : Text.afterBlanks? (c :: s) = none := if_neg (by simp [hc])
  rw [viaHere?, afterKeyword?, Text.after?_eq_some.2 rfl, Option.bind_some, hblank]
  rfl

/-- No gateway begins within a word, when none does behind a keyword at its end. -/
theorem viaHere?_word {u rest : Text} (hu : ∀ c ∈ u, Text.isBlank c = false)
    (hrest : viaHere? ("via".toList ++ ' ' :: rest) = none) :
    viaHere? (u ++ ' ' :: rest) = none := by
  cases hkey : Text.after? "via".toList (u ++ ' ' :: rest) with
  | none => exact viaHere?_eq_none hkey
  | some s =>
    obtain ⟨v, rfl⟩ := Text.prefix_of_after? (by decide) hkey
    rw [List.append_assoc]
    cases v with
    | nil => exact hrest
    | cons c v => exact viaHere?_cons (hu c (by simp)) (v ++ ' ' :: rest)

/-- A gateway stands behind its keyword. -/
theorem viaHere?_gateway {id : Text} (hid : isGateway id = true) (rest : Text) :
    viaHere? ("via".toList ++ ' ' :: (id ++ ' ' :: rest)) = some id := by
  obtain ⟨address, haddress⟩ := Option.isSome_iff_exists.1 hid
  obtain ⟨hne, hchar⟩ := Address.isChar_of_read? haddress
  have hword : Text.IsWord id := ⟨hne, fun c hc => (hchar c hc).not_blank⟩
  have hinet : skipInet (id ++ ' ' :: rest) = id ++ ' ' :: rest := by
    have hi : 'i' ∉ id := fun h => absurd (hchar _ h) (by decide)
    rw [skipInet, after?_append_blank (c := 'i') (by decide) (by decide) hi]
  have htake : (id ++ ' ' :: rest).takeWhile Display.isAddressChar = id :=
    Text.takeWhile_append_stopsAt (fun c hc => Display.isAddressChar_iff.2 (hchar c hc))
      (Text.stopsAt_cons _ (by decide))
  rw [viaHere?, afterKeyword?, Text.after?_eq_some.2 rfl, Option.bind_some,
    hword.afterBlanks?_append, Option.bind_eq_bind, Option.bind_some, hinet, htake]
  exact if_neg (by simpa using hne)

theorem deviceHere?_device {id : Text} (hid : Text.IsWord id) (rest : Text) :
    deviceHere? ("dev".toList ++ ' ' :: (id ++ ' ' :: rest)) = some id := by
  have htake : (id ++ ' ' :: rest).takeWhile (!Text.isBlank ·) = id :=
    Text.takeWhile_append_stopsAt (fun c hc => by simp [hid.no_blank c hc])
      (Text.stopsAt_cons _ (by decide))
  rw [deviceHere?, afterKeyword?, Text.after?_eq_some.2 rfl, Option.bind_some,
    hid.afterBlanks?_append, Option.bind_eq_bind, Option.bind_some, htake]
  exact if_neg (by simpa using hid.ne_nil)

theorem not_mem_of_suffix {c : Char} {u v : Text} (h : c ∉ u) (hv : v <:+ u) : c ∉ v :=
  fun hc => h (hv.subset hc)

section

variable {u : Text} {b c : Char} (hb : Text.isBlank b = true)
include hb

theorem searchVia_front (hc : c ∈ "via".toList) (h : c ∉ u) (before : Option Char) (rest : Text) :
    search? viaHere? before (u ++ b :: rest) = search? viaHere? (some b) rest := by
  have hkeyword : b ∉ "via".toList := Text.IsWord.not_mem (by decide) hb
  exact search?_append_blank (fun _ hv => viaHere?_eq_none
    (after?_append_blank hc hkeyword (not_mem_of_suffix h hv) rest)) before

theorem searchDevice_front (hc : c ∈ "dev".toList) (h : c ∉ u) (before : Option Char)
    (rest : Text) :
    search? deviceHere? before (u ++ b :: rest) = search? deviceHere? (some b) rest := by
  have hkeyword : b ∉ "dev".toList := Text.IsWord.not_mem (by decide) hb
  exact search?_append_blank (fun _ hv => deviceHere?_eq_none
    (after?_append_blank hc hkeyword (not_mem_of_suffix h hv) rest)) before

end

/-- A line without the letter that both keywords have names no next-hop. -/
theorem nextHop?_eq_none {line : Text} (h : 'v' ∉ line) : nextHop? line = none := by
  rw [nextHop?, search?_eq_none fun v hv => viaHere?_eq_none
      (Text.after?_of_not_mem (c := 'v') (by decide) (not_mem_of_suffix h hv)),
    search?_eq_none fun v hv => deviceHere?_eq_none
      (Text.after?_of_not_mem (c := 'v') (by decide) (not_mem_of_suffix h hv))]
  rfl

/-- What stands in front of a blank without that letter has no part in the next-hop. -/
theorem nextHop?_append {front rest : Text} (h : 'v' ∉ front)
    (hrest : Text.StopsAt (!Text.isBlank ·) rest) : nextHop? (front ++ rest) = nextHop? rest := by
  cases rest with
  | nil =>
    rw [List.append_nil, nextHop?_eq_none h]
    rfl
  | cons b rest =>
    have hb : Text.isBlank b = true := by simpa using hrest b rfl
    have hsearch : ∀ {u : Text}, 'v' ∉ u → nextHop? (u ++ b :: rest) =
        (search? viaHere? (some b) rest).or (search? deviceHere? (some b) rest) := fun hu => by
      rw [nextHop?, searchVia_front hb (by decide) hu, searchDevice_front hb (by decide) hu]
    rw [hsearch h, ← List.nil_append (b :: rest), hsearch List.not_mem_nil]

/-- The ways to name a next-hop: its gateway over some device, or its device. -/
inductive NamesHop : (id hop : Text) → Prop
  | gateway {id : Text} (h : isGateway id = true) (device : Text) :
      NamesHop id ("via ".toList ++ id ++ " dev ".toList ++ device)
  | device (id : Text) : NamesHop id ("dev ".toList ++ id)

theorem namesHop_hopText (id : Text) : NamesHop id (hopText id) := by
  rw [hopText]
  split
  · exact .gateway ‹_› egress
  · exact .device id

/-- **The next-hop that was printed is the one that is read**, when neither keyword can be found in
front of it or behind it. -/
theorem nextHop?_of_namesHop {front id hop rest : Text} (h : NamesHop id hop) (hv : 'v' ∉ front)
    (hi : 'i' ∉ front) (hid : Text.IsWord id) (hrest : 'v' ∉ rest)
    (hvia : viaHere? ("via".toList ++ ' ' :: rest) = none) :
    nextHop? (front ++ ' ' :: (hop ++ ' ' :: rest)) = some id := by
  cases h with
  | gateway hgateway device =>
    have hline : "via ".toList ++ id ++ " dev ".toList ++ device ++ ' ' :: rest =
        "via".toList ++ ' ' :: (id ++ ' ' :: ("dev ".toList ++ device ++ ' ' :: rest)) := by simp
    rw [hline, nextHop?, searchVia_front (by decide) (by decide) hi,
      search?_here (by simp) (viaHere?_gateway hgateway _)]
    rfl
  | device =>
    have hline : "dev ".toList ++ id ++ ' ' :: rest =
        "dev".toList ++ ' ' :: (id ++ ' ' :: rest) := by simp
    have hnone : search? viaHere? none (front ++ ' ' :: ("dev".toList ++ ' ' ::
        (id ++ ' ' :: rest))) = none := by
      rw [searchVia_front (by decide) (by decide) hi,
        searchVia_front (c := 'i') (by decide) (by decide) (by decide), search?_append_blank,
        search?_eq_none]
      · exact fun v hv => viaHere?_eq_none
          (Text.after?_of_not_mem (c := 'v') (by decide) (not_mem_of_suffix hrest hv))
      · exact fun v hv => viaHere?_word (fun c hc => hid.no_blank c (hv.subset hc)) hvia
    rw [hline, nextHop?, hnone, searchDevice_front (by decide) (by decide) hv,
      search?_here (by simp) (deviceHere?_device hid rest)]
    rfl

/-! ## Header lines -/

theorem read?_keyword : ∀ word ∈ "default".toList :: routeKinds, Prefix.read? word = none := by
  decide +kernel

section

variable {p : Prefix} (h : p.Fits)
include h

/-- A destination that is printed is none of the words that may stand in its place. -/
theorem print_not_mem : p.print ∉ "default".toList :: routeKinds := by
  intro hmem
  have hread := read?_keyword _ hmem
  rw [Prefix.read?_print h] at hread
  cases hread

theorem destination?_print : destination? p.family p.print = some p := by
  have hdefault : p.print ≠ "default".toList := fun heq =>
    print_not_mem h (heq ▸ List.mem_cons_self)
  rw [destination?, if_neg hdefault, Prefix.read?_print h]
  simp [Option.filter]

theorem destinationWord?_print (rest : List Text) :
    destinationWord? (p.print :: rest) = some p.print := by
  have hkind : routeKinds.contains p.print = false := by
    have hmem : p.print ∉ routeKinds := fun hmem => print_not_mem h (List.mem_cons_of_mem _ hmem)
    simpa using hmem
  rw [destinationWord?, hkind]
  rfl

/-- A destination stands at the beginning of its header line. -/
theorem header?_print (rest : Text) :
    header? p.family (p.print ++ ' ' :: rest) = some ⟨p, none⟩ := by
  have hword := Prefix.isWord_print p
  rw [header?, hword.startsBlank_append, hword.words_append, destinationWord?_print h]
  simp [destination?_print h]

/-- A destination may stand behind the kind of its route. -/
theorem header?_blackhole (rest : Text) :
    header? p.family ("blackhole".toList ++ ' ' :: (p.print ++ ' ' :: rest)) =
      some ⟨p, none⟩ := by
  have hkind : Text.IsWord "blackhole".toList := by decide
  rw [header?, hkind.startsBlank_append, hkind.words_append,
    (Prefix.isWord_print p).words_append]
  have hword : destinationWord? ("blackhole".toList :: p.print :: Text.words rest) =
      some p.print := rfl
  rw [hword]
  simp [destination?_print h]

end

/-- Next-hop lines are indented and header lines are not. -/
theorem header?_of_isNextHopLine (family : Family) {line : Text}
    (h : isNextHopLine line = true) : header? family line = none := by
  have hblank : Text.startsBlank line = true := (Bool.and_eq_true_iff.1 h).1
  rw [header?, hblank]
  rfl

/-! ## Captured lines -/

theorem exists_of_search? {here? : Text → Option Text} {s found : Text} :
    ∀ {before : Option Char}, search? here? before s = some found → ∃ v, here? v = some found := by
  induction s with
  | nil => exact nofun
  | cons c s ih =>
    intro before h
    rw [search?] at h
    split at h
    · rename_i hhere
      obtain rfl := Option.some.inj h
      exact ⟨_, (Option.ite_none_right_eq_some.1 hhere).2⟩
    · exact ih h

theorem isWord_of_viaHere? {s gateway : Text} (h : viaHere? s = some gateway) :
    Text.IsWord gateway := by
  simp only [viaHere?, Option.bind_eq_bind, Option.bind_eq_some_iff,
    Option.ite_none_left_eq_some, List.isEmpty_iff, Option.some.injEq] at h
  obtain ⟨rest, -, hne, rfl⟩ := h
  exact ⟨hne, fun c hc =>
    (Display.isAddressChar_iff.1 (List.all_eq_true.1 List.all_takeWhile c hc)).not_blank⟩

theorem isWord_of_deviceHere? {s device : Text} (h : deviceHere? s = some device) :
    Text.IsWord device := by
  simp only [deviceHere?, Option.bind_eq_bind, Option.bind_eq_some_iff,
    Option.ite_none_left_eq_some, List.isEmpty_iff, Option.some.injEq] at h
  obtain ⟨rest, -, hne, rfl⟩ := h
  exact ⟨hne, fun c hc => by simpa using List.all_eq_true.1 List.all_takeWhile c hc⟩

/-- **Whatever a line names as its next-hop is one word**, be it an address or not. -/
theorem isWord_of_nextHop? {line id : Text} (h : nextHop? line = some id) : Text.IsWord id := by
  rw [nextHop?, Option.or_eq_some_iff] at h
  rcases h with h | ⟨-, h⟩
  · obtain ⟨s, hs⟩ := exists_of_search? h
    exact isWord_of_viaHere? hs
  · obtain ⟨s, hs⟩ := exists_of_search? h
    exact isWord_of_deviceHere? hs

/-- Whatever line is read as a header, its prefix fits. -/
theorem fits_of_header? {family : Family} {line : Text} {header : Header}
    (h : header? family line = some header) : header.target.Fits := by
  unfold header? at h
  split at h
  · cases h
  · simp only [Option.bind_eq_bind, Option.bind_eq_some_iff] at h
    obtain ⟨word, -, target, htarget, h⟩ := h
    obtain rfl := Option.some.inj h
    rw [destination?] at htarget
    split at htarget
    · obtain rfl := Option.some.inj htarget
      exact Nat.zero_le _
    · exact Prefix.fits_of_read? (Option.filter_eq_some_iff.1 htarget).1

/-! ## The lines of a route -/

/-- What makes a route readable from its lines. A prefix that is made or read from a text fits. One
that is read from a record need not, and then no line is read as a header of it. -/
structure Printable (route : Route) : Prop where
  fits : route.target.Fits
  ids : ∀ id ∈ route.nextHops.keys, Text.IsWord id

/-- The lines are a header line of the route and next-hop lines below it, and name its next-hops
one after the other. -/
structure Describes (route : Route) (line : Text) (below : List Text) : Prop where
  header : header? route.target.family line = some ⟨route.target, none⟩
  hops : ∀ l ∈ below, isNextHopLine l = true
  ids : (line :: below).filterMap nextHop? = route.nextHops.keys

theorem not_mem_print {p : Prefix} {c : Char} (hc : ¬ Address.IsChar c) (hslash : c ≠ '/') :
    c ∉ p.print := fun h => (Prefix.isChar_of_mem_print h).elim hc hslash

theorem nextHopLine_eq (id : Text) :
    nextHopLine id = "\tnexthop".toList ++ ' ' :: (hopText id ++ ' ' :: "weight 1".toList) := rfl

theorem nextHop?_nextHopLine {id : Text} (h : Text.IsWord id) :
    nextHop? (nextHopLine id) = some id := by
  rw [nextHopLine_eq]
  exact nextHop?_of_namesHop (namesHop_hopText id) (by decide) (by decide) h (by decide) rfl

theorem filterMap_nextHopLine : ∀ {ids : List Text}, (∀ id ∈ ids, Text.IsWord id) →
    (ids.map nextHopLine).filterMap nextHop? = ids
  | [], _ => rfl
  | id :: ids, h => by
    have hid : nextHop? (nextHopLine id) = some id := nextHop?_nextHopLine (h id (by simp))
    rw [List.map_cons, List.filterMap_cons_some hid,
      filterMap_nextHopLine fun id hmem => h id (by simp [hmem])]

theorem isNextHopLine_nextHopLine (id : Text) : isNextHopLine (nextHopLine id) = true := rfl

/-- What ends a header line names no next-hop, not even behind a device that is called `via`. -/
theorem exists_headerTail : ∃ tail, headerTail = ' ' :: tail ∧ 'v' ∉ tail ∧
    viaHere? ("via".toList ++ ' ' :: tail) = none :=
  ⟨"proto static metric 20".toList, rfl, by decide, rfl⟩

/-- **The lines of a route are read as its prefix and its next-hops**, in each of their three
shapes. -/
theorem describes_routeLines {route : Route} (h : Printable route) :
    ∃ line below, routeLines route = line :: below ∧ Describes route line below := by
  have hv : 'v' ∉ route.target.print := not_mem_print (by decide) (by decide)
  have hi : 'i' ∉ route.target.print := not_mem_print (by decide) (by decide)
  obtain ⟨tail, htail, hvtail, hvia⟩ := exists_headerTail
  rw [routeLines, htail]
  split
  · rename_i hkeys
    have hline : "blackhole ".toList ++ route.target.print ++ ' ' :: tail =
        "blackhole".toList ++ ' ' :: (route.target.print ++ ' ' :: tail) := by simp
    have hnone : nextHop? ("blackhole".toList ++ ' ' :: (route.target.print ++ ' ' :: tail)) =
        none := nextHop?_eq_none (by simp [hv, hvtail])
    refine ⟨_, [], congrArg (· :: []) hline, header?_blackhole h.fits tail, nofun, ?_⟩
    rw [List.filterMap_cons_none hnone, hkeys]
    rfl
  · rename_i id hkeys
    have hid : Text.IsWord id := h.ids id (by simp [hkeys])
    have hline : route.target.print ++ ' ' :: hopText id ++ ' ' :: tail =
        route.target.print ++ ' ' :: (hopText id ++ ' ' :: tail) := by simp
    refine ⟨_, [], congrArg (· :: []) hline, header?_print h.fits _, nofun, ?_⟩
    rw [List.filterMap_cons_some
      (nextHop?_of_namesHop (namesHop_hopText id) hv hi hid hvtail hvia), hkeys]
    rfl
  · have hnone : nextHop? (route.target.print ++ ' ' :: tail) = none :=
      nextHop?_eq_none (by simp [hv, hvtail])
    refine ⟨_, _, rfl, header?_print h.fits tail, ?_, ?_⟩
    · exact List.forall_mem_map.2 fun id _ => isNextHopLine_nextHopLine id
    · rw [List.filterMap_cons_none hnone, filterMap_nextHopLine h.ids]

/-! ## They are lines -/

theorem no_feed_hopText {id : Text} (h : Text.IsWord id) : '\n' ∉ hopText id := by
  have hid : '\n' ∉ id := h.not_mem (by decide)
  have hegress : '\n' ∉ egress := by decide
  rw [hopText]
  split <;> simp [hid, hegress]

theorem isLine_nextHopLine {id : Text} (h : Text.IsWord id) : Text.IsLine (nextHopLine id) := by
  have hfront : '\n' ∉ "\tnexthop ".toList ++ hopText id := by simp [no_feed_hopText h]
  exact .append hfront (by decide) (by decide)

theorem isLine_routeLines {route : Route} (h : Printable route) :
    ∀ line ∈ routeLines route, Text.IsLine line ∧ line ≠ [] := by
  have htarget : '\n' ∉ route.target.print :=
    (Prefix.isWord_print route.target).not_mem (by decide)
  have htail : ∀ {front : Text}, '\n' ∉ front →
      Text.IsLine (front ++ headerTail) ∧ front ++ headerTail ≠ [] := fun hfront =>
    ⟨.append hfront (by decide) (by decide), List.append_ne_nil_of_right_ne_nil _ (by decide)⟩
  rw [routeLines]
  split
  · exact List.forall_mem_singleton.2 (htail (by simp [htarget]))
  · rename_i id hkeys
    have hid := no_feed_hopText (h.ids id (by simp [hkeys]))
    exact List.forall_mem_singleton.2 (htail (by simp [htarget, hid]))
  · refine List.forall_mem_cons.2 ⟨htail htarget, List.forall_mem_map.2 fun id hid => ?_⟩
    exact ⟨isLine_nextHopLine (h.ids id hid), by rw [nextHopLine_eq]; simp⟩

end RouteWatch.Kernel
