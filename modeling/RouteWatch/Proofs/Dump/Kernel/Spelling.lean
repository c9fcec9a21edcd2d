/-
A kernel dump may name a destination in any way. The header of a line is the
prefix that one of its words names, the first one or the one behind the kind
of the route, and whatever names the same prefix there makes the same header.
The next-hop is searched for in the whole line, but no destination and no kind
has the letter that both keywords have, so the search begins behind them.
-/
import RouteWatch.Proofs.Dump.Alike
import RouteWatch.Proofs.Net.Record

namespace RouteWatch.Kernel

open Text (IsWord StopsAt)

/-! ## Destinations -/

/-- The words that name a prefix in a dump of one family: `default` for the prefix without bits,
an address in any spelling for its host, and an address with a length that the family allows. -/
inductive Names (family : Family) : Text → Prefix → Prop
  | default : Names family "default".toList (Prefix.defaultRoute family)
  | host {word : Text} {address : Address} (h : Address.read? word = some address)
      (hfamily : address.family = family) : Names family word (Prefix.host address)
  | length {before after : Text} {address : Address} {n : Nat}
      (h : Address.read? before = some address) (hfamily : address.family = family)
      (hlength : Text.toCount? 255 after = some n) (hle : n ≤ family.bits) :
      Names family (before ++ '/' :: after) ⟨address, n⟩

/-- **The words that are read as a prefix are those that name it.** -/
theorem destination?_eq_some {family : Family} {word : Text} {p : Prefix} :
    destination? family word = some p ↔ Names family word p := by
  constructor
  · intro h
    rw [destination?] at h
    split at h
    · rename_i hword
      obtain rfl := Option.some.inj h
      exact hword ▸ .default
    · obtain ⟨hread, hfamily⟩ := Option.filter_eq_some_iff.1 h
      rw [beq_iff_eq] at hfamily
      rcases Prefix.read?_eq_some.1 hread with ⟨address, haddress, rfl⟩ |
        ⟨before, after, address, n, rfl, haddress, hlength, hle, rfl⟩
      · exact .host haddress hfamily
      · exact .length haddress hfamily hlength (hfamily ▸ hle)
  · have hread : ∀ {word : Text}, Prefix.read? word = some p → p.family = family →
        destination? family word = some p := by
      intro word hread hfamily
      have hdefault : word ≠ "default".toList := by
        rintro rfl
        rw [read?_keyword _ List.mem_cons_self] at hread
        cases hread
      rw [destination?, if_neg hdefault, hread, Option.filter_some, hfamily]
      simp
    intro h
    cases h with
    | default => rfl
    | host h hfamily =>
      exact hread (Prefix.read?_eq_some.2 (.inl ⟨_, h, rfl⟩)) hfamily
    | length h hfamily hlength hle =>
      exact hread (Prefix.read?_eq_some.2
        (.inr ⟨_, _, _, _, rfl, h, hlength, hfamily ▸ hle, rfl⟩)) hfamily

theorem destination?_kind {family : Family} {kind : Text} (h : kind ∈ routeKinds) :
    destination? family kind = none := by
  have hdefault : kind ≠ "default".toList := by
    rintro rfl
    exact absurd h (by decide)
  rw [destination?, if_neg hdefault, read?_keyword _ (List.mem_cons_of_mem _ h)]
  rfl

section

variable {family : Family} {word : Text} {p : Prefix} (h : Names family word p)
include h

/-- What names a prefix is made of characters of addresses, a slash and a plus sign, but for one
word. -/
theorem Names.cases_char : word = "default".toList ∨
    word ≠ [] ∧ ∀ c ∈ word, Address.IsChar c ∨ c = '/' ∨ c = '+' := by
  cases h with
  | default => exact .inl rfl
  | host h _ =>
    obtain ⟨hne, hchar⟩ := Address.isChar_of_read? h
    exact .inr ⟨hne, fun c hc => .inl (hchar c hc)⟩
  | length h _ hlength _ =>
    obtain ⟨hne, hchar⟩ := Address.isChar_of_read? h
    refine .inr ⟨List.append_ne_nil_of_left_ne_nil hne _, fun c hc => ?_⟩
    rcases List.mem_append.1 hc with hc | hc
    · exact .inl (hchar c hc)
    · rcases List.mem_cons.1 hc with rfl | hc
      · exact .inr (.inl rfl)
      · rcases Text.mem_of_toCount? hlength c hc with rfl | hdigit
        · exact .inr (.inr rfl)
        · exact .inl (.inl (Text.isSome_digitValue?_mono (by decide) hdigit))

theorem Names.isWord : IsWord word := by
  rcases h.cases_char with rfl | ⟨hne, hchar⟩
  · decide
  · refine ⟨hne, fun c hc => ?_⟩
    rcases hchar c hc with hc | rfl | rfl
    · exact hc.not_blank
    · decide
    · decide

theorem Names.not_mem : 'v' ∉ word := by
  rcases h.cases_char with rfl | ⟨-, hchar⟩
  · decide
  · exact fun hv => absurd (hchar 'v' hv) (by decide)

theorem Names.not_kind : word ∉ routeKinds := by
  intro hkind
  have hread := destination?_eq_some.2 h
  rw [destination?_kind hkind] at hread
  cases hread

end

/-! ## Header lines -/

/-- What may stand in front of a destination: nothing, or the kind of the route and blanks. -/
inductive IsLead : Text → Prop
  | none : IsLead []
  | kind (kind blanks : Text) (h : kind ∈ routeKinds) (hne : blanks ≠ [])
      (hblanks : ∀ c ∈ blanks, Text.isBlank c = true) : IsLead (kind ++ blanks)

/-- The line names the prefix, perhaps behind the kind of the route, and this is the rest of it. -/
inductive Spells (family : Family) (p : Prefix) (rest : Text) : Text → Prop
  | intro (lead word : Text) (hlead : IsLead lead) (hword : Names family word p)
      (hrest : StopsAt (!Text.isBlank ·) rest) : Spells family p rest (lead ++ word ++ rest)

theorem IsLead.not_mem {lead : Text} (h : IsLead lead) : 'v' ∉ lead := by
  cases h with
  | none => exact List.not_mem_nil
  | kind kind blanks h _ hblanks =>
    have hkind : ∀ kind ∈ routeKinds, 'v' ∉ kind := by decide
    refine fun hv => (List.mem_append.1 hv).elim (hkind kind h) fun hv => ?_
    exact absurd (hblanks 'v' hv) (by decide)

theorem isWord_kind : ∀ kind ∈ routeKinds, IsWord kind := by decide

theorem destinationWord?_of_kind {kind word : Text} (h : kind ∈ routeKinds) (ws : List Text) :
    destinationWord? (kind :: word :: ws) = some word := by
  rw [destinationWord?, if_pos (List.contains_iff_mem.2 h)]
  rfl

theorem destinationWord?_of_not_kind {word : Text} (h : word ∉ routeKinds) (ws : List Text) :
    destinationWord? (word :: ws) = some word := by
  rw [destinationWord?, if_neg (mt List.contains_iff_mem.1 h)]

/-- An indented line is no header, and any other line is the header that one of its words names. -/
theorem header?_eq_some_words {family : Family} {line : Text} {header : Header} :
    header? family line = some header ↔ Text.startsBlank line = false ∧
      header.declared = none ∧ ∃ word, destinationWord? (Text.words line) = some word ∧
        Names family word header.target := by
  rw [header?]
  cases Text.startsBlank line with
  | true => simp
  | false =>
    simp only [Bool.false_eq_true, if_false, true_and, Option.bind_eq_bind,
      Option.bind_eq_some_iff, destination?_eq_some]
    constructor
    · rintro ⟨word, hword, p, hnames, h⟩
      obtain rfl := Option.some.inj h
      exact ⟨rfl, word, hword, hnames⟩
    · rintro ⟨hnone, word, hword, hnames⟩
      obtain ⟨target, declared⟩ := header
      obtain rfl : declared = none := hnone
      exact ⟨word, hword, target, hnames, rfl⟩

/-- The words of a line that names a prefix. -/
theorem Spells.words_eq {family : Family} {p : Prefix} {rest line : Text}
    (h : Spells family p rest line) : Text.startsBlank line = false ∧
      ∃ word, destinationWord? (Text.words line) = some word ∧ Names family word p := by
  obtain ⟨lead, word, hlead, hword, hrest⟩ := h
  have hwords := hword.isWord.words_append_stopsAt hrest
  cases hlead with
  | none =>
    rw [List.nil_append]
    refine ⟨hword.isWord.startsBlank_append rest, word, ?_, hword⟩
    rw [hwords, destinationWord?_of_not_kind hword.not_kind]
  | kind kind blanks hkind hne hblanks =>
    have hfirst := isWord_kind kind hkind
    rw [List.append_assoc, List.append_assoc]
    refine ⟨hfirst.startsBlank_append _, word, ?_, hword⟩
    have hstops : StopsAt (!Text.isBlank ·) (blanks ++ (word ++ rest)) := by
      obtain ⟨b, blanks, rfl⟩ := List.exists_cons_of_ne_nil hne
      exact Text.stopsAt_cons _ (by simp [hblanks b List.mem_cons_self])
    rw [hfirst.words_append_stopsAt hstops, Text.words_blanks_append hblanks, hwords,
      destinationWord?_of_kind hkind]

/-- A line whose words name a prefix is that word, perhaps behind a kind, and the rest. -/
theorem exists_spells {family : Family} {p : Prefix} {line word : Text}
    (hline : Text.startsBlank line = false)
    (hword : destinationWord? (Text.words line) = some word) (hnames : Names family word p) :
    ∃ rest, Spells family p rest line := by
  cases hwords : Text.words line with
  | nil =>
    rw [hwords] at hword
    cases hword
  | cons first ws =>
    rw [hwords] at hword
    obtain ⟨rest, rfl, hfirst, hrest, rfl⟩ := Text.exists_of_words_eq_cons hline hwords
    by_cases hkind : first ∈ routeKinds
    · -- The destination is the second word, behind the blanks that the rest begins with.
      rw [destinationWord?, if_pos (List.contains_iff_mem.2 hkind)] at hword
      obtain ⟨ws, hws⟩ : ∃ ws, Text.words rest = word :: ws := by
        cases hws : Text.words rest with
        | nil =>
          rw [hws] at hword
          cases hword
        | cons second ws =>
          rw [hws] at hword
          obtain rfl := Option.some.inj hword
          exact ⟨ws, rfl⟩
      have hblanks : ∀ c ∈ rest.takeWhile Text.isBlank, Text.isBlank c = true := fun c hc =>
        List.all_eq_true.1 List.all_takeWhile c hc
      have hsplit : rest = rest.takeWhile Text.isBlank ++ Text.trimStart rest :=
        List.takeWhile_append_dropWhile.symm
      rw [hsplit, Text.words_blanks_append hblanks] at hws
      obtain ⟨tail, htail, -, hstops, -⟩ := Text.exists_of_words_eq_cons
        (Text.startsBlank_eq_false.2 (Text.stopsAt_trimStart rest)) hws
      have hne : rest.takeWhile Text.isBlank ≠ [] := by
        intro hnil
        rw [hnil, List.nil_append, htail] at hsplit
        obtain ⟨c, word, rfl⟩ := List.exists_cons_of_ne_nil hnames.isWord.ne_nil
        have hc : Text.isBlank c = false := hnames.isWord.no_blank c List.mem_cons_self
        have hnot : (!Text.isBlank c) = false := hrest c (by rw [hsplit]; rfl)
        simp [hc] at hnot
      refine ⟨tail, ?_⟩
      rw [hsplit, htail, ← List.append_assoc, ← List.append_assoc]
      exact .intro _ word (.kind first _ hkind hne hblanks) hnames hstops
    · rw [destinationWord?_of_not_kind hkind] at hword
      obtain rfl := Option.some.inj hword
      exact ⟨rest, .intro [] first .none hnames hrest⟩

/-- **The header lines of a kernel dump are those that name a prefix.** -/
theorem header?_eq_some {family : Family} {line : Text} {header : Header} :
    header? family line = some header ↔
      header.declared = none ∧ ∃ rest, Spells family header.target rest line := by
  rw [header?_eq_some_words]
  constructor
  · rintro ⟨hline, hnone, word, hword, hnames⟩
    exact ⟨hnone, exists_spells hline hword hnames⟩
  · rintro ⟨hnone, rest, hspells⟩
    obtain ⟨hline, hwords⟩ := hspells.words_eq
    exact ⟨hline, hnone, hwords⟩

/-! ## Other spellings -/

/-- The next-hop of a header line is named behind the destination. -/
theorem Spells.nextHop?_eq {family : Family} {p : Prefix} {rest line : Text}
    (h : Spells family p rest line) : nextHop? line = nextHop? rest := by
  obtain ⟨lead, word, hlead, hword, hrest⟩ := h
  exact nextHop?_append (fun hv => (List.mem_append.1 hv).elim hlead.not_mem hword.not_mem) hrest

/-- Both lines name the same prefix in front of the same rest, each by a word of its own and
behind a kind of its own or none. -/
def Respelled (family : Family) (line line' : Text) : Prop :=
  ∃ p rest, Spells family p rest line ∧ Spells family p rest line'

theorem alike_of_respelled {family : Family} {line line' : Text}
    (h : Respelled family line line') : (grammar family).Alike nextHop? line line' := by
  obtain ⟨p, rest, hline, hline'⟩ := h
  have hheader : ∀ {l : Text}, Spells family p rest l → header? family l = some ⟨p, none⟩ :=
    fun hspells => header?_eq_some.2 ⟨rfl, rest, hspells⟩
  have hhop : ∀ {l : Text}, Spells family p rest l → isNextHopLine l = false := fun hspells => by
    rw [isNextHopLine, hspells.words_eq.1]
    rfl
  exact ⟨(hheader hline').trans (hheader hline).symm,
    hline'.nextHop?_eq.trans hline.nextHop?_eq.symm, .inl ((hhop hline').trans (hhop hline).symm)⟩

/-- **A kernel dump may name its destinations in any way.** Any of the header lines of the family
may name its prefix by another word, get a kind in front of it or lose one: the same route is
extracted for every query of that family. And the header lines are exactly the lines that name a
prefix by one of these words. -/
theorem extract_respelled {lines lines' : List Text} {query : Query}
    (h : List.Forall₂ (fun line line' => line' = line ∨ Respelled query.target.family line line')
      lines lines') :
    extract lines' query = extract lines query ∧
      ∀ family line header, header? family line = some header ↔
        header.declared = none ∧ ∃ rest, Spells family header.target rest line := by
  have halike : List.Forall₂ ((grammar query.target.family).Alike nextHop?) lines lines' := by
    refine h.imp fun line line' hline => ?_
    rcases hline with rfl | hline
    · exact ⟨rfl, rfl, .inl rfl⟩
    · exact alike_of_respelled hline
  exact ⟨extract_alike halike, fun family line header => header?_eq_some⟩

/-- The address `::1`. -/
def loopback : Address := .v6 ⟨[0, 0, 0, 0, 0, 0, 0, 1], rfl⟩

/-- A default route over a device that is called like a keyword and a host beside it, and the same
routes named in other ways. -/
theorem extract_respelled_default :
    let gateway : Text := ' ' :: "via fe80::1 dev via proto bgp".toList
    let device : Text := '\t' :: "dev dev scope link".toList
    let lines : List Text := ["::/0".toList ++ gateway, "\tnexthop dev eth1".toList,
      "::1".toList ++ device]
    let lines' : List Text := ["unicast".toList ++ [' '] ++ "default".toList ++ gateway,
      "\tnexthop dev eth1".toList,
      "local".toList ++ " \u00A0".toList ++ "0:0:0000::0.0.0.1/+128".toList ++ device]
    List.Forall₂ (fun line line' => line' = line ∨ Respelled .v6 line line') lines lines' ∧
      extract lines' ⟨Route.empty (Prefix.defaultRoute .v6), none, none⟩ =
        extract lines ⟨Route.empty (Prefix.defaultRoute .v6), none, none⟩ := by
  intro gateway device lines lines'
  have hgateway : StopsAt (!Text.isBlank ·) gateway := Text.stopsAt_cons _ (by decide)
  have hdevice : StopsAt (!Text.isBlank ·) device := Text.stopsAt_cons _ (by decide)
  have hbare : ∀ {rest word : Text} {p : Prefix}, StopsAt (!Text.isBlank ·) rest →
      destination? .v6 word = some p → Spells .v6 p rest (word ++ rest) := fun hrest hword =>
    .intro [] _ .none (destination?_eq_some.1 hword) hrest
  have hkind : ∀ {rest word : Text} {p : Prefix} (kind blanks : Text), kind ∈ routeKinds →
      blanks ≠ [] → blanks.all Text.isBlank = true → StopsAt (!Text.isBlank ·) rest →
      destination? .v6 word = some p → Spells .v6 p rest (kind ++ blanks ++ word ++ rest) :=
    fun kind blanks hkind hne hblanks hrest hword =>
      .intro _ _ (.kind kind blanks hkind hne (List.all_eq_true.1 hblanks))
        (destination?_eq_some.1 hword) hrest
  have hlines : List.Forall₂ (fun line line' => line' = line ∨ Respelled .v6 line line')
      lines lines' := by
    refine .cons (.inr ⟨Prefix.defaultRoute .v6, gateway, hbare hgateway (by decide +kernel), ?_⟩)
      (.cons (.inl rfl) (.cons (.inr ⟨Prefix.host loopback, device,
        hbare hdevice (by decide +kernel), ?_⟩) .nil))
    · exact hkind "unicast".toList [' '] (by decide) (by decide) (by decide) hgateway
        (by decide +kernel : destination? .v6 "default".toList = _)
    · exact hkind "local".toList " \u00A0".toList (by decide) (by decide) (by decide) hdevice
        (by decide +kernel : destination? .v6 "0:0:0000::0.0.0.1/+128".toList = _)
  let query : Query := ⟨Route.empty (Prefix.defaultRoute .v6), none, none⟩
  exact ⟨hlines, (@extract_respelled lines lines' query hlines).1⟩

end RouteWatch.Kernel
