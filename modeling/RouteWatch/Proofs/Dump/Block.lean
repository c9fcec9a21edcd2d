/-
Cutting a dump into blocks, told line by line: a next-hop line belongs to the
header line nearest above it. `blocksFor_nearestAbove` says so of the two
passes, for any line grammar whatever: the first pass numbers the header
lines, the second cuts slices between their numbers, and no line is lost at
the cut, given to the route beside it, or taken twice.
-/
import RouteWatch.Dump.Block

namespace RouteWatch.Grammar

/-- The line is a header line. -/
def isHeader (g : Grammar) (line : Text) : Bool := (g.header? line).isSome

/-- There is a line of this number, and it is a header line. -/
def headerAt (g : Grammar) (lines : List Text) (i : Nat) : Bool := lines[i]?.any g.isHeader

/-- The number of the header line nearest above line number `i`. -/
def nearestAbove? (g : Grammar) (lines : List Text) : (i : Nat) → Option Nat
  | 0 => none
  | i + 1 => if g.headerAt lines i then some i else nearestAbove? g lines i

/-- The line of this number is a next-hop line whose nearest header line above has number `j`. -/
def owns (g : Grammar) (lines : List Text) (j : Nat) (line : Text × Nat) : Bool :=
  !g.isHeader line.1 && g.isNextHop line.1 && g.nearestAbove? lines line.2 == some j

/-- The next-hop lines of the header line of this number, in order. -/
def owned (g : Grammar) (lines : List Text) (j : Nat) : List Text :=
  (lines.zipIdx.filter (g.owns lines j)).map (·.1)

/-! ## The nearest header line -/

theorem nearestAbove?_eq_some {g : Grammar} {lines : List Text} {i j : Nat} :
    g.nearestAbove? lines i = some j ↔
      j < i ∧ g.headerAt lines j = true ∧ ∀ k, j < k → k < i → g.headerAt lines k = false := by
  induction i with
  | zero => simp [nearestAbove?]
  | succ i ih =>
    rw [nearestAbove?]
    split
    · rename_i hi
      constructor
      · intro h
        obtain rfl : i = j := by simpa using h
        exact ⟨by omega, hi, fun k h1 h2 => by omega⟩
      · rintro ⟨hji, -, hall⟩
        rcases Nat.lt_or_ge j i with hlt | hge
        · simp [hall i hlt (by omega)] at hi
        · simp; omega
    · rename_i hi
      rw [ih]
      constructor
      · rintro ⟨hji, hj, hall⟩
        refine ⟨by omega, hj, fun k h1 h2 => ?_⟩
        rcases Nat.lt_or_ge k i with hlt | hge
        · exact hall k h1 hlt
        · obtain rfl : k = i := by omega
          simpa using hi
      · rintro ⟨hji, hj, hall⟩
        have hne : j ≠ i := by
          rintro rfl
          exact hi hj
        exact ⟨by omega, hj, fun k h1 h2 => hall k h1 (by omega)⟩

theorem nearestAbove?_eq_none {g : Grammar} {lines : List Text} {i : Nat} :
    g.nearestAbove? lines i = none ↔ ∀ k, k < i → g.headerAt lines k = false := by
  induction i with
  | zero => simp [nearestAbove?]
  | succ i ih =>
    rw [nearestAbove?]
    split
    · rename_i hi
      simp only [reduceCtorEq, false_iff]
      intro hall
      simp [hall i (by omega)] at hi
    · rename_i hi
      rw [ih]
      constructor
      · intro hall k hk
        rcases Nat.lt_or_ge k i with hlt | hge
        · exact hall k hlt
        · obtain rfl : k = i := by omega
          simpa using hi
      · exact fun hall k hk => hall k (by omega)

/-! ## One pass -/

/-- The blocks of some lines in one pass, the first of the lines being number `index`: a header
line takes the next-hop lines below it up to the next header line. -/
def blocksFrom (g : Grammar) (index : Nat) : List Text → List Block
  | [] => []
  | line :: rest =>
    match g.header? line with
    | some header =>
      ⟨⟨index, line, header⟩, (rest.takeWhile (!g.isHeader ·)).filter g.isNextHop⟩ ::
        blocksFrom g (index + 1) rest
    | none => blocksFrom g (index + 1) rest

theorem blocksFrom_append {g : Grammar} {above : List Text}
    (h : ∀ line ∈ above, g.header? line = none) (lines : List Text) (n : Nat) :
    g.blocksFrom n (above ++ lines) = g.blocksFrom (n + above.length) lines := by
  induction above generalizing n with
  | nil => rfl
  | cons line above ih =>
    rw [List.cons_append, blocksFrom, h line (by simp), List.length_cons,
      show n + (above.length + 1) = n + 1 + above.length by omega]
    exact ih (fun l hl => h l (by simp [hl])) (n + 1)

/-- A header line and the lines below it up to a header line, or up to the end, are one block. -/
theorem blocksFrom_cons_append {g : Grammar} {line : Text} {header : Header}
    {below lines : List Text} (hline : g.header? line = some header)
    (hbelow : ∀ l ∈ below, g.header? l = none) (hlines : lines.head?.all g.isHeader = true)
    (n : Nat) :
    g.blocksFrom n (line :: below ++ lines) =
      ⟨⟨n, line, header⟩, below.filter g.isNextHop⟩ ::
        g.blocksFrom (n + 1 + below.length) lines := by
  have hstop : lines.takeWhile (!g.isHeader ·) = [] := by
    cases lines with
    | nil => rfl
    | cons l lines =>
      have hl : g.isHeader l = true := hlines
      simp [hl]
  have htake : (below ++ lines).takeWhile (!g.isHeader ·) = below := by
    rw [List.takeWhile_append_of_pos fun l hl => by simp [isHeader, hbelow l hl], hstop,
      List.append_nil]
  rw [List.cons_append, blocksFrom, hline, blocksFrom_append hbelow]
  simp only [htake]

theorem stopAt_headersFrom (g : Grammar) {lines : List Text} :
    ∀ {rest : List Text} {n : Nat}, lines.length = n + rest.length →
      stopAt lines (g.headersFrom n rest) = n + (rest.takeWhile (!g.isHeader ·)).length
  | [], n, hlen => by simpa [headersFrom, stopAt] using hlen
  | line :: rest, n, hlen => by
    rw [headersFrom]
    cases hline : g.header? line with
    | some header => simp [stopAt, isHeader, hline]
    | none =>
      have hrest : lines.length = (n + 1) + rest.length := by
        rw [List.length_cons] at hlen
        omega
      have ih := stopAt_headersFrom g hrest
      simp only [ih, List.takeWhile_cons, isHeader, hline, Option.isSome_none, Bool.not_false,
        if_true, List.length_cons]
      omega

/-- The slice before the next header line is the lines that are none. -/
theorem slice_stopAt (g : Grammar) {lines rest : List Text} {n : Nat} (hdrop : lines.drop n = rest)
    (hn : n ≤ lines.length) :
    slice lines n (stopAt lines (g.headersFrom n rest)) = rest.takeWhile (!g.isHeader ·) := by
  have hlen : lines.length = n + rest.length := by
    rw [← hdrop, List.length_drop]
    omega
  rw [stopAt_headersFrom g hlen, slice, hdrop, Nat.add_sub_cancel_left]
  exact (List.prefix_iff_eq_take.1 (List.takeWhile_prefix _)).symm

theorem drop_succ_of_drop_eq_cons {line : Text} {lines rest : List Text} {n : Nat}
    (h : lines.drop n = line :: rest) : lines.drop (n + 1) = rest ∧ n < lines.length := by
  constructor
  · rw [← List.drop_drop, h]
    rfl
  · rcases Nat.lt_or_ge n lines.length with hlt | hge
    · exact hlt
    · simp [List.drop_eq_nil_of_le hge] at h

theorem blocksOf_headersFrom (g : Grammar) {lines : List Text} :
    ∀ {rest : List Text} {n : Nat}, lines.drop n = rest →
      g.blocksOf lines (g.headersFrom n rest) = g.blocksFrom n rest
  | [], _, _ => rfl
  | line :: rest, n, hdrop => by
    obtain ⟨hrest, hn⟩ := drop_succ_of_drop_eq_cons hdrop
    have ih := blocksOf_headersFrom g hrest
    rw [headersFrom, blocksFrom]
    cases g.header? line with
    | some header => simp only [blocksOf, slice_stopAt g hrest hn, ih]
    | none => exact ih

theorem blocks_eq_blocksFrom (g : Grammar) (lines : List Text) :
    g.blocks lines = g.blocksFrom 0 lines := blocksOf_headersFrom g rfl

/-- The slice after a header line ends behind it, at the last line of the dump at the latest. -/
theorem lt_stopAt (g : Grammar) {lines : List Text} {h : HeaderLine} :
    ∀ {rest : List Text} {n k : Nat}, lines.length = n + rest.length →
      (g.headersFrom n rest)[k]? = some h →
      h.index < stopAt lines ((g.headersFrom n rest).drop (k + 1)) ∧
        stopAt lines ((g.headersFrom n rest).drop (k + 1)) ≤ lines.length
  | [], n, k, _, hk => by simp [headersFrom] at hk
  | line :: rest, n, k, hlen, hk => by
    have hrest : lines.length = (n + 1) + rest.length := by
      rw [List.length_cons] at hlen
      omega
    rw [headersFrom] at hk ⊢
    cases hline : g.header? line with
    | none =>
      simp only [hline] at hk
      exact lt_stopAt g hrest hk
    | some header =>
      simp only [hline] at hk
      cases k with
      | zero =>
        obtain rfl : ⟨n, line, header⟩ = h := by simpa using hk
        have hle := (List.takeWhile_prefix (!g.isHeader ·) (l := rest)).length_le
        simp only [List.drop_succ_cons, List.drop_zero, stopAt_headersFrom g hrest]
        omega
      | succ k => exact lt_stopAt g hrest hk

/-! ## What each header line owns -/

/-- From the line after a header line on, what that line owns is the next-hop lines up to the next
header line. -/
theorem owned_from (g : Grammar) {lines : List Text} {j : Nat} :
    ∀ {rest : List Text} {n : Nat}, lines.drop n = rest → g.nearestAbove? lines n = some j →
      ((rest.zipIdx n).filter (g.owns lines j)).map (·.1) =
        (rest.takeWhile (!g.isHeader ·)).filter g.isNextHop
  | [], _, _, _ => rfl
  | line :: rest, n, hdrop, hj => by
    obtain ⟨hrest, hn⟩ := drop_succ_of_drop_eq_cons hdrop
    have hat : g.headerAt lines n = g.isHeader line := by
      have : lines[n]? = some line := by
        rw [← List.head?_drop, hdrop]
        rfl
      simp [headerAt, this]
    rw [List.zipIdx_cons, List.filter_cons, List.takeWhile_cons]
    cases hline : g.isHeader line with
    | true =>
      -- The next header line: every line from here on has a nearer header line than `j`.
      have hnone : (rest.zipIdx (n + 1)).filter (g.owns lines j) = [] := by
        rw [List.filter_eq_nil_iff]
        rintro ⟨l, i⟩ hmem howns
        have hi : n + 1 ≤ i := (List.mem_zipIdx hmem).1
        have hnear : g.nearestAbove? lines i = some j := by
          simp only [owns, Bool.and_eq_true, beq_iff_eq] at howns
          exact howns.2
        have hjn := (nearestAbove?_eq_some.1 hj).1
        have := (nearestAbove?_eq_some.1 hnear).2.2 n hjn (by omega)
        simp [hat, hline] at this
      simp [owns, hline, hnone]
    | false =>
      have hnext : g.nearestAbove? lines (n + 1) = some j := by
        simp [nearestAbove?, hat, hline, hj]
      have ih := owned_from g hrest hnext
      cases hhop : g.isNextHop line with
      | true => simp [owns, hline, hhop, hj, ← ih]
      | false => simp [owns, hline, hhop, ← ih]

theorem owned_eq (g : Grammar) {lines rest : List Text} {line : Text} {j : Nat}
    (hdrop : lines.drop j = line :: rest) (hline : g.isHeader line = true) :
    g.owned lines j = (rest.takeWhile (!g.isHeader ·)).filter g.isNextHop := by
  obtain ⟨hrest, hj⟩ := drop_succ_of_drop_eq_cons hdrop
  have hat : lines[j]? = some line := by
    rw [← List.head?_drop, hdrop]
    rfl
  have hnear : g.nearestAbove? lines (j + 1) = some j := by
    simp [nearestAbove?, headerAt, hat, hline]
  have hsplit : lines.zipIdx = (lines.take (j + 1)).zipIdx ++ rest.zipIdx (j + 1) := by
    have happend : (lines.take (j + 1) ++ lines.drop (j + 1)).zipIdx =
        (lines.take (j + 1)).zipIdx ++
          (lines.drop (j + 1)).zipIdx (0 + (lines.take (j + 1)).length) := List.zipIdx_append
    rwa [List.take_append_drop, hrest, List.length_take_of_le (by omega), Nat.zero_add]
      at happend
  -- A line at or above the header line has its nearest header line further up.
  have hnone : (lines.take (j + 1)).zipIdx.filter (g.owns lines j) = [] := by
    rw [List.filter_eq_nil_iff]
    rintro ⟨l, i⟩ hmem howns
    have hi : i < j + 1 := by
      have := (List.mem_zipIdx hmem).2.1
      simp at this
      omega
    simp only [owns, Bool.and_eq_true, beq_iff_eq] at howns
    have := (nearestAbove?_eq_some.1 howns.2).1
    omega
  rw [owned, hsplit, List.filter_append, hnone, List.nil_append]
  exact owned_from g hrest hnear

theorem blocksFrom_eq_filterMap (g : Grammar) {lines : List Text} :
    ∀ {rest : List Text} {n : Nat}, lines.drop n = rest →
      g.blocksFrom n rest = (rest.zipIdx n).filterMap fun line =>
        (g.header? line.1).map fun header => ⟨⟨line.2, line.1, header⟩, g.owned lines line.2⟩
  | [], _, _ => rfl
  | line :: rest, n, hdrop => by
    have ih := blocksFrom_eq_filterMap g (drop_succ_of_drop_eq_cons hdrop).1
    rw [blocksFrom, List.zipIdx_cons, List.filterMap_cons]
    cases hline : g.header? line with
    | none => exact ih
    | some header => simp only [Option.map_some, owned_eq g hdrop (by simp [isHeader, hline]), ih]

/-- **One block for each header line**, in order, with its own number and the lines it owns. -/
theorem blocks_eq_filterMap (g : Grammar) (lines : List Text) :
    g.blocks lines = lines.zipIdx.filterMap fun line =>
      (g.header? line.1).map fun header => ⟨⟨line.2, line.1, header⟩, g.owned lines line.2⟩ := by
  rw [blocks_eq_blocksFrom]
  exact blocksFrom_eq_filterMap g rfl

/-- **No next-hop line is lost or taken twice**: the blocks one after the other hold exactly the
next-hop lines below the first header line. -/
theorem flatMap_blocksFrom (g : Grammar) (rest : List Text) (n : Nat) :
    (g.blocksFrom n rest).flatMap (·.nextHopLines) =
      (rest.dropWhile (!g.isHeader ·)).filter fun line => !g.isHeader line && g.isNextHop line := by
  induction rest generalizing n with
  | nil => rfl
  | cons line rest ih =>
    rw [blocksFrom, List.dropWhile_cons]
    cases hline : g.header? line with
    | none => simpa [isHeader, hline] using ih (n + 1)
    | some header =>
      have hcut : (rest.takeWhile (!g.isHeader ·)).filter g.isNextHop =
          (rest.takeWhile (!g.isHeader ·)).filter fun l => !g.isHeader l && g.isNextHop l := by
        refine List.filter_congr fun l hl => ?_
        have : (!g.isHeader l) = true := List.all_eq_true.1 List.all_takeWhile l hl
        simp [this]
      have hline' : g.isHeader line = true := by simp [isHeader, hline]
      simp only [List.flatMap_cons, ih, hcut, hline', Bool.not_true, Bool.false_eq_true, if_false,
        List.filter_cons, Bool.false_and]
      rw [← List.filter_append, List.takeWhile_append_dropWhile]

theorem mem_blocks {g : Grammar} {lines : List Text} {block : Block} :
    block ∈ g.blocks lines ↔ ∃ i line header, lines[i]? = some line ∧
      g.header? line = some header ∧ block = ⟨⟨i, line, header⟩, g.owned lines i⟩ := by
  rw [blocks_eq_filterMap, List.mem_filterMap]
  constructor
  · rintro ⟨⟨line, i⟩, hmem, hblock⟩
    obtain ⟨header, hheader, rfl⟩ := Option.map_eq_some_iff.1 hblock
    exact ⟨i, line, header, List.mk_mem_zipIdx_iff_getElem?.1 hmem, hheader, rfl⟩
  · rintro ⟨i, line, header, hline, hheader, rfl⟩
    exact ⟨(line, i), List.mk_mem_zipIdx_iff_getElem?.2 hline, by simp [hheader]⟩

/-- Below a header line, exactly one block has the nearest one. -/
theorem exists_block_of_headerAt {g : Grammar} {lines : List Text} {i k : Nat} (hk : k < i)
    (hhead : g.headerAt lines k = true) :
    ∃ block ∈ g.blocks lines, g.nearestAbove? lines i = some block.headerLine.index ∧
      ∀ other ∈ g.blocks lines, g.nearestAbove? lines i = some other.headerLine.index →
        other = block := by
  cases hnear : g.nearestAbove? lines i with
  | none =>
    rw [nearestAbove?_eq_none] at hnear
    simp [hnear k hk] at hhead
  | some j =>
    obtain ⟨-, hj, -⟩ := nearestAbove?_eq_some.1 hnear
    rw [headerAt, Option.any_eq_true] at hj
    obtain ⟨line, hline, hj⟩ := hj
    obtain ⟨header, hheader⟩ := Option.isSome_iff_exists.1 hj
    refine ⟨_, mem_blocks.2 ⟨j, line, header, hline, hheader, rfl⟩, rfl, ?_⟩
    intro other hother hindex
    obtain ⟨i', line', header', hline', hheader', rfl⟩ := mem_blocks.1 hother
    obtain rfl : j = i' := by simpa using hindex
    obtain rfl : line' = line := Option.some.inj (hline'.symm.trans hline)
    obtain rfl : header' = header := Option.some.inj (hheader'.symm.trans hheader)
    rfl

/-- **The blocks of a prefix are read off the nearest header lines.** The two passes give, in
order, one block for each header line of the prefix, with the line's number and the next-hop lines
that have it as their nearest header line above; the first block is the first of these. Every
next-hop line below a header line is owned by exactly one of all the blocks, a line above all of
them by none, and no slice reaches beyond the dump. -/
theorem blocksFor_nearestAbove (g : Grammar) (lines : List Text) (target : Prefix) :
    (g.blocksFor lines target = lines.zipIdx.filterMap fun line =>
      (g.header? line.1).bind fun header =>
        if header.target = target then
          some ⟨⟨line.2, line.1, header⟩, g.owned lines line.2⟩
        else none) ∧
    g.blockFor? lines target = (g.blocksFor lines target).head? ∧
    ((g.blocks lines).flatMap (·.nextHopLines) =
      (lines.dropWhile (!g.isHeader ·)).filter fun line =>
        !g.isHeader line && g.isNextHop line) ∧
    (∀ i line, lines[i]? = some line → g.isHeader line = false → g.isNextHop line = true →
      ((∃ k, k < i ∧ g.headerAt lines k = true) →
        ∃ block ∈ g.blocks lines, g.owns lines block.headerLine.index (line, i) = true ∧
          ∀ other ∈ g.blocks lines, g.owns lines other.headerLine.index (line, i) = true →
            other = block) ∧
      ((∀ k, k < i → g.headerAt lines k = false) →
        ∀ block ∈ g.blocks lines, g.owns lines block.headerLine.index (line, i) = false)) ∧
    ∀ k h, (g.headers lines)[k]? = some h →
      h.index + 1 ≤ stopAt lines ((g.headers lines).drop (k + 1)) ∧
        stopAt lines ((g.headers lines).drop (k + 1)) ≤ lines.length := by
  refine ⟨?_, ?_, ?_, fun i line _ hline hhop => ⟨?_, ?_⟩, ?_⟩
  · rw [blocksFor, blocks_eq_filterMap, List.filter_filterMap]
    congr 1
    funext line
    cases g.header? line.1 <;> simp [Option.filter, Block.header]
  · rw [blockFor?, blocksFor, List.head?_filter]
  · rw [blocks_eq_blocksFrom, flatMap_blocksFrom]
  · rintro ⟨k, hk, hhead⟩
    simpa [owns, hline, hhop] using exists_block_of_headerAt hk hhead
  · intro hall block _
    simp [owns, nearestAbove?_eq_none.2 hall]
  · exact fun k h hk => lt_stopAt g (by simp) hk

end RouteWatch.Grammar
