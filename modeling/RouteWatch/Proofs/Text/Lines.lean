/-
Reading lines undoes joining them, whichever of the two endings stands behind
each line. A carriage return right before a line feed belongs to the ending
and an empty last line needs no ending at all, so a line must not end in a
carriage return, and where the last one has no ending it must not be empty.
-/
import RouteWatch.Proofs.Text.Blank
import RouteWatch.Text.Lines

namespace RouteWatch.Text

/-- The text is a line of its own wherever it stands before a line feed. -/
structure IsLine (s : Text) : Prop where
  no_feed : '\n' ∉ s
  no_return : s.getLast? ≠ some '\r'

instance : DecidablePred IsLine := fun s =>
  decidable_of_iff ('\n' ∉ s ∧ s.getLast? ≠ some '\r')
    ⟨fun h => ⟨h.1, h.2⟩, fun h => ⟨h.no_feed, h.no_return⟩⟩

theorem Trimmed.isLine {s : Text} (h : Trimmed s) (hs : '\n' ∉ s) : IsLine s where
  no_feed := hs
  no_return hlast := absurd (h.last '\r' (by rw [List.head?_reverse, hlast])) (by decide)

theorem IsWord.isLine {s : Text} (h : IsWord s) : IsLine s :=
  h.trimmed.isLine (h.not_mem (by decide))

theorem IsLine.append {a b : Text} (ha : '\n' ∉ a) (hb : IsLine b) (hne : b ≠ []) :
    IsLine (a ++ b) where
  no_feed h := (List.mem_append.1 h).elim ha hb.no_feed
  no_return := by
    rw [List.getLast?_append, Option.or_of_isSome (List.getLast?_isSome.2 hne)]
    exact hb.no_return

theorem lines_cons {c : Char} {s line : Text} {rest : List Text} (hc : c ≠ '\n')
    (hs : ∀ s', c = '\r' → s ≠ '\n' :: s') (h : lines s = line :: rest) :
    lines (c :: s) = (c :: line) :: rest := by
  rw [lines.eq_4 c s hc fun s' hr he => hs s' hr he, h]

theorem IsLine.tail {c : Char} {s : Text} (h : IsLine (c :: s)) : IsLine s where
  no_feed hm := h.no_feed (by simp [hm])
  no_return hl := by
    have := h.no_return
    cases s with
    | nil => simp at hl
    | cons d s => rw [List.getLast?_cons_cons] at this; exact this hl

/-- What ends a line: a line feed, perhaps behind a carriage return. -/
def IsEnding (s : Text) : Prop := s = ['\n'] ∨ s = ['\r', '\n']

theorem IsLine.lines_append {s ending : Text} (h : IsLine s) (hending : IsEnding ending)
    (rest : Text) : lines (s ++ (ending ++ rest)) = s :: lines rest := by
  induction s with
  | nil => rcases hending with rfl | rfl <;> rfl
  | cons c s ih =>
    refine lines_cons (fun hc => h.no_feed (by simp [hc])) (fun s' hr he => ?_) (ih h.tail)
    -- A line feed right after the carriage return can only be the one that ends the line.
    cases s with
    | nil => exact h.no_return (by simp [hr])
    | cons d s =>
      have hd : d = '\n' := by simpa using congrArg List.head? he
      exact h.no_feed (by simp [hd])

theorem lines_of_no_feed {s : Text} (h : '\n' ∉ s) (hne : s ≠ []) : lines s = [s] := by
  induction s with
  | nil => exact absurd rfl hne
  | cons c s ih =>
    have hc : c ≠ '\n' := fun hc => h (by simp [hc])
    have hs : '\n' ∉ s := fun hm => h (by simp [hm])
    cases s with
    | nil => rw [lines.eq_4 c [] hc (by simp)]; rfl
    | cons d s =>
      refine lines_cons hc (fun s' _ he => hs ?_) (ih hs (by simp))
      rw [he]
      simp

/-- The lines are made of characters of the text, without the line feeds. -/
theorem of_mem_lines {s line : Text} (h : line ∈ lines s) : ∀ c ∈ line, c ∈ s ∧ c ≠ '\n' := by
  induction s using lines.induct generalizing line with
  | case1 => cases h
  | case2 s ih =>
    rcases List.mem_cons.1 h with rfl | h
    · exact List.forall_mem_nil _
    · exact fun c hc => ⟨List.mem_cons_of_mem _ (ih h c hc).1, (ih h c hc).2⟩
  | case3 s ih =>
    rcases List.mem_cons.1 h with rfl | h
    · exact List.forall_mem_nil _
    · exact fun c hc =>
        ⟨List.mem_cons_of_mem _ (List.mem_cons_of_mem _ (ih h c hc).1), (ih h c hc).2⟩
  | case4 d s hfeed hreturn hs ih =>
    rw [lines.eq_4 d s hfeed hreturn, hs] at h
    obtain rfl := List.mem_singleton.1 h
    exact List.forall_mem_singleton.2 ⟨List.mem_cons_self, hfeed⟩
  | case5 d s hfeed hreturn first rest hs ih =>
    rw [lines.eq_4 d s hfeed hreturn, hs] at h
    rcases List.mem_cons.1 h with rfl | h
    · refine List.forall_mem_cons.2 ⟨⟨List.mem_cons_self, hfeed⟩, fun c hc => ?_⟩
      obtain ⟨hmem, hc⟩ := ih (hs ▸ List.mem_cons_self) c hc
      exact ⟨List.mem_cons_of_mem _ hmem, hc⟩
    · refine fun c hc => ?_
      obtain ⟨hmem, hc⟩ := ih (hs ▸ List.mem_cons_of_mem _ h) c hc
      exact ⟨List.mem_cons_of_mem _ hmem, hc⟩

/-! ## Joining -/

/-- The text is the lines with an ending behind each. Only the last may lack it, and then it is not
empty. -/
inductive Joins : List Text → Text → Prop
  | nil : Joins [] []
  | bare {line : Text} (h : line ≠ []) : Joins [line] line
  | cons {line ending s : Text} {ls : List Text} (hending : IsEnding ending) (h : Joins ls s) :
      Joins (line :: ls) (line ++ (ending ++ s))

/-- **Reading lines undoes joining them.** -/
theorem Joins.lines_eq {ls : List Text} {s : Text} (h : Joins ls s)
    (hlines : ∀ line ∈ ls, IsLine line) : lines s = ls := by
  induction h with
  | nil => rfl
  | bare hne => exact lines_of_no_feed (hlines _ List.mem_cons_self).no_feed hne
  | cons hending _ ih =>
    rw [List.forall_mem_cons] at hlines
    rw [hlines.1.lines_append hending, ih hlines.2]

/-- A character in front of the first line belongs to it. -/
theorem Joins.push {line s : Text} {ls : List Text} (h : Joins (line :: ls) s) (c : Char) :
    Joins ((c :: line) :: ls) (c :: s) := by
  cases h with
  | bare => exact .bare (List.cons_ne_nil c line)
  | cons hending h => exact @Joins.cons (c :: line) _ _ _ hending h

/-- Every text is its lines, joined. -/
theorem joins_lines (s : Text) : Joins (lines s) s := by
  induction s using lines.induct with
  | case1 => exact .nil
  | case2 s ih => exact @Joins.cons [] _ _ _ (.inl rfl) ih
  | case3 s ih => exact @Joins.cons [] _ _ _ (.inr rfl) ih
  | case4 c s hfeed hreturn hs ih =>
    rw [hs] at ih
    cases ih
    rw [lines.eq_4 c [] hfeed hreturn, hs]
    exact .bare (List.cons_ne_nil c [])
  | case5 c s hfeed hreturn line rest hs ih =>
    rw [lines.eq_4 c s hfeed hreturn, hs]
    exact (hs ▸ ih).push c

theorem lines_eq_iff {ls : List Text} {s : Text} (hlines : ∀ line ∈ ls, IsLine line) :
    lines s = ls ↔ Joins ls s :=
  ⟨fun h => h ▸ joins_lines s, fun h => h.lines_eq hlines⟩

theorem joins_joinWith {sep : Text} (hsep : IsEnding sep) : ∀ {ls : List Text},
    ls.getLast? ≠ some [] → Joins ls (joinWith sep ls)
  | [], _ => .nil
  | [line], h => .bare fun hnil => h (congrArg some hnil)
  | line :: next :: ls, h => by
    rw [joinWith, List.append_assoc]
    exact .cons hsep (joins_joinWith hsep h)

theorem joins_joinWith_append {sep ending : Text} (hsep : IsEnding sep)
    (hending : IsEnding ending) : ∀ {ls : List Text}, ls ≠ [] →
    Joins ls (joinWith sep ls ++ ending)
  | [], h => absurd rfl h
  | [line], _ => by
    rw [joinWith, ← List.append_nil ending]
    exact .cons hending .nil
  | line :: next :: ls, _ => by
    rw [joinWith, List.append_assoc, List.append_assoc]
    exact .cons hsep (joins_joinWith_append hsep hending (List.cons_ne_nil next ls))

theorem lines_joinWith {ls : List Text} (h : ∀ line ∈ ls, IsLine line)
    (hlast : ∀ line, ls.getLast? = some line → line ≠ []) : lines (joinWith ['\n'] ls) = ls :=
  (joins_joinWith (.inl rfl) fun hnil => hlast [] hnil rfl).lines_eq h

/-- Reading lines undoes joining them when the last of them are not empty. -/
theorem lines_joinWith_append {above below : List Text} (habove : ∀ line ∈ above, IsLine line)
    (hbelow : ∀ line ∈ below, IsLine line ∧ line ≠ []) (hne : below ≠ []) :
    lines (joinWith ['\n'] (above ++ below)) = above ++ below := by
  refine lines_joinWith (fun line hline => ?_) fun line hlast => ?_
  · rcases List.mem_append.1 hline with hline | hline
    · exact habove line hline
    · exact (hbelow line hline).1
  · rw [List.getLast?_append, Option.or_of_isSome (List.getLast?_isSome.2 hne)] at hlast
    exact (hbelow line (List.mem_of_getLast? hlast)).2

/-- Taking lines out leaves the others as they were, if a line that is not empty stays. -/
theorem lines_withoutLines {above below : List Text} {part : Text}
    (habove : ∀ line ∈ above, IsLine line) (hbelow : ∀ line ∈ below, IsLine line ∧ line ≠ [])
    (hstays : ∃ line ∈ below, mentions part line = false) :
    lines (withoutLines (joinWith ['\n'] (above ++ below)) part) =
      above.filter (!mentions part ·) ++ below.filter (!mentions part ·) := by
  obtain ⟨line, hline, hpart⟩ := hstays
  have hleft : below.filter (!mentions part ·) ≠ [] :=
    List.ne_nil_of_mem (List.mem_filter.2 ⟨hline, by rw [hpart]; rfl⟩)
  rw [withoutLines, lines_joinWith_append habove hbelow (List.ne_nil_of_mem hline),
    List.filter_append]
  exact lines_joinWith_append (fun line hline => habove line (List.mem_filter.1 hline).1)
    (fun line hline => hbelow line (List.mem_filter.1 hline).1) hleft

/-- An empty last line is not told from the end of the text. -/
theorem lines_joinWith_concat_nil {ls : List Text} (h : ∀ line ∈ ls, IsLine line) :
    lines (joinWith ['\n'] (ls ++ [[]])) = ls := by
  cases ls with
  | nil => rfl
  | cons line ls =>
    rw [joinWith_concat ['\n'] (List.cons_ne_nil line ls), List.append_nil]
    exact (joins_joinWith_append (.inl rfl) (.inl rfl) (List.cons_ne_nil line ls)).lines_eq h

/-- An empty line may be lost at the end of a text, and no other line. -/
theorem filter_lines_joinWith {ls : List Text} (h : ∀ line ∈ ls, IsLine line) {ending : Text}
    (hending : ending = [] ∨ ending = ['\n']) :
    (lines (joinWith ['\n'] ls ++ ending)).filter (!·.isEmpty) = ls.filter (!·.isEmpty) := by
  rcases hending with rfl | rfl
  · rw [List.append_nil]
    rcases List.eq_nil_or_concat ls with rfl | ⟨ls, last, rfl⟩
    · rfl
    · rw [List.concat_eq_append] at h ⊢
      by_cases hlast : last = []
      · subst hlast
        rw [lines_joinWith_concat_nil fun line hline => h line (by simp [hline])]
        simp
      · rw [lines_joinWith h]
        simp [hlast]
  · cases ls with
    | nil => rfl
    | cons line ls =>
      have hjoins := joins_joinWith_append (.inl rfl) (.inl rfl) (List.cons_ne_nil line ls)
      rw [hjoins.lines_eq h]

/-- **Reading lines undoes joining them**, by line feeds, by carriage returns and line feeds, or by
both in any mixture, and it undoes nothing else: lines that hold no line feed and end in no carriage
return are read from the texts that join them. With the same ending between all lines, the last of
which is not empty, it makes no difference whether one stands behind that line too. No line of any
text has a line feed. -/
theorem lines_undo_joins :
    (∀ (ls : List Text) (s : Text), (∀ line ∈ ls, IsLine line) → (lines s = ls ↔ Joins ls s)) ∧
    (∀ ls : List Text, ls ≠ [] → (∀ line ∈ ls, IsLine line) → ls.getLast? ≠ some [] →
      ∀ sep ending : Text, IsEnding sep → (ending = [] ∨ IsEnding ending) →
        lines (joinWith sep ls ++ ending) = ls) ∧
    ∀ s : Text, ∀ line ∈ lines s, '\n' ∉ line := by
  refine ⟨fun ls s hlines => lines_eq_iff hlines, ?_, ?_⟩
  · intro ls hne hlines hlast sep ending hsep hending
    rcases hending with rfl | hending
    · rw [List.append_nil]
      exact (joins_joinWith hsep hlast).lines_eq hlines
    · exact (joins_joinWith_append hsep hending hne).lines_eq hlines
  · intro s line hline hfeed
    exact (of_mem_lines hline _ hfeed).2 rfl

/-- Lines with an empty one among them and a carriage return inside of another. -/
def mixedLines : List Text := ["10.0.0.0/24".toList, [], " via\r 2".toList, "!".toList]

/-- The lines with both endings between them and none behind the last. -/
def mixedText : Text := "10.0.0.0/24\r\n\n via\r 2\r\n!".toList

theorem lines_undo_joins_mixedText :
    (∀ line ∈ mixedLines, IsLine line) ∧ mixedLines.getLast? ≠ some [] ∧
      Joins mixedLines mixedText ∧ lines mixedText = mixedLines ∧
      lines (joinWith ['\r', '\n'] mixedLines ++ ['\n']) = mixedLines ∧
      ∀ line ∈ lines mixedText, '\n' ∉ line := by
  obtain ⟨hread, huniform, hfeed⟩ := lines_undo_joins
  have hlines : ∀ line ∈ mixedLines, IsLine line := by decide
  have hlast : mixedLines.getLast? ≠ some [] := by decide
  have hjoins : Joins mixedLines mixedText :=
    @Joins.cons "10.0.0.0/24".toList ['\r', '\n'] _ _ (.inr rfl)
      (@Joins.cons [] ['\n'] _ _ (.inl rfl)
        (@Joins.cons " via\r 2".toList ['\r', '\n'] _ _ (.inr rfl)
          (.bare (List.cons_ne_nil _ _))))
  exact ⟨hlines, hlast, hjoins, (hread _ _ hlines).2 hjoins,
    huniform _ (List.cons_ne_nil _ _) hlines hlast _ _ (.inr rfl) (.inr (.inl rfl)),
    hfeed mixedText⟩

end RouteWatch.Text
