/-
Trimming and cutting into words. A text without blanks at either end is what
trimming leaves of it with blanks around. Words that are joined by blanks are
the words that are cut off again.
-/
import RouteWatch.Proofs.Text.Basic
import RouteWatch.Text.Blank

namespace RouteWatch.Text

theorem isBlank_of_isDigit {c : Char} (h : c.isDigit = true) : isBlank c = false := by
  obtain ⟨hge, hle⟩ := toNat_of_isDigit h
  simp only [isBlank, Bool.or_eq_false_iff, Bool.and_eq_false_iff, beq_eq_false_iff_ne,
    decide_eq_false_iff_not]
  omega

theorem trimStart_stopsAt {s : Text} (h : StopsAt isBlank s) : trimStart s = s :=
  dropWhile_stopsAt h

theorem trimStart_append {blanks : Text} (hb : ∀ c ∈ blanks, isBlank c = true) (s : Text) :
    trimStart (blanks ++ s) = trimStart s :=
  List.dropWhile_append_of_pos hb

theorem trimStart_of_blank {s : Text} (h : ∀ c ∈ s, isBlank c = true) : trimStart s = [] := by
  simpa [trimStart] using trimStart_append h []

theorem trim_of_blank {s : Text} (h : ∀ c ∈ s, isBlank c = true) : trim s = [] := by
  rw [trim, trimStart_of_blank h]
  rfl

theorem stopsAt_trimStart (s : Text) : StopsAt isBlank (trimStart s) := stopsAt_dropWhile _ s

theorem exists_blanks_trimStart (s : Text) :
    ∃ blanks, (∀ c ∈ blanks, isBlank c = true) ∧ s = blanks ++ trimStart s :=
  ⟨(span isBlank s).1, (span_spec isBlank s).2.1, (span_spec isBlank s).1⟩

/-- At least one blank is passed, and then all that follow it. -/
theorem afterBlanks?_eq_some {s rest : Text} :
    afterBlanks? s = some rest ↔ ∃ blanks, blanks ≠ [] ∧ (∀ c ∈ blanks, isBlank c = true) ∧
      s = blanks ++ rest ∧ StopsAt isBlank rest := by
  constructor
  · intro h
    cases s with
    | nil => cases h
    | cons c s =>
      rw [afterBlanks?, Option.ite_none_right_eq_some, Option.some.injEq] at h
      obtain ⟨hc, rfl⟩ := h
      obtain ⟨blanks, hblanks, hs⟩ := exists_blanks_trimStart s
      exact ⟨c :: blanks, List.cons_ne_nil c blanks, List.forall_mem_cons.2 ⟨hc, hblanks⟩,
        congrArg (c :: ·) hs, stopsAt_trimStart s⟩
  · rintro ⟨blanks, hne, hblanks, rfl, hrest⟩
    obtain ⟨c, blanks, rfl⟩ := List.exists_cons_of_ne_nil hne
    rw [List.forall_mem_cons] at hblanks
    rw [List.cons_append, afterBlanks?, if_pos hblanks.1, trimStart_append hblanks.2,
      trimStart_stopsAt hrest]

theorem startsBlank_eq_false {s : Text} : startsBlank s = false ↔ StopsAt isBlank s := by
  cases s <;> simp [startsBlank, StopsAt]

theorem trimEnd_stopsAt {s : Text} (h : StopsAt isBlank s.reverse) : trimEnd s = s := by
  have := trimStart_stopsAt h
  rw [trimStart] at this
  rw [trimEnd, this, List.reverse_reverse]

theorem stopsAt_reverse_trimEnd (s : Text) : StopsAt isBlank (trimEnd s).reverse := by
  rw [trimEnd, List.reverse_reverse]
  exact stopsAt_trimStart s.reverse

theorem trimEnd_prefix (s : Text) : trimEnd s <+: s := by
  have := List.dropWhile_suffix isBlank (l := s.reverse)
  rw [← List.reverse_prefix] at this
  simpa [trimEnd] using this

/-- Trailing blanks are behind the last character that is none. -/
theorem trimEnd_append_cons (a b : Text) {c : Char} (hc : isBlank c = false) :
    trimEnd (a ++ c :: b) = a ++ c :: trimEnd b := by
  have hstop : StopsAt isBlank (c :: a.reverse) := stopsAt_cons _ hc
  rw [trimEnd, trimEnd, List.reverse_append, List.reverse_cons, List.append_assoc,
    List.singleton_append, List.dropWhile_append]
  split
  · rename_i hnil
    rw [dropWhile_stopsAt hstop, List.isEmpty_iff.1 hnil]
    simp
  · simp

theorem mem_of_mem_trim {s : Text} {c : Char} (h : c ∈ trim s) : c ∈ s := by
  have hkept := trimEnd_prefix (trimStart s)
  exact (List.dropWhile_suffix isBlank).subset (hkept.subset h)

/-- Only blanks are trimmed. -/
theorem mem_trimStart {s : Text} {c : Char} (hc : isBlank c = false) (h : c ∈ s) :
    c ∈ trimStart s := by
  rw [← List.takeWhile_append_dropWhile (p := isBlank) (l := s), List.mem_append] at h
  rcases h with h | h
  · rw [List.all_eq_true.1 List.all_takeWhile c h] at hc
    cases hc
  · exact h

/-- A text without its trailing blanks begins as it did, unless nothing is left. -/
theorem head?_of_head?_trimEnd {s : Text} {c : Char} (h : (trimEnd s).head? = some c) :
    s.head? = some c := by
  obtain ⟨rest, hrest⟩ := trimEnd_prefix s
  rw [← hrest, List.head?_append, h]
  rfl

/-- No blank at either end. -/
structure Trimmed (s : Text) : Prop where
  first : StopsAt isBlank s
  last : StopsAt isBlank s.reverse

theorem Trimmed.trim_eq {s : Text} (h : Trimmed s) : trim s = s := by
  rw [trim, trimStart_stopsAt h.first, trimEnd_stopsAt h.last]

theorem map_trim {ls : List Text} (h : ∀ s ∈ ls, Trimmed s) : ls.map trim = ls :=
  calc ls.map trim = ls.map id := List.map_congr_left fun s hs => (h s hs).trim_eq
    _ = ls := List.map_id ls

/-- Blanks at the beginning are taken away by trimming. -/
theorem trim_append {blanks : Text} (hb : ∀ c ∈ blanks, isBlank c = true) (s : Text) :
    trim (blanks ++ s) = trim s := by rw [trim, trim, trimStart_append hb]

theorem trimEnd_append_blanks {blanks : Text} (hb : ∀ c ∈ blanks, isBlank c = true) (s : Text) :
    trimEnd (s ++ blanks) = trimEnd s := by
  rw [trimEnd, trimEnd, List.reverse_append, List.dropWhile_append_of_pos]
  exact fun c hc => hb c (List.mem_reverse.1 hc)

/-- Blanks at the end are taken away by trimming. -/
theorem trim_append_blanks {blanks : Text} (hb : ∀ c ∈ blanks, isBlank c = true) (s : Text) :
    trim (s ++ blanks) = trim s := by
  rw [trim, trim, trimStart, List.dropWhile_append]
  split
  · rename_i hnil
    rw [trimStart, List.isEmpty_iff.1 hnil, ← trimStart, trimStart_of_blank hb]
  · exact trimEnd_append_blanks hb (trimStart s)

theorem trimmed_trim (s : Text) : Trimmed (trim s) where
  first c hc := stopsAt_trimStart s c (head?_of_head?_trimEnd hc)
  last := stopsAt_reverse_trimEnd (trimStart s)

instance : DecidablePred Trimmed := fun s =>
  decidable_of_iff (trim s = s) ⟨fun h => h ▸ trimmed_trim s, Trimmed.trim_eq⟩

/-! ## Words -/

/-- One word: not empty, and without blanks. -/
structure IsWord (s : Text) : Prop where
  ne_nil : s ≠ []
  no_blank : ∀ c ∈ s, isBlank c = false

instance : DecidablePred IsWord := fun s =>
  decidable_of_iff (s ≠ [] ∧ s.all (!isBlank ·) = true)
    ⟨fun h => ⟨h.1, fun c hc => by simpa using List.all_eq_true.1 h.2 c hc⟩,
      fun h => ⟨h.ne_nil, List.all_eq_true.2 fun c hc => by simp [h.no_blank c hc]⟩⟩

theorem IsWord.stopsAt {s : Text} (h : IsWord s) (rest : Text) : StopsAt isBlank (s ++ rest) := by
  obtain ⟨c, s, rfl⟩ := List.exists_cons_of_ne_nil h.ne_nil
  exact stopsAt_cons _ (h.no_blank c (by simp))

theorem IsWord.startsBlank_append {s : Text} (h : IsWord s) (rest : Text) :
    startsBlank (s ++ rest) = false := by
  obtain ⟨c, s, rfl⟩ := List.exists_cons_of_ne_nil h.ne_nil
  exact h.no_blank c (by simp)

theorem IsWord.afterBlanks?_append {s : Text} (h : IsWord s) (rest : Text) :
    afterBlanks? (' ' :: (s ++ rest)) = some (s ++ rest) := by
  rw [afterBlanks?, if_pos (by decide), trimStart_stopsAt (h.stopsAt rest)]

theorem IsWord.trimmed {s : Text} (h : IsWord s) : Trimmed s where
  first := by simpa using h.stopsAt []
  last c hc := h.no_blank c (List.mem_reverse.1 (List.mem_of_head? hc))

/-- The words on either side of a blank are cut by themselves. -/
theorem words_append_cons {c : Char} (hc : isBlank c = true) (a b : Text) :
    words (a ++ c :: b) = words a ++ words b := by
  rw [words, splitBy_append_cons hc, List.filter_append]
  rfl

theorem words_of_blank {s : Text} (h : ∀ c ∈ s, isBlank c = true) : words s = [] := by
  induction s with
  | nil => rfl
  | cons c s ih =>
    rw [List.forall_mem_cons] at h
    exact (words_append_cons h.1 [] s).trans (ih h.2)

theorem IsWord.words_eq {s : Text} (h : IsWord s) : words s = [s] := by
  rw [words, splitBy_eq_singleton h.no_blank]
  simp [h.ne_nil]

/-- A word is cut off at the blank behind it. -/
theorem IsWord.words_append {s : Text} (h : IsWord s) (rest : Text) :
    words (s ++ ' ' :: rest) = s :: words rest := by
  rw [words_append_cons (by decide), h.words_eq]
  rfl

/-- A word is cut off wherever no word goes on behind it. -/
theorem IsWord.words_append_stopsAt {s rest : Text} (h : IsWord s)
    (hrest : StopsAt (!isBlank ·) rest) : words (s ++ rest) = s :: words rest := by
  cases rest with
  | nil =>
    rw [List.append_nil, h.words_eq]
    rfl
  | cons c rest =>
    have hc : isBlank c = true := by simpa using hrest c rfl
    have hskip : words (c :: rest) = words rest := words_append_cons hc [] rest
    rw [words_append_cons hc, h.words_eq, hskip]
    rfl

theorem words_blanks_append {blanks : Text} (h : ∀ c ∈ blanks, isBlank c = true) (s : Text) :
    words (blanks ++ s) = words s := by
  induction blanks with
  | nil => rfl
  | cons c blanks ih =>
    rw [List.forall_mem_cons] at h
    have hskip : words (c :: (blanks ++ s)) = words (blanks ++ s) := words_append_cons h.1 [] _
    rw [List.cons_append, hskip, ih h.2]

/-- The first word of a text that begins with none of its blanks. -/
theorem exists_of_words_eq_cons {s word : Text} {ws : List Text} (hs : startsBlank s = false)
    (h : words s = word :: ws) :
    ∃ rest, s = word ++ rest ∧ IsWord word ∧ StopsAt (!isBlank ·) rest ∧ words rest = ws := by
  have hne : s ≠ [] := by
    rintro rfl
    cases h
  have hword : IsWord (s.takeWhile (!isBlank ·)) := by
    refine ⟨?_, fun c hc => by simpa using List.all_eq_true.1 List.all_takeWhile c hc⟩
    obtain ⟨c, s, rfl⟩ := List.exists_cons_of_ne_nil hne
    have hc : isBlank c = false := hs
    simp [hc]
  have hstops : StopsAt (!isBlank ·) (s.dropWhile (!isBlank ·)) := stopsAt_dropWhile _ s
  have hsplit : s = s.takeWhile (!isBlank ·) ++ s.dropWhile (!isBlank ·) :=
    List.takeWhile_append_dropWhile.symm
  rw [hsplit, hword.words_append_stopsAt hstops] at h
  obtain ⟨rfl, hws⟩ := List.cons.inj h
  exact ⟨_, hsplit, hword, hstops, hws⟩

theorem IsWord.not_mem {s : Text} (h : IsWord s) {c : Char} (hc : isBlank c = true) : c ∉ s := by
  intro hmem
  rw [h.no_blank c hmem] at hc
  cases hc

/-- **Words that are joined by blanks are read back.** -/
theorem words_joinWith : ∀ {ws : List Text}, (∀ w ∈ ws, IsWord w) →
    words (joinWith [' '] ws) = ws
  | [], _ => rfl
  | [w], h => (h w (by simp)).words_eq
  | w :: v :: ws, h => by
    rw [joinWith, List.append_assoc, List.singleton_append, (h w (by simp)).words_append,
      words_joinWith fun u hu => h u (by simp [hu])]

theorem stopsAt_reverse_append {a b : Text} (hb : b ≠ []) (h : StopsAt isBlank b.reverse) :
    StopsAt isBlank (a ++ b).reverse := by
  intro c hc
  obtain ⟨d, s, hd⟩ := List.exists_cons_of_ne_nil (List.reverse_ne_nil_iff.2 hb)
  rw [List.reverse_append, hd, List.cons_append] at hc
  exact h c (by rw [hd]; exact hc)

theorem stopsAt_append {p : Char → Bool} {a : Text} (ha : a ≠ []) (h : StopsAt p a) (b : Text) :
    StopsAt p (a ++ b) := by
  obtain ⟨c, s, rfl⟩ := List.exists_cons_of_ne_nil ha
  exact stopsAt_cons _ (h c rfl)

theorem joinWith_ne_nil {sep w : Text} {ws : List Text} (h : w ≠ []) :
    joinWith sep (w :: ws) ≠ [] := by
  rw [joinWith_cons]
  exact List.append_ne_nil_of_left_ne_nil h _

/-- What stands between trimmed texts does not matter. -/
theorem trimmed_joinWith (sep : Text) : ∀ {ws : List Text}, (∀ w ∈ ws, Trimmed w ∧ w ≠ []) →
    Trimmed (joinWith sep ws)
  | [], _ => ⟨stopsAt_nil _, stopsAt_nil _⟩
  | [w], h => (h w (by simp)).1
  | w :: v :: ws, h => by
    obtain ⟨hw, hne⟩ := h w (by simp)
    have hrest : Trimmed (joinWith sep (v :: ws)) :=
      trimmed_joinWith sep fun u hu => h u (List.mem_cons_of_mem w hu)
    rw [joinWith]
    refine ⟨?_, stopsAt_reverse_append (joinWith_ne_nil (h v (by simp)).2) hrest.last⟩
    rw [List.append_assoc]
    exact stopsAt_append hne hw.first _

end RouteWatch.Text
