/-
Blanks at the end of a line. A reader is steady when they make no difference
to it. The cuts that readers of a line are made of pass these blanks on to
what is read next, so a reader is steady when what it reads last is.

In a text the blanks stand before a line feed, or before the carriage return
that belongs to it, or behind the last line. Those at the very end of a text
are behind its last line and on lines of their own.
-/
import Mathlib.Data.List.Forall2
import RouteWatch.Proofs.Text.Lines
import RouteWatch.Text.Digit
import RouteWatch.Text.WordChar

namespace RouteWatch.Text

/-! ## Classes without blanks -/

/-- Every blank character. -/
def blankChars : List Char :=
  ([0x20, 0x85, 0xA0, 0x1680, 0x2028, 0x2029, 0x202F, 0x205F, 0x3000] ++ List.range' 0x09 5 ++
    List.range' 0x2000 11).map Char.ofNat

theorem mem_blankChars {c : Char} (h : isBlank c = true) : c ∈ blankChars := by
  refine List.mem_map.2 ⟨c.toNat, ?_, Char.ofNat_toNat c⟩
  simp only [isBlank, Bool.or_eq_true, Bool.and_eq_true, beq_iff_eq, decide_eq_true_eq] at h
  simp only [List.mem_append, List.mem_cons, List.not_mem_nil, or_false, List.mem_range'_1]
  omega

/-- A class without any of them is one without blanks. -/
theorem eq_false_of_isBlank {p : Char → Bool} (hp : blankChars.all (!p ·) = true) {c : Char}
    (h : isBlank c = true) : p c = false := by
  simpa using List.all_eq_true.1 hp c (mem_blankChars h)

theorem isWordChar_of_isBlank {c : Char} (h : isBlank c = true) : isWordChar c = false :=
  eq_false_of_isBlank (by decide +kernel) h

theorem isDecimalDigit_of_isBlank {c : Char} (h : isBlank c = true) :
    isDecimalDigit c = false :=
  eq_false_of_isBlank (by decide +kernel) h

theorem ne_of_isBlank {c d : Char} (hd : isBlank d = true) (hc : isBlank c = false) : c ≠ d := by
  rintro rfl
  rw [hd] at hc
  cases hc

/-! ## Related answers -/

section

variable {R : α → β → Prop} {x : Option α} {y : Option β}

/-- Answers that are related lead to the same, if they do so each by itself. -/
theorem bind_eq_of_rel (h : Option.Rel R x y) {f : α → Option γ} {g : β → Option γ}
    (hfg : ∀ a b, R a b → g b = f a) : y.bind g = x.bind f := by
  cases h with
  | some hab => exact hfg _ _ hab
  | none => rfl

theorem isSome_eq_of_rel (h : Option.Rel R x y) : y.isSome = x.isSome := by cases h <;> rfl

theorem eq_none_of_rel (h : Option.Rel R none y) : y = none := by
  cases h
  rfl

theorem exists_of_rel {a : α} (h : Option.Rel R (some a) y) : ∃ b, y = some b ∧ R a b := by
  cases h with
  | some hab => exact ⟨_, rfl, hab⟩

end

/-! ## Blanks at the end -/

/-- Blanks that end no line. -/
def IsPadding (s : Text) : Prop := ∀ c ∈ s, isBlank c = true ∧ c ≠ '\n'

instance : DecidablePred IsPadding := fun s =>
  decidable_of_iff (s.all (fun c => isBlank c && c != '\n') = true) (by simp [IsPadding])

theorem isPadding_nil : IsPadding [] := List.forall_mem_nil _

theorem isPadding_cons {c : Char} {s : Text} :
    IsPadding (c :: s) ↔ (isBlank c = true ∧ c ≠ '\n') ∧ IsPadding s := List.forall_mem_cons

/-- The second text is the first one with blanks behind it. -/
inductive Trails : Text → Text → Prop
  | padding {t : Text} (h : IsPadding t) : Trails [] t
  | cons (c : Char) {s t : Text} (h : Trails s t) : Trails (c :: s) (c :: t)

theorem trails_iff {s t : Text} : Trails s t ↔ ∃ blanks, IsPadding blanks ∧ t = s ++ blanks := by
  constructor
  · intro h
    induction h with
    | padding h => exact ⟨_, h, rfl⟩
    | cons c _ ih =>
      obtain ⟨blanks, hblanks, rfl⟩ := ih
      exact ⟨blanks, hblanks, rfl⟩
  · rintro ⟨blanks, hblanks, rfl⟩
    induction s with
    | nil => exact .padding hblanks
    | cons c s ih => exact .cons c ih

namespace Trails

variable {s t : Text}

theorem refl (s : Text) : Trails s s :=
  trails_iff.2 ⟨[], isPadding_nil, (List.append_nil s).symm⟩

theorem trimStart (h : Trails s t) : Trails (trimStart s) (trimStart t) := by
  induction h with
  | @padding t h =>
    rw [trimStart_of_blank fun c hc => (h c hc).1]
    exact .refl []
  | @cons c s t h ih =>
    cases hc : isBlank c with
    | true => simpa only [Text.trimStart, List.dropWhile_cons, hc, if_true] using ih
    | false =>
      rw [trimStart_stopsAt (stopsAt_cons s hc), trimStart_stopsAt (stopsAt_cons t hc)]
      exact .cons c h

theorem trimEnd_eq (h : Trails s t) : trimEnd t = trimEnd s := by
  obtain ⟨blanks, hblanks, rfl⟩ := trails_iff.1 h
  exact trimEnd_append_blanks (fun c hc => (hblanks c hc).1) s

theorem trim_eq (h : Trails s t) : trim t = trim s := h.trimStart.trimEnd_eq

theorem startsBlank_eq (h : Trails s t) (hne : s ≠ []) : startsBlank t = startsBlank s := by
  cases h with
  | padding => exact absurd rfl hne
  | cons => rfl

theorem words_eq (h : Trails s t) : words t = words s := by
  obtain ⟨blanks, hblanks, rfl⟩ := trails_iff.1 h
  cases blanks with
  | nil => rw [List.append_nil]
  | cons c blanks =>
    obtain ⟨hc, hrest⟩ := isPadding_cons.1 hblanks
    rw [words_append_cons hc.1, words_of_blank fun d hd => (hrest d hd).1, List.append_nil]

/-- A word is taken off the beginning whatever stands behind the text. -/
theorem after? {word : Text} (hword : ∀ c ∈ word, isBlank c = false) (h : Trails s t) :
    Option.Rel Trails (after? word s) (after? word t) := by
  induction word generalizing s t with
  | nil => exact .some h
  | cons a word ih =>
    rw [List.forall_mem_cons] at hword
    cases h with
    | @padding t h =>
      cases t with
      | nil => exact .none
      | cons c t =>
        have hne : a ≠ c := ne_of_isBlank (isPadding_cons.1 h).1.1 hword.1
        simpa only [Text.after?, if_neg hne] using .none
    | @cons c s t h =>
      by_cases hac : a = c
      · simpa only [Text.after?, if_pos hac] using ih hword.2 h
      · simpa only [Text.after?, if_neg hac] using .none

/-- A word and the blank behind it are taken off alike, unless the word is the whole text. -/
theorem after?_concat {word : Text} {b : Char} (hword : IsWord word) (h : Trails s t)
    (hne : s ≠ word) :
    Option.Rel Trails (Text.after? (word ++ [b]) s) (Text.after? (word ++ [b]) t) := by
  have hrel := h.after? hword.no_blank
  rw [after?_append, after?_append]
  cases hs : Text.after? word s with
  | none =>
    rw [hs] at hrel
    rw [eq_none_of_rel hrel]
    exact .none
  | some rest =>
    rw [hs] at hrel
    obtain ⟨rest', ht, hrest⟩ := exists_of_rel hrel
    rw [ht, Option.bind_some, Option.bind_some]
    cases hrest with
    | padding => exact absurd ((after?_eq_some.1 hs).trans (List.append_nil word)) hne
    | @cons c rest rest' hrest =>
      by_cases hbc : b = c
      · simpa only [Text.after?, if_pos hbc] using .some hrest
      · simpa only [Text.after?, if_neg hbc] using .none

/-- A run of a class without blanks is cut off whatever stands behind the text. -/
theorem span {p : Char → Bool} (hp : ∀ c, isBlank c = true → p c = false) (h : Trails s t) :
    (span p t).1 = (span p s).1 ∧ Trails (span p s).2 (span p t).2 := by
  induction h with
  | @padding t h =>
    have hstop : StopsAt p t := fun c hc => hp c (h c (List.mem_of_head? hc)).1
    rw [span_stopsAt hstop]
    exact ⟨rfl, .padding h⟩
  | @cons c s t h ih =>
    simp only [Text.span, List.takeWhile_cons, List.dropWhile_cons] at ih ⊢
    cases p c with
    | true => exact ⟨congrArg (c :: ·) ih.1, ih.2⟩
    | false => exact ⟨rfl, .cons c h⟩

/-- The blanks are behind the last of the pieces between separators. -/
theorem splitBy {sep : Char → Bool} (hsep : ∀ c, isBlank c = true → sep c = false)
    (h : Trails s t) : List.Forall₂ Trails (splitBy sep s) (splitBy sep t) := by
  induction h with
  | @padding t h =>
    rw [splitBy_eq_singleton fun c hc => hsep c (h c hc).1]
    exact .cons (.padding h) .nil
  | @cons c s t h ih =>
    rw [Text.splitBy, Text.splitBy]
    split
    · exact .cons (.refl []) ih
    · revert ih
      generalize Text.splitBy sep s = pieces
      generalize Text.splitBy sep t = pieces'
      rintro (_ | ⟨hpiece, hpieces⟩)
      · exact .cons (.refl [c]) .nil
      · exact .cons (.cons c hpiece) hpieces

theorem contains_feed_eq (h : Trails s t) : t.contains '\n' = s.contains '\n' := by
  obtain ⟨blanks, hblanks, rfl⟩ := trails_iff.1 h
  have hnot : '\n' ∉ blanks := fun hmem => (hblanks _ hmem).2 rfl
  simp [hnot]

end Trails

/-! ## Steady readers -/

/-- What is cut off a text is the same with blanks behind it, and the rest has them behind it. -/
def Passes (cut : Text → Option (α × Text)) : Prop :=
  ∀ ⦃s t : Text⦄, Trails s t →
    Option.Rel (fun a b => b.1 = a.1 ∧ Trails a.2 b.2) (cut s) (cut t)

/-- Blanks behind a text make no difference to what is read. -/
def Steady (read : Text → α) : Prop := ∀ ⦃s t : Text⦄, Trails s t → read t = read s

namespace Steady

theorem const (a : α) : Steady fun _ => a := fun _ _ _ => rfl

theorem comp {read : Text → α} (h : Steady read) (f : α → β) : Steady fun s => f (read s) :=
  fun _ _ hst => congrArg f (h hst)

theorem ite (c : Prop) [Decidable c] {read read' : Text → α} (h : Steady read)
    (h' : Steady read') : Steady fun s => if c then read s else read' s := by
  intro s t hst
  simp only [h hst, h' hst]

theorem trimStart {read : Text → α} (h : Steady read) : Steady fun s => read (trimStart s) :=
  fun _ _ hst => h hst.trimStart

theorem span {read : Text → Text → α} (h : ∀ run, Steady (read run)) {p : Char → Bool}
    (hp : ∀ c, isBlank c = true → p c = false) :
    Steady fun s => read (span p s).1 (span p s).2 := by
  intro s t hst
  obtain ⟨hrun, hrest⟩ := hst.span hp
  simp only [hrun, h _ hrest]

theorem cut {read : α → Text → Option β} (h : ∀ a, Steady (read a))
    {cut : Text → Option (α × Text)} (hcut : Passes cut) :
    Steady fun s => (cut s).bind fun a => read a.1 a.2 := fun _ _ hst =>
  bind_eq_of_rel (hcut hst) fun _ _ hrest => by rw [hrest.1, h _ hrest.2]

section

variable {read : Text → Option α} (h : Steady read)
include h

theorem after? (word : Text) (hword : IsWord word) :
    Steady fun s => (after? word s).bind read := fun _ _ hst =>
  bind_eq_of_rel (hst.after? hword.no_blank) fun _ _ hrest => h hrest

/-- A word that may be left out. -/
theorem option (word : Text) (hword : IsWord word) :
    Steady fun s => read ((Text.after? word s).getD s) := by
  intro s t hst
  have hrel := hst.after? hword.no_blank
  show read ((Text.after? word t).getD t) = read ((Text.after? word s).getD s)
  generalize Text.after? word s = x at hrel ⊢
  generalize Text.after? word t = y at hrel ⊢
  cases hrel with
  | some hrest => exact h hrest
  | none => exact h hst

/-- Blanks behind a text are not what `afterBlanks?` wants, if nothing can be read after them. -/
theorem afterBlanks? (hnil : read [] = none) : Steady fun s => (afterBlanks? s).bind read := by
  intro s t hst
  cases hst with
  | @padding t hpad =>
    cases t with
    | nil => rfl
    | cons c t =>
      obtain ⟨hc, hrest⟩ := isPadding_cons.1 hpad
      have hread : read (Text.trimStart t) = none := (h.trimStart (.padding hrest)).trans hnil
      simpa [Text.afterBlanks?, hc.1] using hread
  | @cons c s t hst =>
    simp only [Text.afterBlanks?]
    split
    · exact h.trimStart hst
    · rfl

end

end Steady

/-! ## Blanks in a text -/

/-- The second text is the first one with blanks at the ends of its lines: behind the last line,
or in front of a line feed and of the carriage return that belongs to it. -/
inductive Padded : Text → Text → Prop
  | nil : Padded [] []
  | last {c : Char} {blanks : Text} (hc : c ≠ '\n') (h : IsPadding blanks) :
      Padded [c] (c :: blanks)
  | keep (c : Char) {s t : Text} (h : Padded s t) : Padded (c :: s) (c :: t)
  | feed (blanks : Text) {s t : Text} (hb : IsPadding blanks) (h : Padded s t) :
      Padded ('\n' :: s) (blanks ++ '\n' :: t)
  | returnFeed (blanks : Text) {s t : Text} (hb : IsPadding blanks) (h : Padded s t) :
      Padded ('\r' :: '\n' :: s) (blanks ++ '\r' :: '\n' :: t)

theorem Padded.refl : ∀ s : Text, Padded s s
  | [] => .nil
  | c :: s => .keep c (refl s)

/-- What stands before both texts. -/
theorem Padded.append {s t : Text} (h : Padded s t) (u : Text) : Padded (u ++ s) (u ++ t) := by
  induction u with
  | nil => exact h
  | cons c u ih => exact .keep c ih

/-- One more character before a line stands at its beginning, unless it is the carriage return of
an empty line. -/
theorem lines_cons_cases {c : Char} {s line : Text} {rest : List Text} (hc : c ≠ '\n')
    (h : lines s = line :: rest) :
    lines (c :: s) = (c :: line) :: rest ∨
      (c = '\r' ∧ (∃ s', s = '\n' :: s') ∧ line = [] ∧ lines (c :: s) = line :: rest) := by
  by_cases hreturn : c = '\r' ∧ ∃ s', s = '\n' :: s'
  · obtain ⟨rfl, s', rfl⟩ := hreturn
    obtain ⟨rfl, rfl⟩ : [] = line ∧ lines s' = rest := List.cons.inj h
    exact .inr ⟨rfl, ⟨s', rfl⟩, rfl, rfl⟩
  · exact .inl (lines_cons hc (fun s' hr he => hreturn ⟨hr, s', he⟩) h)

theorem lines_eq_nil {s : Text} : lines s = [] ↔ s = [] := by
  constructor
  · intro h
    rw [lines.eq_def] at h
    split at h
    · rfl
    · cases h
    · cases h
    · split at h <;> cases h
  · rintro rfl
    rfl

/-- Blanks and a line feed are a line of blanks. -/
theorem lines_padding_append {blanks : Text} (h : IsPadding blanks) (rest : Text) :
    ∃ line, IsPadding line ∧ lines (blanks ++ '\n' :: rest) = line :: lines rest := by
  induction blanks with
  | nil => exact ⟨[], isPadding_nil, rfl⟩
  | cons c blanks ih =>
    obtain ⟨hc, hblanks⟩ := isPadding_cons.1 h
    obtain ⟨line, hline, heq⟩ := ih hblanks
    rcases lines_cons_cases hc.2 heq with hlines | ⟨-, -, -, hlines⟩
    · exact ⟨c :: line, isPadding_cons.2 ⟨hc, hline⟩, hlines⟩
    · exact ⟨line, hline, hlines⟩

/-- A line feed at the beginning has been there before. -/
theorem Padded.exists_of_feed {s t : Text} (h : Padded s ('\n' :: t)) : ∃ s', s = '\n' :: s' := by
  generalize ht : '\n' :: t = u at h
  cases h with
  | nil => cases ht
  | last hc => exact absurd (List.cons.inj ht).1.symm hc
  | @keep c s t => exact ⟨s, by rw [(List.cons.inj ht).1]⟩
  | @feed blanks s t => exact ⟨s, rfl⟩
  | @returnFeed blanks s t hb =>
    cases blanks with
    | nil => exact absurd (List.cons.inj ht).1 (by decide)
    | cons c blanks => exact absurd (List.cons.inj ht).1.symm (isPadding_cons.1 hb).1.2

/-- One more character before both texts. -/
theorem forall₂_lines_cons {c : Char} (hc : c ≠ '\n') {s t : Text} (h : Padded s t)
    (hlines : List.Forall₂ Trails (lines s) (lines t)) :
    List.Forall₂ Trails (lines (c :: s)) (lines (c :: t)) := by
  cases hs : lines s with
  | nil =>
    rw [hs, List.forall₂_nil_left_iff] at hlines
    obtain rfl := lines_eq_nil.1 hs
    obtain rfl := lines_eq_nil.1 hlines
    exact List.forall₂_same.2 fun line _ => .refl line
  | cons a as =>
    rw [hs, List.forall₂_cons_left_iff] at hlines
    obtain ⟨b, bs, hab, hrest, ht⟩ := hlines
    rcases lines_cons_cases hc hs with heq | ⟨rfl, -, rfl, heq⟩
    · rcases lines_cons_cases hc ht with heq' | ⟨rfl, ⟨t, rfl⟩, -, -⟩
      · rw [heq, heq']
        exact .cons (.cons c hab) hrest
      · -- Where a line feed is now, there was one, and the carriage return belonged to it.
        obtain ⟨s, rfl⟩ := h.exists_of_feed
        cases heq
    · cases hab with
      | padding hb =>
        rcases lines_cons_cases hc ht with heq' | ⟨-, -, -, heq'⟩
        · rw [heq, heq']
          exact .cons (.padding (isPadding_cons.2 ⟨by decide, hb⟩)) hrest
        · rw [heq, heq']
          exact .cons (.padding hb) hrest

/-- **Blanks in a text are blanks behind its lines.** -/
theorem Padded.lines {s t : Text} (h : Padded s t) :
    List.Forall₂ Trails (lines s) (lines t) := by
  induction h with
  | nil => exact .nil
  | @last c blanks hc hblanks =>
    have hfeed : '\n' ∉ c :: blanks := fun hmem =>
      (List.mem_cons.1 hmem).elim (fun heq => hc heq.symm) fun hmem => (hblanks _ hmem).2 rfl
    have hone : '\n' ∉ [c] := fun hmem => hc (List.mem_singleton.1 hmem).symm
    rw [lines_of_no_feed hfeed (List.cons_ne_nil _ _), lines_of_no_feed hone (List.cons_ne_nil _ _)]
    exact .cons (.cons c (.padding hblanks)) .nil
  | @keep c s t h ih =>
    by_cases hc : c = '\n'
    · subst hc
      exact .cons (.refl []) ih
    · exact forall₂_lines_cons hc h ih
  | @feed blanks s t hb h ih =>
    obtain ⟨line, hline, heq⟩ := lines_padding_append hb t
    rw [heq]
    exact .cons (.padding hline) ih
  | @returnFeed blanks s t hb h ih =>
    have hpadding : IsPadding (blanks ++ ['\r']) := by
      refine List.forall_mem_append.2 ⟨hb, List.forall_mem_singleton.2 (by decide)⟩
    obtain ⟨line, hline, heq⟩ := lines_padding_append hpadding t
    rw [List.append_assoc, List.singleton_append] at heq
    rw [heq]
    exact .cons (.padding hline) ih

/-! ## Blanks behind a text -/

theorem isPadding_of_mem_lines {blanks : Text} (h : ∀ c ∈ blanks, isBlank c = true) {line : Text}
    (hline : line ∈ lines blanks) : IsPadding line := fun c hc =>
  ⟨h c (of_mem_lines hline c hc).1, (of_mem_lines hline c hc).2⟩

/-- The second lines are the first ones and blanks at their end: behind the last line, and on
lines below it. -/
inductive TrailsOff : List Text → List Text → Prop
  | blanks {blank : List Text} (h : ∀ line ∈ blank, IsPadding line) : TrailsOff [] blank
  | last {line line' : Text} {blank : List Text} (hline : Trails line line')
      (h : ∀ line ∈ blank, IsPadding line) : TrailsOff [line] (line' :: blank)
  | cons (line : Text) {ls ls' : List Text} (h : TrailsOff ls ls') :
      TrailsOff (line :: ls) (line :: ls')

theorem TrailsOff.exists_append {ls ls' : List Text} (h : TrailsOff ls ls') :
    ∃ kept blank, ls' = kept ++ blank ∧ List.Forall₂ Trails ls kept ∧
      ∀ line ∈ blank, IsPadding line := by
  induction h with
  | blanks h => exact ⟨[], _, rfl, .nil, h⟩
  | last hline h => exact ⟨[_], _, rfl, .cons hline .nil, h⟩
  | cons line _ ih =>
    obtain ⟨kept, blank, rfl, hkept, hblank⟩ := ih
    exact ⟨line :: kept, blank, rfl, .cons (.refl line) hkept, hblank⟩

/-- One more character before the first line of both. -/
theorem TrailsOff.cons_first {a b : Text} {as bs : List Text} (c : Char)
    (h : TrailsOff (a :: as) (b :: bs)) : TrailsOff ((c :: a) :: as) ((c :: b) :: bs) := by
  cases h with
  | last hline h => exact .last (.cons c hline) h
  | cons _ h => exact .cons (c :: a) h

/-- Behind a text that ends in no blank. -/
theorem trailsOff_lines_append {s blanks : Text} (hs : StopsAt isBlank s.reverse)
    (h : ∀ c ∈ blanks, isBlank c = true) : TrailsOff (lines s) (lines (s ++ blanks)) := by
  induction s with
  | nil => exact .blanks fun line => isPadding_of_mem_lines h
  | cons c s ih =>
    rw [List.cons_append]
    cases s with
    | nil =>
      -- The last character of the text: it ends no line and belongs to no ending.
      have hc : isBlank c = false := hs c rfl
      have hfeed : c ≠ '\n' := (ne_of_isBlank (by decide) hc)
      have hreturn : c ≠ '\r' := (ne_of_isBlank (by decide) hc)
      have hone : lines [c] = [[c]] :=
        lines_of_no_feed (by simpa using hfeed.symm) (List.cons_ne_nil c [])
      rw [hone, List.nil_append]
      cases hblanks : lines blanks with
      | nil =>
        obtain rfl := lines_eq_nil.1 hblanks
        rw [hone]
        exact .last (.refl [c]) (List.forall_mem_nil _)
      | cons line rest =>
        have hpadding : ∀ l ∈ line :: rest, IsPadding l := fun l hl =>
          isPadding_of_mem_lines h (hblanks ▸ hl)
        rw [List.forall_mem_cons] at hpadding
        rw [lines_cons hfeed (fun _ hr => absurd hr hreturn) hblanks]
        exact .last (.cons c (.padding hpadding.1)) hpadding.2
    | cons d s =>
      have hrest : StopsAt isBlank (d :: s).reverse := fun e he => hs e (by
        rw [List.reverse_cons, List.head?_append, he]
        rfl)
      have hgoes : TrailsOff (lines (d :: s)) (lines (d :: (s ++ blanks))) := ih hrest
      by_cases hc : c = '\n'
      · subst hc
        exact .cons [] hgoes
      · -- Both texts go on alike, so the carriage return of an empty line is one in both.
        by_cases hempty : c = '\r' ∧ d = '\n'
        · obtain ⟨rfl, rfl⟩ := hempty
          exact hgoes
        · obtain ⟨a, as, ha⟩ := List.exists_cons_of_ne_nil
            (mt lines_eq_nil.1 (List.cons_ne_nil d s))
          obtain ⟨b, bs, hb⟩ := List.exists_cons_of_ne_nil
            (mt lines_eq_nil.1 (List.cons_ne_nil d (s ++ blanks)))
          have hfirst : ∀ {rest line : Text} {more : List Text}, lines (d :: rest) = line :: more →
              lines (c :: d :: rest) = (c :: line) :: more := fun hlines =>
            lines_cons hc (fun s' hr heq => hempty ⟨hr, (List.cons.inj heq).1⟩) hlines
          rw [List.cons_append, hfirst ha, hfirst hb]
          rw [ha, hb] at hgoes
          exact hgoes.cons_first c

theorem exists_blanks_trimEnd (s : Text) :
    ∃ blanks, (∀ c ∈ blanks, isBlank c = true) ∧ s = trimEnd s ++ blanks := by
  refine ⟨(s.reverse.takeWhile isBlank).reverse, fun c hc => ?_, ?_⟩
  · exact List.all_eq_true.1 List.all_takeWhile c (List.mem_reverse.1 hc)
  · rw [trimEnd, ← List.reverse_append, List.takeWhile_append_dropWhile, List.reverse_reverse]

/-- **Trimming the end of a text leaves its lines**, but for blanks behind the last of them and for
lines of blanks. -/
theorem trailsOff_lines_trimEnd (s : Text) : TrailsOff (lines (trimEnd s)) (lines s) := by
  obtain ⟨blanks, hblanks, hs⟩ := exists_blanks_trimEnd s
  have h := trailsOff_lines_append (stopsAt_reverse_trimEnd s) hblanks
  rwa [← hs] at h

end RouteWatch.Text
