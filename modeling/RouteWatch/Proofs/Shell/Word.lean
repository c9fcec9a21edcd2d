/-
What the shell makes of a quoted text. `quote` writes a word that the shell
reads as one field without expanding anything, and the field is the text
itself as long as it holds no line feed: a backslash before a line feed does
not keep it but takes it away. `readWord_quoted` says so for every text.
-/
import Mathlib.Data.List.Forall2
import RouteWatch.Shell.Quote
import RouteWatch.Shell.Run
import RouteWatch.Proofs.Text.Basic

namespace RouteWatch.Shell

/-- No word goes on here: the text ends, or a blank or an operator stands at its beginning. -/
def EndsWord (s : Text) : Prop := Text.StopsAt (!isMeta ·) s

theorem endsWord_nil : EndsWord [] := Text.stopsAt_nil _

theorem endsWord_blank (s : Text) : EndsWord (' ' :: s) := Text.stopsAt_cons s rfl

theorem readPlain_endsWord {rest : Text} (h : EndsWord rest) : readPlain rest = .ok ([], rest) := by
  rw [readPlain.eq_def]
  cases rest with
  | nil => rfl
  | cons c rest =>
    have hc : isMeta c = true := by simpa using h c rfl
    simp [hc]

/-! ## Bare words -/

/-- Outside quotes the character belongs to a file name pattern or stands for a home directory. -/
def isPattern (c : Char) : Bool := c == '*' || c == '?' || c == '[' || c == '~'

/-- The character means nothing but itself outside quotes, also at the beginning of a word. -/
def isBare (c : Char) : Bool :=
  !isMeta c && !isPattern c && !isSpecialQuoted c && c != '\'' && c != '#' && c != '!' &&
    c != '\x7b' && c != '\x7d'

theorem readPlain_bare {c : Char} (h : isBare c = true) (rest : Text) :
    readPlain (c :: rest) = prepend (.char c false) (readPlain rest) := by
  rw [readPlain.eq_def]
  simp only [isBare, isSpecialQuoted, Bool.and_eq_true, Bool.not_eq_true', Bool.or_eq_false_iff,
    beq_eq_false_iff_ne, bne_iff_ne] at h
  simp [h]

theorem readWord_bare {s rest : Text} (h : ∀ c ∈ s, isBare c = true) (hrest : EndsWord rest) :
    readWord (s ++ rest) = .ok (s.map (.char · false), rest) := by
  rw [readWord]
  induction s with
  | nil => exact readPlain_endsWord hrest
  | cons c s ih =>
    rw [List.cons_append, readPlain_bare (h c (by simp)), ih fun d hd => h d (by simp [hd])]
    rfl

/-! ## Double quotes -/

/-- What the shell reads between double quotes for a text that `quote` wrote there. -/
def quotedPieces (s : Text) : Word := (s.filter (· != '\n')).map (.char · true)

/-- A backslash between double quotes keeps what it escapes, and with a line feed it is taken
away. -/
theorem readDouble_special {c : Char} (h : isSpecialQuoted c = true) (rest : Text) :
    readDouble ('\\' :: c :: rest) =
      if c = '\n' then readDouble rest else prepend (.char c true) (readDouble rest) := by
  simp only [isSpecialQuoted, Bool.or_eq_true, beq_iff_eq] at h
  rw [readDouble.eq_def]
  rcases h with (((rfl | rfl) | rfl) | rfl) | rfl <;> simp

theorem readDouble_plain {c : Char} (h : isSpecialQuoted c = false) (rest : Text) :
    readDouble (c :: rest) = prepend (.char c true) (readDouble rest) := by
  simp only [isSpecialQuoted, Bool.or_eq_false_iff, beq_eq_false_iff_ne] at h
  rw [readDouble.eq_def]
  simp [h]

theorem readDouble_quoted (s : Text) {rest : Text} (hrest : EndsWord rest) :
    readDouble (s.flatMap quoteChar ++ '"' :: rest) = .ok (quotedPieces s, rest) := by
  induction s with
  | nil =>
    rw [List.flatMap_nil, List.nil_append, readDouble.eq_def]
    exact readPlain_endsWord hrest
  | cons c s ih =>
    rw [List.flatMap_cons, List.append_assoc, quoteChar]
    split
    · rename_i hc
      rw [List.cons_append, List.singleton_append, readDouble_special hc, ih]
      by_cases hfeed : c = '\n'
      · simp [hfeed, quotedPieces]
      · simp [hfeed, quotedPieces, prepend, Except.map]
    · rename_i hc
      have hfeed : c ≠ '\n' := by
        rintro rfl
        exact hc rfl
      rw [List.singleton_append, readDouble_plain (by simpa using hc), ih]
      simp [hfeed, quotedPieces, prepend, Except.map]

theorem readWord_quote (s : Text) {rest : Text} (hrest : EndsWord rest) :
    readWord (quote s ++ rest) = .ok (.quotes :: quotedPieces s, rest) := by
  have hquote : quote s ++ rest = '"' :: (s.flatMap quoteChar ++ '"' :: rest) := by simp [quote]
  rw [hquote, readWord, readPlain.eq_def]
  simp [isMeta, readDouble_quoted s hrest, prepend, Except.map]

/-! ## Fields -/

/-- The word stands for one field with this text: nothing in it is expanded, and no character of a
pattern stands outside quotes. -/
structure Word.IsField (word : Word) (s : Text) : Prop where
  ne_nil : word ≠ []
  literal? : word.literal? = some s
  no_pattern : ∀ c, Piece.char c false ∈ word → isPattern c = false

theorem Word.literal?_chars (s : Text) (isQuoted : Bool) :
    Word.literal? (s.map (.char · isQuoted)) = some s := by
  induction s with
  | nil => rfl
  | cons c s ih => exact congrArg (Option.map (c :: ·)) ih

theorem Word.isField_bare {s : Text} (hne : s ≠ []) (h : ∀ c ∈ s, isBare c = true) :
    Word.IsField (s.map (.char · false)) s where
  ne_nil := by simpa using hne
  literal? := literal?_chars s false
  no_pattern c hc := by
    have hmem : c ∈ s := by simpa using hc
    have hbare := h c hmem
    simp only [isBare, Bool.and_eq_true, Bool.not_eq_true'] at hbare
    simp [hbare]

theorem Word.isField_quoted (s : Text) :
    Word.IsField (.quotes :: quotedPieces s) (s.filter (· != '\n')) where
  ne_nil := List.cons_ne_nil _ _
  literal? := literal?_chars _ true
  no_pattern c hc := by simp [quotedPieces] at hc

theorem Word.IsField.unique {word : Word} {s t : Text} (hs : word.IsField s) (ht : word.IsField t) :
    s = t := Option.some.inj (hs.literal?.symm.trans ht.literal?)

theorem filter_feed_eq_self {s : Text} : s.filter (· != '\n') = s ↔ '\n' ∉ s := by
  rw [List.filter_eq_self]
  refine ⟨fun h hmem => absurd (h _ hmem) (by decide), fun h c hc => bne_iff_ne.2 ?_⟩
  rintro rfl
  exact h hc

/-- A word without expansions is expanded to its characters, and the state stays as it is. -/
theorem expand_literal (streams : Streams) (m : Machine) : ∀ {word : Word} {s : Text} {fuel : Nat},
    word.literal? = some s → word.length < fuel →
    ∃ parts, expand fuel streams word m = (parts, m) ∧
      ∀ current : Option Text, current.isSome = true ∨ word ≠ [] →
        fields current parts = [(current.getD []).reverse ++ s]
  | [], s, fuel + 1, h, _ => by
    obtain rfl : [] = s := Option.some.inj h
    refine ⟨[], by rw [expand], fun current hcurrent => ?_⟩
    cases current with
    | none => simp at hcurrent
    | some t => simp [fields]
  | piece :: word, s, fuel + 1, h, hfuel => by
    have hfuel' : word.length < fuel := by simpa using hfuel
    cases piece with
    | char c isQuoted =>
      obtain ⟨t, ht, rfl⟩ := Option.map_eq_some_iff.1 h
      obtain ⟨parts, hparts, hfields⟩ := expand_literal streams m ht hfuel'
      refine ⟨.char c :: parts, by simp [expand, hparts], fun current _ => ?_⟩
      have := hfields (some (c :: current.getD [])) (.inl rfl)
      cases current <;> simpa [fields] using this
    | quotes =>
      have hword : Word.literal? word = some s := h
      obtain ⟨parts, hparts, hfields⟩ := expand_literal streams m hword hfuel'
      refine ⟨.quotes :: parts, by simp [expand, hparts], fun current _ => ?_⟩
      have := hfields (some (current.getD [])) (.inl rfl)
      cases current <;> simpa [fields] using this
    | parameter | substitution | arithmetic => cases h

/-- **Words that stand for one field each are expanded to these fields**, in every state of the
shell and without changing it. -/
theorem expandAll_isField (streams : Streams) (m : Machine) {words : List Word}
    {texts : List Text} (h : List.Forall₂ Word.IsField words texts) {fuel : Nat}
    (hfuel : words.flatten.length + words.length < fuel) :
    expandAll fuel streams words m = (texts, m) := by
  induction h generalizing fuel with
  | nil =>
    obtain ⟨fuel, rfl⟩ : ∃ n, fuel = n + 1 := ⟨fuel - 1, by omega⟩
    rw [expandAll]
  | @cons word s words texts hword _ ih =>
    obtain ⟨fuel, rfl⟩ : ∃ n, fuel = n + 1 := ⟨fuel - 1, by omega⟩
    simp only [List.flatten_cons, List.length_append, List.length_cons] at hfuel
    have hlt : word.length < fuel := by omega
    have hrest : expandAll fuel streams words m = (texts, m) := ih (by omega)
    obtain ⟨parts, hparts, hfields⟩ := expand_literal streams m hword.literal? hlt
    rw [expandAll, hparts]
    simp [hrest, hfields none (.inr hword.ne_nil)]

/-- **A quoted text is one word, and the word stands for one field**: the text without its line
feeds, which is the text itself when there are none. Nothing is expanded, so the state of the shell
stays as it is. -/
theorem readWord_quoted (s : Text) {rest : Text} (hrest : EndsWord rest) :
    ∃ word, readWord (quote s ++ rest) = .ok (word, rest) ∧
      word.IsField (s.filter (· != '\n')) ∧ (word.IsField s ↔ '\n' ∉ s) ∧
      ∀ (streams : Streams) (m : Machine) (fuel : Nat), word.length + 1 < fuel →
        expandAll fuel streams [word] m = ([s.filter (· != '\n')], m) := by
  have hfield := Word.isField_quoted s
  refine ⟨_, readWord_quote s hrest, hfield, ⟨fun hself => ?_, fun hfeed => ?_⟩, ?_⟩
  · exact filter_feed_eq_self.1 (hfield.unique hself)
  · rwa [filter_feed_eq_self.2 hfeed] at hfield
  · intro streams m fuel hfuel
    exact expandAll_isField streams m (.cons hfield .nil) (by simpa using hfuel)

/-- A command substitution, a quotation and a backslash around a line feed, before another word. -/
theorem readWord_quoted_hostile :
    EndsWord " x".toList ∧
      ∃ word, readWord (quote "$(\"\n\\)".toList ++ " x".toList) = .ok (word, " x".toList) ∧
        word.IsField "$(\"\\)".toList ∧ (word.IsField "$(\"\n\\)".toList ↔ False) ∧
        ∀ (streams : Streams) (m : Machine) (fuel : Nat), word.length + 1 < fuel →
          expandAll fuel streams [word] m = (["$(\"\\)".toList], m) := by
  have hrest : EndsWord " x".toList := endsWord_blank _
  obtain ⟨word, hread, hfield, hself, hexpand⟩ := readWord_quoted "$(\"\n\\)".toList hrest
  exact ⟨hrest, word, hread, hfield, hself.trans (by decide), hexpand⟩

/-- A line feed is not kept: its quotation is read as a word that stands for the empty field. -/
theorem readWord_quote_feed :
    ¬ ∀ s : Text, '\x00' ∉ s → ∃ word, readWord (quote s) = .ok (word, []) ∧ word.IsField s := by
  intro h
  obtain ⟨word, hread, hfield⟩ := h ['\n'] (by decide)
  rw [show readWord (quote ['\n']) = .ok ([.quotes], []) from readWord_quote ['\n'] endsWord_nil]
    at hread
  obtain rfl : [Piece.quotes] = word := congrArg Prod.fst (Except.ok.inj hread)
  exact absurd hfield.literal? (by decide)

end RouteWatch.Shell
