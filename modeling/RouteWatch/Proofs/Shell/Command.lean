/-
Command lines made of arguments that are bare or quoted. Every reader of the
shell passes such a line through to the one below it, and what comes out is
one simple command whose words stand for the arguments: a bare character
begins neither a comment nor an operator nor a group, and no redirection
follows the digits of an argument.
-/
import RouteWatch.Proofs.Shell.Word

namespace RouteWatch.Shell

/-- The script is one simple command and nothing else, without assignments and redirections, and
its words stand for these fields: nothing in it is expanded. -/
def IsCall (script : Text) (arguments : List Text) : Prop :=
  ∃ words, Script.read script = ⟨[.simple [] words []], none⟩ ∧
    List.Forall₂ Word.IsField words arguments

/-- **A call runs its program with its arguments**, in every state of a shell that has not ended. -/
theorem IsCall.runScript_eq {script name : Text} {arguments : List Text}
    (h : IsCall script (name :: arguments)) :
    ∃ enough, ∀ fuel, enough ≤ fuel → ∀ (streams : Streams) (m : Machine), m.ending = none →
      runScript fuel streams (Script.read script) m =
        { Utility.call streams name arguments m with
          line := (Utility.call streams name arguments m).line + 1 } := by
  obtain ⟨words, hread, hwords⟩ := h
  refine ⟨words.flatten.length + words.length + 4, fun fuel hfuel streams m hending => ?_⟩
  obtain ⟨fuel, rfl⟩ : ∃ n, fuel = n + 3 := ⟨fuel - 3, by omega⟩
  have hexpand : expandAll (fuel + 1) streams words m = (name :: arguments, m) :=
    expandAll_isField streams m hwords (by omega)
  have hrun : run (fuel + 2) streams (.simple [] words []) m =
      Utility.call streams name arguments m := by
    simp [run, hexpand, hending, redirectAll]
  rw [hread, runScript]
  simp [hrun, runScript]

/-! ## Arguments -/

/-- An argument as it stands in a line. -/
inductive Argument where
  | bare (s : Text)
  | quoted (s : Text)

namespace Argument

/-- The argument, whichever way it is written. -/
def text : Argument → Text
  | bare s => s
  | quoted s => s

def print : Argument → Text
  | bare s => s
  | quoted s => quote s

/-- The word as which the argument is read. -/
def word : Argument → Word
  | bare s => s.map (.char · false)
  | quoted s => .quotes :: quotedPieces s

/-- The argument is read as itself: outside quotes each character means nothing but itself, and
between quotes there is no line feed, which would be lost. -/
def IsFaithful : Argument → Prop
  | bare s => s ≠ [] ∧ ∀ c ∈ s, isBare c = true
  | quoted s => '\n' ∉ s

theorem IsFaithful.isField_word {a : Argument} (h : a.IsFaithful) : a.word.IsField a.text := by
  cases a with
  | bare s => exact Word.isField_bare h.1 h.2
  | quoted s =>
    have hfield := Word.isField_quoted s
    rwa [filter_feed_eq_self.2 h] at hfield

theorem IsFaithful.readWord_print {a : Argument} (h : a.IsFaithful) {rest : Text}
    (hrest : EndsWord rest) : readWord (a.print ++ rest) = .ok (a.word, rest) := by
  cases a with
  | bare s => exact readWord_bare h.2 hrest
  | quoted s => exact readWord_quote s hrest

instance : DecidablePred IsFaithful
  | bare s => decidable_of_iff (s ≠ [] ∧ s.all isBare = true)
      (and_congr_right fun _ => List.all_eq_true)
  | quoted s => inferInstanceAs (Decidable ('\n' ∉ s))

theorem IsFaithful.no_feed_print {a : Argument} (h : a.IsFaithful) : '\n' ∉ a.print := by
  intro hmem
  cases a with
  | bare s => exact absurd (h.2 _ hmem) (by decide)
  | quoted s =>
    have hs : '\n' ∉ s.flatMap quoteChar := by
      intro hmem
      obtain ⟨c, hc, hmem⟩ := List.mem_flatMap.1 hmem
      have heq : '\n' = c := by
        rw [quoteChar] at hmem
        split at hmem <;> simpa using hmem
      exact h (heq ▸ hc)
    simp [print, quote, hs] at hmem

/-- An argument may begin with the character: it is bare, or it opens a quotation. -/
def Opens (c : Char) : Prop := isBare c = true ∨ c = '"'

theorem Opens.ne {c d : Char} (h : Opens c) (hbare : isBare d = false) (hquote : d ≠ '"') :
    c ≠ d := by
  rintro rfl
  rcases h with h | h
  · rw [hbare] at h
    cases h
  · exact hquote h

theorem IsFaithful.print_eq_cons {a : Argument} (h : a.IsFaithful) :
    ∃ c s, a.print = c :: s ∧ Opens c := by
  cases a with
  | bare s =>
    obtain ⟨c, s, rfl⟩ := List.exists_cons_of_ne_nil h.1
    exact ⟨c, s, rfl, .inl (h.2 c (by simp))⟩
  | quoted s => exact ⟨'"', _, rfl, .inr rfl⟩

end Argument

open Argument

/-- The later arguments of a line. -/
def moreArguments (arguments : List Argument) : Text := arguments.flatMap (' ' :: ·.print)

theorem endsWord_moreArguments (arguments : List Argument) :
    EndsWord (moreArguments arguments) := by
  cases arguments with
  | nil => exact endsWord_nil
  | cons a arguments => exact endsWord_blank _

/-! ## The readers at the beginning of an argument -/

theorem skipBlanks_blank (s : Text) : skipBlanks false (' ' :: s) = skipBlanks false s := by
  rw [skipBlanks]
  · simp
  · exact fun _ hc => absurd hc (by decide)

theorem skipBlanks_opens {c : Char} (h : Opens c) (s : Text) :
    skipBlanks false (c :: s) = c :: s := by
  rw [skipBlanks]
  · simp [h.ne (d := ' ') (by decide) (by decide), h.ne (d := '\t') (by decide) (by decide),
      h.ne (d := '#') (by decide) (by decide)]
  · exact fun _ hc => absurd hc (h.ne (by decide) (by decide))

theorem afterReserved?_opens {c d : Char} (h : Opens c) (hbare : isBare d = false)
    (hquote : d ≠ '"') (s : Text) : afterReserved? [d] (c :: s) = none := by
  simp [afterReserved?, Text.after?, (h.ne hbare hquote).symm]

theorem readRedirect?_eq_none {s : Text}
    (h : ∀ c, (s.dropWhile Char.isDigit).head? = some c → c ≠ '<' ∧ c ≠ '>') :
    readRedirect? s = none := by
  simp only [readRedirect?, Text.span]
  generalize s.dropWhile Char.isDigit = rest at h
  cases rest with
  | nil => exact ite_self none
  | cons c rest =>
    obtain ⟨hless, hgreater⟩ := h c rfl
    simp [hless, hgreater]

/-- Digits at the beginning of an argument are no stream, as no redirection follows them. -/
theorem readRedirect?_print {a : Argument} (h : a.IsFaithful) (arguments : List Argument) :
    readRedirect? (a.print ++ moreArguments arguments) = none := by
  refine readRedirect?_eq_none fun c hc => ?_
  cases a with
  | quoted s =>
    obtain rfl : '"' = c := Option.some.inj hc
    decide
  | bare s =>
    rw [print, List.dropWhile_append] at hc
    split at hc
    · cases arguments with
      | nil => cases hc
      | cons a arguments =>
        obtain rfl : ' ' = c := Option.some.inj hc
        decide
    · rename_i hne
      have hne : s.dropWhile Char.isDigit ≠ [] := fun hnil => hne (by rw [hnil]; rfl)
      obtain ⟨d, rest, hd⟩ := List.exists_cons_of_ne_nil hne
      rw [hd] at hc
      obtain rfl : d = c := Option.some.inj hc
      have hmem : d ∈ s := (List.dropWhile_suffix _).subset (by rw [hd]; simp)
      have hopens : Opens d := .inl (h.2 d hmem)
      exact ⟨hopens.ne (by decide) (by decide), hopens.ne (by decide) (by decide)⟩

theorem assignment?_go_chars {s : Text} (h : '=' ∉ s) (name : Text) :
    assignment?.go name (s.map (.char · false)) = none := by
  induction s generalizing name with
  | nil => rfl
  | cons c s ih =>
    have hc : c ≠ '=' := fun hc => h (by simp [hc])
    rw [List.map_cons, assignment?.go, if_neg hc, ih fun hs => h (by simp [hs])]
    simp

/-- A word without an equals sign assigns nothing. -/
theorem assignment?_chars {s : Text} (h : '=' ∉ s) :
    assignment? (s.map (.char · false)) = none := by
  rw [assignment?.eq_def]
  split
  · rfl
  · exact assignment?_go_chars h []

/-! ## The command -/

theorem readSimple_print {a : Argument} (h : a.IsFaithful) {isFirst : Bool}
    (hfirst : isFirst = true → assignment? a.word = none) (arguments : List Argument) {s : Text}
    (hs : skipBlanks false s = a.print ++ moreArguments arguments) (fuel : Nat) :
    readSimple (fuel + 1) isFirst s =
      (readSimple fuel false (moreArguments arguments)).map
        fun ((assignments, words, redirects), s) =>
          ((assignments, a.word :: words, redirects), s) := by
  have hassign : (if isFirst then assignment? a.word else none) = none := by
    cases isFirst with
    | false => rfl
    | true => exact hfirst rfl
  rw [readSimple, hs, readRedirect?_print h, h.readWord_print (endsWord_moreArguments arguments)]
  cases hword : a.word with
  | nil => exact absurd hword h.isField_word.ne_nil
  | cons piece word =>
    rw [hword] at hassign
    simp only [hassign]

theorem readSimple_moreArguments {arguments : List Argument}
    (h : ∀ a ∈ arguments, a.IsFaithful) {fuel : Nat} (hfuel : arguments.length < fuel) :
    readSimple fuel false (moreArguments arguments) =
      .ok (([], arguments.map (·.word), []), []) := by
  induction arguments generalizing fuel with
  | nil =>
    obtain ⟨fuel, rfl⟩ : ∃ n, fuel = n + 1 := ⟨fuel - 1, by omega⟩
    have hword : readWord [] = .ok ([], []) := readPlain_endsWord endsWord_nil
    simp [readSimple, moreArguments, skipBlanks, readRedirect?, Text.span, hword]
  | cons a arguments ih =>
    obtain ⟨fuel, rfl⟩ : ∃ n, fuel = n + 1 := ⟨fuel - 1, by omega⟩
    have ha : a.IsFaithful := h a (by simp)
    obtain ⟨c, s, hprint, hopens⟩ := ha.print_eq_cons
    have hskip : skipBlanks false (moreArguments (a :: arguments)) =
        a.print ++ moreArguments arguments := by
      have hline : moreArguments (a :: arguments) = ' ' :: c :: (s ++ moreArguments arguments) := by
        simp [moreArguments, hprint]
      rw [hline, hprint, List.cons_append, skipBlanks_blank, skipBlanks_opens hopens]
    rw [readSimple_print ha (fun hfalse => absurd hfalse Bool.false_ne_true) arguments hskip,
      ih (fun b hb => h b (by simp [hb])) (by simpa using hfuel)]
    rfl

theorem length_le_moreArguments (arguments : List Argument) :
    arguments.length ≤ (moreArguments arguments).length := by
  induction arguments with
  | nil => simp
  | cons a arguments ih =>
    simp only [moreArguments, List.flatMap_cons, List.length_append, List.length_cons] at ih ⊢
    omega

section

variable {first : Argument} {arguments : List Argument}

theorem readCommand_arguments (hfirst : first.IsFaithful) (hassign : assignment? first.word = none)
    (h : ∀ a ∈ arguments, a.IsFaithful) (fuel : Nat) :
    readCommand (fuel + 1) (first.print ++ moreArguments arguments) =
      .ok (.simple [] ((first :: arguments).map (·.word)) [], []) := by
  obtain ⟨c, s, hprint, hopens⟩ := hfirst.print_eq_cons
  have hsimple : readSimple ((first.print ++ moreArguments arguments).length + 1) true
      (first.print ++ moreArguments arguments) =
        .ok (([], (first :: arguments).map (·.word), []), []) := by
    have hskip : skipBlanks false (first.print ++ moreArguments arguments) =
        first.print ++ moreArguments arguments := by
      rw [hprint]
      exact skipBlanks_opens hopens _
    have hlen := length_le_moreArguments arguments
    rw [readSimple_print hfirst (fun _ => hassign) arguments hskip, readSimple_moreArguments h]
    · rfl
    · rw [hprint]
      simp
      omega
  rw [hprint, List.cons_append] at hsimple ⊢
  rw [readCommand, skipBlanks_opens hopens]
  split
  · rename_i hparen
    exact absurd (List.cons.inj hparen).1 (hopens.ne (by decide) (by decide))
  · rw [afterReserved?_opens hopens (by decide) (by decide), hsimple]
    rfl

theorem readPipeline_arguments (hfirst : first.IsFaithful)
    (hassign : assignment? first.word = none) (h : ∀ a ∈ arguments, a.IsFaithful) (fuel : Nat) :
    readPipeline (fuel + 2) (first.print ++ moreArguments arguments) =
      .ok (.simple [] ((first :: arguments).map (·.word)) [], []) := by
  have hcommand := readCommand_arguments hfirst hassign h fuel
  obtain ⟨c, s, hprint, hopens⟩ := hfirst.print_eq_cons
  rw [hprint, List.cons_append] at hcommand ⊢
  rw [readPipeline, skipBlanks_opens hopens, afterReserved?_opens hopens (by decide) (by decide)]
  simp only [hcommand]
  rfl

theorem readLine_arguments (hfirst : first.IsFaithful) (hassign : assignment? first.word = none)
    (h : ∀ a ∈ arguments, a.IsFaithful) (fuel : Nat) :
    readLine (fuel + 4) (first.print ++ moreArguments arguments) =
      .ok (.simple [] ((first :: arguments).map (·.word)) [], []) := by
  have hpipeline := readPipeline_arguments hfirst hassign h fuel
  have hchain : readChain (fuel + 3) none (first.print ++ moreArguments arguments) =
      .ok (.simple [] ((first :: arguments).map (·.word)) [], []) := by
    rw [readChain, hpipeline]
    rfl
  obtain ⟨c, s, hprint, hopens⟩ := hfirst.print_eq_cons
  rw [hprint, List.cons_append] at hchain ⊢
  have hends : ((c :: (s ++ moreArguments arguments)).isEmpty ||
      (c :: (s ++ moreArguments arguments)).head? = some '\n' ||
      (c :: (s ++ moreArguments arguments)).head? = some ')' ||
      (afterReserved? ['\x7d'] (c :: (s ++ moreArguments arguments))).isSome) = false := by
    simp [afterReserved?_opens hopens, isBare, hopens.ne (d := '\n') (by decide) (by decide),
      hopens.ne (d := ')') (by decide) (by decide)]
  rw [readLine, skipBlanks_opens hopens]
  simp only [hends, hchain]
  rfl

theorem read_arguments (hfirst : first.IsFaithful) (hassign : assignment? first.word = none)
    (h : ∀ a ∈ arguments, a.IsFaithful) :
    Script.read (first.print ++ moreArguments arguments) =
      ⟨[.simple [] ((first :: arguments).map (·.word)) []], none⟩ := by
  rw [Script.read, readLines, show ∀ n, 4 * n + 8 = 4 * n + 4 + 4 from fun n => rfl,
    readLine_arguments hfirst hassign h]

end

/-! ## Lines that spell a call -/

/-- The line is the bare name of a program and then arguments, each written so that it is read as
itself. -/
inductive Spells : Text → List Text → Prop where
  | line {program : Text} {arguments : List Argument} (hprogram : (bare program).IsFaithful)
      (hassign : '=' ∉ program) (h : ∀ a ∈ arguments, a.IsFaithful) :
      Spells (program ++ moreArguments arguments) (program :: arguments.map (·.text))

/-- **A line that spells a call is one.** -/
theorem Spells.isCall {line : Text} {fields : List Text} (h : Spells line fields) :
    IsCall line fields := by
  obtain ⟨hprogram, hassign, h⟩ := h
  rename_i program arguments
  refine ⟨(bare program :: arguments).map (·.word), ?_, ?_⟩
  · exact read_arguments hprogram (assignment?_chars hassign) h
  · rw [List.map_cons, List.forall₂_cons, List.forall₂_map_left_iff, List.forall₂_map_right_iff,
      List.forall₂_same]
    exact ⟨hprogram.isField_word, fun a ha => (h a ha).isField_word⟩

theorem Spells.no_feed {line : Text} {fields : List Text} (h : Spells line fields) :
    '\n' ∉ line := by
  obtain ⟨hprogram, -, h⟩ := h
  rw [moreArguments, List.mem_append, List.mem_flatMap, not_or]
  refine ⟨hprogram.no_feed_print, ?_⟩
  rintro ⟨a, ha, hmem⟩
  rcases List.mem_cons.1 hmem with hmem | hmem
  · exact absurd hmem (by decide)
  · exact (h a ha).no_feed_print hmem

end RouteWatch.Shell
