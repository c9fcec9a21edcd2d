/-
The end of a dump. A captured text comes with its end trimmed and a recorded
one without, and the same route is extracted from both: blanks behind the last
line are passed on as behind every line, and a line of blanks is no header, no
next-hop and no field. A running configuration may even lose a mark, as the
line that loses it is the last one, with no route below.
-/
import RouteWatch.Device.Execution
import RouteWatch.Proofs.Dump.RunningConfig
import RouteWatch.Proofs.Dump.Trailing

namespace RouteWatch

open Text (IsPadding TrailsOff)

/-! ## Blocks -/

namespace Grammar

variable {g : Grammar} {below : List Text}
  (h : ∀ line ∈ below, g.header? line = none ∧ g.isNextHop line = false)
include h

/-- Lines at the end that are no next-hop lines are taken into no block. -/
theorem filter_takeWhile_append (lines : List Text) :
    ((lines ++ below).takeWhile (!g.isHeader ·)).filter g.isNextHop =
      (lines.takeWhile (!g.isHeader ·)).filter g.isNextHop := by
  have hnone : (below.takeWhile (!g.isHeader ·)).filter g.isNextHop = [] := by
    refine List.filter_eq_nil_iff.2 fun line hline => ?_
    simp [(h line ((List.takeWhile_prefix _).subset hline)).2]
  rw [List.takeWhile_append]
  split
  · rename_i hall
    rw [List.filter_append, hnone, List.append_nil, (List.takeWhile_prefix _).eq_of_length hall]
  · rfl

/-- **Lines at the end that are neither headers nor next-hops leave the blocks as they are.** -/
theorem blocks_append_idle (lines : List Text) : g.blocks (lines ++ below) = g.blocks lines := by
  rw [blocks_eq_blocksFrom, blocks_eq_blocksFrom]
  generalize 0 = n
  induction lines generalizing n with
  | nil =>
    have hnone := blocksFrom_append (fun line hline => (h line hline).1) [] n
    rwa [List.append_nil] at hnone
  | cons line lines ih =>
    rw [List.cons_append, blocksFrom, blocksFrom, ih, filter_takeWhile_append h]

end Grammar

/-! ## Displays and kernel dumps -/

namespace Display

theorem idle_of_isPadding (kind : Kind) {line : Text} (h : IsPadding line) :
    (grammar kind).header? line = none ∧ (grammar kind).isNextHop line = false := by
  have hheader : (grammar kind).header? line = (grammar kind).header? [] :=
    steady_header? kind (.padding h)
  have hhop : nextHop? line = none := steady_nextHop? (.padding h)
  exact ⟨hheader.trans (by cases kind <;> rfl), by rw [isNextHop_eq, hhop, Option.isSome_none]⟩

theorem extract_trailsOff (kind : Kind) {lines lines' : List Text} (h : TrailsOff lines lines')
    (query : Query) : extract kind lines' query = extract kind lines query := by
  obtain ⟨kept, blank, rfl, hkept, hblank⟩ := h.exists_append
  rw [← extract_trails kind hkept query, extract_eq, extract_eq,
    Grammar.blocks_append_idle fun line hline => idle_of_isPadding kind (hblank line hline)]

end Display

namespace Kernel

theorem idle_of_isPadding (family : Family) {line : Text} (h : IsPadding line) :
    (grammar family).header? line = none ∧ (grammar family).isNextHop line = false := by
  have hblanks : Text.trimStart line = [] := Text.trimStart_of_blank fun c hc => (h c hc).1
  refine ⟨steady_header? family (.padding h), ?_⟩
  show isNextHopLine line = false
  rw [isNextHopLine, hblanks]
  exact Bool.and_false _

theorem extract_trailsOff {lines lines' : List Text} (h : TrailsOff lines lines')
    (query : Query) : extract lines' query = extract lines query := by
  obtain ⟨kept, blank, rfl, hkept, hblank⟩ := h.exists_append
  rw [← extract_trails hkept query, extract_eq, extract_eq, Grammar.blocksFor, Grammar.blocksFor,
    Grammar.blocks_append_idle fun line hline => idle_of_isPadding _ (hblank line hline)]

end Kernel

/-! ## Running configurations -/

namespace RunningConfig

/-- The lines of a VRF are lines of the dump, trimmed. -/
theorem exists_of_mem_vrfLinesFrom {vrf current : Option Text} {lines : List Text} {wanted : Text}
    (h : wanted ∈ vrfLinesFrom vrf current lines) : ∃ line ∈ lines, Text.trim line = wanted := by
  induction lines generalizing current with
  | nil => cases h
  | cons line lines ih =>
    have hrest : ∀ current, wanted ∈ vrfLinesFrom vrf current lines →
        ∃ l ∈ line :: lines, Text.trim l = wanted := fun current hmem => by
      obtain ⟨l, hl, hwanted⟩ := ih hmem
      exact ⟨l, List.mem_cons_of_mem line hl, hwanted⟩
    rw [vrfLinesFrom] at h
    split at h
    · exact hrest _ h
    · exact hrest _ h
    · split at h
      · rcases List.mem_cons.1 h with rfl | h
        · exact ⟨line, List.mem_cons_self, rfl⟩
        · exact hrest _ h
      · exact hrest _ h

/-- A line that can lose its mark is no static route. -/
theorem head?_of_not_keepsMark {line line' : Text} (h : ¬ KeepsMark line line') :
    (Text.trim line).head? ≠ some 'i' := by
  by_cases hclosing : line = ['!']
  · subst hclosing
    decide
  · have hopening : line = "vrf".toList := by
      by_contra hne
      exact h ⟨fun heq => absurd heq hclosing, fun heq => absurd heq hne⟩
    subst hopening
    decide

theorem head?_of_isPadding {line : Text} (h : IsPadding line) :
    (Text.trim line).head? ≠ some 'i' := by
  rw [Text.trim_of_blank fun c hc => (h c hc).1]
  decide

/-- A line of the dump that is trimmed to no static route is not found as one. -/
theorem not_mem_vrfLinesFrom {lines : List Text}
    (h : ∀ line ∈ lines, (Text.trim line).head? ≠ some 'i') {wanted : Text}
    (hwanted : wanted.head? = some 'i') (vrf current : Option Text) :
    wanted ∉ vrfLinesFrom vrf current lines := by
  intro hmem
  obtain ⟨line, hline, rfl⟩ := exists_of_mem_vrfLinesFrom hmem
  exact h line hline hwanted

/-- **The end of a configuration holds no static route**, and those above it are found as before. -/
theorem mem_vrfLinesFrom_trailsOff {lines lines' : List Text} (h : TrailsOff lines lines')
    {wanted : Text} (hwanted : wanted.head? = some 'i') (vrf current : Option Text) :
    wanted ∈ vrfLinesFrom vrf current lines' ↔ wanted ∈ vrfLinesFrom vrf current lines := by
  induction h generalizing current with
  | blanks hblank =>
    have hnot := not_mem_vrfLinesFrom (fun line hline => head?_of_isPadding (hblank line hline))
      hwanted vrf current
    exact iff_of_false hnot List.not_mem_nil
  | @last line line' blank hline hblank =>
    have hbelow : ∀ l ∈ blank, (Text.trim l).head? ≠ some 'i' := fun l hl =>
      head?_of_isPadding (hblank l hl)
    by_cases hmark : KeepsMark line line'
    · have hnot := fun current => not_mem_vrfLinesFrom hbelow hwanted vrf current
      simp only [vrfLinesFrom, (boundary?_eq_iff hline).2 hmark, hline.trim_eq]
      split
      · simp [hnot]
      · simp [hnot]
      · split <;> simp [hnot]
    · have hhead := head?_of_not_keepsMark hmark
      have hlines : ∀ l ∈ line' :: blank, (Text.trim l).head? ≠ some 'i' :=
        List.forall_mem_cons.2 ⟨hline.trim_eq ▸ hhead, hbelow⟩
      exact iff_of_false (not_mem_vrfLinesFrom hlines hwanted vrf current)
        (not_mem_vrfLinesFrom (List.forall_mem_singleton.2 hhead) hwanted vrf current)
  | cons line _ ih =>
    simp only [vrfLinesFrom]
    split
    · exact ih _
    · exact ih _
    · split
      · rw [List.mem_cons, List.mem_cons, ih]
      · exact ih _

theorem extract_trailsOff {lines lines' : List Text} (h : TrailsOff lines lines')
    (query : Query) : extract lines' query = extract lines query := by
  have hconfigured : ∀ hop, isConfigured (vrfLines lines' query.vrf) query.target hop =
      isConfigured (vrfLines lines query.vrf) query.target hop := by
    intro hop
    rw [isConfigured, isConfigured, Bool.eq_iff_iff, List.any_eq_true, List.any_eq_true]
    refine exists_congr fun line => and_congr_right fun hline => ?_
    rw [List.contains_iff_mem, List.contains_iff_mem]
    exact mem_vrfLinesFrom_trailsOff h (head?_of_mem_staticLines hline) query.vrf none
  simp only [extract, funext hconfigured]

end RunningConfig

/-! ## Entries of the database -/

namespace DatabaseEntry

theorem extract_trailsOff {lines lines' : List Text} (h : TrailsOff lines lines')
    (query : Query) : extract lines' query = extract lines query := by
  obtain ⟨kept, blank, rfl, hkept, hblank⟩ := h.exists_append
  have hnone : (blank.map Text.trim).filter (!·.isEmpty) = [] := by
    simp only [List.filter_eq_nil_iff, List.forall_mem_map]
    intro line hline
    simp [Text.trim_of_blank fun c hc => (hblank line hline c hc).1]
  have hfields : fields (kept ++ blank) = fields kept := by
    rw [fields, fields, List.map_append, List.filter_append, hnone, List.append_nil]
  rw [← extract_trails hkept query, extract, extract, hfields]

end DatabaseEntry

/-! ## Every format -/

namespace Format

theorem extractLines_trailsOff (format : Format) {lines lines' : List Text}
    (h : TrailsOff lines lines') (query : Query) :
    format.extractLines lines' query = format.extractLines lines query := by
  cases format with
  | rib => exact Display.extract_trailsOff .rib h query
  | fib => exact Display.extract_trailsOff .fib h query
  | kernel => exact Kernel.extract_trailsOff h query
  | runningConfig => exact RunningConfig.extract_trailsOff h query
  | applDb => exact DatabaseEntry.extract_trailsOff h query

/-- **Trimming the end of a text changes no route**, in any format and for any query. So it makes
no difference to a route whether a dump was captured from a shell, which trims what was written, or
is the text as it was written. -/
theorem extract_trimEnd (format : Format) (query : Query) :
    (∀ text, format.extract (Text.trimEnd text) query = format.extract text query) ∧
    ∀ ending output errors, format.extract (Captured.ofEnding ending output errors).output query =
      format.extract (Utf8.decodeLossy output) query := by
  have htext : ∀ text, format.extract (Text.trimEnd text) query = format.extract text query :=
    fun text => (format.extractLines_trailsOff (Text.trailsOff_lines_trimEnd text) query).symm
  exact ⟨htext, fun ending output errors => htext (Utf8.decodeLossy output)⟩

end Format
end RouteWatch
