/-
Lines in the place of others. A line may stand for another one if both are
the same header, or none, and name the same next-hop; a line that names none
may be a next-hop line or not. Such lines cut a dump into blocks at the same
places, so the same route is extracted from displays and kernel dumps.
-/
import RouteWatch.Proofs.Dump.Display
import RouteWatch.Proofs.Dump.Kernel

namespace RouteWatch

/-! ## Blocks -/

namespace Grammar

/-- Two lines that make no difference to the blocks, as far as they are read by `read`: a line from
which nothing is read may be a next-hop line or not. -/
structure Alike (g : Grammar) (read : Text → Option α) (line line' : Text) : Prop where
  header : g.header? line' = g.header? line
  same : read line' = read line
  hop : g.isNextHop line' = g.isNextHop line ∨ read line = none

theorem Alike.hop_eq {g : Grammar} {read : Text → Option α} {line line' : Text}
    (h : g.Alike read line line') :
    (if g.isNextHop line' then read line' else none) =
      if g.isNextHop line then read line else none := by
  rw [h.same]
  rcases h.hop with hhop | hnone
  · rw [hhop]
  · rw [hnone, ite_self, ite_self]

/-- What is read from a block. -/
def reading (read : Text → Option α) (block : Block) : Header × Option α × List α :=
  (block.header, read block.headerLine.line, block.nextHopLines.filterMap read)

section

variable {g : Grammar} {read : Text → Option α} {lines lines' : List Text}
  (h : List.Forall₂ (g.Alike read) lines lines')
include h

/-- The same is read from the next-hop lines up to the next header line. -/
theorem filterMap_below :
    ((lines'.takeWhile (!g.isHeader ·)).filter g.isNextHop).filterMap read =
      ((lines.takeWhile (!g.isHeader ·)).filter g.isNextHop).filterMap read := by
  rw [List.filterMap_filter, List.filterMap_filter]
  induction h with
  | nil => rfl
  | @cons line line' lines lines' hline _ ih =>
    have hheader : g.isHeader line' = g.isHeader line := by rw [isHeader, isHeader, hline.header]
    rw [List.takeWhile_cons, List.takeWhile_cons, hheader]
    split
    · rw [List.filterMap_cons, List.filterMap_cons, hline.hop_eq, ih]
    · rfl

theorem map_reading_blocksFrom (n : Nat) :
    (g.blocksFrom n lines').map (reading read) = (g.blocksFrom n lines).map (reading read) := by
  induction h generalizing n with
  | nil => rfl
  | cons hline hrest ih =>
    simp only [blocksFrom, hline.header]
    split
    · simp only [List.map_cons, ih]
      congr 1
      simp only [reading, Block.header, hline.same, filterMap_below hrest]
    · exact ih (n + 1)

/-- **Lines that are alike are read as the same blocks.** -/
theorem map_reading_blocks :
    (g.blocks lines').map (reading read) = (g.blocks lines).map (reading read) := by
  rw [blocks_eq_blocksFrom, blocks_eq_blocksFrom, map_reading_blocksFrom h]

end

end Grammar

/-! ## Routes -/

/-- **Lines that are alike in a display make no difference to the route.** -/
theorem Display.extract_alike {kind : Kind} {lines lines' : List Text}
    (h : List.Forall₂ ((grammar kind).Alike nextHop?) lines lines') (query : Query) :
    extract kind lines' query = extract kind lines query := by
  have hroutes : ∀ ls : List Text, ((grammar kind).blocks ls).map routeOf =
      (((grammar kind).blocks ls).map (Grammar.reading nextHop?)).map fun block =>
        (Route.empty block.1.target).insertAll block.2.2 := fun ls => by
    rw [List.map_map]
    rfl
  rw [extract_eq, extract_eq, hroutes, hroutes, Grammar.map_reading_blocks h]

/-- **Lines that are alike in a kernel dump make no difference to the route.** -/
theorem Kernel.extract_alike {lines lines' : List Text} {query : Query}
    (h : List.Forall₂ ((grammar query.target.family).Alike nextHop?) lines lines') :
    extract lines' query = extract lines query := by
  have hids : ∀ ls : List Text,
      ((grammar query.target.family).blocksFor ls query.target).map blockIds =
        ((((grammar query.target.family).blocks ls).map (Grammar.reading nextHop?)).filter
          (·.1.target == query.target)).map fun block => block.2.1.toList ++ block.2.2 := by
    intro ls
    rw [Grammar.blocksFor, List.filter_map, List.map_map]
    refine List.map_congr_left fun block _ => ?_
    show block.lines.filterMap nextHop? =
      (nextHop? block.headerLine.line).toList ++ block.nextHopLines.filterMap nextHop?
    rw [Block.lines, List.filterMap_cons]
    cases nextHop? block.headerLine.line <;> rfl
  rw [extract_eq, extract_eq, hids, hids, Grammar.map_reading_blocks h]

end RouteWatch
