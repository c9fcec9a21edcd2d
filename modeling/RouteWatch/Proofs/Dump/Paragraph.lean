/-
Dumps that are put together from paragraphs. A paragraph is a header line and
the lines below it, and where no next-hop line looks like a header line, the
two passes read each paragraph by itself: its place in the dump has no part
in it. So paragraphs in another order, and with their lines in another order,
are read as the same blocks in that order.
-/
import Mathlib.Data.List.Forall2
import RouteWatch.Proofs.Dump.Block

namespace RouteWatch

/-- A header line and the lines below it. -/
structure Paragraph where
  top : Text
  below : List Text

namespace Paragraph

def lines (p : Paragraph) : List Text := p.top :: p.below

/-- The same header line above the same lines in some order. -/
def Shuffled (p q : Paragraph) : Prop := p.top = q.top ∧ p.below.Perm q.below

/-- The same paragraphs in some order, and in each of them its lines in some order. -/
def Rearranged (ps qs : List Paragraph) : Prop :=
  ∃ mid, ps.Perm mid ∧ List.Forall₂ Shuffled mid qs

variable {ps qs : List Paragraph}

/-- What is read from each paragraph, in whatever order its lines are, is read after rearranging
in another order. -/
theorem Rearranged.filterMap (h : Rearranged ps qs) {read : Paragraph → Option α}
    (hread : ∀ p ∈ ps, ∀ q, Shuffled p q → read p = read q) :
    (ps.filterMap read).Perm (qs.filterMap read) := by
  obtain ⟨mid, hperm, hmid⟩ := h
  have hall : ∀ p ∈ mid, ∀ q, Shuffled p q → read p = read q :=
    fun p hp => hread p (hperm.mem_iff.2 hp)
  refine (hperm.filterMap read).trans (List.Perm.of_eq ?_)
  clear hperm
  induction hmid with
  | nil => rfl
  | cons hpq _ ih =>
    rw [List.forall_mem_cons] at hall
    rw [List.filterMap_cons, List.filterMap_cons, hall.1 _ hpq, ih hall.2]

end Paragraph

namespace Grammar

variable {g : Grammar}

/-- The first line is a header line, and each line below it is a next-hop line or at least no
header line. -/
structure IsParagraph (g : Grammar) (p : Paragraph) : Prop where
  top : g.isHeader p.top = true
  below : ∀ line ∈ p.below, g.isNextHop line = true ∨ g.isHeader line = false

/-- From the first header line on, the lines are those of the paragraphs. -/
def IsDump (g : Grammar) (ps : List Paragraph) (lines : List Text) : Prop :=
  ∃ above, (∀ line ∈ above, g.isHeader line = false) ∧
    lines = above ++ ps.flatMap Paragraph.lines

/-- No next-hop line is a header line. -/
def Separates (g : Grammar) : Prop :=
  ∀ line, g.isNextHop line = true → g.header? line = none

theorem isHeader_eq_false {line : Text} : g.isHeader line = false ↔ g.header? line = none := by
  simp [isHeader]

theorem IsParagraph.header?_below (hg : g.Separates) {p : Paragraph} (h : g.IsParagraph p) :
    ∀ line ∈ p.below, g.header? line = none := fun line hline =>
  (h.below line hline).elim (hg line) isHeader_eq_false.1

theorem head?_flatMap_lines {ps : List Paragraph} (h : ∀ p ∈ ps, g.IsParagraph p) :
    (ps.flatMap Paragraph.lines).head?.all g.isHeader = true := by
  cases ps with
  | nil => rfl
  | cons p ps => exact (h p List.mem_cons_self).top

/-- What is read from a paragraph by itself. -/
def readParagraph (g : Grammar) (read : Header → Text → List Text → α) (p : Paragraph) :
    Option α :=
  (g.header? p.top).map fun header => read header p.top (p.below.filter g.isNextHop)

section

variable (hg : g.Separates) (read : Header → Text → List Text → α)
include hg

theorem map_blocksFrom_paragraphs {ps : List Paragraph} (h : ∀ p ∈ ps, g.IsParagraph p) (n : Nat) :
    (g.blocksFrom n (ps.flatMap Paragraph.lines)).map
        (fun block => read block.header block.headerLine.line block.nextHopLines) =
      ps.filterMap (g.readParagraph read) := by
  induction ps generalizing n with
  | nil => rfl
  | cons p ps ih =>
    rw [List.forall_mem_cons] at h
    obtain ⟨header, hheader⟩ := Option.isSome_iff_exists.1 h.1.top
    have hread : g.readParagraph read p =
        some (read header p.top (p.below.filter g.isNextHop)) := by
      rw [readParagraph, hheader, Option.map_some]
    rw [List.flatMap_cons, Paragraph.lines, blocksFrom_cons_append hheader
      (h.1.header?_below hg) (head?_flatMap_lines h.2), List.map_cons, ih h.2,
      List.filterMap_cons, hread]
    rfl

/-- **Every block is read from a paragraph by itself**, wherever the paragraph stands. -/
theorem map_blocks_paragraphs {ps : List Paragraph} (h : ∀ p ∈ ps, g.IsParagraph p)
    {lines : List Text} (hlines : g.IsDump ps lines) :
    (g.blocks lines).map
        (fun block => read block.header block.headerLine.line block.nextHopLines) =
      ps.filterMap (g.readParagraph read) := by
  obtain ⟨above, habove, rfl⟩ := hlines
  have hnone : ∀ line ∈ above, g.header? line = none := fun line hline =>
    isHeader_eq_false.1 (habove line hline)
  rw [blocks_eq_blocksFrom, blocksFrom_append hnone, map_blocksFrom_paragraphs hg read h]

/-- The blocks of paragraphs that were made of some items tell what was told of each item. -/
theorem map_blocks_of_read {items : List β} {paragraph : β → Paragraph} {told : β → α}
    (h : ∀ item ∈ items, g.IsParagraph (paragraph item) ∧
      g.readParagraph read (paragraph item) = some (told item))
    {lines : List Text} (hlines : g.IsDump (items.map paragraph) lines) :
    (g.blocks lines).map
        (fun block => read block.header block.headerLine.line block.nextHopLines) =
      items.map told := by
  have hparagraphs : ∀ p ∈ items.map paragraph, g.IsParagraph p :=
    List.forall_mem_map.2 fun item hitem => (h item hitem).1
  rw [map_blocks_paragraphs hg read hparagraphs hlines, List.filterMap_map,
    ← List.filterMap_eq_map]
  exact List.filterMap_congr fun item hitem => (h item hitem).2

end

end Grammar
end RouteWatch
