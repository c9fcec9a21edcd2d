/-
What is extracted from a dump does not depend on the order in which it says
things. Of a display the first block of a prefix counts, and of a block the
last line of an identifier, so both have to be distinct there; the kernel's
blocks are put together with the same attributes for every next-hop, and need
nothing of the kind.
-/
import Mathlib.Data.Finset.Dedup
import Mathlib.Data.List.Find
import RouteWatch.Proofs.Dump.DatabaseEntry
import RouteWatch.Proofs.Dump.Display
import RouteWatch.Proofs.Dump.Kernel
import RouteWatch.Proofs.Dump.Paragraph
import RouteWatch.Proofs.Dump.RunningConfig.Line

namespace RouteWatch

/-! ## Displays -/

namespace Display

variable {kind : Kind} {lines lines' : List Text}

/-- The prefix that a line announces. -/
def targetOf? (kind : Kind) (line : Text) : Option Prefix :=
  ((grammar kind).header? line).map (·.target)

/-- The paragraphs of a display, for distinct prefixes and with distinct identifiers in each. -/
structure Paragraphs (kind : Kind) (ps : List Paragraph) : Prop where
  paragraph : ∀ p ∈ ps, (grammar kind).IsParagraph p
  distinct : (ps.filterMap fun p => targetOf? kind p.top).Nodup
  ids : ∀ p ∈ ps, ((p.below.filterMap nextHop?).map (·.1)).Nodup

/-- Two displays of the same paragraphs, in different orders. -/
def Reordered (kind : Kind) (lines lines' : List Text) : Prop :=
  ∃ ps qs, Paragraphs kind ps ∧ Paragraph.Rearranged ps qs ∧
    (grammar kind).IsDump ps lines ∧ (grammar kind).IsDump qs lines'

end Display

/-! ## Kernel dumps -/

namespace Kernel

variable {family : Family} {lines lines' : List Text}

/-- Two dumps for one family of the same paragraphs, in different orders. -/
def Reordered (family : Family) (lines lines' : List Text) : Prop :=
  ∃ ps qs, (∀ p ∈ ps, (grammar family).IsParagraph p) ∧ Paragraph.Rearranged ps qs ∧
    (grammar family).IsDump ps lines ∧ (grammar family).IsDump qs lines'

end Kernel

/-! ## Database entries -/

namespace DatabaseEntry

variable {lines lines' : List Text} {entry entry' rest : List (Text × Text)}

/-- The same fields in some order, or the members of the two parallel lists in some order, which
is the same for both. -/
inductive Rearranged : (entry entry' : List (Text × Text)) → Prop
  | fields {entry entry' : List (Text × Text)} (h : entry.Perm entry') : Rearranged entry entry'
  | members {entry entry' places places' rest : List (Text × Text)}
      (h : HasMembers entry places rest) (hplaces : places.Perm places')
      (h' : HasMembers entry' places' rest) : Rearranged entry entry'

/-- Two replies with distinct names, in different orders. As a blank line does not count, no name
and no value is empty. -/
def Reordered (lines lines' : List Text) : Prop :=
  ∃ entry entry', Replies lines entry ∧ Replies lines' entry' ∧ (entry.map (·.1)).Nodup ∧
    Rearranged entry entry'

/-- The names are the same whatever the members of the lists. -/
theorem HasMembers.nodup {places places' : List (Text × Text)} (h : HasMembers entry places rest)
    (h' : HasMembers entry' places' rest) (hn : (entry.map (·.1)).Nodup) :
    (entry'.map (·.1)).Nodup := by
  obtain ⟨gateways, interfaces, hperm, -, -⟩ := h
  obtain ⟨gateways', interfaces', hperm', -, -⟩ := h'
  exact (hperm'.map _).nodup_iff.2 ((hperm.map _).nodup hn)

end DatabaseEntry

/-! ## Running configurations -/

namespace RunningConfig

variable {lines lines' : List Text}

/-- The lines between two places of a running configuration, with no boundary among them, in some
order; or, where no line opens a VRF, all its lines. -/
inductive Reordered : (lines lines' : List Text) → Prop
  | body (above : List Text) {body body' : List Text} (below : List Text) (h : body.Perm body')
      (hbody : ∀ line ∈ body, (boundary? line).isNone) :
      Reordered (above ++ (body ++ below)) (above ++ (body' ++ below))
  | top {lines lines' : List Text} (h : lines.Perm lines')
      (hlines : ∀ line ∈ lines, ∀ vrf, boundary? line ≠ some (.opens vrf)) :
      Reordered lines lines'

end RunningConfig

namespace Format

/-- Two dumps that say the same things in different orders. The header lines of a kernel dump are
those of the family that is asked for. -/
def Reordered (family : Family) : Format → (lines lines' : List Text) → Prop
  | rib => Display.Reordered .rib
  | fib => Display.Reordered .fib
  | kernel => Kernel.Reordered family
  | runningConfig => RunningConfig.Reordered
  | applDb => DatabaseEntry.Reordered

end Format
end RouteWatch
