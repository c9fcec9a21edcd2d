/-
The canonical form of protocols: what `Protocol.read` answers reads as itself
when it is printed. A tag without a name of its own is trimmed and in lower
case and is none of the reserved ones. So the printed tag tells the protocol,
and texts name the same protocol exactly when their tags are the same.
-/
import RouteWatch.Proofs.Text.LetterCase
import RouteWatch.Route.Protocol

namespace RouteWatch.Protocol

/-- The protocol reads as itself when it is printed. -/
def Canonical (protocol : Protocol) : Prop := read protocol.print = protocol

instance (protocol : Protocol) : Decidable protocol.Canonical :=
  inferInstanceAs (Decidable (read protocol.print = protocol))

theorem read_append {blanks : Text} (hb : ∀ c ∈ blanks, Text.isBlank c = true) (s : Text) :
    read (blanks ++ s) = read s := by rw [read, read, Text.trim_append hb]

theorem read_append_blanks {blanks : Text} (hb : ∀ c ∈ blanks, Text.isBlank c = true) (s : Text) :
    read (s ++ blanks) = read s := by rw [read, read, Text.trim_append_blanks hb]

/-- The case of a letter from A to Z makes no difference, wherever it stands. -/
theorem read_congr {s t : Text} (h : List.Forall₂ Text.SameLetter s t) : read s = read t := by
  have hlower : Text.lower s = Text.lower t := Text.lower_eq_iff.2 h
  rw [read, read, ← Text.trim_lower, ← Text.trim_lower, hlower]

theorem read_trim (s : Text) : read (Text.trim s) = read s := by
  rw [read, read, (Text.trimmed_trim s).trim_eq]

theorem read_of_tag {tag : Text} (ht : Text.Trimmed tag) (hl : Text.lower tag = tag) :
    read tag = ofTag tag := by rw [read, ht.trim_eq, hl]

/-- The tags with a protocol of their own, and those that are taken for the kernel's. -/
def reservedTags : List Text :=
  ["static".toList, "bgp".toList, "ospf".toList, "connected".toList, "kernel".toList,
    "unknown".toList, []]

theorem ofTag_of_not_reserved {tag : Text} (h : tag ∉ reservedTags) : ofTag tag = other tag := by
  simp only [reservedTags, List.mem_cons, List.not_mem_nil, or_false, not_or] at h
  obtain ⟨hstatic, hbgp, hospf, hconnected, hkernel, hunknown, hnil⟩ := h
  simp only [ofTag, hstatic, hbgp, hospf, hconnected, hkernel, hunknown, hnil, if_false,
    decide_false, Bool.or_false, Bool.false_eq_true]

/-- A tag is one of those with a name of their own, or it is kept as it is. -/
theorem ofTag_cases (tag : Text) :
    ofTag tag ∈ [static, bgp, ospf, connected, kernel] ∨ ofTag tag = other tag := by
  by_cases htag : tag ∈ reservedTags
  · have hreserved : ∀ tag ∈ reservedTags,
        ofTag tag ∈ [static, bgp, ospf, connected, kernel] := by decide
    exact .inl (hreserved tag htag)
  · exact .inr (ofTag_of_not_reserved htag)

theorem canonical_ofTag {tag : Text} (ht : Text.Trimmed tag) (hl : Text.lower tag = tag) :
    (ofTag tag).Canonical := by
  have hread := read_of_tag ht hl
  rcases ofTag_cases tag with hnamed | hother
  · have hall : ∀ p ∈ [static, bgp, ospf, connected, kernel], p.Canonical := by decide
    exact hall _ hnamed
  · rw [hother] at hread ⊢
    exact hread

theorem canonical_read (s : Text) : (read s).Canonical :=
  canonical_ofTag (Text.trimmed_trim s).lower (Text.lower_lower _)

/-- Canonical protocols that are printed alike are the same. -/
theorem Canonical.eq_of_print {p q : Protocol} (hp : p.Canonical) (hq : q.Canonical)
    (h : p.print = q.print) : p = q :=
  calc p = read p.print := hp.symm
    _ = read q.print := congrArg read h
    _ = q := hq

theorem Canonical.print_ne_nil {protocol : Protocol} (h : protocol.Canonical) :
    protocol.print ≠ [] := by
  intro hnil
  rw [Canonical, hnil] at h
  obtain rfl : protocol = kernel := h.symm
  cases hnil

theorem Canonical.trimmed_print {protocol : Protocol} (h : protocol.Canonical) :
    Text.Trimmed protocol.print := by
  have hnamed : ∀ p ∈ [static, bgp, ospf, connected, kernel],
      p.print = Text.lower (Text.trim p.print) := by decide
  have htag : protocol.print = Text.lower (Text.trim protocol.print) := by
    rw [Canonical, read] at h
    rcases ofTag_cases (Text.lower (Text.trim protocol.print)) with hmem | hother
    · rw [h] at hmem
      exact hnamed protocol hmem
    · rw [h] at hother
      exact congrArg print hother
  rw [htag]
  exact (Text.trimmed_trim _).lower

/-- Reading a tag puts in no character that comes before the letters. -/
theorem not_mem_print_read {s : Text} {c : Char} (hc : c.toNat < 65) (h : c ∉ s) :
    c ∉ (read s).print := by
  have hnamed : ∀ p ∈ [static, bgp, ospf, connected, kernel], p.print.all (65 ≤ ·.toNat) := by
    decide
  intro hmem
  rw [read] at hmem
  rcases ofTag_cases (Text.lower (Text.trim s)) with hp | hother
  · have hletter : 65 ≤ c.toNat := by simpa using List.all_eq_true.1 (hnamed _ hp) c hmem
    omega
  · rw [hother] at hmem
    obtain ⟨d, hd, hlower⟩ := List.mem_map.1 hmem
    have htoNat := Text.toNat_toLower d
    rw [hlower] at htoNat
    split at htoNat
    · omega
    · exact h (Char.toNat_inj.1 htoNat ▸ Text.mem_of_mem_trim hd)

/-! ## The same protocol -/

/-- The tag that a text stands for: it is trimmed and in lower case, and the kernel's in place of an
unknown or missing one. -/
def tagOf (s : Text) : Text :=
  let tag := Text.lower (Text.trim s)
  if tag = "unknown".toList ∨ tag = [] then "kernel".toList else tag

/-- The tag tells how the protocol is printed. -/
theorem print_read (s : Text) : (read s).print = tagOf s := by
  rw [read, tagOf]
  generalize Text.lower (Text.trim s) = tag
  by_cases htag : tag ∈ reservedTags
  · have hreserved : ∀ tag ∈ reservedTags, (ofTag tag).print =
        if tag = "unknown".toList ∨ tag = [] then "kernel".toList else tag := by decide
    exact hreserved tag htag
  · have hknown : ¬ (tag = "unknown".toList ∨ tag = []) := fun h =>
      htag (by rcases h with rfl | rfl <;> decide)
    rw [ofTag_of_not_reserved htag]
    exact (if_neg hknown).symm

theorem read_eq_iff_print {s t : Text} : read s = read t ↔ (read s).print = (read t).print :=
  ⟨congrArg print, (canonical_read s).eq_of_print (canonical_read t)⟩

/-- **A protocol is told by its tag.** What a text names is read again from how it is printed. Blanks
around the text and the case of its letters from A to Z make no difference, and two texts name the
same protocol exactly when they have the same tag, which is exactly when what they name is printed
alike. -/
theorem read_eq_read_iff (s t : Text) :
    read (read s).print = read s ∧
    (∀ before after : Text, (∀ c ∈ before, Text.isBlank c = true) →
      (∀ c ∈ after, Text.isBlank c = true) → read (before ++ s ++ after) = read s) ∧
    (List.Forall₂ Text.SameLetter s t → read s = read t) ∧
    (read s = read t ↔ tagOf s = tagOf t) ∧
    (read s = read t ↔ (read s).print = (read t).print) := by
  refine ⟨canonical_read s, ?_, read_congr, ?_, read_eq_iff_print⟩
  · intro before after hbefore hafter
    rw [read_append_blanks hafter, read_append hbefore]
  · rw [read_eq_iff_print, print_read, print_read]

/-- A tag that stands for the kernel. -/
def unknownTag : Text := "Unknown".toList

theorem read_eq_read_iff_unknownTag :
    read ("\u00a0 ".toList ++ unknownTag ++ "\r".toList) = read unknownTag ∧
      List.Forall₂ Text.SameLetter unknownTag "uNKNOWn".toList ∧
      read unknownTag = read "uNKNOWn".toList ∧
      read unknownTag = read [] ∧ read unknownTag ≠ read "not known".toList := by
  have hletters : List.Forall₂ Text.SameLetter unknownTag "uNKNOWn".toList :=
    Text.lower_eq_iff.1 (by decide)
  obtain ⟨-, hblanks, hcase, -, -⟩ := read_eq_read_iff unknownTag "uNKNOWn".toList
  obtain ⟨-, -, -, hmissing, -⟩ := read_eq_read_iff unknownTag []
  obtain ⟨-, -, -, hother, -⟩ := read_eq_read_iff unknownTag "not known".toList
  exact ⟨hblanks _ _ (List.all_eq_true.1 (by decide)) (List.all_eq_true.1 (by decide)), hletters,
    hcase hletters, hmissing.2 (by decide), mt hother.1 (by decide)⟩

end RouteWatch.Protocol
