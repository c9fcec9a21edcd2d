/-
The lines that open and close a VRF, with blanks behind them. Two kinds of
lines are taken for what they literally are: a line of one exclamation mark
closes a VRF and does so no more with a blank behind it, and the bare word
`vrf`, which says nothing, opens a VRF without a name when a blank is behind
it. These are the only lines whose end matters, and it does matter: there are
dumps in which nothing else differs and one has the route.
-/
import RouteWatch.Dump.RunningConfig
import RouteWatch.Proofs.Text.Trailing

namespace RouteWatch.RunningConfig

open Text (Trails)

/-- A line keeps what it does to the open VRF when it gets blanks behind it: it is no mark of the
end of a VRF that gets any, and not the bare word `vrf` that gets a plain blank. -/
structure KeepsMark (line line' : Text) : Prop where
  closing : line = ['!'] → line' = ['!']
  opening : line = "vrf".toList → Text.after? "vrf ".toList line' = none

theorem boundary?_of_none {line : Text} (h : Text.after? "vrf ".toList line = none) :
    boundary? line =
      if Text.trim line = "exit-vrf".toList ∨ line = ['!'] then some .closes else none := by
  rw [boundary?, h]
  simp only [Bool.or_eq_true, decide_eq_true_eq]

theorem boundary?_of_some {line name : Text} (h : Text.after? "vrf ".toList line = some name) :
    boundary? line = some (.opens (Text.trim name)) := by rw [boundary?, h]

section

variable {line line' : Text} (h : Trails line line')
include h

theorem eq_mark_of_trails (hmark : line' = ['!']) : line = ['!'] := by
  subst hmark
  cases h with
  | padding hpad => exact absurd (Text.isPadding_cons.1 hpad).1.1 (by decide)
  | @cons _ s _ hs =>
    obtain ⟨blanks, -, hnil⟩ := Text.trails_iff.1 hs
    rw [(List.append_eq_nil_iff.1 hnil.symm).1]

/-- Of lines that open no VRF only the mark can lose what it does. -/
theorem boundary?_eq_of_none (hnone : Text.after? "vrf ".toList line = none)
    (hnone' : Text.after? "vrf ".toList line' = none) :
    boundary? line' = boundary? line ↔ (line = ['!'] → line' = ['!']) := by
  rw [boundary?_of_none hnone, boundary?_of_none hnone', h.trim_eq]
  constructor
  · rintro heq rfl
    by_contra hne
    have hexit : Text.trim ['!'] ≠ "exit-vrf".toList := by decide
    rw [if_neg (not_or.2 ⟨hexit, hne⟩), if_pos (.inr rfl)] at heq
    cases heq
  · intro hclosing
    have hmark : line' = ['!'] ↔ line = ['!'] := ⟨eq_mark_of_trails h, hclosing⟩
    simp only [hmark]

/-- **Blanks behind a line leave its boundary alone unless it loses its mark.** -/
theorem boundary?_eq_iff : boundary? line' = boundary? line ↔ KeepsMark line line' := by
  by_cases hvrf : line = "vrf".toList
  · subst hvrf
    have hnone : Text.after? "vrf ".toList "vrf".toList = none := by decide
    cases hopens : Text.after? "vrf ".toList line' with
    | none =>
      rw [boundary?_eq_of_none h hnone hopens]
      exact ⟨fun hclosing => ⟨hclosing, fun _ => hopens⟩, fun hmark => hmark.closing⟩
    | some name =>
      have hbare : boundary? "vrf".toList = none := by rfl
      rw [boundary?_of_some hopens, hbare]
      refine ⟨nofun, fun hmark => ?_⟩
      rw [hmark.opening rfl] at hopens
      cases hopens
  · have hrel : Option.Rel Trails (Text.after? "vrf ".toList line)
        (Text.after? "vrf ".toList line') := h.after?_concat (by decide) hvrf
    cases hopens : Text.after? "vrf ".toList line with
    | none =>
      rw [hopens] at hrel
      rw [boundary?_eq_of_none h hopens (Text.eq_none_of_rel hrel)]
      exact ⟨fun hclosing => ⟨hclosing, fun heq => absurd heq hvrf⟩, fun hmark => hmark.closing⟩
    | some name =>
      rw [hopens] at hrel
      obtain ⟨name', hopens', hname⟩ := Text.exists_of_rel hrel
      rw [boundary?_of_some hopens, boundary?_of_some hopens', hname.trim_eq]
      refine iff_of_true rfl ⟨fun heq => ?_, fun heq => absurd heq hvrf⟩
      rw [heq] at hopens
      cases hopens

end

/-- A dump with other lines has the same lines of a VRF, if they have the same boundaries and are
the same without blanks around them. -/
theorem vrfLinesFrom_congr {lines lines' : List Text}
    (h : List.Forall₂ (fun line line' => boundary? line' = boundary? line ∧
      Text.trim line' = Text.trim line) lines lines') (vrf current : Option Text) :
    vrfLinesFrom vrf current lines' = vrfLinesFrom vrf current lines := by
  induction h generalizing current with
  | nil => rfl
  | cons hline _ ih => simp only [vrfLinesFrom, hline.1, hline.2, ih]

/-- **Blanks behind the lines of a configuration change no route if every line keeps its mark.** -/
theorem extract_trails {lines lines' : List Text} (h : List.Forall₂ Trails lines lines')
    (hmarks : List.Forall₂ KeepsMark lines lines') (query : Query) :
    extract lines' query = extract lines query := by
  have hlines : vrfLines lines' query.vrf = vrfLines lines query.vrf :=
    vrfLinesFrom_congr (List.Forall₂.mp (fun line line' htrails hmark =>
      ⟨(boundary?_eq_iff htrails).2 hmark, htrails.trim_eq⟩) h hmarks) query.vrf none
  rw [extract, extract, hlines]

/-! ## Marks matter -/

theorem extract_of_vrfLines_nil {lines : List Text} {query : Query}
    (h : vrfLines lines query.vrf = []) : extract lines query = none := by
  have hfilter : query.expected.hops.filter (isConfigured [] query.target) = [] := by
    simp [isConfigured]
  rw [extract, h, hfilter]

/-- A route over a gateway. -/
def gatewayRoute : Route :=
  (Route.empty ⟨.v4 10 0 0 0, 24⟩).insert "10.1.1.1".toList (NextHop.plain .static)

/-- Its line. -/
def gatewayLine : Text := "ip route 10.0.0.0/24 10.1.1.1".toList

/-- In a VRF with a name the line is not one of the default VRF. -/
theorem vrfLinesFrom_gatewayLine (name : Text) :
    vrfLinesFrom none (some name) [gatewayLine] = [] := by
  have hline : boundary? gatewayLine = none := by rfl
  simp only [vrfLinesFrom, hline, reduceCtorEq, if_false]

/-- **A line that loses its mark can lose a route**: there are lines around it with a route that is
found before and not after. -/
theorem exists_of_not_keepsMark {line line' : Text} (h : Trails line line')
    (hmark : ¬ KeepsMark line line') :
    ∃ above below query, (extract (above ++ line :: below) query).isSome = true ∧
      extract (above ++ line' :: below) query = none := by
  by_cases hclosing : line = ['!'] → line' = ['!']
  · -- The bare word: the name of the VRF that it opens is empty.
    obtain ⟨rfl, hopens⟩ := Classical.not_imp.1 fun hopening => hmark ⟨hclosing, hopening⟩
    obtain ⟨name, hname⟩ := Option.ne_none_iff_exists'.1 hopens
    refine ⟨[], [gatewayLine], ⟨gatewayRoute, none, none⟩, by decide +kernel, ?_⟩
    refine extract_of_vrfLines_nil ?_
    rw [List.nil_append, vrfLines, vrfLinesFrom, boundary?_of_some hname]
    exact vrfLinesFrom_gatewayLine _
  · -- The mark: the VRF above it stays open.
    obtain ⟨rfl, hne⟩ := Classical.not_imp.1 hclosing
    have hopened : boundary? "vrf blue".toList = some (.opens "blue".toList) := by rfl
    have hkept : boundary? line' = none := by
      have hword : ['!'] ≠ "vrf".toList := by decide
      have hrel : Option.Rel Trails (Text.after? "vrf ".toList ['!'])
          (Text.after? "vrf ".toList line') := h.after?_concat (by decide) hword
      have hexit : Text.trim line' ≠ "exit-vrf".toList := h.trim_eq ▸ by decide
      rw [boundary?_of_none (Text.eq_none_of_rel hrel), if_neg (not_or.2 ⟨hexit, hne⟩)]
    refine ⟨["vrf blue".toList], [gatewayLine], ⟨gatewayRoute, none, none⟩, by decide +kernel, ?_⟩
    refine extract_of_vrfLines_nil ?_
    rw [List.singleton_append, vrfLines, vrfLinesFrom, hopened]
    show vrfLinesFrom none (some "blue".toList) [line', gatewayLine] = []
    rw [vrfLinesFrom, hkept]
    exact vrfLinesFrom_gatewayLine "blue".toList

/-- **A line may get blanks behind it in every dump exactly if it keeps its mark.** -/
theorem keepsMark_iff {line line' : Text} (h : Trails line line') :
    KeepsMark line line' ↔ ∀ above below query,
      extract (above ++ line' :: below) query = extract (above ++ line :: below) query := by
  constructor
  · intro hmark above below query
    have hlines : List.Forall₂ (fun l l' => Trails l l' ∧ KeepsMark l l')
        (above ++ line :: below) (above ++ line' :: below) := by
      have hsame : ∀ ls : List Text,
          List.Forall₂ (fun l l' => Trails l l' ∧ KeepsMark l l') ls ls := fun ls =>
        List.forall₂_same.2 fun l _ => ⟨.refl l, (boundary?_eq_iff (.refl l)).1 rfl⟩
      exact List.rel_append (hsame above) (.cons ⟨h, hmark⟩ (hsame below))
    exact extract_trails (hlines.imp fun _ _ hboth => hboth.1)
      (hlines.imp fun _ _ hboth => hboth.2) query
  · intro hall
    by_contra hmark
    obtain ⟨above, below, query, hfound, hlost⟩ := exists_of_not_keepsMark h hmark
    rw [← hall above below query, hlost] at hfound
    cases hfound

end RouteWatch.RunningConfig
