/-
Cutting a text that was put together from parts: a run of a class ends where
the next part begins, and the last piece between separators is what stands
behind the last separator. What a text mentions that ends with a separator is
likewise found by its parts: it ends one of the pieces before the last.
-/
import RouteWatch.Text.Basic

namespace RouteWatch.Text

/-- No text of the class goes on at `s`. -/
def StopsAt (p : Char → Bool) (s : Text) : Prop := ∀ c, s.head? = some c → p c = false

theorem stopsAt_nil (p : Char → Bool) : StopsAt p [] := by simp [StopsAt]

theorem stopsAt_cons {p : Char → Bool} {c : Char} (s : Text) (h : p c = false) :
    StopsAt p (c :: s) := by simp [StopsAt, h]

theorem dropWhile_stopsAt {p : Char → Bool} {s : Text} (h : StopsAt p s) : s.dropWhile p = s := by
  cases s with
  | nil => rfl
  | cons c s => rw [List.dropWhile_cons, h c rfl]; rfl

theorem takeWhile_stopsAt {p : Char → Bool} {s : Text} (h : StopsAt p s) : s.takeWhile p = [] := by
  cases s with
  | nil => rfl
  | cons c s => rw [List.takeWhile_cons, h c rfl]; rfl

theorem takeWhile_append_stopsAt {p : Char → Bool} {run rest : Text} (hrun : ∀ c ∈ run, p c = true)
    (hrest : StopsAt p rest) : (run ++ rest).takeWhile p = run := by
  rw [List.takeWhile_append_of_pos hrun, takeWhile_stopsAt hrest, List.append_nil]

theorem dropWhile_append_stopsAt {p : Char → Bool} {run rest : Text} (hrun : ∀ c ∈ run, p c = true)
    (hrest : StopsAt p rest) : (run ++ rest).dropWhile p = rest := by
  rw [List.dropWhile_append_of_pos hrun, dropWhile_stopsAt hrest]

theorem span_append {p : Char → Bool} {run rest : Text} (hrun : ∀ c ∈ run, p c = true)
    (hrest : StopsAt p rest) : span p (run ++ rest) = (run, rest) := by
  rw [span, takeWhile_append_stopsAt hrun hrest, dropWhile_append_stopsAt hrun hrest]

theorem span_stopsAt {p : Char → Bool} {s : Text} (h : StopsAt p s) : span p s = ([], s) := by
  rw [span, takeWhile_stopsAt h, dropWhile_stopsAt h]

theorem stopsAt_dropWhile (p : Char → Bool) (s : Text) : StopsAt p (s.dropWhile p) := by
  intro c hc
  have hnot := List.head?_dropWhile_not p s
  simpa [hc] using hnot

/-- What `span` cuts off is a run of the class, and the run ends there. -/
theorem span_spec (p : Char → Bool) (s : Text) :
    s = (span p s).1 ++ (span p s).2 ∧ (∀ c ∈ (span p s).1, p c = true) ∧
      StopsAt p (span p s).2 :=
  ⟨List.takeWhile_append_dropWhile.symm, List.all_eq_true.1 List.all_takeWhile,
    stopsAt_dropWhile p s⟩

theorem after?_of_not_mem {start s : Text} {c : Char} (hc : c ∈ start) (h : c ∉ s) :
    after? start s = none := by
  rw [Option.eq_none_iff_forall_ne_some]
  intro rest hrest
  rw [after?_eq_some.1 hrest] at h
  exact h (List.mem_append.2 (.inl hc))

theorem after?_append (u v s : Text) : after? (u ++ v) s = (after? u s).bind (after? v) := by
  induction u generalizing s with
  | nil => rfl
  | cons a u ih =>
    cases s with
    | nil => rfl
    | cons c s =>
      rw [List.cons_append, after?, after?]
      split
      · exact ih s
      · rfl

/-- A beginning that goes over a character would hold it. -/
theorem prefix_of_after? {start u rest s : Text} {c : Char} (hc : c ∉ start)
    (h : after? start (u ++ c :: rest) = some s) : start <+: u := by
  have heq := after?_eq_some.1 h
  rcases List.append_eq_append_iff.1 heq with ⟨a, rfl, ha⟩ | ⟨a, rfl, -⟩
  · cases a with
    | nil => simp
    | cons d a =>
      obtain rfl : c = d := (List.cons.inj ha).1
      exact absurd (List.mem_append.2 (.inr (by simp))) hc
  · exact List.prefix_append start a

theorem splitBy_eq_singleton {sep : Char → Bool} {s : Text} (h : ∀ c ∈ s, sep c = false) :
    splitBy sep s = [s] := by
  induction s with
  | nil => rfl
  | cons c s ih => simp [splitBy, h c (by simp), ih fun d hd => h d (by simp [hd])]

/-- A separator divides the pieces before it from those after it. -/
theorem splitBy_append_cons {sep : Char → Bool} {c : Char} (hc : sep c = true) (a b : Text) :
    splitBy sep (a ++ c :: b) = splitBy sep a ++ splitBy sep b := by
  induction a with
  | nil => simp [splitBy, hc]
  | cons d a ih =>
    rw [List.cons_append, splitBy, splitBy, ih]
    cases hs : splitBy sep a with
    | nil => exact absurd hs (splitBy_ne_nil sep a)
    | cons piece pieces => split <;> rfl

/-- The last piece is what stands behind the last separator. -/
theorem getLast?_splitBy_append_cons {sep : Char → Bool} {c : Char} (hc : sep c = true) (a : Text)
    {b : Text} (hb : ∀ d ∈ b, sep d = false) : (splitBy sep (a ++ c :: b)).getLast? = some b := by
  rw [splitBy_append_cons hc, splitBy_eq_singleton hb, List.getLast?_append]
  simp

theorem joinWith_cons (sep s : Text) (rest : List Text) :
    joinWith sep (s :: rest) = s ++ rest.flatMap (sep ++ ·) := by
  induction rest generalizing s with
  | nil => simp [joinWith]
  | cons t rest ih => simp [joinWith, ih t]

/-- **Cutting at a character undoes joining by it.** -/
theorem splitOn_joinWith {sep : Char} {ls : List Text} (hne : ls ≠ []) (h : ∀ s ∈ ls, sep ∉ s) :
    splitOn sep (joinWith [sep] ls) = ls := by
  have hpiece : ∀ s ∈ ls, splitBy (· == sep) s = [s] := by
    intro s hs
    refine splitBy_eq_singleton fun c hc => ?_
    rw [beq_eq_false_iff_ne]
    rintro rfl
    exact h s hs hc
  rw [splitOn]
  induction ls with
  | nil => exact absurd rfl hne
  | cons s ls ih =>
    cases ls with
    | nil => exact hpiece s (by simp)
    | cons t ls =>
      have hrest : splitBy (· == sep) (joinWith [sep] (t :: ls)) = t :: ls :=
        ih (by simp) (fun u hu => h u (by simp [hu])) fun u hu => hpiece u (by simp [hu])
      rw [joinWith, List.append_assoc, List.singleton_append, splitBy_append_cons (by simp),
        hpiece s (by simp), hrest]
      rfl

theorem joinWith_concat (sep : Text) {ls : List Text} (hne : ls ≠ []) (s : Text) :
    joinWith sep (ls ++ [s]) = joinWith sep ls ++ sep ++ s := by
  obtain ⟨first, ls, rfl⟩ := List.exists_cons_of_ne_nil hne
  simp [joinWith_cons]

theorem mem_joinWith {sep : Text} {ls : List Text} {c : Char} (h : c ∈ joinWith sep ls) :
    c ∈ sep ∨ ∃ s ∈ ls, c ∈ s := by
  cases ls with
  | nil => simp [joinWith] at h
  | cons s rest =>
    rw [joinWith_cons, List.mem_append, List.mem_flatMap] at h
    rcases h with h | ⟨t, ht, h⟩
    · exact .inr ⟨s, by simp, h⟩
    · rw [List.mem_append] at h
      rcases h with h | h
      · exact .inl h
      · exact .inr ⟨t, by simp [ht], h⟩

/-! ## What a text mentions -/

theorem isSome_after? {start s : Text} : (after? start s).isSome = true ↔ start <+: s := by
  rw [Option.isSome_iff_exists]
  exact exists_congr fun _ => after?_eq_some.trans eq_comm

theorem mentions_iff {part s : Text} : mentions part s = true ↔ part <:+: s := by
  induction s with
  | nil => rw [mentions, List.isEmpty_iff, List.infix_nil]
  | cons c s ih => rw [mentions, Bool.or_eq_true, isSome_after?, ih, List.infix_cons_iff]

/-- A character that the text does not have keeps it from mentioning what has it. -/
theorem mentions_eq_false {part s : Text} {c : Char} (hc : c ∈ part) (hs : c ∉ s) :
    mentions part s = false := by
  rw [← Bool.not_eq_true, mentions_iff]
  exact fun hpart => hs (hpart.subset hc)

/-- **What ends with a separator is mentioned at the end of the first piece or behind it.** -/
theorem mentions_append_cons {u first rest : Text} {c : Char} (hu : c ∉ u) (hfirst : c ∉ first) :
    mentions (u ++ [c]) (first ++ c :: rest) = true ↔
      u <:+ first ∨ mentions (u ++ [c]) rest = true := by
  rw [mentions_iff, mentions_iff]
  constructor
  · rintro ⟨before, behind, heq⟩
    have heq : (before ++ u) ++ c :: behind = first ++ c :: rest := by simpa using heq
    rcases List.append_eq_append_iff.1 heq with ⟨gap, rfl, hgap⟩ | ⟨gap, hbefore, hgap⟩
    · cases gap with
      | nil => exact .inl ⟨before, (List.append_nil _).symm⟩
      | cons d gap =>
        obtain rfl : c = d := (List.cons.inj hgap).1
        exact absurd (by simp) hfirst
    · cases gap with
      | nil => exact .inl ⟨before, hbefore.trans (List.append_nil _)⟩
      | cons d gap =>
        obtain ⟨rfl, rfl⟩ := List.cons.inj hgap
        -- The separator behind the first piece stands before `u`, which does not have it.
        rcases List.append_eq_append_iff.1 hbefore with ⟨a, -, rfl⟩ | ⟨a, -, ha⟩
        · exact absurd (by simp) hu
        · cases a with
          | nil =>
            rw [List.nil_append] at ha
            exact absurd (ha ▸ List.mem_cons_self) hu
          | cons e a =>
            obtain ⟨-, rfl⟩ := List.cons.inj ha
            exact .inr ⟨a, behind, by simp⟩
  · rintro (⟨before, rfl⟩ | ⟨before, behind, rfl⟩)
    · exact ⟨before, rest, by simp⟩
    · exact ⟨first ++ c :: before, behind, by simp⟩

theorem toNat_of_isDigit {c : Char} (h : c.isDigit = true) : 48 ≤ c.toNat ∧ c.toNat ≤ 57 :=
  Char.isDigit_iff_toNat.1 h

end RouteWatch.Text
