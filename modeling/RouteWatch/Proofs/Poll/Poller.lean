/-
How far a poll has come after the results of any ticks, in closed form. While
a poller waits, the number of its tick and that of the ticks left behind it
add up to all of its ticks, and one result preserves this. So the tick that is
waited for is always one of these, and counting on never leaves the range of
words.
-/
import RouteWatch.Poll.Poller

namespace RouteWatch.Poller

/-- After the results of some ticks, one after the other. -/
def recordAll (poller : Poller) (results : List Bool) : Poller := results.foldl record poller

/-- The number of the tick that is waited for, or of the last one that was made. -/
def State.attempt : State → UInt32
  | polling attempt => attempt
  | done outcome => outcome.attempts

@[simp] theorem recordAll_nil (poller : Poller) : poller.recordAll [] = poller := rfl

@[simp] theorem recordAll_cons (poller : Poller) (satisfied : Bool) (results : List Bool) :
    poller.recordAll (satisfied :: results) = (poller.record satisfied).recordAll results := rfl

/-! ## One result -/

/-- The poller waits for this tick, and so many are left behind it. -/
structure Waits (poller : Poller) (attempt left : Nat) : Prop where
  state : poller.state = .polling (.ofNat attempt)
  first : 1 ≤ attempt
  last : attempt + left = poller.maxAttempts.toNat

variable {poller : Poller} {attempt left : Nat}

/-- The number of the tick is that of a word. -/
theorem Waits.toNat_attempt (h : poller.Waits attempt left) :
    (UInt32.ofNat attempt).toNat = attempt := by
  have hlast := h.last
  have hmost := poller.maxAttempts.toNat_lt_size
  exact UInt32.toNat_ofNat_of_lt (by omega)

theorem Waits.record_true (h : poller.Waits attempt left) :
    (poller.record true).state = .done (.converged (.ofNat attempt)) := by
  obtain ⟨maxAttempts, state⟩ := poller
  obtain ⟨rfl, -, -⟩ := h
  rw [Poller.record_true]

theorem Waits.record_false_zero (h : poller.Waits attempt 0) :
    (poller.record false).state = .done (.exhausted (.ofNat attempt)) := by
  have hlast : poller.maxAttempts ≤ .ofNat attempt :=
    UInt32.le_iff_toNat_le.2 (by rw [h.toNat_attempt]; exact Nat.le_of_eq h.last.symm)
  obtain ⟨maxAttempts, state⟩ := poller
  obtain ⟨rfl, -, -⟩ := h
  rw [record_last hlast]

theorem Waits.record_false_succ (h : poller.Waits attempt (left + 1)) :
    (poller.record false).Waits (attempt + 1) left := by
  have hmore : .ofNat attempt < poller.maxAttempts :=
    UInt32.lt_iff_toNat_lt.2 (by rw [h.toNat_attempt, ← h.last]; omega)
  have hrest : attempt + 1 + left = attempt + (left + 1) := by omega
  obtain ⟨maxAttempts, state⟩ := poller
  obtain ⟨rfl, hfirst, hlast⟩ := h
  rw [record_next hmore]
  exact ⟨by rw [UInt32.ofNat_add]; rfl, by omega, hrest.trans hlast⟩

/-- Counting on leads to the next number. -/
theorem toNat_of_record_polling {satisfied : Bool} {attempt next : UInt32}
    (h : poller.state = .polling attempt) (hnext : (poller.record satisfied).state = .polling next) :
    next.toNat = attempt.toNat + 1 := by
  obtain ⟨current, hcurrent, hmore, rfl, -⟩ := record_polling hnext
  obtain rfl : attempt = current := State.polling.inj (h.symm.trans hcurrent)
  exact toNat_add_one hmore

/-- The tick of the poller is one of those it has. -/
def InBudget (poller : Poller) : Prop :=
  1 ≤ poller.state.attempt.toNat ∧ poller.state.attempt.toNat ≤ poller.maxAttempts.toNat

/-- Whatever its result, a tick leaves the number of ticks and stays among them. -/
theorem InBudget.record (h : poller.InBudget) (satisfied : Bool) :
    (poller.record satisfied).InBudget ∧
      (poller.record satisfied).maxAttempts = poller.maxAttempts := by
  obtain ⟨maxAttempts, state⟩ := poller
  cases state with
  | done outcome => exact ⟨h, rfl⟩
  | polling attempt =>
    cases satisfied with
    | true => exact ⟨h, rfl⟩
    | false =>
      by_cases hmore : attempt < maxAttempts
      · have hlt : attempt.toNat < maxAttempts.toNat := UInt32.lt_iff_toNat_lt.1 hmore
        have hnext : (attempt + 1).toNat = attempt.toNat + 1 := toNat_add_one hmore
        rw [record_next hmore]
        exact ⟨⟨by rw [State.attempt, hnext]; omega, by rw [State.attempt, hnext]; exact hlt⟩, rfl⟩
      · rw [record_last (UInt32.not_lt.1 hmore)]
        exact ⟨h, rfl⟩

/-! ## Any number of results -/

theorem InBudget.recordAll : ∀ {poller : Poller} (results : List Bool), poller.InBudget →
    (poller.recordAll results).InBudget ∧
      (poller.recordAll results).maxAttempts = poller.maxAttempts
  | _, [], h => ⟨h, rfl⟩
  | _, satisfied :: results, h => by
    obtain ⟨hbudget, hmost⟩ := h.record satisfied
    obtain ⟨hbudget, hmost'⟩ := hbudget.recordAll results
    exact ⟨hbudget, hmost'.trans hmost⟩

/-- A poll that is done stays as it is. -/
theorem recordAll_done {outcome : Outcome} (h : poller.state = .done outcome) :
    ∀ results : List Bool, poller.recordAll results = poller
  | [] => rfl
  | satisfied :: results => by rw [recordAll_cons, record_done h, recordAll_done h results]

/-- **The state after any results, in closed form.** The first result that satisfies decides, if it
is that of a tick that was left; otherwise the results are counted until no tick is left. -/
theorem Waits.recordAll (results : List Bool) (h : poller.Waits attempt left) :
    match (results.take (left + 1)).findIdx? id with
    | some j => (poller.recordAll results).state = .done (.converged (.ofNat (attempt + j)))
    | none =>
      if results.length ≤ left then
        (poller.recordAll results).Waits (attempt + results.length) (left - results.length)
      else (poller.recordAll results).state = .done (.exhausted (.ofNat (attempt + left))) := by
  induction results generalizing poller attempt left with
  | nil => simpa using h
  | cons satisfied results ih =>
    rw [recordAll_cons]
    cases satisfied with
    | true =>
      rw [recordAll_done h.record_true, List.take_succ_cons, List.findIdx?_cons]
      exact h.record_true
    | false =>
      cases left with
      | zero =>
        rw [recordAll_done h.record_false_zero]
        simpa using h.record_false_zero
      | succ left =>
        have hcount : attempt + 1 + results.length = attempt + (results.length + 1) := by omega
        have hlast : attempt + 1 + left = attempt + (left + 1) := by omega
        have hrest := ih h.record_false_succ
        rw [List.take_succ_cons, List.findIdx?_cons]
        cases hfind : (results.take (left + 1)).findIdx? id with
        | none => simpa [hfind, hcount, hlast] using hrest
        | some j => simpa [hfind, Nat.add_assoc, Nat.add_comm 1 j] using hrest

/-! ## From the start -/

theorem toNat_maxAttempts_start (n : UInt32) : (start n).maxAttempts.toNat = max n.toNat 1 := by
  by_cases h : n ≤ 1
  · have hn : n.toNat ≤ 1 := UInt32.le_iff_toNat_le.1 h
    have hmost : (start n).maxAttempts = 1 := if_pos h
    rw [hmost, Nat.max_eq_right hn, UInt32.toNat_one]
  · have hn : 1 < n.toNat := UInt32.lt_iff_toNat_lt.1 (UInt32.not_le.1 h)
    have hmost : (start n).maxAttempts = n := if_neg h
    rw [hmost, Nat.max_eq_left (Nat.le_of_lt hn)]

theorem waits_start (n : UInt32) : (start n).Waits 1 (max n.toNat 1 - 1) where
  state := rfl
  first := Nat.le_refl 1
  last := by
    rw [toNat_maxAttempts_start]
    omega

theorem inBudget_start (n : UInt32) : (start n).InBudget := by
  rw [InBudget, toNat_maxAttempts_start]
  exact ⟨Nat.le_refl 1, Nat.le_max_right _ _⟩

/-- The state after the first `i` of some results, from the first that satisfies among those of the
ticks that the poller has. -/
theorem state_recordAll_take (n : UInt32) (results : List Bool) (i : Nat) :
    ((start n).recordAll (results.take i)).state =
      match ((results.take (max n.toNat 1)).findIdx? id).bind (Option.guard (· < i)) with
      | some j => .done (.converged (.ofNat (j + 1)))
      | none =>
        if max n.toNat 1 ≤ min i results.length then .done (.exhausted (.ofNat (max n.toNat 1)))
        else .polling (.ofNat (min i results.length + 1)) := by
  have hleft : max n.toNat 1 - 1 + 1 = max n.toNat 1 := by omega
  have hstate := (waits_start n).recordAll (results.take i)
  rw [hleft, List.take_take, Nat.min_comm, ← List.take_take, List.findIdx?_take,
    List.length_take] at hstate
  generalize ((results.take (max n.toNat 1)).findIdx? id).bind (Option.guard (· < i)) = first
    at hstate ⊢
  cases first with
  | some j => rw [hstate, Nat.add_comm]
  | none =>
    dsimp only at hstate ⊢
    split at hstate
    · rw [if_neg (by omega), hstate.state, Nat.add_comm]
    · rw [if_pos (by omega), hstate, Nat.add_comm, hleft]

/-- **A poll in closed form.** Of its ticks, of which there is one at least, the first that satisfies
converges it for good; when none does the last one exhausts it for good; and before that it waits
for the tick behind the results that it has. The tick that is waited for is one of these, so that
the number of the next one is never past the greatest word. -/
theorem recordAll_start (n : UInt32) (results : List Bool) :
    let ticks := max n.toNat 1
    let poller := fun i => (start n).recordAll (results.take i)
    (match (results.take ticks).findIdx? id with
      | some j => ∀ i, (poller i).state =
          if j < i then .done (.converged (.ofNat (j + 1))) else .polling (.ofNat (i + 1))
      | none => ∀ i ≤ results.length, (poller i).state =
          if ticks ≤ i then .done (.exhausted (.ofNat ticks)) else .polling (.ofNat (i + 1))) ∧
    (∀ i, 1 ≤ (poller i).state.attempt.toNat ∧ (poller i).state.attempt.toNat ≤ ticks) ∧
    (∀ i satisfied attempt next, (poller i).state = .polling attempt →
      ((poller i).record satisfied).state = .polling next → next.toNat = attempt.toNat + 1) ∧
    ∀ i outcome more, (poller i).state = .done outcome →
      (poller i).recordAll more = poller i := by
  intro ticks poller
  have hstate := state_recordAll_take n results
  refine ⟨?_, fun i => ?_, fun i satisfied attempt next => toNat_of_record_polling,
    fun i outcome more hdone => recordAll_done hdone more⟩
  · split
    · rename_i j hfind
      intro i
      obtain ⟨hj, -⟩ := List.findIdx?_eq_some_iff_getElem.1 hfind
      rw [List.length_take] at hj
      rw [hstate, hfind]
      by_cases hi : j < i
      · simp [Option.guard, hi]
      · have hguard : (some j).bind (Option.guard (· < i)) = none := by simp [Option.guard, hi]
        have hbefore : min i results.length = i := by omega
        have hleft : ¬ ticks ≤ i := by omega
        rw [hguard, hbefore, if_neg hi]
        exact if_neg hleft
    · rename_i hfind
      intro i hi
      rw [hstate, hfind, Nat.min_eq_left hi]
      rfl
  · obtain ⟨hbudget, hmost⟩ := (inBudget_start n).recordAll (results.take i)
    rw [InBudget, hmost, toNat_maxAttempts_start] at hbudget
    exact hbudget

/-- Three ticks of which the second satisfies, and as many ticks as there can be. -/
theorem recordAll_start_threeTicks :
    let state := fun i => ((start 3).recordAll ([false, true, false].take i)).state
    state 1 = .polling 2 ∧ state 2 = .done (.converged 2) ∧ state 3 = .done (.converged 2) ∧
      ((start 4294967295).record false).state = .polling 2 ∧
      (2 : UInt32).toNat = (1 : UInt32).toNat + 1 := by
  have hthree := (recordAll_start 3 [false, true, false]).1
  have hnext : ((start 4294967295).record false).state = .polling 2 := by decide
  have hmost := (recordAll_start 4294967295 []).2.2.1 0 false 1 2 rfl hnext
  exact ⟨hthree 1, hthree 2, hthree 3, hnext, hmost⟩

end RouteWatch.Poller
