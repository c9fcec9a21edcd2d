/-
How far a poll has come, without its calls and pauses. A tick that does not
satisfy leads to the next one until the last is reached; a poll that is done
stays as it is. The ticks are counted in words, as their greatest number is
one.
-/
namespace RouteWatch

/-- How a poll ends, and with which tick. -/
inductive Poller.Outcome where
  | converged (attempts : UInt32)
  /-- No tick is left. -/
  | exhausted (attempts : UInt32)
  deriving DecidableEq

inductive Poller.State where
  /-- Waiting for a tick, counted from one. -/
  | polling (attempt : UInt32)
  | done (outcome : Poller.Outcome)
  deriving DecidableEq

structure Poller where
  maxAttempts : UInt32
  state : Poller.State
  deriving DecidableEq

namespace Poller

/-- The number of ticks. -/
def Outcome.attempts : Outcome → UInt32
  | converged attempts => attempts
  | exhausted attempts => attempts

def Outcome.isConverged : Outcome → Bool
  | converged _ => true
  | exhausted _ => false

/-- Before the first tick. No tick at all counts as one. -/
def start (maxAttempts : UInt32) : Poller := ⟨max maxAttempts 1, .polling 1⟩

/-- After the result of a tick. -/
def record (poller : Poller) (satisfied : Bool) : Poller :=
  match poller.state with
  | .done _ => poller
  | .polling attempt =>
    if satisfied then { poller with state := .done (.converged attempt) }
    else if poller.maxAttempts ≤ attempt then { poller with state := .done (.exhausted attempt) }
    else { poller with state := .polling (attempt + 1) }

theorem record_done {poller : Poller} {outcome : Outcome} (h : poller.state = .done outcome)
    (satisfied : Bool) : poller.record satisfied = poller := by rw [record, h]

theorem record_true (maxAttempts attempt : UInt32) :
    record ⟨maxAttempts, .polling attempt⟩ true = ⟨maxAttempts, .done (.converged attempt)⟩ := rfl

theorem record_last {maxAttempts attempt : UInt32} (h : maxAttempts ≤ attempt) :
    record ⟨maxAttempts, .polling attempt⟩ false = ⟨maxAttempts, .done (.exhausted attempt)⟩ := by
  simp [record, h]

theorem record_next {maxAttempts attempt : UInt32} (h : attempt < maxAttempts) :
    record ⟨maxAttempts, .polling attempt⟩ false = ⟨maxAttempts, .polling (attempt + 1)⟩ := by
  simp [record, UInt32.not_le.2 h]

theorem toNat_add_one {a b : UInt32} (h : a < b) : (a + 1).toNat = a.toNat + 1 := by
  have hlt : a.toNat < b.toNat := UInt32.lt_iff_toNat_lt.1 h
  have hb := b.toNat_lt
  rw [UInt32.toNat_add, UInt32.toNat_one, Nat.mod_eq_of_lt (by omega)]

/-- A poll goes on only before its last tick, and then with the next one. -/
theorem record_polling {poller : Poller} {satisfied : Bool} {next : UInt32}
    (h : (poller.record satisfied).state = .polling next) :
    ∃ attempt, poller.state = .polling attempt ∧ attempt < poller.maxAttempts ∧
      next = attempt + 1 ∧ (poller.record satisfied).maxAttempts = poller.maxAttempts := by
  obtain ⟨maxAttempts, state⟩ := poller
  cases state with
  | done outcome => cases h
  | polling attempt =>
    cases satisfied with
    | true => cases h
    | false =>
      by_cases hmore : attempt < maxAttempts
      · rw [record_next hmore] at h ⊢
        exact ⟨attempt, rfl, hmore, (State.polling.inj h).symm, rfl⟩
      · rw [record_last (UInt32.not_lt.1 hmore)] at h
        cases h

/-- The number of ticks behind the one that is waited for. -/
def left (poller : Poller) : Nat :=
  match poller.state with
  | .polling attempt => poller.maxAttempts.toNat - attempt.toNat
  | .done _ => 0

theorem left_record_lt {poller : Poller} {satisfied : Bool} {next : UInt32}
    (h : (poller.record satisfied).state = .polling next) :
    (poller.record satisfied).left < poller.left := by
  obtain ⟨attempt, hstate, hmore, rfl, hmost⟩ := record_polling h
  have hlt : attempt.toNat < poller.maxAttempts.toNat := UInt32.lt_iff_toNat_lt.1 hmore
  simp only [left, h, hstate, hmost, toNat_add_one hmore]
  omega

end Poller
end RouteWatch
