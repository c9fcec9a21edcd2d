/-
The law of a whole poll. A reply decides a poll when it is an error or shows
what is waited for. The poll takes the ticks up to the first deciding reply,
or all of them when there is none, and its result is what the last reply says:
an error is passed on, a dump is reported, and nothing of an earlier tick is
left in it. Each tick is one call, the same every time, and between two ticks
there is one pause.
-/
import RouteWatch.Poll.Watch
import RouteWatch.Proofs.Device.Replay
import RouteWatch.Proofs.Poll.Poller

namespace RouteWatch.Watch

variable (execute : Source σ) (watch : Watch) (device : Text)

/-- The source after so many ticks. -/
def stateAfter : (s : σ) → (ticks : Nat) → σ
  | s, 0 => s
  | s, ticks + 1 => stateAfter (execute (watch.call device) s).2 ticks

/-- The reply to a tick, the first tick being number zero. -/
def replyAt (s : σ) (i : Nat) : Except CallError Text :=
  (execute (watch.call device) (stateAfter execute watch device s i)).1

/-- The reply ends a poll, even if ticks are left. -/
def decides (watch : Watch) : Except CallError Text → Bool
  | .error _ => true
  | .ok dump => watch.isSatisfied dump

/-- What a poll makes of its last reply. -/
def verdict (watch : Watch) (device : Text) (attempts : Nat) :
    Except CallError Text → Except CallError Report
  | .error e => .error e
  | .ok dump => .ok (watch.report device dump (watch.isSatisfied dump) attempts)

/-- What is done in so many ticks that another one follows. -/
def rounds (watch : Watch) (device : Text) (ticks : Nat) : List Effect :=
  (List.replicate ticks [.call (watch.call device), .pause watch.policy.pause]).flatten

variable {execute watch device}

theorem stateAfter_succ : ∀ (s : σ) (n : Nat), stateAfter execute watch device s (n + 1) =
    (execute (watch.call device) (stateAfter execute watch device s n)).2
  | _, 0 => rfl
  | s, n + 1 => stateAfter_succ (execute (watch.call device) s).2 n

/-! ## One tick -/

/-- A tick that is answered by a dump goes on as the poller tells. -/
theorem pollFrom_ok {poller : Poller} {s s' : σ} {dump : Text}
    (h : execute (watch.call device) s = (.ok dump, s')) :
    pollFrom execute watch device poller s =
      match (poller.record (watch.isSatisfied dump)).state with
      | .polling _ =>
        (pollFrom execute watch device (poller.record (watch.isSatisfied dump)) s').after
          [.call (watch.call device), .pause watch.policy.pause]
      | .done outcome => ⟨s', [.call (watch.call device)],
          .ok (watch.report device dump outcome.isConverged outcome.attempts.toNat)⟩ := by
  rw [pollFrom, h]
  dsimp only
  split <;> rename_i hstate <;> rw [hstate]

variable {poller : Poller} {attempt left : Nat}

theorem pollFrom_last {s : σ} (hwaits : poller.Waits attempt left)
    (h : watch.decides (execute (watch.call device) s).1 = true ∨ left = 0) :
    pollFrom execute watch device poller s =
      ⟨(execute (watch.call device) s).2, [.call (watch.call device)],
        watch.verdict device attempt (execute (watch.call device) s).1⟩ := by
  cases hreply : execute (watch.call device) s with
  | mk reply s' =>
    rw [hreply] at h
    cases reply with
    | error e => rw [pollFrom, hreply]; rfl
    | ok dump =>
      rw [pollFrom_ok hreply]
      cases hsat : watch.isSatisfied dump with
      | true =>
        rw [hwaits.record_true]
        simp [verdict, hsat, Poller.Outcome.isConverged, Poller.Outcome.attempts,
          hwaits.toNat_attempt]
      | false =>
        obtain rfl : left = 0 := by simpa [decides, hsat] using h
        rw [hwaits.record_false_zero]
        simp [verdict, hsat, Poller.Outcome.isConverged, Poller.Outcome.attempts,
          hwaits.toNat_attempt]

theorem pollFrom_succ {s : σ} (hwaits : poller.Waits attempt (left + 1))
    (h : watch.decides (execute (watch.call device) s).1 = false) :
    pollFrom execute watch device poller s =
      (pollFrom execute watch device (poller.record false) (execute (watch.call device) s).2).after
        [.call (watch.call device), .pause watch.policy.pause] := by
  cases hreply : execute (watch.call device) s with
  | mk reply s' =>
    rw [hreply] at h
    cases reply with
    | error e => cases h
    | ok dump =>
      have hsat : watch.isSatisfied dump = false := h
      rw [pollFrom_ok hreply, hsat, hwaits.record_false_succ.state]

/-! ## A run of ticks -/

/-- Ticks that decide nothing are made one after the other, with a pause behind each. -/
theorem pollFrom_rounds : ∀ {n attempt left : Nat} {poller : Poller} {s : σ},
    poller.Waits attempt left → n ≤ left →
    (∀ j < n, watch.decides (replyAt execute watch device s j) = false) →
    ∃ poller' : Poller, poller'.Waits (attempt + n) (left - n) ∧
      pollFrom execute watch device poller s =
        (pollFrom execute watch device poller' (stateAfter execute watch device s n)).after
          (rounds watch device n)
  | 0, _, _, poller, _, hwaits, _, _ => ⟨poller, hwaits, rfl⟩
  | n + 1, attempt, 0, _, _, _, hle, _ => absurd hle (by omega)
  | n + 1, attempt, left + 1, _, s, hwaits, hle, h => by
    have hfirst : watch.decides (execute (watch.call device) s).1 = false := h 0 (by omega)
    have hrest : ∀ j < n, watch.decides (replyAt execute watch device
        (execute (watch.call device) s).2 j) = false := fun j hj => h (j + 1) (by omega)
    obtain ⟨poller', hwaits', hrounds⟩ :=
      pollFrom_rounds hwaits.record_false_succ (by omega) hrest
    rw [show attempt + 1 + n = attempt + (n + 1) by omega,
      show left - n = left + 1 - (n + 1) by omega] at hwaits'
    refine ⟨poller', hwaits', ?_⟩
    rw [pollFrom_succ hwaits hfirst, hrounds]
    rfl

/-- **A poll ends at the first deciding reply or at the last tick**, and with what that reply
says. -/
theorem poll_eq {n : Nat} {s : σ} (hn : n < watch.policy.ticks)
    (hbefore : ∀ j < n, watch.decides (replyAt execute watch device s j) = false)
    (hlast : watch.decides (replyAt execute watch device s n) = true ∨
      n + 1 = watch.policy.ticks) :
    watch.poll execute device s =
      ⟨stateAfter execute watch device s (n + 1),
        rounds watch device n ++ [.call (watch.call device)],
        watch.verdict device (n + 1) (replyAt execute watch device s n)⟩ := by
  have hstate : (execute (watch.call device) (stateAfter execute watch device s n)).2 =
      stateAfter execute watch device s (n + 1) := (stateAfter_succ s n).symm
  have hend : watch.decides (execute (watch.call device)
      (stateAfter execute watch device s n)).1 = true ∨ watch.policy.ticks - 1 - n = 0 := by
    rcases hlast with hlast | hlast
    · exact .inl hlast
    · exact .inr (by omega)
  obtain ⟨poller, hwaits, hrounds⟩ :=
    pollFrom_rounds (Poller.waits_start watch.policy.maxAttempts) (Nat.le_sub_one_of_lt hn) hbefore
  rw [poll, hrounds, pollFrom_last hwaits hend, hstate, show 1 + n = n + 1 by omega]
  rfl

/-! ## Calls and pauses -/

theorem paused_append (a b : List Effect) :
    Effect.paused (a ++ b) = Effect.paused a + Effect.paused b := by
  induction a with
  | nil => simp [Effect.paused]
  | cons effect a ih =>
    cases effect with
    | call c => exact ih
    | pause length =>
      rw [List.cons_append, Effect.paused, Effect.paused, ih, Nat.add_assoc]

theorem rounds_succ (watch : Watch) (device : Text) (n : Nat) :
    rounds watch device (n + 1) =
      .call (watch.call device) :: .pause watch.policy.pause :: rounds watch device n := rfl

theorem paused_rounds (watch : Watch) (device : Text) (n : Nat) :
    Effect.paused (rounds watch device n) = watch.policy.pause.nanoseconds * n := by
  induction n with
  | zero => rfl
  | succ n ih =>
    rw [rounds_succ, Effect.paused, Effect.paused, ih, Nat.mul_succ, Nat.add_comm]

theorem count_call_rounds (watch : Watch) (device : Text) (n : Nat) :
    (rounds watch device n).count (.call (watch.call device)) = n := by
  induction n with
  | zero => rfl
  | succ n ih => simp [rounds_succ, ih]

theorem count_pause_rounds (watch : Watch) (device : Text) (n : Nat) :
    (rounds watch device n).count (.pause watch.policy.pause) = n := by
  induction n with
  | zero => rfl
  | succ n ih => simp [rounds_succ, ih]

theorem length_rounds (watch : Watch) (device : Text) (n : Nat) :
    (rounds watch device n).length = 2 * n := by
  induction n with
  | zero => rfl
  | succ n ih =>
    rw [rounds_succ, List.length_cons, List.length_cons, ih]
    omega

/-- No pause is longer than wanted. -/
theorem pause_le (policy : Policy) : policy.pause.nanoseconds ≤ policy.interval.nanoseconds :=
  Nat.min_le_left _ _

/-- A pause of at most thirty years is made as wanted. -/
theorem pause_eq_interval {policy : Policy}
    (h : policy.interval.nanoseconds ≤ Policy.longestPause.nanoseconds) :
    policy.pause = policy.interval := by
  rw [Policy.pause, Nat.min_eq_left h]

theorem nanoseconds_of_budget? {policy : Policy} {budget : Duration}
    (h : policy.budget? = some budget) :
    budget.nanoseconds = policy.interval.nanoseconds * (policy.ticks - 1) := by
  unfold Policy.budget? Duration.scale? Duration.ofNanoseconds? at h
  split at h
  · rw [← Option.some.inj h]
  · cases h

theorem pauses_le_budget {policy : Policy} {budget : Duration} {n : Nat}
    (h : policy.budget? = some budget) (hn : n < policy.ticks) :
    policy.pause.nanoseconds * n ≤ budget.nanoseconds := by
  rw [nanoseconds_of_budget? h]
  exact Nat.mul_le_mul (pause_le policy) (by omega)

/-- What a run has done that made so many ticks: one call each and a pause between two of them. -/
structure Took (execute : Source σ) (watch : Watch) (device : Text) (s : σ) (ticks : Nat)
    (run : Run σ Report) : Prop where
  source : run.source = stateAfter execute watch device s ticks
  calls : run.effects.count
    (.call ⟨device, watch.format.channel, watch.format.command watch.query⟩) = ticks
  pauses : run.effects.count (.pause watch.policy.pause) = ticks - 1
  no_other : run.effects.length = ticks + (ticks - 1)
  in_turn : run.effects =
    (List.replicate ticks (.call (watch.call device))).intersperse (.pause watch.policy.pause)
  paused : run.paused = watch.policy.pause.nanoseconds * (ticks - 1)
  paused_interval : watch.policy.interval.nanoseconds ≤ Policy.longestPause.nanoseconds →
    run.paused = watch.policy.interval.nanoseconds * (ticks - 1)
  paused_budget : ∀ budget, watch.policy.budget? = some budget →
    run.paused ≤ budget.nanoseconds

theorem rounds_append_call (watch : Watch) (device : Text) (n : Nat) :
    rounds watch device n ++ [.call (watch.call device)] =
      (List.replicate (n + 1) (.call (watch.call device))).intersperse
        (.pause watch.policy.pause) := by
  induction n with
  | zero => rfl
  | succ n ih =>
    rw [rounds_succ, List.cons_append, List.cons_append, ih]
    rfl

theorem took_rounds {s : σ} {n : Nat} {result : Except CallError Report}
    (hn : n < watch.policy.ticks) :
    Took execute watch device s (n + 1) ⟨stateAfter execute watch device s (n + 1),
      rounds watch device n ++ [.call (watch.call device)], result⟩ := by
  have hpaused : Run.paused (⟨stateAfter execute watch device s (n + 1),
      rounds watch device n ++ [.call (watch.call device)], result⟩ : Run σ Report) =
      watch.policy.pause.nanoseconds * n := by
    rw [Run.paused, paused_append, paused_rounds]
    rfl
  exact
    { source := rfl
      calls := by
        show List.count (Effect.call (watch.call device)) _ = _
        rw [List.count_append, count_call_rounds, List.count_singleton_self]
      pauses := by
        rw [List.count_append, count_pause_rounds]
        rfl
      no_other := by
        rw [List.length_append, length_rounds, List.length_singleton]
        omega
      in_turn := rounds_append_call watch device n
      paused := hpaused
      paused_interval := by
        intro hle
        rw [hpaused, pause_eq_interval hle]
        rfl
      paused_budget := by
        intro budget hbudget
        rw [hpaused]
        exact pauses_le_budget hbudget hn }

theorem ticks_pos (policy : Policy) : 0 < policy.ticks :=
  Nat.lt_of_lt_of_le Nat.zero_lt_one (Nat.le_max_right _ _)

/-- A poll that a reply decides ends at that tick with what the reply says. -/
theorem poll_decided {s : σ} {i : Nat} (hi : i < watch.policy.ticks)
    (hbefore : ∀ j < i, watch.decides (replyAt execute watch device s j) = false)
    (hdecides : watch.decides (replyAt execute watch device s i) = true) :
    Took execute watch device s (i + 1) (watch.poll execute device s) ∧
      match replyAt execute watch device s i with
      | .error e => (watch.poll execute device s).result = .error e
      | .ok dump => (watch.poll execute device s).result =
          .ok (watch.report device dump true (i + 1)) := by
  rw [poll_eq hi hbefore (.inl hdecides)]
  refine ⟨took_rounds hi, ?_⟩
  cases hreply : replyAt execute watch device s i with
  | error e => rfl
  | ok dump =>
    rw [hreply] at hdecides
    have hsat : watch.isSatisfied dump = true := hdecides
    show watch.verdict device (i + 1) (.ok dump) = _
    rw [verdict, hsat]

/-- A poll that no reply decides takes all of its ticks and reports the last dump. -/
theorem poll_exhausted {s : σ}
    (h : ∀ j < watch.policy.ticks, watch.decides (replyAt execute watch device s j) = false) :
    Took execute watch device s watch.policy.ticks (watch.poll execute device s) ∧
      ∃ dump, replyAt execute watch device s (watch.policy.ticks - 1) = .ok dump ∧
        (watch.poll execute device s).result =
          .ok (watch.report device dump false watch.policy.ticks) := by
  have hpos := ticks_pos watch.policy
  obtain ⟨n, hn⟩ : ∃ n, watch.policy.ticks = n + 1 := ⟨watch.policy.ticks - 1, by omega⟩
  have hlast := h n (by omega)
  rw [poll_eq (n := n) (by omega) (fun j hj => h j (by omega)) (.inr hn.symm), hn,
    Nat.add_sub_cancel]
  refine ⟨took_rounds (by omega), ?_⟩
  cases hreply : replyAt execute watch device s n with
  | error e =>
    rw [hreply] at hlast
    cases hlast
  | ok dump =>
    rw [hreply] at hlast
    have hsat : watch.isSatisfied dump = false := hlast
    refine ⟨dump, rfl, ?_⟩
    show watch.verdict device (n + 1) (.ok dump) = _
    rw [verdict, hsat]

/-- **The law of a whole poll.** Of at most so many ticks as the policy allows, and of one at
least, the poll takes those up to the first reply that decides it. An error is its result; a dump
that satisfies converges it at that tick; and when no reply decides, all ticks are taken and the
last dump is reported. What is reported was read from the last dump alone. -/
theorem poll_until_decided (execute : Source σ) (watch : Watch) (device : Text) (s : σ) :
    match (List.range (max watch.policy.maxAttempts.toNat 1)).find? fun i =>
        watch.decides (replyAt execute watch device s i) with
    | none =>
      Took execute watch device s (max watch.policy.maxAttempts.toNat 1)
          (watch.poll execute device s) ∧
        ∃ dump, replyAt execute watch device s (max watch.policy.maxAttempts.toNat 1 - 1) =
            .ok dump ∧
          (watch.poll execute device s).result = .ok
            { device := device
              target := watch.query.target
              goal := watch.goal
              hasConverged := false
              attempts := max watch.policy.maxAttempts.toNat 1
              observed := watch.format.extract dump watch.query
              differences :=
                watch.query.expected.differences (watch.format.extract dump watch.query) }
    | some i =>
      Took execute watch device s (i + 1) (watch.poll execute device s) ∧
        match replyAt execute watch device s i with
        | .error e => (watch.poll execute device s).result = .error e
        | .ok dump => (watch.poll execute device s).result = .ok
            { device := device
              target := watch.query.target
              goal := watch.goal
              hasConverged := true
              attempts := i + 1
              observed := watch.format.extract dump watch.query
              differences :=
                watch.query.expected.differences (watch.format.extract dump watch.query) } := by
  have hticks : max watch.policy.maxAttempts.toNat 1 = watch.policy.ticks := rfl
  rw [hticks]
  cases hfind : (List.range watch.policy.ticks).find? fun i =>
      watch.decides (replyAt execute watch device s i) with
  | none => exact poll_exhausted (by simpa using List.find?_range_eq_none.1 hfind)
  | some i =>
    obtain ⟨hdecides, hi, hbefore⟩ := List.find?_range_eq_some.1 hfind
    exact poll_decided (List.mem_range.1 hi) (fun j hj => by simpa using hbefore j hj) hdecides

/-- Three ticks with a millisecond more than thirty years wanted between them. -/
def rareWatch : Watch where
  query := { expected := Route.empty ⟨.v4 10 0 0 0, 24⟩ }
  format := .rib
  goal := .present
  policy := ⟨Duration.ofMilliseconds 946080000001, 3⟩

theorem rareWatch_paused_ne_interval :
    ∃ report, (rareWatch.poll Replay.execute ['d']
        (Replay.empty.always ['d'] .managementCli [])).result = .ok report ∧
      report.attempts = 3 ∧
      (rareWatch.poll Replay.execute ['d'] (Replay.empty.always ['d'] .managementCli [])).paused ≠
        rareWatch.policy.interval.nanoseconds * (report.attempts - 1) := by
  have hbefore : ∀ j < 2, rareWatch.decides (replyAt Replay.execute rareWatch ['d']
      (Replay.empty.always ['d'] .managementCli []) j) = false := by decide
  have hpoll := poll_eq (n := 2) (by decide) hbefore (.inr (by decide))
  rw [hpoll]
  exact ⟨_, rfl, rfl, by decide⟩

/-! ## Replayed replies -/

/-- Every tick takes one reply from the queue, up to the last. -/
theorem queues_stateAfter (watch : Watch) (device : Text) : ∀ (replay : Replay) (ticks : Nat),
    (stateAfter Replay.execute watch device replay ticks).queues device watch.format.channel =
      remaining (replay.queues device watch.format.channel) ticks
  | replay, 0 => (remaining_zero _).symm
  | replay, ticks + 1 => by
    have hon : (watch.call device).isOn device watch.format.channel = true :=
      decide_eq_true ⟨rfl, rfl⟩
    rw [stateAfter, queues_stateAfter watch device _ ticks, Replay.queues_execute, hon, if_pos rfl,
      remaining_remaining, Nat.add_comm]

/-- A source that replays a queue answers a tick with the reply of that number, and every tick
beyond the queue with the last reply. -/
theorem replyAt_replay {watch : Watch} {device : Text} {replay : Replay} {i : Nat} {reply : Reply}
    {queue : List Reply} (hqueue : replay.queues device watch.format.channel = queue)
    (h : queue[min i (queue.length - 1)]? = some reply) :
    replyAt Replay.execute watch device replay i = reply.answer (watch.call device) := by
  have hleft : (stateAfter Replay.execute watch device replay i).queues device
      watch.format.channel = remaining queue i := hqueue ▸ queues_stateAfter watch device replay i
  rw [replyAt, Replay.execute_answer, call, hleft, head?_remaining, h]
  rfl

theorem replyAt_switchAfter (watch : Watch) (device : Text) (ticks i : Nat)
    (before after : Text) :
    replyAt Replay.execute watch device
      (Replay.empty.switchAfter device watch.format.channel ticks before after) i =
        .ok (if i < ticks then before else after) := by
  obtain ⟨queue, hswitch⟩ : ∃ queue : List Reply, queue =
      List.replicate ticks (.output before) ++ [.output after] := ⟨_, rfl⟩
  have hqueue : (Replay.empty.switchAfter device watch.format.channel ticks before after).queues
      device watch.format.channel = queue := by
    simp [hswitch, Replay.switchAfter, Replay.script, Replay.setQueue, Replay.empty]
  have hlength : queue.length - 1 = ticks := by simp [hswitch]
  split
  · rename_i hi
    refine replyAt_replay hqueue (?_ : _ = some (.output before))
    rw [hlength, Nat.min_eq_left (by omega), hswitch, List.getElem?_append_left (by simp [hi])]
    simp [hi]
  · rename_i hi
    refine replyAt_replay hqueue (?_ : _ = some (.output after))
    rw [hlength, Nat.min_eq_right (by omega), hswitch]
    simp

/-- **Output that switches is noticed at once.** When a dump that does not satisfy is replayed for
some ticks and one that does from then on, the poll converges at the tick right after them, and
when no tick is left for it the poll is given up with the old dump. -/
theorem poll_switchAfter (watch : Watch) (device : Text) (ticks : Nat) {before after : Text}
    (hbefore : watch.isSatisfied before = false) (hafter : watch.isSatisfied after = true) :
    (watch.poll Replay.execute device
      (Replay.empty.switchAfter device watch.format.channel ticks before after)).result =
        .ok (if ticks < watch.policy.ticks then watch.report device after true (ticks + 1)
          else watch.report device before false watch.policy.ticks) := by
  have hreply := replyAt_switchAfter watch device ticks
  have hundecided : ∀ j < ticks, watch.decides (replyAt Replay.execute watch device
      (Replay.empty.switchAfter device watch.format.channel ticks before after) j) = false := by
    intro j hj
    rw [hreply, if_pos hj]
    exact hbefore
  split
  · rename_i hlt
    have hnew := hreply ticks before after
    rw [if_neg (Nat.lt_irrefl ticks)] at hnew
    have hpoll := (poll_decided hlt hundecided (by rw [hnew]; exact hafter)).2
    rw [hnew] at hpoll
    exact hpoll
  · rename_i hge
    have hpos := ticks_pos watch.policy
    obtain ⟨-, dump, hdump, hresult⟩ := poll_exhausted fun j hj => hundecided j (by omega)
    rw [hreply, if_pos (by omega)] at hdump
    obtain rfl : before = dump := Except.ok.inj hdump
    exact hresult

end RouteWatch.Watch
