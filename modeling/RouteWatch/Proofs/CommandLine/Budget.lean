/-
The time that valid settings may take. Each of the two settings of a poll has
a range of its own and no check looks at both, so their product can be longer
than any span. Then the run ends with a code of its own and watches nothing;
that takes an interval of more than thirty years.
-/
import RouteWatch.CommandLine.Outcome
import RouteWatch.Proofs.Route.Mapping

namespace RouteWatch

/-! ## Spans in milliseconds -/

/-- The whole milliseconds of the longest span. -/
def Duration.maxMilliseconds : Nat := Text.wordMax * 1000 + 999

theorem Duration.ofMilliseconds_le {n : Nat} :
    (ofMilliseconds n).nanoseconds ≤ maxNanoseconds ↔ n ≤ maxMilliseconds := by
  have hdiv : maxNanoseconds / 1000000 = maxMilliseconds := by decide
  rw [← hdiv, Nat.le_div_iff_mul_le (by decide)]
  rfl

/-- Scaling multiplies the milliseconds, up to the longest span. -/
theorem Duration.scale?_ofMilliseconds {n times : Nat} {d : Duration} :
    (ofMilliseconds n).scale? times = some d ↔
      n * times ≤ maxMilliseconds ∧ d = ofMilliseconds (n * times) := by
  have hproduct : (ofMilliseconds n).nanoseconds * times =
      (ofMilliseconds (n * times)).nanoseconds := Nat.mul_right_comm n 1000000 times
  rw [scale?, ofNanoseconds?, hproduct, Option.ite_none_right_eq_some, ofMilliseconds_le,
    Option.some.injEq, eq_comm (b := d)]

/-! ## Settings -/

namespace Settings

/-- The milliseconds between the first and the last tick, without the commands. -/
def longestWait (settings : Settings) : Nat :=
  settings.poll.interval.toNat * (settings.poll.maxAttempts.toNat - 1)

theorem maxAttempts_ne_zero {settings : Settings} (h : settings.validate = .ok ()) :
    settings.poll.maxAttempts ≠ 0 := by
  intro hzero
  rw [validate, if_pos hzero] at h
  cases h

theorem ticks_policy {settings : Settings} (h : settings.validate = .ok ()) :
    settings.policy.ticks = settings.poll.maxAttempts.toNat := by
  have hpos : 0 < settings.poll.maxAttempts.toNat :=
    Nat.pos_of_ne_zero fun hzero => maxAttempts_ne_zero h (UInt32.toNat_inj.1 hzero)
  exact Nat.max_eq_left hpos

/-- There is a budget exactly when the longest wait is a span, and then it is that span. -/
theorem budget?_policy {settings : Settings} (h : settings.validate = .ok ()) {d : Duration} :
    settings.policy.budget? = some d ↔
      settings.longestWait ≤ Duration.maxMilliseconds ∧
        d = Duration.ofMilliseconds settings.longestWait := by
  rw [Policy.budget?, ticks_policy h]
  exact Duration.scale?_ofMilliseconds

theorem budget?_policy_eq_none {settings : Settings} (h : settings.validate = .ok ()) :
    settings.policy.budget? = none ↔ Duration.maxMilliseconds < settings.longestWait := by
  rw [Option.eq_none_iff_forall_ne_some, ← Nat.not_le]
  constructor
  · exact fun hnone hle => hnone _ ((budget?_policy h).2 ⟨hle, rfl⟩)
  · exact fun hlong d hd => hlong ((budget?_policy h).1 hd).1

/-- No number of ticks is too many for an interval of at most thirty years. -/
theorem longestWait_le {settings : Settings}
    (h : settings.interval.nanoseconds ≤ Policy.longestPause.nanoseconds) :
    settings.longestWait ≤ Duration.maxMilliseconds := by
  have hinterval : settings.poll.interval.toNat ≤ 946080000000 :=
    Nat.le_of_mul_le_mul_right (c := 1000000) h (by decide)
  have hattempts : settings.poll.maxAttempts.toNat < 2 ^ 32 := UInt32.toNat_lt _
  calc settings.longestWait
      ≤ 946080000000 * 2 ^ 32 := Nat.mul_le_mul hinterval (by omega)
    _ ≤ Duration.maxMilliseconds := by decide

end Settings

/-! ## Runs -/

namespace Options

/-- The settings of a run have passed their checks. -/
theorem validate_of_readSettings {options : Options} {files : Files} {settings : Settings}
    (h : options.readSettings files = .ok settings) : settings.validate = .ok () := by
  simp only [readSettings, bind_eq_ok, mapError_eq_ok] at h
  obtain ⟨loaded, -, checked, hvalid, heq⟩ := h
  obtain rfl := Except.ok.inj heq
  exact hvalid

/-- A run with settings and an expected route ends with a code of its own when there is no budget,
and with one of the others when there is. -/
theorem exitCode_run {options : Options} {files : Files} {settings : Settings} {expected : Route}
    (hsettings : options.readSettings files = .ok settings)
    (hexpected : options.readExpected files = .ok expected) :
    (options.run files).exitCode = 101 ↔ settings.policy.budget? = none := by
  have hpolicy : (options.watch settings expected).policy = settings.policy := rfl
  simp only [run, hsettings, hexpected, bind, Except.bind, pure, Except.pure, hpolicy]
  split
  · rename_i hnone
    simpa [Outcome.exitCode] using hnone
  · rename_i hsome
    have hne : settings.policy.budget? ≠ none := by simpa using hsome
    split
    · simp only [Outcome.exitCode, hne, iff_false]
      split <;> decide
    · simp [Outcome.exitCode, hne]

/-- A run ends with that code when it has got its settings and its expected route, and the settings
ask for a wait that is longer than any span. -/
theorem exitCode_run_eq_overflow {options : Options} {files : Files} :
    (options.run files).exitCode = 101 ↔ ∃ settings expected,
      options.readSettings files = .ok settings ∧ options.readExpected files = .ok expected ∧
        Duration.maxMilliseconds < settings.longestWait := by
  constructor
  · intro hcode
    cases hsettings : options.readSettings files with
    | error => simp [run, hsettings, bind, Except.bind, Outcome.exitCode] at hcode
    | ok settings =>
      cases hexpected : options.readExpected files with
      | error => simp [run, hsettings, hexpected, bind, Except.bind, Outcome.exitCode] at hcode
      | ok expected =>
        have hvalid := validate_of_readSettings hsettings
        have hnone := (exitCode_run hsettings hexpected).1 hcode
        exact ⟨settings, expected, rfl, rfl, (Settings.budget?_policy_eq_none hvalid).1 hnone⟩
  · rintro ⟨settings, expected, hsettings, hexpected, hlong⟩
    have hvalid := validate_of_readSettings hsettings
    exact (exitCode_run hsettings hexpected).2 ((Settings.budget?_policy_eq_none hvalid).2 hlong)

end Options

/-- **Valid settings have a budget unless it would be longer than any span.** The budget is the
interval times one less than the number of ticks, whatever the two are, as long as that is a span,
and it always is for an interval of at most thirty years. A run of the program ends with a code of
its own exactly when it gets as far as the budget and that would be longer. -/
theorem Settings.budget_unless_overlong (settings : Settings) (options : Options)
    (files : Files) :
    (settings.validate = .ok () →
      (∀ d, settings.policy.budget? = some d ↔
        settings.longestWait ≤ Duration.maxMilliseconds ∧
          d = Duration.ofMilliseconds settings.longestWait) ∧
      (settings.interval.nanoseconds ≤ Policy.longestPause.nanoseconds →
        settings.policy.budget? = some (Duration.ofMilliseconds settings.longestWait))) ∧
    ((options.run files).exitCode = 101 ↔ ∃ overlong expected,
      options.readSettings files = .ok overlong ∧ options.readExpected files = .ok expected ∧
        Duration.maxMilliseconds < overlong.longestWait) := by
  refine ⟨fun h => ⟨fun d => budget?_policy h, fun hshort => ?_⟩, Options.exitCode_run_eq_overflow⟩
  exact (budget?_policy h).2 ⟨longestWait_le hshort, rfl⟩

/-- As many and as long pauses as there can be. -/
def longestSettings : Settings := { poll := ⟨18446744073709551615, 4294967295⟩ }

theorem longestWait_longestSettings :
    Duration.maxMilliseconds < longestSettings.longestWait := by
  have hwait : longestSettings.longestWait = 18446744073709551615 * 4294967294 := by rfl
  rw [hwait]
  decide

/-- The command line that asks for them. -/
def longestOptions : Options where
  expected := "route".toList
  interval := some 18446744073709551615
  maxAttempts := some 4294967295

/-- The only file is the one with the expected route. -/
def loopbackFiles : Files :=
  Keyed.ofList [("route".toList, Utf8.encode "\x7b\"Route\":\"::1\"\x7d".toList)]

/-- A thousand pauses of the greatest length are still a span; a run that asks for as many as there
can be finds that they are not. -/
theorem Settings.budget_unless_overlong_longest :
    let most : Settings := { poll := ⟨18446744073709551615, 1001⟩ }
    let loopback : Route := Route.empty (Prefix.host (.v6 ⟨[0, 0, 0, 0, 0, 0, 0, 1], rfl⟩))
    (most.validate = .ok () ∧ most.policy.budget? = some (.ofMilliseconds most.longestWait)) ∧
    (longestOptions.readSettings loopbackFiles = .ok longestSettings ∧
      longestOptions.readExpected loopbackFiles = .ok loopback) ∧
    (longestOptions.run loopbackFiles).exitCode = 101 := by
  intro most loopback
  have hvalid : most.validate = .ok () := by rfl
  have hmost : most.longestWait ≤ Duration.maxMilliseconds := by
    have hwait : most.longestWait = 18446744073709551615 * 1000 := by rfl
    rw [hwait]
    decide
  obtain ⟨hbudgets, hruns⟩ := budget_unless_overlong most longestOptions loopbackFiles
  have hbudget := ((hbudgets hvalid).1 _).2 ⟨hmost, rfl⟩
  have hsettings : longestOptions.readSettings loopbackFiles = .ok longestSettings := by rfl
  have hexpected : longestOptions.readExpected loopbackFiles = .ok loopback :=
    toOption_eq_some.1 (by decide +kernel)
  exact ⟨⟨hvalid, hbudget⟩, ⟨hsettings, hexpected⟩,
    hruns.2 ⟨longestSettings, loopback, hsettings, hexpected, longestWait_longestSettings⟩⟩

/-- Valid settings need not have a budget. -/
theorem longestSettings_no_budget :
    ¬ ∀ settings : Settings, settings.validate = .ok () →
      settings.policy.budget? = some (Duration.ofMilliseconds settings.longestWait) := by
  intro hall
  have hvalid : longestSettings.validate = .ok () := by rfl
  have hbudget := hall longestSettings hvalid
  rw [(Settings.budget?_policy_eq_none hvalid).2 longestWait_longestSettings] at hbudget
  cases hbudget

end RouteWatch
