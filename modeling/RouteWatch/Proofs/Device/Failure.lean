/-
What a failed call says of itself. Three layers stand between the shell and
the caller: what was captured of a line, what a line that had to succeed
answers, and the transport that built the line around a command. The first
layer knows only the line; the second puts the device in, and the third the
command.

The third one does so for a command that ended badly, and for no other
failure: a shell that did not start and one that was stopped at the limit are
reported for the line that wraps the command. So the caller finds its own
command again exactly when the command ended, or when nothing is wrapped
around it.
-/
import RouteWatch.Device.Transport

namespace RouteWatch

/-- The device that the failure is about. -/
def CallError.device? : CallError → Option Text
  | .spawn .. => none
  | .failed device .. => some device
  | .timedOut device .. => some device
  | .channelUnavailable device _ => some device

/-! ## The failures of a line and of a call -/

/-- A line that had to succeed on a device fails also with a code other than zero. -/
theorem Spawned.require_ended (device line : Text) (ending : Shell.Ending)
    (output errors : Bytes) :
    (Spawned.ended ending output errors).require device line =
      let captured := Captured.ofEnding ending output errors
      if captured.isSuccess then .ok captured.output
      else .error (.failed device line captured.exitCode captured.combined) := rfl

namespace Transport

/-- The ways in which a call fails, from what became of the shell. -/
inductive Fails (transport : Transport) (call : Call) : Spawned → CallError → Prop
  | notStarted (reason : Text) :
    Fails transport call (.notStarted reason) (.spawn (transport.commandLine call) reason)
  | stopped (limit : Duration) :
    Fails transport call (.stopped limit)
      (.timedOut call.device (transport.commandLine call) limit)
  | ended {ending : Shell.Ending} {output errors : Bytes}
      (hcode : (Captured.ofEnding ending output errors).exitCode ≠ 0) :
    Fails transport call (.ended ending output errors)
      (.failed call.device call.command (Captured.ofEnding ending output errors).exitCode
        (Captured.ofEnding ending output errors).combined)

variable {transport : Transport} {call : Call} {spawned : Spawned} {e : CallError}

/-- **A call fails in these ways only.** -/
theorem answer_eq_error :
    transport.answer call spawned = .error e ↔ transport.Fails call spawned e := by
  constructor
  · intro h
    cases spawned with
    | notStarted reason =>
      obtain rfl := Except.error.inj h
      exact .notStarted reason
    | stopped limit =>
      obtain rfl := Except.error.inj h
      exact .stopped limit
    | ended ending output errors =>
      rw [answer, Spawned.require_ended] at h
      by_cases hcode : (Captured.ofEnding ending output errors).exitCode = 0
      · simp [Captured.isSuccess, hcode] at h
      · simp only [Captured.isSuccess, beq_iff_eq, hcode, if_false] at h
        obtain rfl := Except.error.inj h
        exact .ended hcode
  · intro h
    cases h with
    | notStarted reason => rfl
    | stopped limit => rfl
    | ended hcode =>
      rw [answer, Spawned.require_ended]
      simp [Captured.isSuccess, hcode]

/-! ## The line around a command -/

theorem length_le_length_flatMap_quoteChar (s : Text) :
    s.length ≤ (s.flatMap Shell.quoteChar).length := by
  induction s with
  | nil => exact Nat.le_refl 0
  | cons c s ih =>
    have hchar : 1 ≤ (Shell.quoteChar c).length := by
      rw [Shell.quoteChar]
      split <;> simp
    rw [List.flatMap_cons, List.length_append, List.length_cons]
    omega

theorem length_lt_length_quote (s : Text) : s.length < (Shell.quote s).length := by
  have hchars := length_le_length_flatMap_quoteChar s
  simp only [Shell.quote, List.length_append, List.length_cons, List.length_nil]
  omega

theorem length_command_le (transport : Transport) (call : Call) :
    call.command.length ≤ (transport.deviceLine call).length ∧
      (call.channel ≠ .shell → call.command.length < (transport.deviceLine call).length) := by
  have hquote := length_lt_length_quote call.command
  rw [deviceLine]
  split
  · simp only [List.length_append]
    omega
  · rename_i hchannel
    exact ⟨Nat.le_refl _, fun h => absurd hchannel h⟩
  · simp only [List.length_append, List.length_cons]
    omega

/-- Nothing is wrapped around a command for the plain shell of a device at hand, and something
around every other command. -/
theorem commandLine_eq_command_iff :
    transport.commandLine call = call.command ↔
      call.channel = .shell ∧
        (transport.isRemote = false ∨ call.device = Spawned.localDevice) := by
  obtain ⟨hle, hlt⟩ := length_command_le transport call
  have hquote := length_lt_length_quote (transport.deviceLine call)
  by_cases hlocal : transport.isRemote = false ∨ call.device = Spawned.localDevice
  · have hline : transport.commandLine call = transport.deviceLine call :=
      if_pos (by simpa using hlocal)
    rw [hline]
    constructor
    · intro heq
      refine ⟨Decidable.byContradiction fun hchannel => ?_, hlocal⟩
      have := hlt hchannel
      rw [heq] at this
      omega
    · rintro ⟨hchannel, -⟩
      rw [deviceLine, hchannel]
  · have hline : call.command.length < (transport.commandLine call).length := by
      rw [commandLine, if_neg (by simpa using hlocal)]
      simp only [List.length_append, List.length_cons]
      omega
    constructor
    · intro heq
      rw [heq] at hline
      omega
    · rintro ⟨-, h⟩
      exact absurd h hlocal

/-! ## What a failure names -/

/-- Every failure of a call names the command or the line that was built around it. -/
theorem Fails.command?_eq (h : transport.Fails call spawned e) :
    e.command? = some call.command ∨ e.command? = some (transport.commandLine call) := by
  cases h with
  | notStarted reason => exact .inr rfl
  | stopped limit => exact .inr rfl
  | ended hcode => exact .inl rfl

/-- **A failed call names its own device, and its own command only if the command ended or nothing
was wrapped around it.** Otherwise it names the whole line that was built around the command. -/
theorem failure_names_command_iff (h : transport.answer call spawned = .error e) :
    (∀ device, e.device? = some device → device = call.device) ∧
      (e.command? = some call.command ∨ e.command? = some (transport.commandLine call)) ∧
      (e.command? = some call.command ↔
        (∃ ending output errors, spawned = .ended ending output errors) ∨
          (call.channel = .shell ∧
            (transport.isRemote = false ∨ call.device = Spawned.localDevice))) := by
  have hfails := answer_eq_error.1 h
  refine ⟨?_, hfails.command?_eq, ?_⟩
  · intro device hdevice
    cases hfails with
    | notStarted reason => cases hdevice
    | stopped limit | ended hcode => exact (Option.some.inj hdevice).symm
  · rw [← commandLine_eq_command_iff]
    cases hfails with
    | notStarted reason => simp [CallError.command?]
    | stopped limit => simp [CallError.command?]
    | ended hcode => simp [CallError.command?]

/-- The failure of an answer. -/
def failure? : Except CallError Text → Option CallError
  | .ok _ => none
  | .error e => some e

theorem failure?_eq_some {answer : Except CallError Text} (h : failure? answer = some e) :
    answer = .error e := by
  cases answer with
  | ok text => cases h
  | error e' => exact congrArg _ (Option.some.inj h)

/-- A management shell that takes longer than it may. -/
def slowShell : Transport :=
  { managementCli := "sleep 5 #".toList, limit := some (Duration.ofMilliseconds 50) }

def showRoutes : Call := ⟨"dut1".toList, .managementCli, "show ip route".toList⟩

/-- The same call is reported for its command when it ends with a code, and for the line of the tool
when it is stopped. -/
theorem failure_names_command_iff_slowShell :
    let line := "sleep 5 # -c \"show ip route\"".toList
    let failed : CallError := .failed showRoutes.device showRoutes.command 4 []
    let late : CallError := .timedOut showRoutes.device line (Duration.ofMilliseconds 50)
    slowShell.answer showRoutes (.ended (.exited 4) [] []) = .error failed ∧
      slowShell.answer showRoutes (.stopped (Duration.ofMilliseconds 50)) = .error late ∧
      failed.command? = some showRoutes.command ∧
      late.command? ≠ some showRoutes.command ∧
      (∀ device, late.device? = some device → device = showRoutes.device) := by
  intro line failed late
  have hfailed : slowShell.answer showRoutes (.ended (.exited 4) [] []) = .error failed :=
    failure?_eq_some (by decide +kernel)
  have hlate : slowShell.answer showRoutes (.stopped (Duration.ofMilliseconds 50)) =
      .error late := rfl
  have hnames := failure_names_command_iff hlate
  refine ⟨hfailed, hlate, (failure_names_command_iff hfailed).2.2.2 (.inl ⟨_, _, _, rfl⟩), ?_,
    hnames.1⟩
  rw [Ne, hnames.2.2]
  rintro (⟨_, _, _, hended⟩ | ⟨hchannel, -⟩)
  · cases hended
  · cases hchannel

/-- **A call that takes too long is not reported for its command**, but for the line of the tool. -/
theorem slowShell_names_line :
    ¬ ∀ (transport : Transport) (call : Call) (files : Files) (e : CallError) (command : Text),
      (transport.source call files).1 = .error e → e.command? = some command →
        command = call.command := by
  intro h
  have hlate : failure? (slowShell.source showRoutes ∅).1 = some
      (.timedOut showRoutes.device (slowShell.commandLine showRoutes)
        (Duration.ofMilliseconds 50)) := by decide +kernel
  have hsame := h slowShell showRoutes ∅ _ _ (failure?_eq_some hlate) rfl
  exact absurd (commandLine_eq_command_iff.1 hsame).1 (by decide)

end Transport
end RouteWatch
