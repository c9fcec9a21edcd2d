/-
A source of replies answers each device and channel from a queue of its own.
What a call finds in its queue depends on how many calls the same queue has
answered before and on nothing else: so many replies are gone from the front,
but never the last one. Calls on other devices and channels may stand between
them in any order.
-/
import RouteWatch.Device.Replay

namespace RouteWatch

/-- The call is for this device on this channel. -/
def Call.isOn (call : Call) (device : Text) (channel : Channel) : Bool :=
  call.device = device ∧ call.channel = channel

/-- A step in building a source. -/
inductive Scripting where
  | script (device : Text) (channel : Channel) (replies : List Reply)
  | always (device : Text) (channel : Channel) (text : Text)
  | switchAfter (device : Text) (channel : Channel) (ticks : Nat) (before after : Text)

namespace Replay

/-- The source after one more step. -/
def scripting (replay : Replay) : Scripting → Replay
  | .script device channel replies => replay.script device channel replies
  | .always device channel text => replay.always device channel text
  | .switchAfter device channel ticks before after =>
    replay.switchAfter device channel ticks before after

/-- The source that some steps build. -/
def build (steps : List Scripting) : Replay := steps.foldl scripting empty

/-- The answers to some calls, one after the other, and the source behind them. -/
def executeAll : List Call → Replay → List (Except CallError Text) × Replay
  | [], replay => ([], replay)
  | call :: calls, replay =>
    let first := execute call replay
    let rest := executeAll calls first.2
    (first.1 :: rest.1, rest.2)

end Replay

/-- The replies that a step gives to one device and channel. -/
def Scripting.repliesFor (device : Text) (channel : Channel) : Scripting → List Reply
  | script d c replies => if device = d ∧ channel = c then replies else []
  | always d c text => if device = d ∧ channel = c then [.output text] else []
  | switchAfter d c ticks before after =>
    if device = d ∧ channel = c then List.replicate ticks (.output before) ++ [.output after]
    else []

/-- The answer to a call when this reply is at the front of its queue, if any is. -/
def Call.answerFrom (call : Call) : Option Reply → Except CallError Text
  | some reply => reply.answer call
  | none => .error (.channelUnavailable call.device call.channel.name)

/-- What is left of some replies after so many calls. The last one stays. -/
def remaining (replies : List Reply) (calls : Nat) : List Reply :=
  replies.drop (min calls (replies.length - 1))

theorem remaining_zero (replies : List Reply) : remaining replies 0 = replies := by
  rw [remaining, Nat.zero_min, List.drop_zero]

theorem remaining_remaining (replies : List Reply) (m n : Nat) :
    remaining (remaining replies m) n = remaining replies (m + n) := by
  rw [remaining, remaining, remaining, List.drop_drop, List.length_drop]
  congr 1
  omega

theorem head?_remaining (replies : List Reply) (calls : Nat) :
    (remaining replies calls).head? = replies[min calls (replies.length - 1)]? := by
  rw [remaining, List.head?_drop]

namespace Replay

/-! ## Building a source -/

theorem queues_scripting (replay : Replay) (step : Scripting) (device : Text)
    (channel : Channel) :
    (replay.scripting step).queues device channel =
      replay.queues device channel ++ step.repliesFor device channel := by
  have hscript : ∀ d c replies, (replay.script d c replies).queues device channel =
      replay.queues device channel ++ if device = d ∧ channel = c then replies else [] := by
    intro d c replies
    simp only [script, setQueue]
    split
    · rename_i hsame
      rw [hsame.1, hsame.2]
    · rw [List.append_nil]
  cases step <;> exact hscript ..

/-- **A queue holds the replies of all steps for it**, in order. -/
theorem queues_build (steps : List Scripting) (device : Text) (channel : Channel) :
    (build steps).queues device channel = steps.flatMap (·.repliesFor device channel) := by
  have hfold : ∀ replay : Replay, (steps.foldl scripting replay).queues device channel =
      replay.queues device channel ++ steps.flatMap (·.repliesFor device channel) := by
    induction steps with
    | nil => simp
    | cons step steps ih =>
      intro replay
      rw [List.foldl_cons, ih, queues_scripting, List.flatMap_cons, List.append_assoc]
  exact hfold empty

theorem executed_build (steps : List Scripting) : (build steps).executed = [] := by
  have hfold : ∀ replay : Replay, (steps.foldl scripting replay).executed = replay.executed := by
    induction steps with
    | nil => exact fun _ => rfl
    | cons step steps ih =>
      intro replay
      rw [List.foldl_cons, ih]
      cases step <;> rfl
  exact hfold empty

/-! ## One call -/

/-- A call is recorded, whatever it answers. -/
theorem executed_execute (call : Call) (replay : Replay) :
    (execute call replay).2.executed = replay.executed ++ [call] := by
  unfold execute
  split <;> rfl

/-- A call answers with the front of its queue. -/
theorem execute_answer (call : Call) (replay : Replay) :
    (execute call replay).1 =
      call.answerFrom (replay.queues call.device call.channel).head? := by
  unfold execute
  split <;> rename_i hqueue <;> rw [hqueue] <;> rfl

/-- **A call takes one reply from its own queue and none from any other.** -/
theorem queues_execute (call : Call) (replay : Replay) (device : Text) (channel : Channel) :
    (execute call replay).2.queues device channel =
      remaining (replay.queues device channel) (if call.isOn device channel then 1 else 0) := by
  by_cases hon : call.device = device ∧ call.channel = channel
  · obtain ⟨rfl, rfl⟩ := hon
    rw [Call.isOn, decide_eq_true ⟨rfl, rfl⟩, if_pos rfl]
    match hqueue : replay.queues call.device call.channel with
    | [] => simp only [execute, hqueue, remaining, List.drop_nil]
    | [last] => simp only [execute, hqueue, remaining, List.length_singleton, Nat.sub_self,
        Nat.min_zero, List.drop_zero]
    | first :: second :: rest =>
      simp [execute, hqueue, setQueue, remaining]
  · have hother : ¬ (device = call.device ∧ channel = call.channel) := fun h =>
      hon ⟨h.1.symm, h.2.symm⟩
    rw [Call.isOn, decide_eq_false hon, if_neg Bool.false_ne_true, remaining_zero]
    unfold execute
    split
    · rfl
    · rfl
    · simp only [setQueue, if_neg hother]

/-- A call leaves the queues of all other devices as they are. -/
theorem queues_execute_other (call : Call) (replay : Replay) {device : Text}
    (h : device ≠ call.device) :
    (execute call replay).2.queues device = replay.queues device := by
  funext channel
  rw [queues_execute, Call.isOn, decide_eq_false fun hon => h hon.1.symm,
    if_neg Bool.false_ne_true, remaining_zero]

/-- What a call answers and leaves depends on the queues of its own device only. -/
theorem execute_congr (call : Call) {a b : Replay}
    (h : a.queues call.device = b.queues call.device) :
    (execute call a).1 = (execute call b).1 ∧
      (execute call a).2.queues call.device = (execute call b).2.queues call.device := by
  refine ⟨?_, ?_⟩
  · rw [execute_answer, execute_answer, h]
  · funext channel
    rw [queues_execute, queues_execute, h]

/-! ## Many calls -/

theorem length_executeAll : ∀ (calls : List Call) (replay : Replay),
    (executeAll calls replay).1.length = calls.length
  | [], _ => rfl
  | call :: calls, replay => by
    rw [executeAll, List.length_cons, List.length_cons, length_executeAll calls]

/-- **Every call is recorded once**, in order. -/
theorem executed_executeAll : ∀ (calls : List Call) (replay : Replay),
    (executeAll calls replay).2.executed = replay.executed ++ calls
  | [], replay => (List.append_nil _).symm
  | call :: calls, replay => by
    rw [executeAll, executed_executeAll calls, executed_execute, List.append_assoc,
      List.singleton_append]

/-- **What a queue still holds is told by the number of calls on it.** -/
theorem queues_executeAll (device : Text) (channel : Channel) :
    ∀ (calls : List Call) (replay : Replay),
      (executeAll calls replay).2.queues device channel =
        remaining (replay.queues device channel) (calls.countP (·.isOn device channel))
  | [], replay => by rw [executeAll, List.countP_nil, remaining_zero]
  | call :: calls, replay => by
    rw [executeAll, queues_executeAll device channel calls, queues_execute, remaining_remaining,
      List.countP_cons, Nat.add_comm]

/-- A call answers from the source that the calls before it leave. -/
theorem getElem?_executeAll : ∀ (calls : List Call) (replay : Replay) {i : Nat} {call : Call},
    calls[i]? = some call →
    (executeAll calls replay).1[i]? =
      some (execute call (executeAll (calls.take i) replay).2).1
  | _ :: _, _, 0, _, hcall => by
    cases hcall
    rfl
  | _ :: calls, _, _ + 1, _, hcall => getElem?_executeAll calls _ hcall

/-- The answer to a call, from the replies that its queue had at the start and the number of
earlier calls on the same queue. -/
theorem answer_executeAll {calls : List Call} {i : Nat} {call : Call} (replay : Replay)
    (hcall : calls[i]? = some call) :
    let replies := replay.queues call.device call.channel
    let earlier := (calls.take i).countP (·.isOn call.device call.channel)
    (executeAll calls replay).1[i]? =
      some (call.answerFrom replies[min earlier (replies.length - 1)]?) := by
  intro replies earlier
  rw [getElem?_executeAll calls replay hcall, execute_answer, queues_executeAll, head?_remaining]

/-- **A source replays what was scripted for each device and channel, whatever is asked of the
others.** A call is answered by the reply whose place is the number of earlier calls on the same
device and channel, and by the last one when there are no more; with nothing scripted it finds no
channel. All calls are recorded, those that fail too. -/
theorem executeAll_build (steps : List Scripting) (calls : List Call) :
    let run := executeAll calls (build steps)
    run.1.length = calls.length ∧
    (∀ i call, calls[i]? = some call →
      let replies := steps.flatMap (·.repliesFor call.device call.channel)
      let earlier := (calls.take i).countP (·.isOn call.device call.channel)
      (replies = [] →
        run.1[i]? = some (.error (.channelUnavailable call.device call.channel.name))) ∧
      (replies ≠ [] → ∃ reply, replies[min earlier (replies.length - 1)]? = some reply ∧
        run.1[i]? = some (reply.answer call))) ∧
    run.2.executed = calls ∧
    (∀ device, run.2.callsTo device = calls.countP (·.device == device)) ∧
    run.2.commands = calls.map (·.command) := by
  intro run
  have hexecuted : run.2.executed = calls := by
    rw [executed_executeAll, executed_build, List.nil_append]
  refine ⟨length_executeAll calls _, fun i call hcall => ?_, hexecuted, fun device => ?_, ?_⟩
  · intro replies earlier
    have hanswer : run.1[i]? =
        some (call.answerFrom replies[min earlier (replies.length - 1)]?) := by
      rw [answer_executeAll _ hcall, queues_build]
    refine ⟨fun hnone => ?_, fun hsome => ?_⟩
    · rw [hanswer, hnone]
      rfl
    · have hlast : min earlier (replies.length - 1) < replies.length := by
        have := List.length_pos_iff.2 hsome
        omega
      rw [List.getElem?_eq_getElem hlast] at hanswer ⊢
      exact ⟨_, rfl, hanswer⟩
  · rw [callsTo, hexecuted, ← List.countP_eq_length_filter]
  · rw [commands, hexecuted]

/-- A call on a device from the management command line. -/
def showOn (device : Text) : Call := ⟨device, .managementCli, "show ip route".toList⟩

/-- Device `a` is scripted in two steps, around one for device `b`. -/
def splitSteps : List Scripting :=
  [.script ['a'] .managementCli [.output "first".toList],
    .always ['b'] .managementCli "other".toList,
    .script ['a'] .managementCli [.failure 1 "down".toList, .output "last".toList]]

/-- Calls on `a`, with others between them. -/
def mixedCalls : List Call :=
  [showOn ['a'], showOn ['c'], showOn ['a'], showOn ['b'], showOn ['a'], showOn ['a']]

/-- The third call on `a` and the fourth find the last reply, and the call on `c` finds none. -/
theorem executeAll_build_splitSteps :
    mixedCalls[1]? = some (showOn ['c']) ∧ mixedCalls[2]? = some (showOn ['a']) ∧
      mixedCalls[5]? = some (showOn ['a']) ∧
      let run := executeAll mixedCalls (build splitSteps)
      run.1[1]? = some (.error (.channelUnavailable ['c'] "management-cli".toList)) ∧
        run.1[2]? = some (.error (.failed ['a'] "show ip route".toList 1 "down".toList)) ∧
        run.1[5]? = some (.ok "last".toList) ∧ run.2.callsTo ['a'] = 4 := by
  obtain ⟨-, hanswer, -, hcount, -⟩ := executeAll_build splitSteps mixedCalls
  obtain ⟨down, hdown, hsecond⟩ := (hanswer 2 (showOn ['a']) rfl).2 (by decide)
  obtain ⟨last, hlast, hfourth⟩ := (hanswer 5 (showOn ['a']) rfl).2 (by decide)
  cases hdown
  cases hlast
  exact ⟨rfl, rfl, rfl, (hanswer 1 (showOn ['c']) rfl).1 rfl, hsecond, hfourth, hcount ['a']⟩

end Replay
end RouteWatch
