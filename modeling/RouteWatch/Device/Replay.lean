/-
A source that replays replies. Each device and channel has its own queue;
a call takes the first reply of its queue, and the last one stays for all
later calls. Every call is recorded, also one that fails.
-/
import RouteWatch.Device.Source

namespace RouteWatch

inductive Reply where
  | output (text : Text)
  /-- The command ends with a code other than zero. -/
  | failure (exitCode : Int) (text : Text)
  deriving DecidableEq

/-- What a reply answers to a call. -/
def Reply.answer (call : Call) : Reply → Except CallError Text
  | .output text => .ok text
  | .failure exitCode text => .error (.failed call.device call.command exitCode text)

/-- The queues of replies, and the calls that were made. -/
structure Replay where
  queues : Text → Channel → List Reply
  executed : List Call

namespace Replay

/-- Nothing is scripted. -/
def empty : Replay := ⟨fun _ _ => [], []⟩

/-- The queues with another one for one device and channel. -/
def setQueue (queues : Text → Channel → List Reply) (device : Text) (channel : Channel)
    (queue : List Reply) : Text → Channel → List Reply :=
  fun d c => if d = device ∧ c = channel then queue else queues d c

/-- More replies at the end of a queue. -/
def script (replay : Replay) (device : Text) (channel : Channel) (replies : List Reply) : Replay :=
  { replay with
    queues := setQueue replay.queues device channel (replay.queues device channel ++ replies) }

/-- The same output for every call. -/
def always (replay : Replay) (device : Text) (channel : Channel) (text : Text) : Replay :=
  replay.script device channel [.output text]

/-- One output for a number of calls, and another one from then on. -/
def switchAfter (replay : Replay) (device : Text) (channel : Channel) (ticks : Nat)
    (before after : Text) : Replay :=
  replay.script device channel (List.replicate ticks (.output before) ++ [.output after])

/-- Answers a call from its queue. -/
def execute : Source Replay := fun call replay =>
  let recorded := { replay with executed := replay.executed ++ [call] }
  match replay.queues call.device call.channel with
  | [] => (.error (.channelUnavailable call.device call.channel.name), recorded)
  | [last] => (last.answer call, recorded)
  | first :: rest =>
    (first.answer call,
      { recorded with queues := setQueue replay.queues call.device call.channel rest })

/-- The number of calls on a device. -/
def callsTo (replay : Replay) (device : Text) : Nat :=
  (replay.executed.filter (·.device == device)).length

/-- The commands of the calls. -/
def commands (replay : Replay) : List Text := replay.executed.map (·.command)

end Replay
end RouteWatch
