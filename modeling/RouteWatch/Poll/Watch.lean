/-
Watching a route: the same dump is taken again and again until the route is
as desired, a call fails or no tick is left. A run tells what was called and
when it paused, so the time it takes is part of its value.
-/
import RouteWatch.Device.Source
import RouteWatch.Dump.Format
import RouteWatch.Poll.Policy
import RouteWatch.Poll.Poller
import RouteWatch.Route.Difference

namespace RouteWatch

/-- What is waited for: the route exactly as expected, or anything else. -/
inductive Goal where
  | present
  | absent
  deriving DecidableEq

namespace Goal

def name : Goal → Text
  | present => "present".toList
  | absent => "absent".toList

/-- An observation with these differences is what is waited for. -/
def isSatisfied (goal : Goal) (differences : List Difference) : Bool :=
  match goal with
  | present => differences.isEmpty
  | absent => !differences.isEmpty

end Goal

/-- A route to be watched in one kind of dump. -/
structure Watch where
  query : Query
  format : Format
  goal : Goal
  policy : Policy

/-- What was last seen of a route on a device. -/
structure Report where
  device : Text
  target : Prefix
  goal : Goal
  hasConverged : Bool
  /-- The number of ticks. -/
  attempts : Nat
  observed : Option Route
  differences : List Difference
  deriving DecidableEq

/-- The ticks are used up and the route is not as desired. -/
structure NotConverged where
  device : Text
  target : Prefix
  goal : Goal
  attempts : Nat
  differences : List Difference
  deriving DecidableEq

def NotConverged.message (e : NotConverged) : Text :=
  "Route ".toList ++ e.target.print ++ " on ".toList ++ e.device ++ " did not become ".toList ++
    e.goal.name ++ " after ".toList ++ Text.ofNat e.attempts ++ " attempts: ".toList ++
    Difference.summary e.differences

namespace Report

/-- The mapping form of what was seen, without next-hops when nothing was. -/
def observedMapping (report : Report) : Json :=
  (report.observed.getD (Route.empty report.target)).toMapping

/-- The report, if the route has become as desired. -/
def ensureConverged (report : Report) : Except NotConverged Report :=
  if report.hasConverged then .ok report
  else .error ⟨report.device, report.target, report.goal, report.attempts, report.differences⟩

end Report

/-- What a run does, in order. -/
inductive Effect where
  | call (call : Call)
  | pause (length : Duration)
  deriving DecidableEq

/-- The nanoseconds of all pauses. -/
def Effect.paused : List Effect → Nat
  | [] => 0
  | call _ :: effects => paused effects
  | pause length :: effects => length.nanoseconds + paused effects

/-- The end of a run: the state of the source, what was done, and the result. -/
structure Run (σ α : Type) where
  source : σ
  effects : List Effect
  result : Except CallError α

namespace Run

/-- The nanoseconds spent in pauses. -/
def paused (run : Run σ α) : Nat := Effect.paused run.effects

/-- The run after other effects. -/
def after (effects : List Effect) (run : Run σ α) : Run σ α :=
  { run with effects := effects ++ run.effects }

end Run

namespace Watch

/-- The call that takes the dump on a device. -/
def call (watch : Watch) (device : Text) : Call :=
  ⟨device, watch.format.channel, watch.format.command watch.query⟩

/-- The route in a dump. -/
def observe (watch : Watch) (dump : Text) : Option Route := watch.format.extract dump watch.query

/-- The differences of a dump from what is expected. -/
def differences (watch : Watch) (dump : Text) : List Difference :=
  watch.query.expected.differences (watch.observe dump)

/-- The dump is what is waited for. -/
def isSatisfied (watch : Watch) (dump : Text) : Bool :=
  watch.goal.isSatisfied (watch.differences dump)

/-- What is reported when a dump is the last one. -/
def report (watch : Watch) (device dump : Text) (hasConverged : Bool) (attempts : Nat) :
    Report :=
  { device := device
    target := watch.query.target
    goal := watch.goal
    hasConverged := hasConverged
    attempts := attempts
    observed := watch.observe dump
    differences := watch.differences dump }

/-- Runs the ticks that a poller waits for. -/
def pollFrom (execute : Source σ) (watch : Watch) (device : Text) (poller : Poller) (s : σ) :
    Run σ Report :=
  let call := watch.call device
  match execute call s with
  | (.error e, s) => ⟨s, [.call call], .error e⟩
  | (.ok dump, s) =>
    let next := poller.record (watch.isSatisfied dump)
    match _h : next.state with
    | .polling _ =>
      (pollFrom execute watch device next s).after [.call call, .pause watch.policy.pause]
    | .done outcome =>
      let report := watch.report device dump outcome.isConverged outcome.attempts.toNat
      ⟨s, [.call call], .ok report⟩
termination_by poller.left
decreasing_by exact Poller.left_record_lt _h

/-- Watches the route on one device. -/
def poll (execute : Source σ) (watch : Watch) (device : Text) (s : σ) : Run σ Report :=
  pollFrom execute watch device (Poller.start watch.policy.maxAttempts) s

/-- Watches the route on one device after the other. The first call that fails ends the run. -/
def pollAll (execute : Source σ) (watch : Watch) : (devices : List Text) → σ →
    Run σ (List Report)
  | [], s => ⟨s, [], .ok []⟩
  | device :: devices, s =>
    let first := watch.poll execute device s
    match first.result with
    | .error e => ⟨first.source, first.effects, .error e⟩
    | .ok v =>
      let rest := (pollAll execute watch devices first.source).after first.effects
      { rest with result := rest.result.map (v :: ·) }

end Watch
end RouteWatch
