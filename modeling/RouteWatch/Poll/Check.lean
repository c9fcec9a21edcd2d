/-
Checks on what a poll has done: that the route converged and on which tick,
what was observed, and which commands were run. A check that does not hold
tells what was expected and what was found.
-/
import RouteWatch.Json.Printer
import RouteWatch.Poll.Watch

namespace RouteWatch

inductive CheckError where
  | notConverged (device : Text) (target : Prefix) (attempts : Nat)
    (differences : List Difference)
  | attemptsDiffer (expected actual : Nat)
  | observedDiffers (expected : Option Route) (actual : Json)
  | commandMissing (command : Text) (executed : List Text)
  | commandUnexpected (command : Text)
  | countDiffers (expected actual : Nat)

/-- An expected observation as a term. -/
def CheckError.observationText : Option Route → Text
  | some route => "Some(".toList ++ route.toMapping.term ++ [')']
  | none => "None".toList

def CheckError.message : CheckError → Text
  | notConverged device target attempts differences =>
    "Route ".toList ++ target.print ++ " on ".toList ++ device ++
      " did not converge after ".toList ++ Text.ofNat attempts ++ " attempts: ".toList ++
      Difference.summary differences
  | attemptsDiffer expected actual =>
    "Expected convergence on attempt ".toList ++ Text.ofNat expected ++ ", got ".toList ++
      Text.ofNat actual
  | observedDiffers expected actual =>
    "Observed route differs: expected ".toList ++ observationText expected ++ ", got ".toList ++
      actual.compact
  | commandMissing command executed =>
    "Expected command '".toList ++ command ++ "' in ".toList ++ Text.quotedList executed
  | commandUnexpected command =>
    "Command '".toList ++ command ++ "' was executed but should not have been".toList
  | countDiffers expected actual =>
    "Expected ".toList ++ Text.ofNat expected ++ " commands, found ".toList ++ Text.ofNat actual

namespace Report

def checkConverged (report : Report) : Except CheckError Unit :=
  if report.hasConverged then .ok ()
  else .error (.notConverged report.device report.target report.attempts report.differences)

def checkAttempts (report : Report) (expected : Nat) : Except CheckError Unit :=
  if report.attempts = expected then .ok ()
  else .error (.attemptsDiffer expected report.attempts)

def checkObserved (report : Report) (expected : Option Route) : Except CheckError Unit :=
  if report.observed = expected then .ok ()
  else .error (.observedDiffers expected report.observedMapping)

end Report

namespace Command

/-- The command is one of those that were run. -/
def checkExecuted (commands : List Text) (command : Text) : Except CheckError Unit :=
  if commands.contains command then .ok () else .error (.commandMissing command commands)

/-- The command is none of those that were run. -/
def checkNotExecuted (commands : List Text) (command : Text) : Except CheckError Unit :=
  if commands.contains command then .error (.commandUnexpected command) else .ok ()

/-- So many commands were run. -/
def checkCount (commands : List Text) (expected : Nat) : Except CheckError Unit :=
  if commands.length = expected then .ok () else .error (.countDiffers expected commands.length)

end Command
end RouteWatch
