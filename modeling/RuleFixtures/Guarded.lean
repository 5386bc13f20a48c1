import RuleFixtures.Session

/-!
The end of a run: every fault becomes a line on the error stream and an exit code.

* `Fault.exitCode` is 130 for an interrupt and 2 for all else.
* `Fault.report` is what the user is shown: for a failure its message with details, for another
  fault its kind and message, for an interrupt nothing.
* `guarded` runs a step and takes up its fault, if it ends with one.
-/

namespace RuleFixtures

namespace Fault

/-- The exit code of a run that a fault ends. -/
def exitCode : Fault → Nat
  | .interrupted => 130
  | _ => 2

/-- The event logged for a fault. -/
def event (fault : Fault) : Log.Event :=
  match fault with
  | .failure _ => .commandFailed fault.kind fault.message fault.exitCode
  | .interrupted => .commandInterrupted
  | _ => .commandBroke fault.kind fault.message fault.exitCode

/-- What the user is shown for a fault. -/
def report (fault : Fault) : String :=
  match fault with
  | .failure told => told.line ++ "\n"
  | .interrupted => ""
  | _ => fault.kind ++ ": " ++ fault.message ++ "\n"

end Fault

/-- Runs a step that gives an exit code. A fault is logged if it is to be, then shown. -/
def guarded {β : Type} (logFaults : Bool) (act : Act (Session β) Nat) : StateM (Session β) Nat := do
  match ← act.run with
  | .ok code => return code
  | .error fault => do
    if logFaults then modify (Log.Journal.record fault.event)
    modify fun session => { session with notes := session.notes ++ [.told fault.report] }
    return fault.exitCode

end RuleFixtures
