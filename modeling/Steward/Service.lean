import Steward.Failure
/-!
# The life of the service

A pure state machine: an event leads to a new state and to the action that the caller has to take.
-/

set_option autoImplicit false

namespace Steward

inductive ServiceState where
  | initializing
  | authenticating
  | running
  | draining (reason : ExitReason)
  | stopped (exitCode : Int)
  deriving DecidableEq, Inhabited, Repr

inductive ServiceEvent where
  | configLoaded
  | configInvalid
  | authenticated
  | authenticationFailed (reason : ExitReason)
  | shutdownSignal
  /-- A recurring task hit an error that nothing can be done about. -/
  | fatal (reason : ExitReason)
  | drained
  deriving DecidableEq, Repr

inductive ServiceAction where
  | authenticate
  | startTasks
  | drain (reason : ExitReason)
  | exit (reason : ExitReason)
  | none
  deriving DecidableEq, Inhabited, Repr

/-- The reason with which the process ends after an action that should have been an exit. -/
def ServiceAction.exitReason : ServiceAction → ExitReason
  | .exit reason => reason
  | _ => .failure

namespace ServiceState

def stop (reason : ExitReason) : ServiceState × ServiceAction :=
  (.stopped reason.code, .exit reason)

def handle : ServiceState → ServiceEvent → ServiceState × ServiceAction
  | .initializing, .configLoaded => (.authenticating, .authenticate)
  | .initializing, .configInvalid => stop .config
  | .authenticating, .authenticated => (.running, .startTasks)
  | .authenticating, .authenticationFailed reason => stop reason
  -- Nothing is scheduled yet, so there is nothing to drain.
  | .initializing, .shutdownSignal => stop .ok
  | .authenticating, .shutdownSignal => stop .ok
  | .running, .shutdownSignal => (.draining .ok, .drain .ok)
  | .running, .fatal reason => (.draining reason, .drain reason)
  | .draining reason, .drained => stop reason
  | state, _ => (state, .none)

end ServiceState

end Steward
