import Steward.Duration
import Steward.Text.Quoted
/-!
# Recurring tasks as they are seen from outside
-/

set_option autoImplicit false

namespace Steward

structure Timing where
  initialDelay : Duration
  interval : Duration
  timeout : Duration
  deriving DecidableEq

/-- Run at once, then after every `interval`. -/
def Timing.every (interval timeout : Duration) : Timing := ⟨.zero, interval, timeout⟩

inductive TaskState where
  | idle
  | scheduled
  | running
  | succeeded
  | failed
  | timedOut
  | closed
  deriving DecidableEq, Inhabited, Repr

namespace TaskState

def label : TaskState → String
  | .idle => "idle"
  | .scheduled => "scheduled"
  | .running => "running"
  | .succeeded => "succeeded"
  | .failed => "failed"
  | .timedOut => "timed_out"
  | .closed => "closed"

def ofLabel? (text : String) : Option TaskState :=
  [idle, scheduled, running, succeeded, failed, timedOut, closed].find? (·.label == text)

def shown : TaskState → String
  | .idle => "Idle"
  | .scheduled => "Scheduled"
  | .running => "Running"
  | .succeeded => "Succeeded"
  | .failed => "Failed"
  | .timedOut => "TimedOut"
  | .closed => "Closed"

end TaskState

structure TaskStats where
  scheduled : Nat
  succeeded : Nat
  failed : Nat
  timedOut : Nat
  deriving DecidableEq, Inhabited, Repr

inductive RunOutcome where
  | succeeded
  | timedOut
  | failed (reason : String)
  | closed
  deriving DecidableEq, Repr

def RunOutcome.label : RunOutcome → String
  | .succeeded => "succeeded"
  | .timedOut => "timed_out"
  | .failed _ => "failed"
  | .closed => "closed"

structure Task where
  name : String
  timing : Timing
  state : TaskState
  stats : TaskStats
  /-- The reason of the last failure, until the task is resubmitted. -/
  lastError : Option String
  /-- The loop that was started last for this task. -/
  runner : Nat
  deriving DecidableEq

namespace Task

def new (name : String) (timing : Timing) (runner : Nat) : Task :=
  ⟨name, timing, .idle, ⟨0, 0, 0, 0⟩, none, runner⟩

def shown (task : Task) : String :=
  "TaskHandle \x7b name: " ++ Text.quoted task.name ++ ", state: " ++ task.state.shown
    ++ ", stats: TaskStats \x7b scheduled: " ++ toString task.stats.scheduled
    ++ ", succeeded: " ++ toString task.stats.succeeded
    ++ ", failed: " ++ toString task.stats.failed
    ++ ", timed_out: " ++ toString task.stats.timedOut ++ " \x7d \x7d"

end Task

end Steward
