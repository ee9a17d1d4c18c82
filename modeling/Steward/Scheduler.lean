import Steward.Cache
import Steward.Failure
import Steward.Metrics
import Steward.Scheduler.Permits
import Steward.Scheduler.Task
/-!
# The scheduler

Every recurring task is driven by a loop of its own.  The loop sleeps, asks for a permit, has a
body started, and watches over it: a body that is done lets the loop go on, one that takes longer
than its time is aborted, and the loop waits until it is gone.  A task that fails stops until it
is resubmitted.  The permits are shared with background jobs.

Shutting down refuses everything new, aborts the jobs, and then waits for one loop after the
other.  Loops, bodies, jobs and shutdowns are told apart by number, and no number is used twice.
A poll does the next thing that its loop, job or shutdown can do, and the reply says what it was;
a poll that can do nothing replies that it waits.
-/

set_option autoImplicit false

namespace Steward

namespace Scheduler

inductive BodyEnd where
  | done (result : Except String Unit)
  | panicked
  | cancelled

def BodyEnd.outcome : BodyEnd → RunOutcome
  | .done (.ok ()) => .succeeded
  | .done (.error reason) => .failed reason
  | .panicked => .failed "task panicked"
  | .cancelled => .failed "task cancelled"

inductive AbortCause where
  | timeout
  | shutdown
  deriving DecidableEq, Repr

def AbortCause.outcome : AbortCause → RunOutcome
  | .timeout => .timedOut
  | .shutdown => .closed

inductive LoopStage where
  | announcing (delay : Duration)
  | sleeping (wake : Nat)
  | acquiring
  | running (body : Nat) (deadline : Nat)
  | reaping (body : Nat) (cause : AbortCause)
  deriving DecidableEq

structure Loop where
  task : Nat
  stage : LoopStage
  deriving DecidableEq

inductive JobStage where
  | spawned
  | queued
  | running
  deriving DecidableEq, Repr

inductive CloseStage where
  | draining
  | joining (task : Nat)
  deriving DecidableEq, Repr

/-- A loop that is polled may start `body`.  If the scheduler is shut down at the very moment at
which the loop could go on anyhow, `closingFirst` tells which it sees.  A job ends when it is done,
or is gone without being done, which as long as the pool is open only one can be that has begun. -/
inductive Event where
  | schedule (loop : Nat) (name : String) (timing : Timing)
  | resubmit (loop : Nat) (task : Nat)
  | pollLoop (loop : Nat) (now : Nat) (body : Nat) (closingFirst : Bool)
  | bodyEnded (body : Nat) (how : BodyEnd)
  | spawnJob (job : Nat)
  | pollJob (job : Nat)
  | jobEnded (job : Nat)
  | shutdown (call : Nat)
  | pollShutdown (call : Nat)
  | dropShutdown (call : Nat)

/-- The loop of a run that has ended goes on or has exited.  Whoever is to `wait` can do nothing
before the moment given, or before something else happens. -/
inductive Reply where
  | accepted
  | failed (error : ScheduleError)
  | wait (wake : Option Nat)
  | progress
  | startBody (task : Nat) (body : Nat)
  | abortBody (body : Nat)
  | runEnded (task : Nat) (outcome : RunOutcome)
  | exited
  | work
  | abortJobs (jobs : List Nat)
  | returned
  | refused

end Scheduler

/-- Bodies are those that were started and are not yet taken note of, with `none` as long as they
live. -/
structure Scheduler where
  permits : Permits
  tasks : List Task
  loops : List (Nat × Scheduler.Loop)
  bodies : List (Nat × Option Scheduler.BodyEnd)
  jobs : List (Nat × Scheduler.JobStage)
  closing : Bool
  closers : List (Nat × Scheduler.CloseStage)

namespace Scheduler

def new (workers : Nat) : Scheduler := ⟨.new workers, [], [], [], [], false, []⟩

def mapTask (scheduler : Scheduler) (task : Nat) (change : Task → Task) : Scheduler :=
  { scheduler with tasks := scheduler.tasks.modify task change }

def setState (scheduler : Scheduler) (task : Nat) (state : TaskState) : Scheduler :=
  scheduler.mapTask task fun t => { t with state := state }

def setLoop (scheduler : Scheduler) (loop : Nat) (stage : Loop) : Scheduler :=
  { scheduler with loops := (loop, stage) :: scheduler.loops.filter (·.1 != loop) }

def endLoop (scheduler : Scheduler) (loop : Nat) : Scheduler :=
  { scheduler with loops := scheduler.loops.filter (·.1 != loop) }

def setBody (scheduler : Scheduler) (body : Nat) (how : Option BodyEnd) : Scheduler :=
  { scheduler with bodies := (body, how) :: scheduler.bodies.filter (·.1 != body) }

def forgetBody (scheduler : Scheduler) (body : Nat) : Scheduler :=
  { scheduler with bodies := scheduler.bodies.filter (·.1 != body) }

def setJob (scheduler : Scheduler) (job : Nat) (stage : JobStage) : Scheduler :=
  { scheduler with jobs := (job, stage) :: scheduler.jobs.filter (·.1 != job) }

def setCloser (scheduler : Scheduler) (call : Nat) (stage : CloseStage) : Scheduler :=
  { scheduler with closers := (call, stage) :: scheduler.closers.filter (·.1 != call) }

def endCloser (scheduler : Scheduler) (call : Nat) : Scheduler :=
  { scheduler with closers := scheduler.closers.filter (·.1 != call) }

/-! ## Loops -/

/-- The run of `task` is over: the permit is given back and the outcome is counted.  The loop
goes on after a success and after a timeout only. -/
def endRun (scheduler : Scheduler) (loop : Nat) (task : Task) (index : Nat)
    (outcome : RunOutcome) : Scheduler :=
  let scheduler := { scheduler with permits := scheduler.permits.leave loop }
  match outcome with
  | .succeeded =>
    (scheduler.mapTask index fun t =>
      { t with
        state := .succeeded
        stats := { t.stats with succeeded := t.stats.succeeded + 1 } }).setLoop loop
      ⟨index, .announcing task.timing.interval⟩
  | .timedOut =>
    (scheduler.mapTask index fun t =>
      { t with
        state := .timedOut
        stats := { t.stats with timedOut := t.stats.timedOut + 1 } }).setLoop loop
      ⟨index, .announcing task.timing.interval⟩
  | .failed reason =>
    (scheduler.mapTask index fun t =>
      { t with
        state := .failed
        stats := { t.stats with failed := t.stats.failed + 1 }
        lastError := some reason }).endLoop loop
  | .closed => scheduler.endLoop loop

def pollLoop (scheduler : Scheduler) (loop : Nat) (index : Nat) (task : Task) (now : Nat)
    (body : Nat) (closingFirst : Bool) : LoopStage → Scheduler × Reply
  | .announcing delay =>
    ((scheduler.mapTask index fun t =>
      { t with
        state := .scheduled
        stats := { t.stats with scheduled := t.stats.scheduled + 1 } }).setLoop loop
      ⟨index, .sleeping (Moment.after now delay)⟩, .progress)
  | .sleeping wake =>
    if scheduler.closing && (closingFirst || now < wake) then (scheduler.endLoop loop, .exited)
    else if now < wake then (scheduler, .wait (some wake))
    else (scheduler.setLoop loop ⟨index, .acquiring⟩, .progress)
  | .acquiring =>
    if scheduler.closing then
      (scheduler.endRun loop task index .closed, .runEnded index .closed)
    else if !scheduler.permits.line.contains loop then
      ({ scheduler with permits := scheduler.permits.ask loop }, .progress)
    else if scheduler.permits.holders.contains loop then
      (((scheduler.setState index .running).setBody body none).setLoop loop
        ⟨index, .running body (Moment.after now task.timing.timeout)⟩, .startBody index body)
    else (scheduler, .wait none)
  | .running body deadline =>
    let ended := (scheduler.bodies.lookup body).bind id
    let ready := ended.isSome || deadline ≤ now
    if scheduler.closing && (closingFirst || !ready) then
      (scheduler.setLoop loop ⟨index, .reaping body .shutdown⟩, .abortBody body)
    else
      match ended with
      | some how =>
        ((scheduler.forgetBody body).endRun loop task index how.outcome,
          .runEnded index how.outcome)
      | none =>
        if ready then (scheduler.setLoop loop ⟨index, .reaping body .timeout⟩, .abortBody body)
        else (scheduler, .wait (some deadline))
  | .reaping body cause =>
    match (scheduler.bodies.lookup body).bind id with
    | some _ =>
      ((scheduler.forgetBody body).endRun loop task index cause.outcome,
        .runEnded index cause.outcome)
    | none => (scheduler, .wait none)

def pollJob (scheduler : Scheduler) (job : Nat) : JobStage → Scheduler × Reply
  | .running => (scheduler, .refused)
  | .spawned =>
    if scheduler.permits.closed then
      ({ scheduler with jobs := scheduler.jobs.filter (·.1 != job) }, .exited)
    else
      ({ scheduler with permits := scheduler.permits.ask job }.setJob job .queued, .progress)
  | .queued =>
    if scheduler.permits.closed then
      ({ scheduler with
          permits := scheduler.permits.leave job
          jobs := scheduler.jobs.filter (·.1 != job) }, .exited)
    else if scheduler.permits.holders.contains job then (scheduler.setJob job .running, .work)
    else (scheduler, .wait none)

/-! ## Shutting down -/

def pollShutdown (scheduler : Scheduler) (call : Nat) : CloseStage → Scheduler × Reply
  | .draining =>
    if scheduler.jobs.isEmpty then (scheduler.setCloser call (.joining 0), .progress)
    else (scheduler, .wait none)
  | .joining index =>
    match scheduler.tasks[index]? with
    | none => (scheduler.endCloser call, .returned)
    | some task =>
      if (scheduler.loops.lookup task.runner).isSome then (scheduler, .wait none)
      else ((scheduler.setState index .closed).setCloser call (.joining (index + 1)), .progress)

def uses (scheduler : Scheduler) (number : Nat) : Bool :=
  (scheduler.loops.lookup number).isSome || (scheduler.bodies.lookup number).isSome
    || (scheduler.jobs.lookup number).isSome || (scheduler.closers.lookup number).isSome

def step (scheduler : Scheduler) : Event → Scheduler × Reply
  | .schedule loop name timing =>
    if scheduler.uses loop then (scheduler, .refused)
    else if scheduler.closing then (scheduler, .failed .closed)
    else
      ({ scheduler with tasks := scheduler.tasks ++ [Task.new name timing loop] }.setLoop loop
        ⟨scheduler.tasks.length, .announcing timing.initialDelay⟩, .accepted)
  | .resubmit loop index =>
    match scheduler.tasks[index]? with
    | none => (scheduler, .refused)
    | some task =>
      if scheduler.uses loop then (scheduler, .refused)
      else if scheduler.closing then (scheduler, .failed .closed)
      else if task.state = .failed then
        ((scheduler.mapTask index fun t =>
          { t with state := .scheduled, lastError := none, runner := loop }).setLoop loop
          ⟨index, .announcing task.timing.initialDelay⟩, .accepted)
      else
        (scheduler, .failed (.invalidState ("task " ++ task.name ++ " is " ++ task.state.label
          ++ ", only failed tasks can be resubmitted")))
  | .pollLoop loop now body closingFirst =>
    match scheduler.loops.lookup loop with
    | none => (scheduler, .refused)
    | some standing =>
      match scheduler.tasks[standing.task]? with
      | none => (scheduler, .refused)
      | some task =>
        if scheduler.uses body then (scheduler, .refused)
        else scheduler.pollLoop loop standing.task task now body closingFirst standing.stage
  | .bodyEnded body how =>
    match scheduler.bodies.lookup body with
    | some none => (scheduler.setBody body (some how), .progress)
    | _ => (scheduler, .refused)
  | .spawnJob job =>
    if scheduler.uses job then (scheduler, .refused)
    else if scheduler.permits.closed then (scheduler, .failed .closed)
    else (scheduler.setJob job .spawned, .accepted)
  | .pollJob job =>
    match scheduler.jobs.lookup job with
    | some stage => scheduler.pollJob job stage
    | none => (scheduler, .refused)
  | .jobEnded job =>
    match scheduler.jobs.lookup job with
    | some stage =>
      if stage = .running ∨ scheduler.permits.closed then
        ({ scheduler with
            permits := scheduler.permits.leave job
            jobs := scheduler.jobs.filter (·.1 != job) }, .progress)
      else (scheduler, .refused)
    | none => (scheduler, .refused)
  | .shutdown call =>
    if scheduler.uses call then (scheduler, .refused)
    else if scheduler.closing then (scheduler, .returned)
    else
      ({ scheduler with closing := true, permits := scheduler.permits.close }.setCloser call
        .draining, .abortJobs (scheduler.jobs.map (·.1)))
  | .pollShutdown call =>
    match scheduler.closers.lookup call with
    | some stage => scheduler.pollShutdown call stage
    | none => (scheduler, .refused)
  | .dropShutdown call =>
    match scheduler.closers.lookup call with
    | some _ => (scheduler.endCloser call, .progress)
    | none => (scheduler, .refused)

def recorded (scheduler : Scheduler) : Reply → List Sample
  | .runEnded index outcome =>
    match scheduler.tasks[index]? with
    | some task => [.taskRun task.name outcome.label]
    | none => []
  | _ => []

end Scheduler

end Steward
