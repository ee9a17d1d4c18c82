import Steward.Proofs.Run
import Steward.Scheduler
/-!
# What an event does to a scheduler

`Change` lists everything that one event can do to a scheduler, with the conditions under which it
does so and the reply that is given; what a poll does is listed apart for loops, jobs and shutdowns.
`change_step` says that the list is complete.
-/

set_option autoImplicit false

namespace Steward.Scheduler

theorem unused_iff {scheduler : Scheduler} {number : Nat} :
    scheduler.uses number = false ↔
      scheduler.loops.lookup number = none ∧ scheduler.bodies.lookup number = none ∧
        scheduler.jobs.lookup number = none ∧ scheduler.closers.lookup number = none := by
  simp [uses, and_assoc]

theorem ended_iff {scheduler : Scheduler} {body : Nat} {how : BodyEnd} :
    (scheduler.bodies.lookup body).bind id = some how ↔
      scheduler.bodies.lookup body = some (some how) := by
  cases scheduler.bodies.lookup body <;> simp

/-! ## Loops and bodies after a change of one part -/

section Parts

variable (scheduler : Scheduler)

@[simp] theorem loops_setLoop (loop : Nat) (standing : Loop) (other : Nat) :
    (scheduler.setLoop loop standing).loops.lookup other =
      if other = loop then some standing else scheduler.loops.lookup other :=
  lookup_placed scheduler.loops loop other standing

@[simp] theorem loops_endLoop (loop other : Nat) :
    (scheduler.endLoop loop).loops.lookup other =
      if other = loop then none else scheduler.loops.lookup other :=
  lookup_forgotten scheduler.loops loop other

@[simp] theorem bodies_setBody (body : Nat) (how : Option BodyEnd) (other : Nat) :
    (scheduler.setBody body how).bodies.lookup other =
      if other = body then some how else scheduler.bodies.lookup other :=
  lookup_placed scheduler.bodies body other how

@[simp] theorem bodies_forgetBody (body other : Nat) :
    (scheduler.forgetBody body).bodies.lookup other =
      if other = body then none else scheduler.bodies.lookup other :=
  lookup_forgotten scheduler.bodies body other

@[simp] theorem loops_mapTask (index : Nat) (change : Task → Task) :
    (scheduler.mapTask index change).loops = scheduler.loops := rfl

@[simp] theorem bodies_mapTask (index : Nat) (change : Task → Task) :
    (scheduler.mapTask index change).bodies = scheduler.bodies := rfl

@[simp] theorem loops_setState (index : Nat) (state : TaskState) :
    (scheduler.setState index state).loops = scheduler.loops := rfl

@[simp] theorem bodies_setState (index : Nat) (state : TaskState) :
    (scheduler.setState index state).bodies = scheduler.bodies := rfl

@[simp] theorem loops_setBody (body : Nat) (how : Option BodyEnd) :
    (scheduler.setBody body how).loops = scheduler.loops := rfl

@[simp] theorem loops_forgetBody (body : Nat) :
    (scheduler.forgetBody body).loops = scheduler.loops := rfl

@[simp] theorem bodies_setLoop (loop : Nat) (standing : Loop) :
    (scheduler.setLoop loop standing).bodies = scheduler.bodies := rfl

@[simp] theorem bodies_endLoop (loop : Nat) :
    (scheduler.endLoop loop).bodies = scheduler.bodies := rfl

theorem tasks_mapTask (index : Nat) (change : Task → Task) (other : Nat) :
    (scheduler.mapTask index change).tasks[other]? =
      (scheduler.tasks[other]?).map fun task => if index = other then change task else task := by
  simp only [mapTask, List.getElem?_modify]
  cases scheduler.tasks[other]? <;> rfl

def afterRun (task : Task) (index : Nat) : RunOutcome → Option Loop
  | .succeeded | .timedOut => some ⟨index, .announcing task.timing.interval⟩
  | .failed _ | .closed => none

@[simp] theorem loops_endRun (loop : Nat) (task : Task) (index : Nat) (outcome : RunOutcome)
    (other : Nat) :
    (scheduler.endRun loop task index outcome).loops.lookup other =
      if other = loop then afterRun task index outcome else scheduler.loops.lookup other := by
  cases outcome <;> simp [endRun, afterRun]

@[simp] theorem bodies_endRun (loop : Nat) (task : Task) (index : Nat) (outcome : RunOutcome) :
    (scheduler.endRun loop task index outcome).bodies = scheduler.bodies := by
  cases outcome <;> rfl

end Parts

/-- Everything a poll of a loop can do. -/
inductive LoopChange (scheduler : Scheduler) (loop index : Nat) (task : Task) (now body : Nat) :
    LoopStage → Scheduler → Reply → Prop where
  | waited {stage : LoopStage} {wake : Option Nat} :
      LoopChange scheduler loop index task now body stage scheduler (.wait wake)
  | announced {delay : Duration} :
      LoopChange scheduler loop index task now body (.announcing delay)
        ((scheduler.mapTask index fun t =>
          { t with
            state := .scheduled
            stats := { t.stats with scheduled := t.stats.scheduled + 1 } }).setLoop loop
          ⟨index, .sleeping (Moment.after now delay)⟩) .progress
  | exited {wake : Nat} (closing : scheduler.closing = true) :
      LoopChange scheduler loop index task now body (.sleeping wake) (scheduler.endLoop loop)
        .exited
  | woke {wake : Nat} (due : wake ≤ now) :
      LoopChange scheduler loop index task now body (.sleeping wake)
        (scheduler.setLoop loop ⟨index, .acquiring⟩) .progress
  | quit (closing : scheduler.closing = true) :
      LoopChange scheduler loop index task now body .acquiring
        (scheduler.endRun loop task index .closed) (.runEnded index .closed)
  | asked (opened : scheduler.closing = false) (absent : loop ∉ scheduler.permits.line) :
      LoopChange scheduler loop index task now body .acquiring
        { scheduler with permits := scheduler.permits.ask loop } .progress
  | began (opened : scheduler.closing = false) (holds : loop ∈ scheduler.permits.holders) :
      LoopChange scheduler loop index task now body .acquiring
        (((scheduler.setState index .running).setBody body none).setLoop loop
          ⟨index, .running body (Moment.after now task.timing.timeout)⟩) (.startBody index body)
  | stopped {watched deadline : Nat} (closing : scheduler.closing = true) :
      LoopChange scheduler loop index task now body (.running watched deadline)
        (scheduler.setLoop loop ⟨index, .reaping watched .shutdown⟩) (.abortBody watched)
  | overran {watched deadline : Nat} (due : deadline ≤ now)
      (unended : ∀ how, scheduler.bodies.lookup watched ≠ some (some how)) :
      LoopChange scheduler loop index task now body (.running watched deadline)
        (scheduler.setLoop loop ⟨index, .reaping watched .timeout⟩) (.abortBody watched)
  | finished {watched deadline : Nat} {how : BodyEnd}
      (ended : scheduler.bodies.lookup watched = some (some how)) :
      LoopChange scheduler loop index task now body (.running watched deadline)
        ((scheduler.forgetBody watched).endRun loop task index how.outcome)
        (.runEnded index how.outcome)
  | reaped {watched : Nat} {cause : AbortCause} {how : BodyEnd}
      (ended : scheduler.bodies.lookup watched = some (some how)) :
      LoopChange scheduler loop index task now body (.reaping watched cause)
        ((scheduler.forgetBody watched).endRun loop task index cause.outcome)
        (.runEnded index cause.outcome)

inductive JobChange (scheduler : Scheduler) (job : Nat) : JobStage → Scheduler → Reply → Prop where
  | refused : JobChange scheduler job .running scheduler .refused
  | waited : JobChange scheduler job .queued scheduler (.wait none)
  | turnedAway (closed : scheduler.permits.closed = true) :
      JobChange scheduler job .spawned
        { scheduler with jobs := scheduler.jobs.filter (·.1 != job) } .exited
  | asked (opened : scheduler.permits.closed = false) :
      JobChange scheduler job .spawned
        ({ scheduler with permits := scheduler.permits.ask job }.setJob job .queued) .progress
  | withdrew (closed : scheduler.permits.closed = true) :
      JobChange scheduler job .queued
        { scheduler with
          permits := scheduler.permits.leave job
          jobs := scheduler.jobs.filter (·.1 != job) } .exited
  | began (opened : scheduler.permits.closed = false)
      (holds : job ∈ scheduler.permits.holders) :
      JobChange scheduler job .queued (scheduler.setJob job .running) .work

inductive CloseChange (scheduler : Scheduler) (call : Nat) :
    CloseStage → Scheduler → Reply → Prop where
  | waited {stage : CloseStage} : CloseChange scheduler call stage scheduler (.wait none)
  | drained (none : scheduler.jobs.isEmpty = true) :
      CloseChange scheduler call .draining (scheduler.setCloser call (.joining 0)) .progress
  | joined {index : Nat} {task : Task} (there : scheduler.tasks[index]? = some task)
      (gone : scheduler.loops.lookup task.runner = none) :
      CloseChange scheduler call (.joining index)
        ((scheduler.setState index .closed).setCloser call (.joining (index + 1))) .progress
  | returned {index : Nat} (all : scheduler.tasks[index]? = none) :
      CloseChange scheduler call (.joining index) (scheduler.endCloser call) .returned

/-- Everything an event can do to a scheduler. -/
inductive Change (scheduler : Scheduler) : Event → Scheduler → Reply → Prop where
  | refused {event : Event} : Change scheduler event scheduler .refused
  | turnedAway {event : Event}
      (closed : scheduler.closing = true ∨ scheduler.permits.closed = true) :
      Change scheduler event scheduler (.failed .closed)
  | scheduled {loop : Nat} {name : String} {timing : Timing} (unused : scheduler.uses loop = false)
      (opened : scheduler.closing = false) :
      Change scheduler (.schedule loop name timing)
        ({ scheduler with tasks := scheduler.tasks ++ [Task.new name timing loop] }.setLoop loop
          ⟨scheduler.tasks.length, .announcing timing.initialDelay⟩) .accepted
  | resubmitted {loop index : Nat} {task : Task} (there : scheduler.tasks[index]? = some task)
      (unused : scheduler.uses loop = false) (opened : scheduler.closing = false)
      (failed : task.state = .failed) :
      Change scheduler (.resubmit loop index)
        ((scheduler.mapTask index fun t =>
          { t with state := .scheduled, lastError := none, runner := loop }).setLoop loop
          ⟨index, .announcing task.timing.initialDelay⟩) .accepted
  | unfit {loop index : Nat} {task : Task} (there : scheduler.tasks[index]? = some task)
      (opened : scheduler.closing = false) (apart : task.state ≠ .failed) :
      Change scheduler (.resubmit loop index) scheduler
        (.failed (.invalidState ("task " ++ task.name ++ " is " ++ task.state.label
          ++ ", only failed tasks can be resubmitted")))
  | polledLoop {loop now body index : Nat} {closingFirst : Bool} {stage : LoopStage} {task : Task}
      {next : Scheduler} {reply : Reply}
      (standing : scheduler.loops.lookup loop = some ⟨index, stage⟩)
      (there : scheduler.tasks[index]? = some task) (unused : scheduler.uses body = false)
      (change : LoopChange scheduler loop index task now body stage next reply) :
      Change scheduler (.pollLoop loop now body closingFirst) next reply
  | ended {body : Nat} {how : BodyEnd} (alive : scheduler.bodies.lookup body = some none) :
      Change scheduler (.bodyEnded body how) (scheduler.setBody body (some how)) .progress
  | spawned {job : Nat} (unused : scheduler.uses job = false)
      (opened : scheduler.permits.closed = false) :
      Change scheduler (.spawnJob job) (scheduler.setJob job .spawned) .accepted
  | polledJob {job : Nat} {stage : JobStage} {next : Scheduler} {reply : Reply}
      (standing : scheduler.jobs.lookup job = some stage)
      (change : JobChange scheduler job stage next reply) :
      Change scheduler (.pollJob job) next reply
  | jobEnded {job : Nat} {stage : JobStage} (standing : scheduler.jobs.lookup job = some stage)
      (begun : stage = .running ∨ scheduler.permits.closed = true) :
      Change scheduler (.jobEnded job)
        { scheduler with
          permits := scheduler.permits.leave job
          jobs := scheduler.jobs.filter (·.1 != job) } .progress
  | closed {call : Nat} (unused : scheduler.uses call = false)
      (opened : scheduler.closing = false) :
      Change scheduler (.shutdown call)
        ({ scheduler with closing := true, permits := scheduler.permits.close }.setCloser call
          .draining) (.abortJobs (scheduler.jobs.map (·.1)))
  | closedBefore {call : Nat} (closing : scheduler.closing = true) :
      Change scheduler (.shutdown call) scheduler .returned
  | polledShutdown {call : Nat} {stage : CloseStage} {next : Scheduler} {reply : Reply}
      (standing : scheduler.closers.lookup call = some stage)
      (change : CloseChange scheduler call stage next reply) :
      Change scheduler (.pollShutdown call) next reply
  | droppedShutdown {call : Nat} {stage : CloseStage}
      (standing : scheduler.closers.lookup call = some stage) :
      Change scheduler (.dropShutdown call) (scheduler.endCloser call) .progress

/-! ## The list is complete -/

theorem change_pollLoop (scheduler : Scheduler) (loop index : Nat) (task : Task) (now body : Nat)
    (closingFirst : Bool) (stage : LoopStage) :
    LoopChange scheduler loop index task now body stage
      (scheduler.pollLoop loop index task now body closingFirst stage).1
      (scheduler.pollLoop loop index task now body closingFirst stage).2 := by
  cases stage with
  | announcing delay => exact .announced
  | sleeping wake =>
      simp only [pollLoop]
      split
      · next closing =>
          simp only [Bool.and_eq_true] at closing
          exact .exited closing.1
      · split
        · exact .waited
        · next due => exact .woke (Nat.not_lt.mp due)
  | acquiring =>
      simp only [pollLoop]
      split
      · next closing => exact .quit closing
      · next opened =>
          have opened := Bool.eq_false_iff.mpr opened
          split
          · next absent => exact .asked opened (by simpa using absent)
          · split
            · next holds => exact .began opened (by simpa using holds)
            · exact .waited
  | running watched deadline =>
      simp only [pollLoop]
      split
      · next closing =>
          simp only [Bool.and_eq_true] at closing
          exact .stopped closing.1
      · split
        · next how ended => exact .finished (ended_iff.mp ended)
        · next alive =>
            split
            · next ready =>
                have unended : ∀ how, scheduler.bodies.lookup watched ≠ some (some how) :=
                  fun how ended => Option.some_ne_none _ ((ended_iff.mpr ended).symm.trans alive)
                rw [alive] at ready
                exact .overran (of_decide_eq_true ready) unended
            · exact .waited
  | reaping watched cause =>
      simp only [pollLoop]
      split
      · next how ended => exact .reaped (ended_iff.mp ended)
      · exact .waited

theorem change_pollJob (scheduler : Scheduler) (job : Nat) (stage : JobStage) :
    JobChange scheduler job stage (scheduler.pollJob job stage).1
      (scheduler.pollJob job stage).2 := by
  cases stage with
  | running => exact .refused
  | spawned =>
      simp only [pollJob]
      split
      · next closed => exact .turnedAway closed
      · next opened => exact .asked (Bool.eq_false_iff.mpr opened)
  | queued =>
      simp only [pollJob]
      split
      · next closed => exact .withdrew closed
      · next opened =>
          split
          · next holds => exact .began (Bool.eq_false_iff.mpr opened) (by simpa using holds)
          · exact .waited

theorem change_pollShutdown (scheduler : Scheduler) (call : Nat) (stage : CloseStage) :
    CloseChange scheduler call stage (scheduler.pollShutdown call stage).1
      (scheduler.pollShutdown call stage).2 := by
  cases stage with
  | draining =>
      simp only [pollShutdown]
      split
      · next none => exact .drained none
      · exact .waited
  | joining index =>
      simp only [pollShutdown]
      split
      · next all => exact .returned all
      · next task there =>
          split
          · exact .waited
          · next present =>
              have gone := Option.not_isSome_iff_eq_none.mp present
              exact .joined there gone

theorem change_step (scheduler : Scheduler) (event : Event) :
    Change scheduler event (scheduler.step event).1 (scheduler.step event).2 := by
  cases event with
  | schedule loop name timing =>
      simp only [step]
      split
      · exact .refused
      · next unused =>
          split
          · next closing => exact .turnedAway (.inl closing)
          · next opened =>
              exact .scheduled (Bool.eq_false_iff.mpr unused) (Bool.eq_false_iff.mpr opened)
  | resubmit loop index =>
      simp only [step]
      split
      · exact .refused
      · next task there =>
          split
          · exact .refused
          · next unused =>
              split
              · next closing => exact .turnedAway (.inl closing)
              · next opened =>
                  split
                  · next failed =>
                      exact .resubmitted there (Bool.eq_false_iff.mpr unused)
                        (Bool.eq_false_iff.mpr opened) failed
                  · next apart => exact .unfit there (Bool.eq_false_iff.mpr opened) apart
  | pollLoop loop now body closingFirst =>
      simp only [step]
      split
      · exact .refused
      · next standing found =>
          split
          · exact .refused
          · next task there =>
              split
              · exact .refused
              · next unused =>
                  exact .polledLoop found there (Bool.eq_false_iff.mpr unused)
                    (change_pollLoop scheduler loop standing.task task now body closingFirst
                      standing.stage)
  | bodyEnded body how =>
      simp only [step]
      split
      · next alive => exact .ended alive
      · exact .refused
  | spawnJob job =>
      simp only [step]
      split
      · exact .refused
      · next unused =>
          split
          · next closed => exact .turnedAway (.inr closed)
          · next opened =>
              exact .spawned (Bool.eq_false_iff.mpr unused) (Bool.eq_false_iff.mpr opened)
  | pollJob job =>
      simp only [step]
      split
      · next stage standing => exact .polledJob standing (change_pollJob scheduler job stage)
      · exact .refused
  | jobEnded job =>
      simp only [step]
      split
      · next stage standing =>
          split
          · next begun => exact .jobEnded standing begun
          · exact .refused
      · exact .refused
  | shutdown call =>
      simp only [step]
      split
      · exact .refused
      · next unused =>
          split
          · next closing => exact .closedBefore closing
          · next opened =>
              exact .closed (Bool.eq_false_iff.mpr unused) (Bool.eq_false_iff.mpr opened)
  | pollShutdown call =>
      simp only [step]
      split
      · next stage standing =>
          exact .polledShutdown standing (change_pollShutdown scheduler call stage)
      · exact .refused
  | dropShutdown call =>
      simp only [step]
      split
      · next stage standing => exact .droppedShutdown standing
      · exact .refused

end Steward.Scheduler
