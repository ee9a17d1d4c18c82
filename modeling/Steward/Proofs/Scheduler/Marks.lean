import Steward.Proofs.Scheduler.Bodies
/-!
# What events leave on tasks

An event adds a task, or it leaves one mark on one task.  `marks_of_change` lists the marks together
with the stage of the loop that leaves them, so that nobody else has to look at how a step changes
the tasks.

A task with a loop shows at which stage its loop stands: whether it is scheduled or running, and
whether a run of it has been announced that is not over.
-/

set_option autoImplicit false

namespace Steward

def TaskStats.over (stats : TaskStats) : Nat := stats.succeeded + stats.failed + stats.timedOut

namespace Scheduler

variable {workers : Nat}

/-! ## Marks -/

inductive Mark where
  | nothing
  | announced
  | began
  | ended (outcome : RunOutcome)
  | resubmitted (loop : Nat)
  | closed

def Mark.on : Mark → Task → Task
  | .nothing, task => task
  | .announced, task =>
    { task with
      state := .scheduled
      stats := { task.stats with scheduled := task.stats.scheduled + 1 } }
  | .began, task => { task with state := .running }
  | .ended outcome, task => Scheduler.ended outcome task
  | .resubmitted loop, task => { task with state := .scheduled, lastError := none, runner := loop }
  | .closed, task => { task with state := .closed }

def LoopStage.owed : LoopStage → Nat
  | .announcing _ => 0
  | .sleeping _ | .acquiring | .running _ _ | .reaping _ _ => 1

/-- An event with this reply leaves this mark on the task of this number. -/
inductive Marks (scheduler : Scheduler) : Event → Reply → Nat → Mark → Prop where
  | nothing {event : Event} {reply : Reply} {index : Nat}
      (uncounted : ∀ task outcome, reply ≠ .runEnded task outcome)
      (unsubmitted : ∀ loop task, event = .resubmit loop task → reply ≠ .accepted) :
      Marks scheduler event reply index .nothing
  | announced {loop now body index : Nat} {closingFirst : Bool} {delay : Duration}
      (standing : scheduler.loops.lookup loop = some ⟨index, .announcing delay⟩) :
      Marks scheduler (.pollLoop loop now body closingFirst) .progress index .announced
  | began {loop now body index : Nat} {closingFirst : Bool}
      (standing : scheduler.loops.lookup loop = some ⟨index, .acquiring⟩) :
      Marks scheduler (.pollLoop loop now body closingFirst) (.startBody index body) index .began
  | ended {loop now body index : Nat} {closingFirst : Bool} {stage : LoopStage}
      {outcome : RunOutcome} (standing : scheduler.loops.lookup loop = some ⟨index, stage⟩)
      (owed : stage.owed = 1) :
      Marks scheduler (.pollLoop loop now body closingFirst) (.runEnded index outcome) index
        (.ended outcome)
  | resubmitted {loop index : Nat} {task : Task} (there : scheduler.tasks[index]? = some task)
      (failed : task.state = .failed) :
      Marks scheduler (.resubmit loop index) .accepted index (.resubmitted loop)
  | closed {call index : Nat}
      (standing : scheduler.closers.lookup call = some (.joining index))
      (undriven : ∀ loop stage, scheduler.loops.lookup loop ≠ some ⟨index, stage⟩) :
      Marks scheduler (.pollShutdown call) .progress index .closed

/-! ## Stages and tasks -/

def LoopStage.Shows : LoopStage → TaskState → Prop
  | .announcing _, state =>
    state = .idle ∨ state = .scheduled ∨ state = .succeeded ∨ state = .timedOut
  | .sleeping _, state | .acquiring, state => state = .scheduled
  | .running _ _, state | .reaping _ _, state => state = .running

/-- A task is at the stage of the loop that drives it. -/
structure LoopStage.Fits (stage : LoopStage) (task : Task) : Prop where
  shows : stage.Shows task.state
  unexplained : task.lastError = none
  runs : task.stats.scheduled = task.stats.over + stage.owed

theorem LoopStage.Shows.open {stage : LoopStage} {state : TaskState} (shows : stage.Shows state) :
    state ≠ .failed ∧ state ≠ .closed := by
  constructor
  · rintro rfl
    cases stage <;> simp [LoopStage.Shows] at shows
  · rintro rfl
    cases stage <;> simp [LoopStage.Shows] at shows

theorem LoopStage.owed_le_one (stage : LoopStage) : stage.owed ≤ 1 := by
  cases stage <;> simp [LoopStage.owed]

theorem owed_of_idle {stage : LoopStage} (shows : stage.Shows .idle) : stage.owed = 0 := by
  cases stage <;> simp [LoopStage.Shows, LoopStage.owed] at shows ⊢

theorem owed_of_running {stage : LoopStage} (shows : stage.Shows .running) : stage.owed = 1 := by
  cases stage <;> simp [LoopStage.Shows, LoopStage.owed] at shows ⊢

theorem over_ended (outcome : RunOutcome) (counts : outcome ≠ .closed) (task : Task) :
    (ended outcome task).stats.over = task.stats.over + 1 ∧
      (ended outcome task).stats.scheduled = task.stats.scheduled := by
  cases outcome with
  | succeeded | timedOut | failed =>
      refine ⟨?_, rfl⟩
      simp only [ended, TaskStats.over]
      omega
  | closed => exact absurd rfl counts

theorem fits_new (name : String) (timing : Timing) (loop : Nat) (delay : Duration) :
    (LoopStage.announcing delay).Fits (Task.new name timing loop) :=
  ⟨.inl rfl, rfl, rfl⟩

theorem fits_ended {stage : LoopStage} {shown task : Task} (fits : stage.Fits shown)
    (owed : stage.owed = 1) {index : Nat} {outcome : RunOutcome} {standing : Loop}
    (after : afterRun task index outcome = some standing) :
    standing.stage.Fits (ended outcome shown) := by
  have counts : outcome ≠ .closed := by
    rintro rfl
    cases after
  obtain rfl := afterRun_eq after
  obtain ⟨counted, scheduled⟩ := over_ended outcome counts shown
  constructor
  case shows =>
    cases outcome with
    | succeeded => exact .inr (.inr (.inl rfl))
    | timedOut => exact .inr (.inr (.inr rfl))
    | failed | closed => cases after
  case unexplained =>
    cases outcome with
    | succeeded | timedOut => exact fits.unexplained
    | failed | closed => cases after
  case runs =>
    rw [counted, scheduled, fits.runs, owed]
    rfl

section Step

variable {scheduler next : Scheduler} {event : Event} {reply : Reply}

theorem unmarked (scheduler : Scheduler) (index : Nat) :
    scheduler.tasks = scheduler.tasks.modify index Mark.nothing.on :=
  (List.modify_id index scheduler.tasks).symm

/-- A poll of a loop leaves a mark on the task of the loop.  If the loop is still there, the task
fits its stage again. -/
theorem LoopChange.marks {loop index now body : Nat} {task : Task} {stage : LoopStage}
    (change : LoopChange scheduler loop index task now body stage next reply)
    (found : scheduler.loops.lookup loop = some ⟨index, stage⟩) (closingFirst : Bool) :
    ∃ mark, Marks scheduler (.pollLoop loop now body closingFirst) reply index mark ∧
      next.tasks = scheduler.tasks.modify index mark.on ∧
      ∀ standing shown, next.loops.lookup loop = some standing → stage.Fits shown →
        standing.stage.Fits (mark.on shown) := by
  have same : ∀ standing shown, scheduler.loops.lookup loop = some standing → stage.Fits shown →
      standing.stage.Fits shown := by
    intro standing shown there fits
    cases found.symm.trans there
    exact fits
  cases change with
  | waited => exact ⟨.nothing, .nothing nofun nofun, unmarked scheduler index, same⟩
  | asked => exact ⟨.nothing, .nothing nofun nofun, unmarked scheduler index, same⟩
  | announced =>
      refine ⟨.announced, .announced found, rfl, ?_⟩
      intro standing shown after fits
      rw [loops_setLoop, if_pos rfl] at after
      cases after
      exact ⟨rfl, fits.unexplained, congrArg (· + 1) fits.runs⟩
  | exited =>
      refine ⟨.nothing, .nothing nofun nofun, unmarked scheduler index, ?_⟩
      intro standing shown after fits
      rw [loops_endLoop, if_pos rfl] at after
      cases after
  | woke =>
      refine ⟨.nothing, .nothing nofun nofun, unmarked scheduler index, ?_⟩
      intro standing shown after fits
      rw [loops_setLoop, if_pos rfl] at after
      cases after
      exact ⟨fits.shows, fits.unexplained, fits.runs⟩
  | quit =>
      refine ⟨.ended .closed, .ended found rfl, tasks_endRun .., ?_⟩
      intro standing shown after fits
      rw [loops_endRun, if_pos rfl] at after
      cases after
  | began =>
      refine ⟨.began, .began found, rfl, ?_⟩
      intro standing shown after fits
      rw [loops_setLoop, if_pos rfl] at after
      cases after
      exact ⟨rfl, fits.unexplained, fits.runs⟩
  | stopped =>
      refine ⟨.nothing, .nothing nofun nofun, unmarked scheduler index, ?_⟩
      intro standing shown after fits
      rw [loops_setLoop, if_pos rfl] at after
      cases after
      exact ⟨fits.shows, fits.unexplained, fits.runs⟩
  | overran =>
      refine ⟨.nothing, .nothing nofun nofun, unmarked scheduler index, ?_⟩
      intro standing shown after fits
      rw [loops_setLoop, if_pos rfl] at after
      cases after
      exact ⟨fits.shows, fits.unexplained, fits.runs⟩
  | @finished watched deadline how =>
      refine ⟨.ended how.outcome, .ended found rfl, tasks_endRun .., ?_⟩
      intro standing shown after fits
      rw [loops_endRun, if_pos rfl] at after
      exact fits_ended fits rfl after
  | @reaped watched cause how =>
      refine ⟨.ended cause.outcome, .ended found rfl, tasks_endRun .., ?_⟩
      intro standing shown after fits
      rw [loops_endRun, if_pos rfl] at after
      exact fits_ended fits rfl after

/-- An event adds a task, or leaves one mark on one task. -/
theorem marks_of_change (driven : Driven scheduler) (change : Change scheduler event next reply) :
    (∃ loop name timing, event = .schedule loop name timing ∧ reply = .accepted ∧
        next.tasks = scheduler.tasks ++ [Task.new name timing loop]) ∨
      ∃ index mark, Marks scheduler event reply index mark ∧
        next.tasks = scheduler.tasks.modify index mark.on := by
  cases change with
  | refused | turnedAway | unfit | ended | jobEnded | closed | closedBefore | droppedShutdown =>
      exact .inr ⟨0, .nothing, .nothing nofun nofun, unmarked scheduler 0⟩
  | spawned => exact .inr ⟨0, .nothing, .nothing nofun nofun, unmarked scheduler 0⟩
  | polledJob _ change =>
      refine .inr ⟨0, .nothing, .nothing ?_ nofun, ?_⟩
      · cases change <;> exact nofun
      · cases change <;> exact unmarked scheduler 0
  | @scheduled loop name timing => exact .inl ⟨loop, name, timing, rfl, rfl, rfl⟩
  | resubmitted there _ _ failed => exact .inr ⟨_, _, .resubmitted there failed, rfl⟩
  | @polledLoop _ _ _ _ closingFirst _ _ _ _ standing _ _ change =>
      obtain ⟨mark, marks, tasks, -⟩ := change.marks standing closingFirst
      exact .inr ⟨_, mark, marks, tasks⟩
  | polledShutdown standing change =>
      cases change with
      | waited | drained | returned =>
          exact .inr ⟨0, .nothing, .nothing nofun nofun, unmarked scheduler 0⟩
      | @joined index task there gone =>
          refine .inr ⟨index, .closed, .closed standing ?_, rfl⟩
          intro loop stage found
          obtain ⟨task', there', runs, -⟩ := driven loop _ found
          cases there.symm.trans there'
          rw [runs, found] at gone
          cases gone

theorem task_of_modify {index other : Nat} {edit : Task → Task} {later : Task}
    (tasks : next.tasks = scheduler.tasks.modify index edit)
    (there : next.tasks[other]? = some later) :
    ∃ task, scheduler.tasks[other]? = some task ∧
      later = if index = other then edit task else task := by
  rw [tasks, List.getElem?_modify] at there
  cases before : scheduler.tasks[other]? with
  | none =>
      rw [before] at there
      cases there
  | some task =>
      rw [before] at there
      refine ⟨task, rfl, ?_⟩
      simpa using there.symm

theorem task_of_append {index : Nat} {added later : Task}
    (tasks : next.tasks = scheduler.tasks ++ [added]) (there : next.tasks[index]? = some later) :
    scheduler.tasks[index]? = some later ∨ index = scheduler.tasks.length ∧ later = added := by
  rw [tasks] at there
  rcases Nat.lt_or_ge index scheduler.tasks.length with within | beyond
  · rw [List.getElem?_append_left within] at there
    exact .inl there
  · rw [List.getElem?_append_right beyond] at there
    obtain ⟨first, same⟩ := List.getElem?_eq_some_iff.mp there
    have atEnd : index - scheduler.tasks.length = 0 := by simpa using first
    refine .inr ⟨by omega, ?_⟩
    simpa [atEnd] using same.symm

end Step

end Scheduler

end Steward
