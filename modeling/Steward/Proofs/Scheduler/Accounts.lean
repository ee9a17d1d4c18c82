import Mathlib.Algebra.GroupWithZero.Nat
import Steward.Proofs.Scheduler.Books
import Steward.Proofs.Scheduler.Closing
import Steward.Proofs.Tallies
/-!
# Accounts of tasks

The books of tasks agree with what has happened to the scheduler.  Every resubmission stands for one
failure, so that a task has failed once more than it was resubmitted as long as it has an error.
The recorded outcomes are those that the tasks have counted.
-/

set_option autoImplicit false

namespace Steward

def TaskStats.count (stats : TaskStats) : RunOutcome → Nat
  | .succeeded => stats.succeeded
  | .timedOut => stats.timedOut
  | .failed _ => stats.failed
  | .closed => 0

namespace Scheduler

variable {workers : Nat}

/-! ## Resubmissions and runs -/

def Event.resubmits (index : Nat) : Event → Bool
  | .resubmit _ task => task == index
  | _ => false

def Reply.accepts : Reply → Bool
  | .accepted => true
  | _ => false

def resubmissions (life : Life workers) (index n : Nat) : Nat :=
  (List.range n).countP fun i => (life.event i).resubmits index && (life.reply i).accepts

def samples (life : Life workers) (n : Nat) : List Sample :=
  (List.range n).flatMap fun i => (life.before (i + 1)).recorded (life.reply i)

/-- How many runs with this outcome the tasks of this name have counted. -/
def runs (tasks : List Task) (name : String) (outcome : RunOutcome) : Nat :=
  ((tasks.filter (·.name == name)).map (·.stats.count outcome)).sum

theorem resubmissions_succ (life : Life workers) (index n : Nat) :
    resubmissions life index (n + 1) = resubmissions life index n +
      if ((life.event n).resubmits index && (life.reply n).accepts) = true then 1 else 0 := by
  simp only [resubmissions, List.range_succ, List.countP_append, List.countP_singleton]

theorem samples_succ (life : Life workers) (n : Nat) :
    samples life (n + 1) = samples life n ++ (life.before (n + 1)).recorded (life.reply n) := by
  simp only [samples, List.range_succ, List.flatMap_append, List.flatMap_singleton]

section Step

variable {scheduler next : Scheduler} {event : Event} {reply : Reply}

def Mark.restarts : Mark → Bool
  | .resubmitted _ => true
  | _ => false

theorem resubmits_of_marks {index marked : Nat} {mark : Mark}
    (marks : Marks scheduler event reply marked mark) :
    (event.resubmits index && reply.accepts) = (marked == index && mark.restarts) := by
  cases marks with
  | nothing _ unsubmitted =>
      have none : (event.resubmits index && reply.accepts) = false := by
        cases event with
        | resubmit loop task =>
            cases reply with
            | accepted => exact absurd rfl (unsubmitted loop task rfl)
            | _ => exact Bool.and_false _
        | _ => rfl
      rw [none]
      exact (Bool.and_false _).symm
  | resubmitted => rfl
  | announced | began | ended | closed => exact (Bool.and_false _).symm

theorem later_of_change (driven : Driven scheduler) (change : Change scheduler event next reply)
    {index : Nat} {task : Task} (there : scheduler.tasks[index]? = some task) :
    ∃ mark : Mark, next.tasks[index]? = some (mark.on task) ∧
      (Marks scheduler event reply index mark ∨ mark = .nothing) ∧
      (event.resubmits index && reply.accepts) = mark.restarts := by
  rcases marks_of_change driven change with
    ⟨loop, name, timing, rfl, -, tasks⟩ | ⟨marked, mark, marks, tasks⟩
  · have within := (List.getElem?_eq_some_iff.mp there).1
    refine ⟨.nothing, ?_, .inr rfl, rfl⟩
    rw [tasks, List.getElem?_append_left within]
    exact there
  · have restarts : (event.resubmits index && reply.accepts) = (marked == index && mark.restarts) :=
      resubmits_of_marks marks
    by_cases own : marked = index
    · subst own
      refine ⟨mark, ?_, .inl marks, ?_⟩
      · rw [tasks, List.getElem?_modify_eq, there]
        rfl
      · rw [restarts, beq_self_eq_true, Bool.true_and]
    · refine ⟨.nothing, ?_, .inr rfl, ?_⟩
      · rw [tasks, List.getElem?_modify, there]
        exact congrArg some (if_neg own)
      · rw [restarts, beq_false_of_ne own, Bool.false_and]
        rfl

theorem left_of_change (inOrder : InOrder scheduler) (gated : Gated scheduler)
    (change : Change scheduler event next reply) {index : Nat} {task later : Task}
    (there : scheduler.tasks[index]? = some task) (after : next.tasks[index]? = some later)
    (failed : task.state = .failed) (left : later.state ≠ .failed) :
    (event.resubmits index && reply.accepts) = true ∨
      scheduler.closing = true ∧ later.state = .closed := by
  obtain ⟨mark, marked, marks, restarts⟩ := later_of_change inOrder.driven change there
  cases marked.symm.trans after
  have undriven : ∀ loop stage, scheduler.loops.lookup loop ≠ some ⟨index, stage⟩ := by
    intro loop stage found
    exact (inOrder.suited loop index stage task found there).shows.open.1 failed
  rcases marks with marks | rfl
  · cases marks with
    | nothing => exact absurd failed left
    | announced standing => exact absurd standing (undriven _ _)
    | began standing => exact absurd standing (undriven _ _)
    | ended standing => exact absurd standing (undriven _ _)
    | resubmitted => exact .inl restarts
    | closed standing => exact .inr ⟨gated.closers _ _ standing, rfl⟩
  · exact absurd failed left

theorem closed_of_change (inOrder : InOrder scheduler) (change : Change scheduler event next reply)
    {index : Nat} {task : Task} (there : scheduler.tasks[index]? = some task)
    (closed : task.state = .closed) :
    ∃ later, next.tasks[index]? = some later ∧ later.state = .closed := by
  obtain ⟨mark, after, marks, -⟩ := later_of_change inOrder.driven change there
  refine ⟨mark.on task, after, ?_⟩
  have undriven : ∀ loop stage, scheduler.loops.lookup loop ≠ some ⟨index, stage⟩ := by
    intro loop stage found
    exact (inOrder.suited loop index stage task found there).shows.open.2 closed
  rcases marks with marks | rfl
  · cases marks with
    | nothing => exact closed
    | announced standing => exact absurd standing (undriven _ _)
    | began standing => exact absurd standing (undriven _ _)
    | ended standing => exact absurd standing (undriven _ _)
    | resubmitted there' failed =>
        cases there.symm.trans there'
        rw [closed] at failed
        cases failed
    | closed => rfl
  · exact closed

/-! ## Failures -/

/-- The task of this number has failed as often as it was resubmitted, and once more if it has an
error. -/
structure Repaid (scheduler : Scheduler) (index count : Nat) : Prop where
  unknown : scheduler.tasks[index]? = none → count = 0
  failures : ∀ task, scheduler.tasks[index]? = some task →
    task.stats.failed = count + if task.lastError.isSome = true then 1 else 0

theorem failures_mark (inOrder : InOrder scheduler) {index count : Nat} {mark : Mark}
    (marks : Marks scheduler event reply index mark) {task : Task}
    (there : scheduler.tasks[index]? = some task)
    (failures : task.stats.failed = count + if task.lastError.isSome = true then 1 else 0) :
    (mark.on task).stats.failed =
      (count + if mark.restarts = true then 1 else 0) +
        if (mark.on task).lastError.isSome = true then 1 else 0 := by
  cases marks with
  | nothing | announced | began | closed => exact failures
  | @ended _ _ _ _ _ _ outcome standing =>
      have unexplained := (inOrder.suited _ _ _ task standing there).unexplained
      cases outcome with
      | succeeded | timedOut | closed => exact failures
      | failed reason =>
          rw [unexplained] at failures
          exact congrArg (· + 1) failures
  | resubmitted there' failed =>
      cases there.symm.trans there'
      have explained := (inOrder.booked index task there).explained failed
      rw [if_pos explained] at failures
      exact failures

theorem repaid_of_change (inOrder : InOrder scheduler) (change : Change scheduler event next reply)
    {index count : Nat} (repaid : Repaid scheduler index count) :
    Repaid next index
      (count + if (event.resubmits index && reply.accepts) = true then 1 else 0) := by
  rcases before : scheduler.tasks[index]? with _ | task
  · have unpaid := repaid.unknown before
    rcases marks_of_change inOrder.driven change with
      ⟨loop, name, timing, rfl, -, tasks⟩ | ⟨marked, mark, marks, tasks⟩
    · refine ⟨fun _ => unpaid, fun later there => ?_⟩
      rcases task_of_append tasks there with there | ⟨-, rfl⟩
      · cases before.symm.trans there
      · exact unpaid.symm
    · have unasked : (event.resubmits index && reply.accepts) = false := by
        rw [resubmits_of_marks marks]
        by_cases own : marked = index
        · subst own
          cases marks with
          | resubmitted there => cases before.symm.trans there
          | nothing | announced | began | ended | closed => exact Bool.and_false _
        · rw [beq_false_of_ne own, Bool.false_and]
      rw [unasked]
      refine ⟨fun _ => unpaid, fun later there => ?_⟩
      obtain ⟨task, there, -⟩ := task_of_modify tasks there
      cases before.symm.trans there
  · obtain ⟨mark, after, marks, restarts⟩ := later_of_change inOrder.driven change before
    rw [restarts]
    refine ⟨fun gone => ?_, fun later there => ?_⟩
    · cases gone.symm.trans after
    · cases after.symm.trans there
      have failures := repaid.failures task before
      rcases marks with marks | rfl
      · exact failures_mark inOrder marks before failures
      · exact failures

/-! ## Recorded outcomes -/

def Mark.counts (outcome : RunOutcome) : Mark → Nat
  | .ended other => if other.label = outcome.label then 1 else 0
  | _ => 0

theorem count_ended (ended : RunOutcome) {outcome : RunOutcome} (counted : outcome ≠ .closed)
    (task : Task) :
    (Scheduler.ended ended task).stats.count outcome =
      task.stats.count outcome + if ended.label = outcome.label then 1 else 0 := by
  cases ended <;> cases outcome <;> simp [Scheduler.ended, TaskStats.count, RunOutcome.label] at *

theorem count_mark (mark : Mark) {outcome : RunOutcome} (counted : outcome ≠ .closed)
    (task : Task) :
    (mark.on task).stats.count outcome = task.stats.count outcome + mark.counts outcome := by
  cases mark with
  | ended other => exact count_ended other counted task
  | announced => cases outcome <;> rfl
  | nothing | began | resubmitted | closed => rfl

theorem name_mark (mark : Mark) (task : Task) : (mark.on task).name = task.name := by
  cases mark with
  | ended outcome => cases outcome <;> rfl
  | nothing | announced | began | resubmitted | closed => rfl

/-- The mark adds this to the runs of all tasks of a name, if it is left on this task. -/
def Mark.adds (mark : Mark) (task : Option Task) (name : String) (outcome : RunOutcome) : Nat :=
  if (task.map Task.name) = some name then mark.counts outcome else 0

theorem runs_cons (task : Task) (rest : List Task) (name : String) (outcome : RunOutcome) :
    runs (task :: rest) name outcome =
      (if task.name = name then task.stats.count outcome else 0) + runs rest name outcome := by
  by_cases named : task.name = name
  · simp [runs, named]
  · simp [runs, named]

theorem runs_append (tasks others : List Task) (name : String) (outcome : RunOutcome) :
    runs (tasks ++ others) name outcome = runs tasks name outcome + runs others name outcome := by
  simp [runs]

theorem runs_modify (tasks : List Task) (index : Nat) (mark : Mark) (name : String)
    {outcome : RunOutcome} (counted : outcome ≠ .closed) :
    runs (tasks.modify index mark.on) name outcome =
      runs tasks name outcome + mark.adds tasks[index]? name outcome := by
  induction tasks generalizing index with
  | nil => simp [runs, Mark.adds]
  | cons task rest ih =>
      cases index with
      | zero =>
          rw [List.modify_zero_cons, runs_cons, runs_cons, name_mark, count_mark mark counted]
          by_cases named : task.name = name
          · simp only [named, if_true, Mark.adds, List.getElem?_cons_zero, Option.map_some]
            omega
          · simp [named, Mark.adds]
      | succ index =>
          rw [List.modify_succ_cons, runs_cons, runs_cons, ih index, List.getElem?_cons_succ,
            Nat.add_assoc]

theorem runs_append_new (tasks : List Task) (other : String) (timing : Timing) (loop : Nat)
    (name : String) (outcome : RunOutcome) :
    runs (tasks ++ [Task.new other timing loop]) name outcome = runs tasks name outcome := by
  have fresh : (Task.new other timing loop).stats.count outcome = 0 := by
    cases outcome <;> rfl
  have none : runs [] name outcome = 0 := rfl
  rw [runs_append, runs_cons, fresh, ite_self, none, Nat.add_zero]

theorem series_taskRun_inj (task other outcome label : String) :
    (Sample.taskRun task outcome).series = (Sample.taskRun other label).series ↔
      task = other ∧ outcome = label := by
  simp [Sample.taskRun, Sample.series]

/-- What is recorded at an event moves the series of a name on by what the mark adds to the tasks
of this name. -/
theorem standing_recorded {index : Nat} {mark : Mark}
    (marks : Marks scheduler event reply index mark)
    (tasks : next.tasks = scheduler.tasks.modify index mark.on) (before : List Sample)
    (name : String) (outcome : RunOutcome) :
    standing (before ++ next.recorded reply) (Sample.taskRun name outcome.label).series =
      standing before (Sample.taskRun name outcome.label).series +
        mark.adds scheduler.tasks[index]? name outcome := by
  cases marks with
  | nothing uncounted =>
      have none : next.recorded reply = [] := by
        cases reply with
        | runEnded task outcome => exact absurd rfl (uncounted task outcome)
        | _ => rfl
      simp [none, Mark.adds, Mark.counts]
  | announced | began | resubmitted | closed => simp [recorded, Mark.adds, Mark.counts]
  | @ended _ _ _ _ _ _ other =>
      have same : next.tasks[index]? = scheduler.tasks[index]?.map (Scheduler.ended other) := by
        rw [tasks, List.getElem?_modify_eq]
        rfl
      cases there : scheduler.tasks[index]? with
      | none => simp [recorded, same, there, Mark.adds]
      | some task =>
          have named : (Scheduler.ended other task).name = task.name :=
            name_mark (.ended other) task
          have counts : next.recorded (.runEnded index other) =
              [.count (Sample.taskRun task.name other.label).series] := by
            simp [recorded, same, there, named, Sample.taskRun, Sample.series]
          rw [counts, standing_count]
          by_cases own : task.name = name
          · simp [series_taskRun_inj, own, Mark.adds, Mark.counts]
          · simp [series_taskRun_inj, own, Mark.adds]

theorem level_of_change (driven : Driven scheduler) (change : Change scheduler event next reply)
    (before : List Sample) (name : String) {outcome : RunOutcome} (counted : outcome ≠ .closed)
    (level : standing before (Sample.taskRun name outcome.label).series =
      runs scheduler.tasks name outcome) :
    standing (before ++ next.recorded reply) (Sample.taskRun name outcome.label).series =
      runs next.tasks name outcome := by
  rcases marks_of_change driven change with
    ⟨loop, other, timing, -, rfl, tasks⟩ | ⟨index, mark, marks, tasks⟩
  · have none : next.recorded .accepted = [] := rfl
    rw [none, List.append_nil, tasks, runs_append_new]
    exact level
  · rw [standing_recorded marks tasks, level, tasks, runs_modify _ _ _ _ counted]

end Step

theorem repaid_before (life : Life workers) (index n : Nat) :
    Repaid (life.before n) index (resubmissions life index n) := by
  induction n with
  | zero =>
      refine ⟨fun _ => rfl, fun task there => ?_⟩
      cases there
  | succ n ih =>
      rw [resubmissions_succ]
      exact repaid_of_change (inOrder_before life n) (change_at life n) ih

theorem level_before (life : Life workers) (n : Nat) (name : String) {outcome : RunOutcome}
    (counted : outcome ≠ .closed) :
    standing (samples life n) (Sample.taskRun name outcome.label).series =
      runs (life.before n).tasks name outcome := by
  induction n with
  | zero => rfl
  | succ n ih =>
      rw [samples_succ]
      exact level_of_change (driven_before life n) (change_at life n) _ name counted ih

theorem closed_later {life : Life workers} {i n index : Nat} {task : Task} (le : i ≤ n)
    (there : (life.before i).tasks[index]? = some task) (closed : task.state = .closed) :
    ∃ later, (life.before n).tasks[index]? = some later ∧ later.state = .closed := by
  induction n, le using Nat.le_induction with
  | base => exact ⟨task, there, closed⟩
  | succ n _ ih =>
      obtain ⟨shown, found, stays⟩ := ih
      exact closed_of_change (inOrder_before life n) (change_at life n) found stays

theorem step_resubmit_unfit {scheduler : Scheduler} {loop index : Nat} {task : Task}
    (unused : scheduler.uses loop = false) (there : scheduler.tasks[index]? = some task)
    (unfit : task.state ≠ .failed) :
    scheduler.step (.resubmit loop index) =
      (scheduler, .failed (if scheduler.closing = true then .closed else
        .invalidState ("task " ++ task.name ++ " is " ++ task.state.label
          ++ ", only failed tasks can be resubmitted"))) := by
  cases closing : scheduler.closing with
  | true => simp [step, there, unused, closing]
  | false => simp [step, there, unused, closing, unfit]

/-- The books of all tasks, at every moment of the life of a scheduler.  A task that has failed
waits for a resubmission or for a shutdown, and nothing else can be resubmitted. -/
structure Accounted (life : Life workers) : Prop where
  booked : ∀ (n index : Nat) (task : Task), (life.before n).tasks[index]? = some task → Booked task
  failures : ∀ (n index : Nat) (task : Task), (life.before n).tasks[index]? = some task →
    task.stats.failed = resubmissions life index n + if task.lastError.isSome = true then 1 else 0
  failing : ∀ (n index : Nat) (task : Task), (life.before n).tasks[index]? = some task →
    task.state = .failed → task.stats.failed = resubmissions life index n + 1
  left : ∀ (n index : Nat) (task later : Task), (life.before n).tasks[index]? = some task →
    (life.before (n + 1)).tasks[index]? = some later → task.state = .failed →
    later.state ≠ .failed →
    (life.event n).resubmits index = true ∧ life.reply n = .accepted ∨
      later.state = .closed ∧ ∃ i, i < n ∧ Closes life i
  closed : ∀ (i n index : Nat) (task : Task), i ≤ n → (life.before i).tasks[index]? = some task →
    task.state = .closed →
    ∃ later, (life.before n).tasks[index]? = some later ∧ later.state = .closed
  unfit : ∀ (n loop index : Nat) (task : Task), life.event n = .resubmit loop index →
    (life.before n).uses loop = false → (life.before n).tasks[index]? = some task →
    task.state ≠ .failed → life.before (n + 1) = life.before n ∧
      ((∃ i, i < n ∧ Closes life i) → life.reply n = .failed .closed) ∧
      ((¬ ∃ i, i < n ∧ Closes life i) → life.reply n = .failed (.invalidState ("task " ++ task.name
        ++ " is " ++ task.state.label ++ ", only failed tasks can be resubmitted")))
  recorded : ∀ (n : Nat) (name : String) (outcome : RunOutcome), outcome ≠ .closed →
    standing (samples life n) (Sample.taskRun name outcome.label).series =
      runs (life.before n).tasks name outcome

theorem accepts_iff {reply : Reply} : reply.accepts = true ↔ reply = .accepted := by
  cases reply <;> simp [Reply.accepts]

/-- The counters, the state and the last error of every task agree with each other, with what has
happened and with what was recorded. -/
theorem bookkeeping (life : Life workers) : Accounted life := by
  constructor
  case booked =>
    intro n index task there
    exact (inOrder_before life n).booked index task there
  case failures =>
    intro n index task there
    exact (repaid_before life index n).failures task there
  case failing =>
    intro n index task there failed
    have explained := ((inOrder_before life n).booked index task there).explained failed
    have failures := (repaid_before life index n).failures task there
    rwa [if_pos explained] at failures
  case left =>
    intro n index task later there after failed unfailed
    rcases left_of_change (inOrder_before life n) (gated_before life n) (change_at life n) there
      after failed unfailed with resubmitted | ⟨closing, closed⟩
    · rw [Bool.and_eq_true, accepts_iff] at resubmitted
      exact .inl resubmitted
    · exact .inr ⟨closed, (closing_iff life n).mp closing⟩
  case closed =>
    intro i n index task le there closed
    exact closed_later le there closed
  case unfit =>
    intro n loop index task event unused there unfit
    have outcome := step_resubmit_unfit unused there unfit
    rw [← event] at outcome
    refine ⟨congrArg Prod.fst outcome, fun closes => ?_, fun opened => ?_⟩
    · have closing := (closing_iff life n).mpr closes
      rw [if_pos closing] at outcome
      exact congrArg Prod.snd outcome
    · have opened := mt (closing_iff life n).mp opened
      rw [if_neg opened] at outcome
      exact congrArg Prod.snd outcome
  case recorded =>
    intro n name outcome counted
    exact level_before life n name counted

end Scheduler

end Steward
