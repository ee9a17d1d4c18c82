import Steward.Proofs.Scheduler.Marks
/-!
# The books of tasks

In every state the counters, the state and the last error of a task agree with each other.  A task
with a loop fits the stage of the loop.  A task without one keeps what its last loop has left, and
what shutdowns and resubmissions do to it.
-/

set_option autoImplicit false

namespace Steward.Scheduler

variable {workers : Nat}

/-! ## Books in order -/

/-- The counters, the state and the last error of a task agree. -/
structure Booked (task : Task) : Prop where
  runs : task.stats.scheduled = task.stats.over ∨ task.stats.scheduled = task.stats.over + 1
  settled : task.state = .idle ∨ task.state = .failed → task.stats.scheduled = task.stats.over
  running : task.state = .running → task.stats.scheduled = task.stats.over + 1
  explained : task.state = .failed → task.lastError.isSome = true
  excused : task.lastError.isSome = true → task.state = .failed ∨ task.state = .closed

theorem booked_of_fits {stage : LoopStage} {task : Task} (fits : stage.Fits task) :
    Booked task := by
  have runs := fits.runs
  have going := fits.shows.open
  constructor
  case runs =>
    have few := stage.owed_le_one
    omega
  case settled =>
    rintro (idle | failed)
    · have none := owed_of_idle (idle ▸ fits.shows)
      omega
    · exact absurd failed going.1
  case running =>
    intro running
    have one := owed_of_running (running ▸ fits.shows)
    omega
  case explained =>
    intro failed
    exact absurd failed going.1
  case excused =>
    intro reason
    rw [fits.unexplained] at reason
    cases reason

section Step

variable {scheduler next : Scheduler} {event : Event} {reply : Reply}

/-- Every task fits the stage of the loop that drives it. -/
def Suited (scheduler : Scheduler) : Prop :=
  ∀ loop index stage task, scheduler.loops.lookup loop = some ⟨index, stage⟩ →
    scheduler.tasks[index]? = some task → stage.Fits task

/-- The books of all tasks are in order, and every loop drives a task that fits its stage. -/
structure InOrder (scheduler : Scheduler) : Prop where
  driven : Driven scheduler
  suited : Suited scheduler
  booked : ∀ (index : Nat) (task : Task), scheduler.tasks[index]? = some task → Booked task

theorem booked_mark (suited : Suited scheduler) {index : Nat} {mark : Mark}
    (marks : Marks scheduler event reply index mark) {task : Task}
    (there : scheduler.tasks[index]? = some task) (booked : Booked task) :
    Booked (mark.on task) := by
  cases marks with
  | nothing => exact booked
  | announced standing =>
      have fits := suited _ _ _ task standing there
      have asleep : (LoopStage.sleeping 0).Fits (Mark.announced.on task) :=
        ⟨rfl, fits.unexplained, congrArg (· + 1) fits.runs⟩
      exact booked_of_fits asleep
  | began standing =>
      have fits := suited _ _ _ task standing there
      have running : (LoopStage.running 0 0).Fits (Mark.began.on task) :=
        ⟨rfl, fits.unexplained, fits.runs⟩
      exact booked_of_fits running
  | @ended _ _ _ _ _ _ outcome standing owed =>
      have fits := suited _ _ _ task standing there
      cases after : afterRun task index outcome with
      | some goesOn => exact booked_of_fits (fits_ended fits owed after)
      | none =>
          cases outcome with
          | succeeded | timedOut => cases after
          | closed => exact booked
          | failed reason =>
              have runs := fits.runs
              obtain ⟨counted, scheduled⟩ := over_ended (.failed reason) nofun task
              have even : (ended (.failed reason) task).stats.scheduled =
                  (ended (.failed reason) task).stats.over := by
                omega
              exact ⟨.inl even, fun _ => even, nofun, fun _ => rfl, fun _ => .inl rfl⟩
  | @resubmitted loop _ _ there' failed =>
      cases there.symm.trans there'
      have fresh : (LoopStage.announcing .zero).Fits ((Mark.resubmitted loop).on task) :=
        ⟨.inr (.inl rfl), rfl, booked.settled (.inr failed)⟩
      exact booked_of_fits fresh
  | closed =>
      refine ⟨booked.runs, ?_, nofun, nofun, fun _ => .inr rfl⟩
      rintro (idle | failed)
      · cases idle
      · cases failed

theorem booked_of_change (inOrder : InOrder scheduler) (change : Change scheduler event next reply)
    {index : Nat} {later : Task} (there : next.tasks[index]? = some later) : Booked later := by
  rcases marks_of_change inOrder.driven change with
    ⟨loop, name, timing, -, -, tasks⟩ | ⟨marked, mark, marks, tasks⟩
  · rcases task_of_append tasks there with before | ⟨-, rfl⟩
    · exact inOrder.booked index later before
    · exact booked_of_fits (fits_new name timing loop timing.initialDelay)
  · obtain ⟨task, before, rfl⟩ := task_of_modify tasks there
    have booked := inOrder.booked index task before
    by_cases own : marked = index
    · subst own
      rw [if_pos rfl]
      exact booked_mark inOrder.suited marks before booked
    · rw [if_neg own]
      exact booked

/-- What has to be looked at if only the task of one loop has been marked. -/
theorem Suited.marked (suited : Suited scheduler) (loop : Nat) {index : Nat} {mark : Mark}
    (tasks : next.tasks = scheduler.tasks.modify index mark.on)
    (others : ∀ other, other ≠ loop → next.loops.lookup other = scheduler.loops.lookup other)
    (alone : ∀ other stage, other ≠ loop → scheduler.loops.lookup other ≠ some ⟨index, stage⟩)
    (own : ∀ standing, next.loops.lookup loop = some standing → standing.task = index ∧
      ∀ shown, scheduler.tasks[index]? = some shown → standing.stage.Fits (mark.on shown)) :
    Suited next := by
  intro other driven stage later found there
  obtain ⟨shown, before, rfl⟩ := task_of_modify tasks there
  by_cases same : other = loop
  · subst same
    obtain ⟨rfl, fits⟩ := own _ found
    rw [if_pos rfl]
    exact fits shown before
  · have unmoved := (others other same).symm.trans found
    have apart : index ≠ driven := by
      rintro rfl
      exact alone other stage same unmoved
    rw [if_neg apart]
    exact suited other driven stage shown unmoved before

theorem suited_of_change (inOrder : InOrder scheduler)
    (change : Change scheduler event next reply) : Suited next := by
  obtain ⟨driven, suited, booked⟩ := inOrder
  cases change with
  | refused | turnedAway | unfit | ended | spawned | jobEnded | closed | closedBefore
  | droppedShutdown => exact suited
  | polledJob _ change => cases change <;> exact suited
  | polledShutdown _ change =>
      cases change with
      | waited | drained | returned => exact suited
      | @joined index task there gone =>
          have tasks : (scheduler.setState index .closed).tasks =
              scheduler.tasks.modify index Mark.closed.on := rfl
          refine suited.marked task.runner tasks (fun _ _ => rfl) ?_ ?_
          · intro other stage apart found
            obtain ⟨task', there', runs, -⟩ := driven other _ found
            cases there.symm.trans there'
            exact apart runs.symm
          · intro standing found
            cases gone.symm.trans found
  | @scheduled loop name timing unused =>
      intro other index stage later found there
      rcases task_of_append rfl there with before | ⟨rfl, rfl⟩
      · by_cases own : other = loop
        · subst own
          rw [loops_setLoop, if_pos rfl] at found
          cases found
          have within := (List.getElem?_eq_some_iff.mp before).1
          omega
        · rw [loops_setLoop, if_neg own] at found
          exact suited other index stage later found before
      · by_cases own : other = loop
        · subst own
          rw [loops_setLoop, if_pos rfl] at found
          cases found
          exact fits_new name timing other timing.initialDelay
        · rw [loops_setLoop, if_neg own] at found
          obtain ⟨task, beyond, -⟩ := driven other _ found
          have within := (List.getElem?_eq_some_iff.mp beyond).1
          exact absurd within (Nat.lt_irrefl _)
  | @resubmitted loop index task there unused _ failed =>
      have tasks : (scheduler.mapTask index (Mark.resubmitted loop).on).tasks =
          scheduler.tasks.modify index (Mark.resubmitted loop).on := rfl
      refine suited.marked loop tasks (fun other apart => by simp [apart]) ?_ ?_
      · intro other stage _ found
        obtain ⟨task', there', -, unfailed⟩ := driven other _ found
        cases there.symm.trans there'
        exact unfailed failed
      · intro standing found
        rw [loops_setLoop, if_pos rfl] at found
        cases found
        refine ⟨rfl, fun shown before => ?_⟩
        cases there.symm.trans before
        exact ⟨.inr (.inl rfl), rfl, (booked index task there).settled (.inr failed)⟩
  | @polledLoop loop _ _ index closingFirst stage task _ _ found there _ change =>
      obtain ⟨mark, -, tasks, fits⟩ := change.marks found closingFirst
      refine suited.marked loop tasks (fun other apart => change.others apart) ?_ ?_
      · intro other stage' apart beside
        exact apart (driven.same_loop beside found rfl)
      · intro standing after
        refine ⟨(change.moves found after).1, fun shown before => ?_⟩
        exact fits standing shown after (suited loop index stage shown found before)

theorem inOrder_of_change (inOrder : InOrder scheduler)
    (change : Change scheduler event next reply) : InOrder next :=
  ⟨driven_of_change inOrder.driven change, suited_of_change inOrder change,
    fun _ _ there => booked_of_change inOrder change there⟩

end Step

theorem inOrder_before (life : Life workers) (n : Nat) : InOrder (life.before n) := by
  refine life.holds_of_kept InOrder ?_ (fun n inOrder => ?_) n
  · refine ⟨driven_before life 0, ?_, ?_⟩
    · intro loop index stage task found
      cases found
    · intro index task there
      cases there
  · exact inOrder_of_change inOrder (change_at life n)

end Steward.Scheduler
