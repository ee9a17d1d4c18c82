import Steward.Proofs.Scheduler.Pool
import Steward.Proofs.Scheduler.Shutdown
/-!
# What has stopped when a shutdown returns

The call that begins the shutdown waits for the jobs and then for one loop after the other, and
closes each task whose loop is gone.  When it returns, nothing is left that runs, and this stays so.
Every later call finds the scheduler closing and returns at once, whatever still runs, also if the
call that was to wait has been dropped.
-/

set_option autoImplicit false

namespace Steward.Scheduler

variable {workers : Nat}

/-- The jobs are gone, and as many tasks as the shutdown has come to are closed. -/
structure ClosedUpTo (scheduler : Scheduler) (count : Nat) : Prop where
  closing : scheduler.closing = true
  jobs : ∀ job, scheduler.jobs.lookup job = none
  tasks : ∀ (index : Nat) (task : Task), index < count → scheduler.tasks[index]? = some task →
    task.state = .closed

section Step

variable {scheduler next : Scheduler} {event : Event} {reply : Reply}

theorem closing_kept (gated : Gated scheduler) (change : Change scheduler event next reply)
    (closing : scheduler.closing = true) : next.closing = true :=
  (closing_of_change gated change).mpr (.inl closing)

theorem length_tasks_of_closing (driven : Driven scheduler)
    (change : Change scheduler event next reply) (closing : scheduler.closing = true) :
    next.tasks.length = scheduler.tasks.length := by
  rcases marks_of_change driven change with ⟨loop, name, timing, rfl, rfl, -⟩ | ⟨_, _, -, tasks⟩
  · cases change with
    | scheduled _ opened => cases closing.symm.trans opened
  · rw [tasks, List.length_modify]

theorem no_job_of_closing (gated : Gated scheduler) (change : Change scheduler event next reply)
    (closing : scheduler.closing = true) {job : Nat} (gone : scheduler.jobs.lookup job = none) :
    next.jobs.lookup job = none := by
  have moves := job_moves change job
  rw [gone] at moves
  generalize found : next.jobs.lookup job = after at moves
  cases moves with
  | stayed => rfl
  | accepted =>
      cases change with
      | spawned _ opened => cases (gated.permits.trans closing).symm.trans opened

theorem ClosedUpTo.kept {count : Nat} (upTo : ClosedUpTo scheduler count)
    (inOrder : InOrder scheduler) (gated : Gated scheduler)
    (change : Change scheduler event next reply) : ClosedUpTo next count := by
  refine ⟨closing_kept gated change upTo.closing,
    fun job => no_job_of_closing gated change upTo.closing (upTo.jobs job), ?_⟩
  intro index task early there
  have within := (List.getElem?_eq_some_iff.mp there).1
  rw [length_tasks_of_closing inOrder.driven change upTo.closing] at within
  have before := List.getElem?_eq_getElem within
  obtain ⟨later, after, closed⟩ :=
    closed_of_change inOrder change before (upTo.tasks index _ early before)
  cases there.symm.trans after
  exact closed

theorem ClosedUpTo.joined {index : Nat} {call : Nat} (upTo : ClosedUpTo scheduler index) :
    ClosedUpTo ((scheduler.setState index .closed).setCloser call (.joining (index + 1)))
      (index + 1) := by
  refine ⟨upTo.closing, upTo.jobs, ?_⟩
  intro other task early there
  have shown : (scheduler.setState index .closed).tasks[other]? = some task := there
  rw [setState, tasks_mapTask] at shown
  obtain ⟨task, before, rfl⟩ := Option.map_eq_some_iff.mp shown
  split
  next => rfl
  next apart => exact upTo.tasks other task (by omega) before

end Step

end Steward.Scheduler
