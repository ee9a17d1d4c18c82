import Steward.Proofs.Scheduler.Books
import Steward.Proofs.Scheduler.Watch
/-!
# How tasks come to fail

A task fails when its loop takes note of a body that has failed, and the reason is that of the body.
From the failure of the body on the task is spent: its loop only waits to take note of it, or is
about to leave, so no other body is started unless the task is resubmitted.
-/

set_option autoImplicit false

namespace Steward.Scheduler

section Step

variable {scheduler next : Scheduler} {event : Event} {reply : Reply}

/-- A body that has ended, and is not known to have, has ended by this event. -/
theorem ended_before (change : Change scheduler event next reply) {body : Nat} {how : BodyEnd}
    (after : next.bodies.lookup body = some (some how))
    (unended : ∀ how, event ≠ .bodyEnded body how) :
    scheduler.bodies.lookup body = some (some how) := by
  cases change with
  | refused | turnedAway | scheduled | resubmitted | unfit | spawned | jobEnded | closed
  | closedBefore | droppedShutdown => exact after
  | polledJob _ change => cases change <;> exact after
  | polledShutdown _ change => cases change <;> exact after
  | @ended other how' =>
      have apart : body ≠ other := by
        rintro rfl
        exact unended how' rfl
      simpa [apart] using after
  | @polledLoop _ _ new _ _ _ _ _ _ _ _ _ change =>
      cases change with
      | waited | announced | exited | woke | asked | stopped | overran => exact after
      | quit => simpa using after
      | began =>
          by_cases own : body = new
          · simp [own] at after
          · simpa [own] using after
      | @finished watched =>
          by_cases own : body = watched
          · simp [own] at after
          · simpa [own] using after
      | @reaped watched =>
          by_cases own : body = watched
          · simp [own] at after
          · simpa [own] using after

/-- A loop that waits for the end of a body has done so before, or has just started it. -/
theorem running_before (change : Change scheduler event next reply)
    {loop task body deadline : Nat}
    (after : next.loops.lookup loop = some ⟨task, .running body deadline⟩) :
    scheduler.loops.lookup loop = some ⟨task, .running body deadline⟩ ∨
      reply = .startBody task body ∧ next.bodies.lookup body = some none := by
  cases before : scheduler.loops.lookup loop with
  | none =>
      obtain ⟨-, ⟨_, _, -, standing⟩ | ⟨_, -, -, standing⟩⟩ := starts_of_change change before after
      · cases standing
      · cases standing
  | some standing =>
      obtain ⟨index, stage⟩ := standing
      rcases moves_or_stays change before with ⟨now, new, _, _, -, -, change⟩ | same
      · cases change with
        | waited | asked => exact .inl (before.symm.trans after)
        | announced | woke | stopped | overran => simp at after
        | exited | quit => simp [afterRun] at after
        | began =>
            rw [loops_setLoop, if_pos rfl] at after
            cases after
            exact .inr ⟨rfl, by simp⟩
        | @finished | @reaped =>
            rw [loops_endRun, if_pos rfl] at after
            cases afterRun_eq after
      · exact .inl (same.symm.trans after)

theorem failed_body {task : Nat} {reason : String}
    (change : Change scheduler event next (.runEnded task (.failed reason))) :
    ∃ loop body deadline how,
      scheduler.loops.lookup loop = some ⟨task, .running body deadline⟩ ∧
        scheduler.bodies.lookup body = some (some how) ∧ how.outcome = .failed reason := by
  cases change with
  | polledLoop standing _ _ change =>
      generalize outcome : RunOutcome.failed reason = failed at change
      cases change with
      | quit => cases outcome
      | finished ended => exact ⟨_, _, _, _, standing, ended, rfl⟩
      | @reaped _ cause => cases cause <;> cases outcome
  | polledJob _ change => cases change
  | polledShutdown _ change => cases change

/-- A task that is failed has been so before, or its run has just failed. -/
theorem failed_before (driven : Driven scheduler) (change : Change scheduler event next reply)
    {index : Nat} {later : Task} (there : next.tasks[index]? = some later)
    (failed : later.state = .failed) :
    scheduler.tasks[index]? = some later ∨
      ∃ reason, reply = .runEnded index (.failed reason) ∧ later.lastError = some reason := by
  rcases marks_of_change driven change with ⟨_, _, _, -, -, tasks⟩ | ⟨marked, mark, marks, tasks⟩
  · rcases task_of_append tasks there with before | ⟨-, rfl⟩
    · exact .inl before
    · cases failed
  · obtain ⟨task, before, rfl⟩ := task_of_modify tasks there
    by_cases own : marked = index
    · subst own
      rw [if_pos rfl] at failed ⊢
      cases marks with
      | nothing => exact .inl before
      | announced | began | resubmitted | closed => cases failed
      | @ended _ _ _ _ _ _ outcome =>
          cases outcome with
          | succeeded | timedOut => cases failed
          | closed => exact .inl before
          | failed reason => exact .inr ⟨reason, rfl, rfl⟩
    · rw [if_neg own]
      exact .inl before

/-! ## Spent tasks -/

/-- The loop of the task, if there is one, only has to take note that its body has failed, or to
leave because of a shutdown. -/
def Spent (scheduler : Scheduler) (index : Nat) : Prop :=
  ∀ loop stage, scheduler.loops.lookup loop = some ⟨index, stage⟩ →
    (∃ body deadline reason, stage = .running body deadline ∧
      scheduler.bodies.lookup body = some (some (.done (.error reason)))) ∨
    ∃ body, stage = .reaping body .shutdown

theorem ended_of_watched (watched : Watched scheduler) (change : Change scheduler event next reply)
    {loop body : Nat} {how : BodyEnd} (watches : watchedBy scheduler loop = some body)
    (ended : scheduler.bodies.lookup body = some (some how))
    (still : watchedBy next loop = some body) : next.bodies.lookup body = some (some how) := by
  cases change with
  | refused | turnedAway | scheduled | resubmitted | unfit | spawned | jobEnded | closed
  | closedBefore | droppedShutdown => exact ended
  | polledJob _ change => cases change <;> exact ended
  | polledShutdown _ change => cases change <;> exact ended
  | @ended other how' alive =>
      have apart : body ≠ other := by
        rintro rfl
        cases alive.symm.trans ended
      simpa [apart] using ended
  | @polledLoop polled now new index _ _ task _ _ standing _ unused change =>
      have own := watchedBy_of_lookup standing
      -- The loop that takes note of a body does not watch it any more.
      have apart : ∀ {other : Nat} {outcome : RunOutcome}, watchedBy scheduler polled = some other →
          next = (scheduler.forgetBody other).endRun polled task index outcome →
            body ≠ other := by
        rintro other outcome also rfl rfl
        obtain rfl := watched.alone loop polled body watches also
        have none := watchedBy_endRun (scheduler.forgetBody body) loop task index outcome
        cases none.symm.trans still
      cases change with
      | waited | announced | exited | woke | asked | stopped | overran => exact ended
      | quit => simpa using ended
      | began =>
          have apart : body ≠ new := by
            rintro rfl
            exact Option.some_ne_none _ (ended.symm.trans (unused_iff.mp unused).2.1)
          simpa [apart] using ended
      | finished | reaped => simpa [apart own rfl] using ended

/-- A spent task stays so unless it is resubmitted. -/
theorem spent_of_change (watched : Watched scheduler) {index : Nat} (spent : Spent scheduler index)
    (change : Change scheduler event next reply)
    (unscheduled : ∀ loop name timing, event ≠ .schedule loop name timing)
    (unsubmitted : ∀ loop, event = .resubmit loop index → reply ≠ .accepted) :
    Spent next index := by
  intro loop later found
  cases before : scheduler.loops.lookup loop with
  | none =>
      obtain ⟨accepted, ⟨name, timing, event, -⟩ | ⟨_, event, -⟩⟩ :=
        starts_of_change change before found
      · exact absurd event (unscheduled loop name timing)
      · exact absurd accepted (unsubmitted loop event)
  | some standing =>
      obtain ⟨driven, stage⟩ := standing
      obtain rfl : index = driven := (course_of_change change before found).1
      rcases moves_or_stays change before with ⟨now, new, closingFirst, task, rfl, -, change⟩ | same
      · rcases spent loop stage before with ⟨body, deadline, reason, rfl, ended⟩ | ⟨body, rfl⟩
        · cases change with
          | waited =>
              cases before.symm.trans found
              exact .inl ⟨body, deadline, reason, rfl, ended⟩
          | stopped =>
              rw [loops_setLoop, if_pos rfl] at found
              cases found
              exact .inr ⟨body, rfl⟩
          | overran _ unended => exact absurd ended (unended _)
          | finished noted =>
              cases ended.symm.trans noted
              simp [afterRun, BodyEnd.outcome] at found
        · cases change with
          | waited =>
              cases before.symm.trans found
              exact .inr ⟨body, rfl⟩
          | reaped => simp [afterRun, AbortCause.outcome] at found
      · cases same.symm.trans found
        rcases spent loop later before with ⟨body, deadline, reason, rfl, ended⟩ | leaves
        · have watches := watchedBy_of_lookup before
          have still := watchedBy_of_lookup found
          exact .inl ⟨body, deadline, reason, rfl,
            ended_of_watched watched change watches ended still⟩
        · exact .inr leaves

end Step

end Steward.Scheduler
