import Steward.Proofs.Scheduler.Accounts
import Steward.Proofs.Scheduler.Jobs
/-!
# After a shutdown has begun

From the first step of the first shutdown on, whoever asks for something new is turned away and
alters nothing.  No body is started and no job begins to work, whatever has come due in the same
moment: a loop whose sleep is over finds the scheduler closed when it comes to its permit, and a
permit that has already passed to a caller is not handed out.  Tasks that are closed stay so.
-/

set_option autoImplicit false

namespace Steward.Scheduler

variable {workers : Nat}

section Step

variable {scheduler next : Scheduler} {event : Event} {reply : Reply}

/-- The event asks for a new task, for another loop of a task, or for a new job. -/
def AsksAnew (scheduler : Scheduler) : Event → Prop
  | .schedule loop _ _ => scheduler.uses loop = false
  | .resubmit loop index => scheduler.uses loop = false ∧ index < scheduler.tasks.length
  | .spawnJob job => scheduler.uses job = false
  | _ => False

theorem turnedAway_of_closing (gated : Gated scheduler) (closing : scheduler.closing = true)
    (asks : AsksAnew scheduler event) : scheduler.step event = (scheduler, .failed .closed) := by
  have closed : scheduler.permits.closed = true := gated.permits.trans closing
  cases event with
  | schedule loop name timing =>
      have unused : scheduler.uses loop = false := asks
      simp [step, unused, closing]
  | resubmit loop index =>
      obtain ⟨unused, known⟩ := asks
      simp [step, unused, closing, List.getElem?_eq_getElem known]
  | spawnJob job =>
      have unused : scheduler.uses job = false := asks
      simp [step, unused, closed]
  | pollLoop | bodyEnded | pollJob | jobEnded | shutdown | pollShutdown | dropShutdown => cases asks

theorem opened_of_startBody {index body : Nat}
    (change : Change scheduler event next (.startBody index body)) : scheduler.closing = false := by
  cases change with
  | polledLoop _ _ _ change =>
      cases change with
      | began opened => exact opened
  | polledJob _ change => cases change
  | polledShutdown _ change => cases change

theorem unclosed_of_work (change : Change scheduler event next .work) :
    scheduler.permits.closed = false := by
  cases change with
  | polledLoop _ _ _ change => cases change
  | polledJob _ change =>
      cases change with
      | began opened => exact opened
  | polledShutdown _ change => cases change

theorem begins_of_running (change : Change scheduler event next reply) {job : Nat}
    (idle : scheduler.jobs.lookup job ≠ some .running)
    (works : next.jobs.lookup job = some .running) : reply = .work := by
  have moves := job_moves change job
  rw [works] at moves
  generalize scheduler.jobs.lookup job = before at moves idle
  cases moves with
  | stayed => exact absurd rfl idle
  | began => rfl

end Step

/-- What is true of event number `n` once a shutdown has begun. -/
structure ShutAt (life : Life workers) (n : Nat) : Prop where
  turnedAway : AsksAnew (life.before n) (life.event n) →
    life.reply n = .failed .closed ∧ life.before (n + 1) = life.before n
  noBody : (∀ index body, life.reply n ≠ .startBody index body) ∧
    ∀ body, (life.before (n + 1)).bodies.lookup body = some none →
      (life.before n).bodies.lookup body = some none
  noJob : life.reply n ≠ .work ∧
    ∀ job, (life.before (n + 1)).jobs.lookup job = some .running →
      (life.before n).jobs.lookup job = some .running
  closed : ∀ (k index : Nat) (task : Task), n ≤ k → (life.before n).tasks[index]? = some task →
    task.state = .closed →
    ∃ later, (life.before k).tasks[index]? = some later ∧ later.state = .closed

/-- Nothing starts once a shutdown has begun. -/
theorem shut_after_closes {life : Life workers} {i n : Nat} (closes : Closes life i)
    (later : i < n) : ShutAt life n := by
  have closing := (closing_iff life n).mpr ⟨i, later, closes⟩
  have gated := gated_before life n
  have change := change_at life n
  have noStart : ∀ index body, life.reply n ≠ .startBody index body := by
    intro index body reply
    rw [reply] at change
    cases closing.symm.trans (opened_of_startBody change)
  have noWork : life.reply n ≠ .work := by
    intro reply
    rw [reply] at change
    cases (gated.permits.trans closing).symm.trans (unclosed_of_work change)
  constructor
  case turnedAway =>
    intro asks
    have away := turnedAway_of_closing gated closing asks
    exact ⟨congrArg Prod.snd away, congrArg Prod.fst away⟩
  case noBody =>
    refine ⟨noStart, fun body lives => ?_⟩
    by_contra absent
    obtain ⟨index, reply⟩ := begins_of_change change absent lives
    exact noStart index body reply
  case noJob =>
    refine ⟨noWork, fun job works => ?_⟩
    by_contra idle
    exact noWork (begins_of_running change idle works)
  case closed =>
    intro k index task le there closed
    exact closed_later le there closed

def shutInTime : Life 1 :=
  .ofList [.schedule 1 "patrol" ⟨.zero, .ofMillis 5, .ofMillis 10⟩, .pollLoop 1 0 9 false,
    .spawnJob 3, .pollJob 3, .shutdown 4, .pollLoop 1 0 9 false, .pollLoop 1 0 9 false, .pollJob 3,
    .spawnJob 5] (.pollShutdown 4)

theorem shut_after_closes_inTime :
    (shutInTime.before 4).permits.holders = [3] ∧
      (∀ index body, shutInTime.reply 6 ≠ .startBody index body) ∧ shutInTime.reply 7 ≠ .work ∧
        shutInTime.reply 8 = .failed .closed := by
  have closes : Closes shutInTime 4 := ⟨⟨4, rfl⟩, nofun⟩
  have asks : AsksAnew (shutInTime.before 8) (shutInTime.event 8) := rfl
  exact ⟨rfl, (shut_after_closes closes (by decide : 4 < 6)).noBody.1,
    (shut_after_closes closes (by decide : 4 < 7)).noJob.1,
    ((shut_after_closes closes (by decide : 4 < 8)).turnedAway asks).1⟩

end Steward.Scheduler
