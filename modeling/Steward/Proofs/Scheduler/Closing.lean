import Steward.Proofs.Scheduler.Life
/-!
# The one shutdown of a scheduler

The first shutdown closes the scheduler and the permits in one step, and nothing opens them again.
So the flag says exactly that a shutdown has begun.
-/

set_option autoImplicit false

namespace Steward.Scheduler

variable {workers : Nat}

section Step

variable {scheduler next : Scheduler} {event : Event} {reply : Reply}

@[simp] theorem closing_endRun (scheduler : Scheduler) (loop : Nat) (task : Task) (index : Nat)
    (outcome : RunOutcome) :
    (scheduler.endRun loop task index outcome).closing = scheduler.closing := by
  cases outcome <;> rfl

@[simp] theorem closers_endRun (scheduler : Scheduler) (loop : Nat) (task : Task) (index : Nat)
    (outcome : RunOutcome) :
    (scheduler.endRun loop task index outcome).closers = scheduler.closers := by
  cases outcome <;> rfl

@[simp] theorem permits_endRun (scheduler : Scheduler) (loop : Nat) (task : Task) (index : Nat)
    (outcome : RunOutcome) :
    (scheduler.endRun loop task index outcome).permits = scheduler.permits.leave loop := by
  cases outcome <;> rfl

/-- Whether the scheduler is shut down, and by which calls. -/
structure SameGate (scheduler next : Scheduler) : Prop where
  closing : next.closing = scheduler.closing
  permits : next.permits.closed = scheduler.permits.closed
  closers : next.closers = scheduler.closers

theorem LoopChange.sameGate {loop index now body : Nat} {task : Task} {stage : LoopStage}
    (change : LoopChange scheduler loop index task now body stage next reply) :
    SameGate scheduler next := by
  cases change with
  | waited | announced | exited | woke | asked | began | stopped | overran => exact ⟨rfl, rfl, rfl⟩
  | quit | finished | reaped =>
      constructor
      case closing => exact closing_endRun ..
      case permits =>
        rw [permits_endRun]
        rfl
      case closers => exact closers_endRun ..

theorem JobChange.sameGate {job : Nat} {stage : JobStage}
    (change : JobChange scheduler job stage next reply) : SameGate scheduler next := by
  cases change <;> exact ⟨rfl, rfl, rfl⟩

/-! ## The flag, the permits and the calls -/

/-- The flag and the permits agree, and only calls that have found the flag set are under way. -/
structure Gated (scheduler : Scheduler) : Prop where
  permits : scheduler.permits.closed = scheduler.closing
  closers : ∀ call stage, scheduler.closers.lookup call = some stage → scheduler.closing = true

theorem SameGate.gated (same : SameGate scheduler next) (gated : Gated scheduler) :
    Gated next := by
  constructor
  case permits => rw [same.permits, same.closing, gated.permits]
  case closers =>
    intro call stage found
    rw [same.closers] at found
    rw [same.closing]
    exact gated.closers call stage found

theorem gated_of_change (gated : Gated scheduler) (change : Change scheduler event next reply) :
    Gated next := by
  cases change with
  | refused | turnedAway | unfit | scheduled | resubmitted | ended | spawned | jobEnded
  | closedBefore => exact ⟨gated.permits, gated.closers⟩
  | polledLoop _ _ _ change => exact change.sameGate.gated gated
  | polledJob _ change => exact change.sameGate.gated gated
  | closed => exact ⟨rfl, fun _ _ _ => rfl⟩
  | polledShutdown standing change =>
      have closing := gated.closers _ _ standing
      cases change with
      | waited => exact gated
      | drained | joined | returned => exact ⟨gated.permits, fun _ _ _ => closing⟩
  | droppedShutdown standing =>
      have closing := gated.closers _ _ standing
      exact ⟨gated.permits, fun _ _ _ => closing⟩

theorem closing_of_change (gated : Gated scheduler) (change : Change scheduler event next reply) :
    next.closing = true ↔
      scheduler.closing = true ∨ (∃ call, event = .shutdown call) ∧ reply ≠ .refused := by
  cases change with
  | refused => simp
  | unfit | scheduled | resubmitted | ended | spawned | jobEnded =>
      refine ⟨.inl, ?_⟩
      rintro (closing | ⟨⟨call, event⟩, -⟩)
      · exact closing
      · cases event
  | turnedAway closed =>
      have closing : scheduler.closing = true := by
        rcases closed with closing | closed
        · exact closing
        · exact gated.permits.symm.trans closed
      simp [closing]
  | polledLoop _ _ _ change =>
      rw [change.sameGate.closing]
      simp
  | polledJob _ change =>
      rw [change.sameGate.closing]
      simp
  | closed => simp [setCloser]
  | closedBefore closing => simp [closing]
  | polledShutdown standing change =>
      have closing := gated.closers _ _ standing
      cases change with
      | waited => simp [closing]
      | drained => simp [closing, setCloser]
      | joined => simp [closing, setCloser, setState, mapTask]
      | returned => simp [closing, endCloser]
  | droppedShutdown standing =>
      have closing := gated.closers _ _ standing
      simp [closing, endCloser]

end Step

theorem gated_before (life : Life workers) (n : Nat) : Gated (life.before n) := by
  refine life.holds_of_kept Gated ⟨rfl, ?_⟩ (fun n gated => ?_) n
  · intro call stage found
    cases found
  · exact gated_of_change gated (change_at life n)

/-- By event number `i` a shutdown begins; it need not be the first one. -/
def Closes (life : Life workers) (i : Nat) : Prop :=
  (∃ call, life.event i = .shutdown call) ∧ life.reply i ≠ .refused

theorem closing_iff (life : Life workers) (n : Nat) :
    (life.before n).closing = true ↔ ∃ i, i < n ∧ Closes life i := by
  induction n with
  | zero =>
      constructor
      · intro closing
        cases closing
      · rintro ⟨i, below, -⟩
        exact absurd below (Nat.not_lt_zero i)
  | succ n ih =>
      rw [closing_of_change (gated_before life n) (change_at life n), ih, Nat.exists_lt_succ_right]
      rfl

end Steward.Scheduler
