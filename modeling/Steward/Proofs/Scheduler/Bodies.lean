import Steward.Proofs.Scheduler.Life
/-!
# Bodies and the loops that look after them

A body lives from the event that starts it to the event that ends it.  All that time the loop that
started it looks after it: it waits for its end, or it has aborted it and waits until it is gone.
Since a task has one loop at a time, it has one body at a time.
-/

set_option autoImplicit false

namespace Steward.Scheduler

variable {workers : Nat}

section Step

variable {scheduler next : Scheduler} {event : Event} {reply : Reply}

/-- A body is started by a loop that drives the task, under a number that is not in use. -/
theorem began_of_change {index body : Nat}
    (change : Change scheduler event next (.startBody index body)) :
    ∃ loop now closingFirst task, event = .pollLoop loop now body closingFirst ∧
      scheduler.loops.lookup loop = some ⟨index, .acquiring⟩ ∧
      scheduler.tasks[index]? = some task ∧ scheduler.bodies.lookup body = none ∧
      next.loops.lookup loop = some ⟨index, .running body (Moment.after now task.timing.timeout)⟩ ∧
      next.bodies.lookup body = some none := by
  cases change with
  | @polledLoop loop now _ _ closingFirst _ task _ _ standing there unused change =>
      cases change with
      | began =>
          have absent := (unused_iff.mp unused).2.1
          exact ⟨loop, now, closingFirst, task, rfl, standing, there, absent, by simp, by simp⟩
  | polledJob _ change => cases change
  | polledShutdown _ change => cases change

theorem begins_of_change (change : Change scheduler event next reply) {body : Nat}
    (absent : scheduler.bodies.lookup body ≠ some none)
    (after : next.bodies.lookup body = some none) : ∃ index, reply = .startBody index body := by
  have still : next.bodies.lookup body ≠ scheduler.bodies.lookup body :=
    fun same => absent (same.symm.trans after)
  cases change with
  | refused | turnedAway | scheduled | resubmitted | unfit | spawned | jobEnded | closed
  | closedBefore | droppedShutdown => exact absurd rfl still
  | polledJob _ change => cases change <;> exact absurd rfl still
  | polledShutdown _ change => cases change <;> exact absurd rfl still
  | @ended other how => by_cases own : body = other <;> simp [own] at after still
  | @polledLoop _ _ new index _ _ _ _ _ _ _ _ change =>
      cases change with
      | waited | announced | exited | woke | asked | stopped | overran => exact absurd rfl still
      | quit => simp at still
      | began =>
          by_cases own : body = new
          · exact ⟨index, by rw [own]⟩
          · simp [own] at still
      | @finished watched => by_cases own : body = watched <;> simp [own] at after still
      | @reaped watched => by_cases own : body = watched <;> simp [own] at after still

theorem alive_of_change (change : Change scheduler event next reply) {body : Nat}
    (alive : scheduler.bodies.lookup body = some none)
    (goesOn : ∀ how, event ≠ .bodyEnded body how) : next.bodies.lookup body = some none := by
  cases change with
  | refused | turnedAway | scheduled | resubmitted | unfit | spawned | jobEnded | closed
  | closedBefore | droppedShutdown => exact alive
  | polledJob _ change => cases change <;> exact alive
  | polledShutdown _ change => cases change <;> exact alive
  | @ended other how =>
      have apart : body ≠ other := by
        rintro rfl
        exact goesOn how rfl
      simpa [apart] using alive
  | @polledLoop _ _ new _ _ _ _ _ _ _ _ unused change =>
      -- Only bodies that have ended are forgotten.
      have apart : ∀ {watched : Nat} {how : BodyEnd},
          scheduler.bodies.lookup watched = some (some how) → body ≠ watched := by
        rintro watched how ended rfl
        cases alive.symm.trans ended
      cases change with
      | waited | announced | exited | woke | asked | stopped | overran => exact alive
      | quit => simpa using alive
      | began =>
          have apart : body ≠ new := by
            rintro rfl
            exact Option.some_ne_none _ (alive.symm.trans (unused_iff.mp unused).2.1)
          simpa [apart] using alive
      | finished ended => simpa [apart ended] using alive
      | reaped ended => simpa [apart ended] using alive

def LoopStage.watched? : LoopStage → Option Nat
  | .running body _ | .reaping body _ => some body
  | .announcing _ | .sleeping _ | .acquiring => none

/-- The loop drives the task and looks after a body that lives.  It waits for the end of the body up
to the deadline, or it has aborted it. -/
structure Tends (scheduler : Scheduler) (loop index body deadline : Nat) : Prop where
  alive : scheduler.bodies.lookup body = some none
  standing : scheduler.loops.lookup loop = some ⟨index, .running body deadline⟩ ∨
    ∃ cause, scheduler.loops.lookup loop = some ⟨index, .reaping body cause⟩

theorem Tends.watches {loop index body deadline : Nat}
    (tends : Tends scheduler loop index body deadline) :
    ∃ stage, scheduler.loops.lookup loop = some ⟨index, stage⟩ ∧ stage.watched? = some body := by
  rcases tends.standing with running | ⟨cause, reaping⟩
  · exact ⟨_, running, rfl⟩
  · exact ⟨_, reaping, rfl⟩

theorem tends_of_change {loop index body deadline : Nat}
    (tends : Tends scheduler loop index body deadline) (change : Change scheduler event next reply)
    (goesOn : ∀ how, event ≠ .bodyEnded body how) : Tends next loop index body deadline := by
  obtain ⟨alive, standing⟩ := tends
  refine ⟨alive_of_change change alive goesOn, ?_⟩
  rcases standing with running | ⟨cause, reaping⟩
  · rcases moves_or_stays change running with ⟨_, _, _, _, _, _, change⟩ | same
    · cases change with
      | waited => exact .inl running
      | stopped => exact .inr ⟨.shutdown, by simp⟩
      | overran => exact .inr ⟨.timeout, by simp⟩
      | finished ended => cases alive.symm.trans ended
    · exact .inl same
  · rcases moves_or_stays change reaping with ⟨_, _, _, _, _, _, change⟩ | same
    · cases change with
      | waited => exact .inr ⟨cause, reaping⟩
      | reaped ended => cases alive.symm.trans ended
    · exact .inr ⟨cause, same⟩

end Step

/-! ## The life of a body -/

/-- The body that event number `s` started for a task has not ended when event number `n` comes. -/
structure Alive (life : Life workers) (s index body n : Nat) : Prop where
  started : life.reply s = .startBody index body
  after : s < n
  goesOn : ∀ k, s < k → k < n → ∀ how, life.event k ≠ .bodyEnded body how

theorem Alive.earlier {life : Life workers} {s index body n k : Nat}
    (alive : Alive life s index body n) (after : s < k) (upTo : k ≤ n) :
    Alive life s index body k :=
  ⟨alive.started, after, fun l from_s to_k => alive.goesOn l from_s (Nat.lt_of_lt_of_le to_k upTo)⟩

theorem Alive.succ_iff {life : Life workers} {s index body n : Nat} (after : s < n) :
    Alive life s index body (n + 1) ↔
      Alive life s index body n ∧ ∀ how, life.event n ≠ .bodyEnded body how := by
  constructor
  · intro alive
    exact ⟨alive.earlier after (Nat.le_succ n), alive.goesOn n after (Nat.lt_succ_self n)⟩
  · rintro ⟨alive, goesOn⟩
    refine ⟨alive.started, Nat.lt_succ_of_lt after, fun k from_s below => ?_⟩
    rcases Nat.lt_succ_iff_lt_or_eq.mp below with before | rfl
    · exact alive.goesOn k from_s before
    · exact goesOn

/-- As long as a body lives, the loop that started it looks after it. -/
theorem tends_of_alive {life : Life workers} {s index body n : Nat}
    (alive : Alive life s index body n) :
    ∃ loop now closingFirst task, life.event s = .pollLoop loop now body closingFirst ∧
      (life.before s).tasks[index]? = some task ∧
      Tends (life.before n) loop index body (Moment.after now task.timing.timeout) := by
  have change := change_at life s
  rw [alive.started] at change
  obtain ⟨loop, now, closingFirst, task, event, -, there, -, running, lives⟩ :=
    began_of_change change
  refine ⟨loop, now, closingFirst, task, event, there, ?_⟩
  have after := alive.after
  induction n, after using Nat.le_induction with
  | base => exact ⟨lives, .inl running⟩
  | succ n after ih =>
      obtain ⟨before, goesOn⟩ := (Alive.succ_iff after).mp alive
      exact tends_of_change (ih before) (change_at life n) goesOn

theorem ended_of_event {life : Life workers} {n body : Nat} {how : BodyEnd}
    (event : life.event n = .bodyEnded body how)
    (lives : (life.before n).bodies.lookup body = some none) :
    (life.before (n + 1)).bodies.lookup body = some (some how) := by
  rw [Run.before_succ, event]
  simp [step, lives]

theorem exists_alive_iff (life : Life workers) (body n : Nat) :
    (life.before n).bodies.lookup body = some none ↔ ∃ s index, Alive life s index body n := by
  constructor
  · intro lives
    induction n with
    | zero => exact absurd lives (by simp [Run.before, new])
    | succ n ih =>
        by_cases there : (life.before n).bodies.lookup body = some none
        · obtain ⟨s, index, alive⟩ := ih there
          refine ⟨s, index, (Alive.succ_iff alive.after).mpr ⟨alive, ?_⟩⟩
          intro how event
          cases lives.symm.trans (ended_of_event event there)
        · obtain ⟨index, started⟩ := begins_of_change (change_at life n) there lives
          exact ⟨n, index, started, Nat.lt_succ_self n, fun k above below => by omega⟩
  · rintro ⟨s, index, alive⟩
    obtain ⟨_, _, _, _, _, _, tends⟩ := tends_of_alive alive
    exact tends.alive

theorem not_alive_at_start {life : Life workers} {s s' index index' body : Nat}
    (started : life.reply s' = .startBody index' body) : ¬ Alive life s index body s' := by
  intro alive
  have change := change_at life s'
  rw [started] at change
  obtain ⟨_, _, _, _, _, _, _, absent, _⟩ := began_of_change change
  have lives := (exists_alive_iff life body s').mpr ⟨s, index, alive⟩
  exact Option.some_ne_none _ (lives.symm.trans absent)

theorem Alive.unique {life : Life workers} {s s' index body body' n : Nat}
    (alive : Alive life s index body n) (beside : Alive life s' index body' n) :
    s = s' ∧ body = body' := by
  obtain ⟨loop, _, _, _, _, _, tends⟩ := tends_of_alive alive
  obtain ⟨loop', _, _, _, _, _, tends'⟩ := tends_of_alive beside
  obtain ⟨stage, found, watches⟩ := tends.watches
  obtain ⟨stage', found', watches'⟩ := tends'.watches
  obtain rfl := (driven_before life n).same_loop found found' rfl
  cases found.symm.trans found'
  have sameBody : body = body' := Option.some.inj (watches.symm.trans watches')
  subst sameBody
  refine ⟨?_, rfl⟩
  rcases Nat.lt_trichotomy s s' with earlier | same | later
  · have early := alive.earlier earlier (Nat.le_of_lt beside.after)
    exact absurd early (not_alive_at_start beside.started)
  · exact same
  · have early := beside.earlier later (Nat.le_of_lt alive.after)
    exact absurd early (not_alive_at_start alive.started)

theorem exists_end {life : Life workers} {s index body n : Nat}
    (started : life.reply s = .startBody index body) (after : s < n)
    (gone : ¬ Alive life s index body n) :
    ∃ g how, Alive life s index body g ∧ g < n ∧ life.event g = .bodyEnded body how := by
  induction n, after using Nat.le_induction with
  | base => exact absurd ⟨started, Nat.lt_succ_self s, fun k above below => by omega⟩ gone
  | succ n after ih =>
      by_cases alive : Alive life s index body n
      · rw [Alive.succ_iff after] at gone
        have ends : ∃ how, life.event n = .bodyEnded body how := by
          by_contra none
          exact gone ⟨alive, fun how event => none ⟨how, event⟩⟩
        obtain ⟨how, event⟩ := ends
        exact ⟨n, how, alive, Nat.lt_succ_self n, event⟩
      · obtain ⟨g, how, lived, below, event⟩ := ih alive
        exact ⟨g, how, lived, Nat.lt_succ_of_lt below, event⟩

end Steward.Scheduler
