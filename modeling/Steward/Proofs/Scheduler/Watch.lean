import Steward.Proofs.Scheduler.Bodies
import Steward.Proofs.Scheduler.Callers
/-!
# Loops that watch bodies

No loop, body or job is in the lists twice.  A loop with a body watches one that is in the list of
bodies, alive or ended, and no other loop watches it.
-/

set_option autoImplicit false

namespace Steward.Scheduler

variable {workers : Nat}

section Step

variable {scheduler next : Scheduler} {event : Event} {reply : Reply}

structure Distinct (scheduler : Scheduler) : Prop where
  loops : Keyed scheduler.loops
  bodies : Keyed scheduler.bodies
  jobs : Keyed scheduler.jobs

theorem keyed_endRun (keyed : Keyed scheduler.loops) (loop : Nat) (task : Task) (index : Nat)
    (outcome : RunOutcome) : Keyed (scheduler.endRun loop task index outcome).loops := by
  cases outcome with
  | succeeded | timedOut => exact keyed_placed keyed loop _
  | failed | closed => exact keyed_forgotten keyed loop

theorem distinct_of_loopChange (distinct : Distinct scheduler) {loop index now body : Nat}
    {task : Task} {stage : LoopStage}
    (change : LoopChange scheduler loop index task now body stage next reply) : Distinct next := by
  constructor
  case loops =>
    cases change with
    | waited | asked => exact distinct.loops
    | announced | woke | began | stopped | overran => exact keyed_placed distinct.loops loop _
    | exited => exact keyed_forgotten distinct.loops loop
    | quit => exact keyed_endRun distinct.loops ..
    | finished | reaped =>
        refine keyed_endRun ?_ ..
        exact distinct.loops
  case bodies =>
    cases change with
    | waited | asked | announced | woke | stopped | overran | exited => exact distinct.bodies
    | began => exact keyed_placed distinct.bodies body none
    | quit =>
        rw [bodies_endRun]
        exact distinct.bodies
    | finished | reaped =>
        rw [bodies_endRun]
        exact keyed_forgotten distinct.bodies _
  case jobs =>
    rw [jobs_of_loopChange change]
    exact distinct.jobs

theorem distinct_of_change (distinct : Distinct scheduler)
    (change : Change scheduler event next reply) : Distinct next := by
  obtain ⟨loops, bodies, jobs⟩ := distinct
  cases change with
  | refused | turnedAway | unfit | closed | closedBefore | droppedShutdown =>
      exact ⟨loops, bodies, jobs⟩
  | polledShutdown _ change => cases change <;> exact ⟨loops, bodies, jobs⟩
  | scheduled | resubmitted => exact ⟨keyed_placed loops _ _, bodies, jobs⟩
  | polledLoop _ _ _ change => exact distinct_of_loopChange ⟨loops, bodies, jobs⟩ change
  | ended => exact ⟨loops, keyed_placed bodies _ _, jobs⟩
  | spawned => exact ⟨loops, bodies, keyed_placed jobs _ _⟩
  | jobEnded => exact ⟨loops, bodies, keyed_forgotten jobs _⟩
  | polledJob _ change =>
      cases change with
      | refused | waited => exact ⟨loops, bodies, jobs⟩
      | turnedAway | withdrew => exact ⟨loops, bodies, keyed_forgotten jobs _⟩
      | asked | began => exact ⟨loops, bodies, keyed_placed jobs _ _⟩

/-! ## Bodies and the loops that watch them -/

def watchedBy (scheduler : Scheduler) (loop : Nat) : Option Nat :=
  (scheduler.loops.lookup loop).bind (·.stage.watched?)

/-- Every loop with a body has one of its own. -/
structure Watched (scheduler : Scheduler) : Prop where
  present : ∀ loop body, watchedBy scheduler loop = some body →
    ∃ how, scheduler.bodies.lookup body = some how
  alone : ∀ loop other body, watchedBy scheduler loop = some body →
    watchedBy scheduler other = some body → loop = other

theorem watchedBy_of_lookup {loop : Nat} {standing : Loop}
    (found : scheduler.loops.lookup loop = some standing) :
    watchedBy scheduler loop = standing.stage.watched? := by
  rw [watchedBy, found]
  rfl

theorem watchedBy_congr {loop : Nat}
    (same : next.loops.lookup loop = scheduler.loops.lookup loop) :
    watchedBy next loop = watchedBy scheduler loop := by
  rw [watchedBy, watchedBy, same]

theorem Watched.fewer (watched : Watched scheduler)
    (fewer : ∀ loop body, watchedBy next loop = some body → watchedBy scheduler loop = some body)
    (kept : ∀ loop body, watchedBy next loop = some body →
      next.bodies.lookup body = scheduler.bodies.lookup body) : Watched next := by
  constructor
  case present =>
    intro loop body watches
    rw [kept loop body watches]
    exact watched.present loop body (fewer loop body watches)
  case alone =>
    intro loop other body watches also
    exact watched.alone loop other body (fewer loop body watches) (fewer other body also)

theorem Watched.more (watched : Watched scheduler) {loop body : Nat}
    (fresh : scheduler.bodies.lookup body = none) (own : watchedBy next loop = some body)
    (others : ∀ other, other ≠ loop → watchedBy next other = watchedBy scheduler other)
    (bodies : ∀ other, next.bodies.lookup other =
      if other = body then some none else scheduler.bodies.lookup other) : Watched next := by
  have unwatched : ∀ other, watchedBy scheduler other ≠ some body := by
    intro other watches
    obtain ⟨how, there⟩ := watched.present other body watches
    cases fresh.symm.trans there
  constructor
  case present =>
    intro other watchedBody watches
    rw [bodies]
    by_cases new : watchedBody = body
    · rw [if_pos new]
      exact ⟨none, rfl⟩
    · rw [if_neg new]
      refine watched.present other watchedBody ?_
      rw [← others other ?_]
      · exact watches
      · rintro rfl
        exact new (Option.some.inj (watches.symm.trans own))
  case alone =>
    have only : ∀ other watchedBody, watchedBy next other = some watchedBody →
        watchedBody = body → other = loop := by
      rintro other watchedBody watches rfl
      by_contra apart
      exact unwatched other ((others other apart).symm.trans watches)
    intro one other watchedBody watches also
    by_cases new : watchedBody = body
    · exact (only one watchedBody watches new).trans (only other watchedBody also new).symm
    · have before : ∀ loop', watchedBy next loop' = some watchedBody →
          watchedBy scheduler loop' = some watchedBody := by
        intro loop' watches
        rw [← others loop' ?_]
        · exact watches
        · rintro rfl
          exact new (Option.some.inj (watches.symm.trans own))
      exact watched.alone one other watchedBody (before one watches) (before other also)

/-- A loop whose run is over watches nothing, whether it goes on or not. -/
theorem watchedBy_endRun (scheduler : Scheduler) (loop : Nat) (task : Task) (index : Nat)
    (outcome : RunOutcome) : watchedBy (scheduler.endRun loop task index outcome) loop = none := by
  rw [watchedBy, loops_endRun, if_pos rfl]
  cases after : afterRun task index outcome with
  | none => rfl
  | some standing =>
      rw [afterRun_eq after]
      rfl

theorem watched_of_loopChange (watched : Watched scheduler) {loop index now body : Nat}
    {task : Task} {stage : LoopStage} (unused : scheduler.uses body = false)
    (found : scheduler.loops.lookup loop = some ⟨index, stage⟩)
    (change : LoopChange scheduler loop index task now body stage next reply) : Watched next := by
  have before : watchedBy scheduler loop = stage.watched? := watchedBy_of_lookup found
  have others : ∀ other, other ≠ loop → watchedBy next other = watchedBy scheduler other :=
    fun other apart => watchedBy_congr (change.others apart)
  have stays : (∀ body, watchedBy next loop = some body → stage.watched? = some body) →
      ∀ other body, watchedBy next other = some body → watchedBy scheduler other = some body := by
    intro own other body watches
    by_cases same : other = loop
    · subst same
      exact before.trans (own body watches)
    · rwa [others other same] at watches
  have stops : watchedBy next loop = none →
      ∀ other body, watchedBy next other = some body → watchedBy scheduler other = some body :=
    fun none => stays fun body watches => absurd (none.symm.trans watches) nofun
  have after : ∀ (scheduler : Scheduler) (standing : Loop),
      watchedBy (scheduler.setLoop loop standing) loop = standing.stage.watched? :=
    fun scheduler standing => watchedBy_of_lookup ((loops_setLoop ..).trans (if_pos rfl))
  cases change with
  | waited => exact watched
  | asked => exact ⟨watched.present, watched.alone⟩
  | announced | woke => exact watched.fewer (stops (after ..)) (fun _ _ _ => rfl)
  | stopped | overran =>
      refine watched.fewer (stays fun body watches => ?_) (fun _ _ _ => rfl)
      rw [after] at watches
      exact watches
  | exited =>
      refine watched.fewer (stops ?_) (fun _ _ _ => rfl)
      rw [watchedBy, loops_endLoop, if_pos rfl]
      rfl
  | quit =>
      refine watched.fewer (stops (watchedBy_endRun ..)) (fun _ _ _ => ?_)
      rw [bodies_endRun]
  | began =>
      have fresh := (unused_iff.mp unused).2.1
      exact watched.more fresh (after _ _) others (bodies_setBody _ body none)
  | @finished ended | @reaped ended =>
      have gone := watchedBy_endRun (scheduler.forgetBody ended) loop task index
      refine watched.fewer (stops (gone _)) (fun other body watches => ?_)
      have was := stops (gone _) other body watches
      have apart : body ≠ ended := by
        rintro rfl
        obtain rfl := watched.alone other loop body was before
        cases (gone _).symm.trans watches
      rw [bodies_endRun, bodies_forgetBody, if_neg apart]

theorem watched_of_change (watched : Watched scheduler)
    (change : Change scheduler event next reply) :
    Watched next := by
  have started : ∀ {loop index : Nat} {delay : Duration},
      (∀ other, next.loops.lookup other =
        if other = loop then some ⟨index, .announcing delay⟩ else scheduler.loops.lookup other) →
      next.bodies = scheduler.bodies → Watched next := by
    intro loop index delay loops bodies
    refine watched.fewer (fun other body watches => ?_) (fun _ _ _ => by rw [bodies])
    by_cases own : other = loop
    · rw [watchedBy, loops, if_pos own] at watches
      cases watches
    · rwa [watchedBy, loops, if_neg own] at watches
  cases change with
  | refused | turnedAway | unfit | closed | closedBefore | droppedShutdown | spawned | jobEnded =>
      exact ⟨watched.present, watched.alone⟩
  | polledShutdown _ change => cases change <;> exact ⟨watched.present, watched.alone⟩
  | polledJob _ change => cases change <;> exact ⟨watched.present, watched.alone⟩
  | scheduled => exact started (loops_setLoop _ _ _) rfl
  | resubmitted => exact started (loops_setLoop _ _ _) rfl
  | polledLoop found _ unused change => exact watched_of_loopChange watched unused found change
  | @ended ended how alive =>
      refine ⟨fun loop body watches => ?_, watched.alone⟩
      rw [bodies_setBody]
      by_cases own : body = ended
      · rw [if_pos own]
        exact ⟨some how, rfl⟩
      · rw [if_neg own]
        exact watched.present loop body watches

end Step

theorem distinct_before (life : Life workers) (n : Nat) : Distinct (life.before n) :=
  life.holds_of_kept Distinct ⟨List.nodup_nil, List.nodup_nil, List.nodup_nil⟩
    (fun n distinct => distinct_of_change distinct (change_at life n)) n

theorem watched_before (life : Life workers) (n : Nat) : Watched (life.before n) :=
  life.holds_of_kept Watched ⟨nofun, nofun⟩
    (fun n watched => watched_of_change watched (change_at life n)) n

end Steward.Scheduler
