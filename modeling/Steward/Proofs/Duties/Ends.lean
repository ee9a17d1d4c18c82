import Steward.Proofs.Duties.Staffed
/-!
# What makes a recurring task fail

A task fails because a body of its has come to an end by its own work, and with an error.  Each duty
names the errors with which its bodies end, and none of them may pass by itself.
-/

set_option autoImplicit false

namespace Steward.Crew

open Duties
open Scheduler (Spent)

variable {config : Config} {keeper : Keeper}

/-! ## Verdicts -/

/-- Trying again does not help. -/
def Hopeless (classification : Classification) : Prop :=
  classification = .authentication ∨ classification = .permanent

theorem hopeless_of_check {α : Type} {result : Except AuthError α} {reason : String}
    (failed : (afterCredentialCheck result).result = .error reason) :
    ∃ error, result = .error error ∧ Hopeless error.classification ∧ error.message = reason := by
  cases result with
  | ok value => cases failed
  | error error =>
      refine ⟨error, rfl, ?_⟩
      simp only [afterCredentialCheck] at failed
      split at failed
      · next class_eq => exact ⟨.inl class_eq, Except.error.inj failed⟩
      · next class_eq => exact ⟨.inr class_eq, Except.error.inj failed⟩
      · cases failed
      · cases failed

theorem permanent_of_poll {failures : List AccountError} {reason : String}
    (failed : (afterPoll failures).result = .error reason) :
    ∃ error ∈ failures, error.classification = .permanent ∧ error.message = reason := by
  simp only [afterPoll] at failed
  split at failed
  · cases failed
  · next error found =>
      rw [pollFailure] at found
      have permanent := List.find?_some found
      rw [beq_iff_eq] at permanent
      exact ⟨error, List.mem_of_find?_eq_some found, permanent, Except.error.inj failed⟩

theorem permanent_of_sync {α : Type} {result : Except AccountError α} {reason : String}
    (failed : (afterSync result).result = .error reason) :
    ∃ error, result = .error error ∧ error.classification = .permanent ∧
      error.message = reason := by
  cases result with
  | ok value => cases failed
  | error error =>
      simp only [afterSync] at failed
      split at failed
      · next permanent => exact ⟨error, rfl, permanent, Except.error.inj failed⟩
      · cases failed

def Finding.classifications : Finding → List Classification
  | .credential (.error error) => [error.classification]
  | .failures balance restrictions => (balance.toList ++ restrictions.toList).map (·.classification)
  | .synced (.error error) => [error.classification]
  | .credential (.ok _) | .synced (.ok _) | .refreshed _ => []

theorem unretryable_of_failed {finding : Finding} {reason : String}
    (failed : finding.verdict.result = .error reason) :
    ∃ classification ∈ finding.classifications, classification.isRetryable = false := by
  cases finding with
  | credential result =>
      obtain ⟨error, rfl, hopeless, -⟩ := hopeless_of_check failed
      refine ⟨error.classification, List.mem_singleton_self _, ?_⟩
      rcases hopeless with class_eq | class_eq <;> rw [class_eq] <;> rfl
  | failures balance restrictions =>
      obtain ⟨error, among, permanent, -⟩ := permanent_of_poll failed
      refine ⟨error.classification, List.mem_map_of_mem among, ?_⟩
      rw [permanent]
      rfl
  | synced result =>
      obtain ⟨error, rfl, permanent, -⟩ := permanent_of_sync failed
      refine ⟨error.classification, List.mem_singleton_self _, ?_⟩
      rw [permanent]
      rfl
  | refreshed => cases failed

/-! ## Bodies that are found ended -/

section Step

variable {crew next : Crew} {event : Event} {reply : Reply}

theorem scheduler_leave {body : Nat} (alive : crew.scheduler.bodies.lookup body = some none)
    (how : Scheduler.BodyEnd) :
    (crew.leave body how).scheduler = crew.scheduler.setBody body (some how) := by
  simp [leave, Scheduler.step, alive]

def FoundEnded (scheduler : Scheduler) (loop task body deadline : Nat) (how : Scheduler.BodyEnd) :
    Prop :=
  scheduler.loops.lookup loop = some ⟨task, .running body deadline⟩ ∧
    scheduler.bodies.lookup body = some (some how)

theorem foundEnded_of_setBody {scheduler : Scheduler} {loop task body deadline other : Nat}
    {how otherHow : Scheduler.BodyEnd}
    (found : FoundEnded (scheduler.setBody other (some otherHow)) loop task body deadline how) :
    FoundEnded scheduler loop task body deadline how ∨
      body = other ∧ how = otherHow ∧
        scheduler.loops.lookup loop = some ⟨task, .running body deadline⟩ := by
  obtain ⟨running, ended⟩ := found
  rw [Scheduler.loops_setBody] at running
  rw [Scheduler.bodies_setBody] at ended
  by_cases own : body = other
  · rw [if_pos own] at ended
    cases ended
    exact .inr ⟨own, rfl, running⟩
  · rw [if_neg own] at ended
    exact .inl ⟨running, ended⟩

theorem ended_of_effect (staffed : Staffed crew) (effect : Effect crew next event reply)
    {loop task body deadline : Nat} {how : Scheduler.BodyEnd}
    (found : FoundEnded next.scheduler loop task body deadline how) :
    FoundEnded crew.scheduler loop task body deadline how ∨
      ∃ finding, reply = .finished task body finding ∧ how = .done finding.verdict.result := by
  -- Two loops that look after one body are the same.
  have alone : ∀ {other : Nat} {standing beside : Scheduler.Loop},
      crew.scheduler.loops.lookup loop = some standing → standing.stage.watched? = some body →
      crew.scheduler.loops.lookup other = some beside → beside.stage.watched? = some body →
      standing = beside := by
    intro other standing beside there watches also watchesToo
    have same := staffed.watched.alone loop other body
      ((Scheduler.watchedBy_of_lookup there).trans watches)
      ((Scheduler.watchedBy_of_lookup also).trans watchesToo)
    subst same
    exact Option.some.inj (there.symm.trans also)
  cases effect with
  | idle alike => exact .inl (alike.scheduler ▸ found)
  | refused same => exact .inl (same ▸ found)
  | worked _ alike => exact .inl (alike.scheduler ▸ found)
  | taken _ alike => exact .inl (alike.scheduler ▸ found)
  | scheduled free change =>
      have before := Scheduler.ended_before change found.2 (by rintro how rfl; cases free)
      rcases Scheduler.running_before change found.1 with same | ⟨-, lives⟩
      · exact .inl ⟨same, before⟩
      · cases lives.symm.trans found.2
  | @finished _ other task' _ finding active _ alike =>
      obtain ⟨loop', deadline', standing, alive⟩ := running_of_active staffed active
      have moved := alike.scheduler.trans (scheduler_leave alive (.done finding.verdict.result))
      rw [moved] at found
      rcases foundEnded_of_setBody found with before | ⟨rfl, rfl, running⟩
      · exact .inl before
      · cases alone running rfl standing rfl
        exact .inr ⟨finding, rfl, rfl⟩
  | @gone other member there aborted alike =>
      obtain ⟨loop', deadline', alive, -⟩ := staffed.tended other member there
      have moved := alike.scheduler.trans (scheduler_leave alive .cancelled)
      rw [moved] at found
      rcases foundEnded_of_setBody found with before | ⟨rfl, -, running⟩
      · exact .inl before
      · -- The loop of an aborted body does not wait for its work any more.
        obtain ⟨reaper, task', cause, reaping⟩ := (isAborted_iff staffed.distinct).mp aborted
        cases alone running rfl reaping rfl

end Step

theorem finished_of_ended (life : Life config keeper) {n loop task body deadline : Nat}
    {how : Scheduler.BodyEnd}
    (found : FoundEnded (life.before n).scheduler loop task body deadline how) :
    ∃ k < n, ∃ finding, life.reply k = .finished task body finding ∧
      how = .done finding.verdict.result := by
  have none : ¬ FoundEnded (start config keeper).scheduler loop task body deadline how := by
    rintro ⟨-, ended⟩
    rw [bodies_start] at ended
    cases ended
  obtain ⟨k, before, absent, found⟩ := life.exists_beginning
    (fun crew => FoundEnded crew.scheduler loop task body deadline how) none found
  refine ⟨k, before, ?_⟩
  exact (ended_of_effect (staffed_before life k) (effect_at life k) found).resolve_left absent

theorem finished_of_failed (life : Life config keeper) {n task : Nat} {reason : String}
    (failed : life.reply n = .scheduler (.runEnded task (.failed reason))) :
    ∃ k < n, ∃ body finding, life.reply k = .finished task body finding ∧
      finding.verdict.result = .error reason := by
  have effect := effect_at life n
  rw [failed] at effect
  generalize at_event : life.event n = event at effect
  cases effect with
  | scheduled _ change =>
      obtain ⟨loop, body, deadline, how, running, ended, outcome⟩ :=
        Scheduler.failed_body change
      obtain ⟨k, before, finding, finished, rfl⟩ := finished_of_ended life ⟨running, ended⟩
      refine ⟨k, before, body, finding, finished, ?_⟩
      cases result : finding.verdict.result with
      | ok _ =>
          rw [result] at outcome
          cases outcome
      | error _ =>
          rw [result] at outcome
          cases outcome
          rfl
  | idle _ quiet | worked _ _ _ _ quiet => cases quiet

/-- A task is failed since a run of its has failed, and keeps the reason. -/
theorem failed_since (life : Life config keeper) {n index : Nat} {task : Task}
    (there : (life.before n).scheduler.tasks[index]? = some task) (failed : task.state = .failed) :
    ∃ m < n, ∃ reason, life.reply m = .scheduler (.runEnded index (.failed reason)) ∧
      task.lastError = some reason := by
  have none : (start config keeper).scheduler.tasks[index]? ≠ some task := by
    intro there
    rw [tasks_start, List.getElem?_mapIdx] at there
    obtain ⟨assignment, -, rfl⟩ := Option.map_eq_some_iff.mp there
    cases failed
  obtain ⟨m, before, absent, there⟩ := life.exists_beginning
    (fun crew => crew.scheduler.tasks[index]? = some task) none there
  have driven := (staffed_before life m).inOrder.driven
  rcases scheduler_of_effect (effect_at life m) with same | ⟨moved, answer, change, own⟩
  · exact absurd (same ▸ there) absent
  · obtain ⟨reason, rfl, last⟩ :=
      (Scheduler.failed_before driven change there failed).resolve_left absent
    refine ⟨m, before, reason, ?_, last⟩
    rcases own with ⟨-, reply, -⟩ | ⟨body, how, rfl, -⟩
    · exact reply
    · generalize (life.before (m + 1)).scheduler = later at change
      cases change

/-! ## What bodies have met with -/

theorem finish_of_finished (life : Life config keeper) {n task body : Nat} {finding : Finding}
    (finished : life.reply n = .finished task body finding) :
    ∃ activity, (life.before n).active? body = some ⟨task, activity⟩ ∧
      Finds (life.before n) body (life.event n) activity finding ∧
      Alike ((life.before n).finish task body finding).1 (life.before (n + 1)) := by
  have effect := effect_at life n
  rw [finished] at effect
  generalize life.event n = event at effect
  cases effect with
  | finished found finds alike => exact ⟨_, found, finds, alike⟩
  | idle _ quiet | worked _ _ _ _ quiet => cases quiet

/-- The failure of the balance that a poll remembers was there when it was read. -/
theorem read_before (life : Life config keeper) {n body task : Nat} {failure : Option AccountError}
    (found : (life.before n).member? body =
      some ⟨task, .polling (.restrictionsFailure failure)⟩) :
    ∃ m < n, (∃ job now, life.event m = .goOn body job now) ∧
      (life.before m).account.balance.cache.lastFailure = failure := by
  obtain ⟨m, before, absent, found⟩ := life.exists_beginning
    (fun crew => crew.member? body = some ⟨task, .polling (.restrictionsFailure failure)⟩) nofun
    found
  refine ⟨m, before, ?_⟩
  rcases member_before (effect_at life m) found with same | ⟨-, duty, -, first⟩ | ⟨_, -, -, reads⟩
  · exact absurd same absent
  · cases duty <;> cases first
  · obtain ⟨read, event⟩ := reads failure rfl
    exact ⟨event, read.symm⟩

theorem given_of_broken {stage : Session.Stage} {input : Session.Input (Page Transaction)}
    {error : AccountError} (ends : (Session.step stage input).2 = .finished (.error error)) :
    (∃ cause, input = .credential (.error cause) ∧ error = .auth cause) ∨
      ∃ cause, input = .result (.error cause) ∧ error = .remote cause := by
  rcases input with (cause | held) | (cause | page)
  · refine .inl ⟨cause, rfl, ?_⟩
    cases stage with
    | obtaining | replacing =>
        cases ends
        rfl
    | running | rerunning => cases ends
  · cases stage <;> cases ends
  · refine .inr ⟨cause, rfl, ?_⟩
    cases stage with
    | obtaining | replacing => cases ends
    | rerunning =>
        cases ends
        rfl
    | running =>
        simp only [Session.step] at ends
        split at ends <;> cases ends
        rfl
  · cases stage <;> cases ends

/-- What a body of the duty has met with if event number `n` ends its work with an error of this
message. -/
inductive Blame (life : Life config keeper) (n body : Nat) : Duty → String → Prop where
  | credential {event : Keeper.Event} {error : AuthError} (asks : life.event n = .keeper event)
      (own : event.call = body)
      (returns : ((life.before n).keeper.step event).2 = .finished (.error error))
      (hopeless : Hopeless error.classification) :
      Blame life n body .checkCredential error.message
  | balance {m : Nat} {error : AccountError} (earlier : m < n)
      (reads : ∃ job now, life.event m = .goOn body job now)
      (left : (life.before m).account.balance.cache.lastFailure = some error)
      (permanent : error.classification = .permanent) :
      Blame life n body .pollAccount error.message
  | restrictions {error : AccountError} (reads : ∃ job now, life.event n = .goOn body job now)
      (left : (life.before n).account.restrictions.cache.lastFailure = some error)
      (permanent : error.classification = .permanent) :
      Blame life n body .pollAccount error.message
  | session {event : Keeper.Event} {cause : AuthError} (asks : life.event n = .keeper event)
      (own : event.call = body)
      (returns : ((life.before n).keeper.step event).2 = .finished (.error cause))
      (permanent : (AccountError.auth cause).classification = .permanent) :
      Blame life n body .syncTransactions (AccountError.auth cause).message
  | page {cause : RemoteError} (answer : life.event n = .answered body (.error cause))
      (permanent : (AccountError.remote cause).classification = .permanent) :
      Blame life n body .syncTransactions (AccountError.remote cause).message

theorem assignment_of_active (life : Life config keeper) {n body task : Nat} {activity : Activity}
    (found : (life.before n).active? body = some ⟨task, activity⟩) :
    ∃ assignment, (assignments config)[task]? = some assignment ∧
      activity.Serves assignment.duty := by
  obtain ⟨duty, known, serves⟩ :=
    (staffed_before life n).serves body _ (member_of_active found).1
  rw [duties_before, List.getElem?_map] at known
  obtain ⟨assignment, there, rfl⟩ := Option.map_eq_some_iff.mp known
  exact ⟨assignment, there, serves⟩

theorem blame_of_finished (life : Life config keeper) {n task body : Nat} {finding : Finding}
    {reason : String} (finished : life.reply n = .finished task body finding)
    (failed : finding.verdict.result = .error reason) :
    ∃ assignment, (assignments config)[task]? = some assignment ∧
      Blame life n body assignment.duty reason := by
  obtain ⟨activity, found, finds, -⟩ := finish_of_finished life finished
  obtain ⟨assignment, there, serves⟩ := assignment_of_active life found
  refine ⟨assignment, there, ?_⟩
  generalize assignment.duty = duty at serves
  generalize at_event : life.event n = event at finds
  cases finds with
  | credential own returns =>
      cases serves
      obtain ⟨error, rfl, hopeless, rfl⟩ := hopeless_of_check failed
      exact .credential at_event own returns hopeless
  | failures =>
      cases serves
      obtain ⟨error, among, permanent, rfl⟩ := permanent_of_poll failed
      rcases List.mem_append.mp among with there | there
      · obtain ⟨m, earlier, reads, left⟩ := read_before life (member_of_active found).1
        rw [Option.mem_toList.mp there] at left
        exact .balance earlier reads left permanent
      · exact .restrictions ⟨_, _, at_event⟩ (Option.mem_toList.mp there) permanent
  | walked => cases failed
  | broken given ends =>
      cases serves
      obtain ⟨_, ⟨⟩, permanent, rfl⟩ := permanent_of_sync failed
      rcases given_of_broken ends with ⟨cause, rfl, rfl⟩ | ⟨cause, rfl, rfl⟩
      · cases given with
        | credential own returns => exact .session at_event own returns permanent
      · cases given with
        | answer => exact .page at_event permanent
  | refreshed => cases failed

end Steward.Crew
