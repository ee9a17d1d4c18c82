import Steward.Proofs.Duties.Ends
/-!
# Reasons that are reported

A reason for the end of the service is reported exactly when a check of the credential is given a
hopeless failure.  Such a check is the last of its task: the loop of the task finds the body ended,
or has to leave anyhow.  So nothing more is reported unless the task is resubmitted.
-/

set_option autoImplicit false

namespace Steward.Crew

open Duties
open Scheduler (Spent)

variable {config : Config} {keeper : Keeper}

/-! ## Reports and what they come from -/

/-- By event number `n` a body is over that reports this reason. -/
def Reports (life : Life config keeper) (n : Nat) (reason : ExitReason) : Prop :=
  ∃ task body finding, life.reply n = .finished task body finding ∧
    finding.verdict.fatal = some reason

/-- By event number `n` the keeper gives this failure to a body that checks the credential. -/
def Denied (life : Life config keeper) (n : Nat) (error : AuthError) : Prop :=
  ∃ event member assignment, life.event n = .keeper event ∧
    (life.before n).active? event.call = some member ∧
    (assignments config)[member.task]? = some assignment ∧
    assignment.duty = .checkCredential ∧
    ((life.before n).keeper.step event).2 = .finished (.error error)

theorem fatal_iff {finding : Finding} {reason : ExitReason} :
    finding.verdict.fatal = some reason ↔
      ∃ error, finding = .credential (.error error) ∧ Hopeless error.classification ∧
        reason = .ofClassification error.classification := by
  cases finding with
  | credential result =>
      cases result with
      | ok held => simp [Finding.verdict, afterCredentialCheck, Verdict.fine]
      | error error =>
          simp only [Finding.verdict, afterCredentialCheck, Hopeless]
          cases class_eq : error.classification <;> simp [class_eq, Verdict.fine, eq_comm]
  | failures balance restrictions =>
      simp only [Finding.verdict, afterPoll]
      cases pollFailure (balance.toList ++ restrictions.toList) <;> simp [Verdict.fine]
  | synced result =>
      cases result with
      | ok count => simp [Finding.verdict, afterSync, Verdict.fine]
      | error error =>
          simp only [Finding.verdict, afterSync]
          split <;> simp [Verdict.fine]
  | refreshed => simp [Finding.verdict, Verdict.fine]

theorem admits_of_finished {keeper : Keeper} {event : Keeper.Event}
    {result : Except AuthError Held} (returns : (keeper.step event).2 = .finished result) :
    Activity.checking.admits event = true := by
  cases event with
  | reject call rejected =>
      simp only [Keeper.step] at returns
      split at returns <;> cases returns
  | _ => rfl

theorem finished_of_returned {crew : Crew} {event : Keeper.Event} {task : Nat}
    {result : Except AuthError Held} (found : crew.active? event.call = some ⟨task, .checking⟩)
    (returns : (crew.keeper.step event).2 = .finished result) :
    (crew.step (.keeper event)).2 = .finished task event.call (.credential result) := by
  have admitted : ¬ (crew.member? event.call).any (!·.activity.admits event) = true := by
    rw [(member_of_active found).1]
    simp [admits_of_finished returns]
  have still : ({ crew with keeper := (crew.keeper.step event).1 } : Crew).active? event.call =
      some ⟨task, .checking⟩ := found
  simp only [step, if_neg admitted, returns, obtained, still, finish]

/-- One task only checks the credential. -/
theorem first_of_check {index : Nat} {assignment : Assignment}
    (there : (assignments config)[index]? = some assignment)
    (duty : assignment.duty = .checkCredential) : index = 0 := by
  rcases index with _ | _ | _ | index
  · rfl
  · cases there
    cases duty
  · cases there
    cases duty
  · -- All that comes after the first three is the watch of the strategy, if there is one.
    rw [assignments, List.getElem?_append_right (Nat.le_add_left 3 index)] at there
    obtain ⟨strategy, -, rfl⟩ :=
      Option.map_eq_some_iff.mp (Option.mem_toList.mp (List.mem_of_getElem? there))
    cases duty

theorem finished_of_denied {life : Life config keeper} {n : Nat} {error : AuthError}
    (denied : Denied life n error) :
    ∃ body, life.reply n = .finished 0 body (.credential (.error error)) := by
  obtain ⟨event, ⟨task, activity⟩, assignment, at_event, found, there, duty, returns⟩ := denied
  obtain ⟨assignment', there', serves⟩ := assignment_of_active life found
  cases there.symm.trans there'
  obtain rfl := first_of_check there duty
  rw [duty] at serves
  cases serves
  refine ⟨event.call, ?_⟩
  rw [Run.reply, at_event]
  exact finished_of_returned found returns

theorem reports_iff (life : Life config keeper) (n : Nat) (reason : ExitReason) :
    Reports life n reason ↔ ∃ error, Denied life n error ∧ Hopeless error.classification ∧
      reason = .ofClassification error.classification := by
  constructor
  · rintro ⟨task, body, finding, finished, fatal⟩
    obtain ⟨error, rfl, hopeless, rfl⟩ := fatal_iff.mp fatal
    obtain ⟨activity, found, finds, -⟩ := finish_of_finished life finished
    obtain ⟨assignment, there, serves⟩ := assignment_of_active life found
    generalize at_event : life.event n = event at finds
    cases finds with
    | credential own returns =>
        subst own
        refine ⟨error, ⟨_, _, assignment, at_event, found, there, ?_, returns⟩, hopeless, rfl⟩
        generalize assignment.duty = duty at serves
        cases serves
        rfl
  · rintro ⟨error, denied, hopeless, rfl⟩
    obtain ⟨body, finished⟩ := finished_of_denied denied
    exact ⟨0, body, _, finished, fatal_iff.mpr ⟨error, rfl, hopeless, rfl⟩⟩

/-! ## The channel -/

theorem fatal_of_reports {life : Life config keeper} {n : Nat} {reason : ExitReason}
    (reports : Reports life n reason) :
    (life.before (n + 1)).fatal = (life.before n).fatal.or (some reason) := by
  obtain ⟨task, body, finding, finished, fatal⟩ := reports
  obtain ⟨_, _, _, alike⟩ := finish_of_finished life finished
  rw [alike.fatal, finish, fatal]

theorem reported_before (life : Life config keeper) {n : Nat} {reason : ExitReason}
    (there : (life.before n).fatal = some reason) : ∃ k < n, Reports life k reason := by
  obtain ⟨k, before, absent, there⟩ := life.exists_beginning
    (fun crew => crew.fatal = some reason) nofun there
  refine ⟨k, before, ?_⟩
  have effect := effect_at life k
  generalize life.event k = event at effect
  generalize at_reply : life.reply k = reply at effect
  cases effect with
  | idle alike => exact absurd (alike.fatal.symm.trans there) absent
  | refused same => exact absurd (same ▸ there) absent
  | scheduled _ _ _ _ fatal => exact absurd (fatal.symm.trans there) absent
  | worked _ alike => exact absurd (alike.fatal.symm.trans there) absent
  | gone _ _ alike => exact absurd (alike.fatal.symm.trans there) absent
  | taken _ alike => cases alike.fatal.symm.trans there
  | finished _ _ alike =>
      have put := alike.fatal.symm.trans there
      obtain ⟨-, reported⟩ := (Option.or_eq_some_iff.mp put).resolve_left absent
      exact ⟨_, _, _, at_reply, reported⟩

/-! ## Once -/

/-- No resubmission of a task is accepted. -/
def Unresubmitted (life : Life config keeper) : Prop :=
  ∀ n loop task, life.event n = .scheduler (.resubmit loop task) →
    life.reply n ≠ .scheduler .accepted

theorem spent_of_finished (life : Life config keeper) {n task body : Nat} {finding : Finding}
    {reason : String} (finished : life.reply n = .finished task body finding)
    (failed : finding.verdict.result = .error reason) :
    Spent (life.before (n + 1)).scheduler task := by
  obtain ⟨activity, found, -, alike⟩ := finish_of_finished life finished
  have staffed := staffed_before life n
  obtain ⟨loop, deadline, standing, alive⟩ := running_of_active staffed found
  have moved := alike.scheduler.trans (scheduler_leave alive (.done finding.verdict.result))
  rw [moved, failed]
  intro other stage there
  rw [Scheduler.loops_setBody] at there
  obtain rfl := staffed.inOrder.driven.same_loop standing there rfl
  cases standing.symm.trans there
  exact .inl ⟨body, deadline, reason, rfl, by simp⟩

theorem spent_later {life : Life config keeper} (unresubmitted : Unresubmitted life)
    {n m task : Nat} (spent : Spent (life.before n).scheduler task) (le : n ≤ m) :
    Spent (life.before m).scheduler task := by
  induction m, le using Nat.le_induction with
  | base => exact spent
  | succ m _ ih =>
      rcases scheduler_of_effect (effect_at life m) with same | ⟨moved, answer, change, own⟩
      · exact same ▸ ih
      · refine Scheduler.spent_of_change (staffed_before life m).watched ih change ?_ ?_
        · rintro loop name timing rfl
          rcases own with ⟨-, -, free⟩ | ⟨_, _, impossible, -⟩
          · cases free
          · cases impossible
        · rintro loop rfl rfl
          rcases own with ⟨event, reply, -⟩ | ⟨_, _, impossible, -⟩
          · exact unresubmitted m loop task event reply
          · cases impossible

theorem resting_of_spent {crew : Crew} (staffed : Staffed crew) {task : Nat}
    (spent : Spent crew.scheduler task) (body : Nat) (activity : Activity) :
    crew.active? body ≠ some ⟨task, activity⟩ := by
  intro found
  obtain ⟨loop, deadline, standing, alive⟩ := running_of_active staffed found
  rcases spent loop _ standing with ⟨_, _, _, ⟨⟩, ended⟩ | ⟨_, impossible⟩
  · cases alive.symm.trans ended
  · cases impossible

theorem failed_of_reports {life : Life config keeper} {n : Nat} {reason : ExitReason}
    (reports : Reports life n reason) :
    ∃ body finding message, life.reply n = .finished 0 body finding ∧
      finding.verdict.result = .error message := by
  obtain ⟨error, denied, hopeless, -⟩ := (reports_iff life n reason).mp reports
  obtain ⟨body, finished⟩ := finished_of_denied denied
  refine ⟨body, _, error.message, finished, ?_⟩
  rcases hopeless with class_eq | class_eq <;>
    simp [Finding.verdict, afterCredentialCheck, class_eq]

theorem not_reported_later {life : Life config keeper} (unresubmitted : Unresubmitted life)
    {n m : Nat} {reason other : ExitReason} (reports : Reports life n reason) (later : n < m) :
    ¬ Reports life m other := by
  intro reportsToo
  obtain ⟨body, finding, message, finished, failed⟩ := failed_of_reports reports
  obtain ⟨next, _, _, finishedToo, -⟩ := failed_of_reports reportsToo
  have spent := spent_later unresubmitted (spent_of_finished life finished failed) later
  obtain ⟨activity, found, -⟩ := finish_of_finished life finishedToo
  exact resting_of_spent (staffed_before life m) spent next activity found

/-- A run fails with the error of its body, and never for failures alone that may pass; a task is
failed since one of its runs has failed.  A reason is reported exactly when a check of the
credential is given a hopeless failure, and without resubmissions at most one is. -/
structure Answerable (life : Life config keeper) : Prop where
  runs : ∀ n index reason, life.reply n = .scheduler (.runEnded index (.failed reason)) →
    ∃ k < n, ∃ body finding assignment, life.reply k = .finished index body finding ∧
      finding.verdict.result = .error reason ∧
      (∃ classification ∈ finding.classifications, classification.isRetryable = false) ∧
      (assignments config)[index]? = some assignment ∧ Blame life k body assignment.duty reason
  tasks : ∀ n index task, (life.before n).scheduler.tasks[index]? = some task →
    task.state = .failed →
      ∃ m < n, ∃ reason, life.reply m = .scheduler (.runEnded index (.failed reason)) ∧
        task.lastError = some reason
  watch : ∀ n (index : Nat) (assignment : Assignment) path (task : Task),
    (assignments config)[index]? = some assignment → assignment.duty = .watchStrategy path →
      (life.before n).scheduler.tasks[index]? = some task → task.state ≠ .failed
  reports : ∀ n reason, Reports life n reason ↔
    ∃ error, Denied life n error ∧ Hopeless error.classification ∧
      reason = .ofClassification error.classification
  taken : ∀ n reason, life.reply n = .taken reason → ∃ k < n, Reports life k reason
  once : Unresubmitted life → ∀ n reason, Reports life n reason →
    (∀ m other, Reports life m other → m = n) ∧ (life.before (n + 1)).fatal = some reason

/-- Tasks fail for hopeless failures only, and only those of the credential end the service. -/
theorem hopeless_failures_only (life : Life config keeper) : Answerable life := by
  constructor
  case runs =>
    intro n index reason failed
    obtain ⟨k, before, body, finding, finished, result⟩ := finished_of_failed life failed
    obtain ⟨assignment, there, blame⟩ := blame_of_finished life finished result
    exact ⟨k, before, body, finding, assignment, finished, result, unretryable_of_failed result,
      there, blame⟩
  case tasks => exact fun n index task there failed => failed_since life there failed
  case watch =>
    intro n index assignment path task known duty there failed
    obtain ⟨m, -, reason, failed, -⟩ := failed_since life there failed
    obtain ⟨k, -, body, finding, finished, result⟩ := finished_of_failed life failed
    obtain ⟨assignment', known', blame⟩ := blame_of_finished life finished result
    cases known.symm.trans known'
    rw [duty] at blame
    cases blame
  case reports => exact reports_iff life
  case taken =>
    intro n reason taken
    have effect := effect_at life n
    rw [taken] at effect
    generalize life.event n = event at effect
    cases effect with
    | taken there => exact reported_before life there
    | idle _ quiet | worked _ _ _ _ quiet => cases quiet
  case once =>
    intro unresubmitted n reason reports
    constructor
    · intro m other reportsToo
      rcases Nat.lt_trichotomy m n with earlier | same | later
      · exact absurd reports (not_reported_later unresubmitted reportsToo earlier)
      · exact same
      · exact absurd reportsToo (not_reported_later unresubmitted reports later)
    · rw [fatal_of_reports reports]
      cases there : (life.before n).fatal with
      | none => rfl
      | some earlier =>
          obtain ⟨k, before, reportsToo⟩ := reported_before life there
          exact absurd reports (not_reported_later unresubmitted reportsToo before)

/-- The login of a check is refused, and the loop of the task takes note of it. -/
def refusedOnce : Life smallest (.new default) :=
  .ofList [.scheduler (.pollLoop 0 0 9 false), .scheduler (.pollLoop 0 0 9 false),
    .scheduler (.pollLoop 0 0 9 false), .scheduler (.pollLoop 0 0 9 false),
    .keeper (.arrive 9), .keeper (.look 9 0), .keeper (.join 9), .keeper (.enter 9 0),
    .keeper (.loaded 9 (.ok none)), .keeper (.resume 9 0),
    .keeper (.answered 9 (.error (.invalidCredentials "revoked")) 0), .keeper (.leave 9)]
    (.scheduler (.pollLoop 0 0 10 false))

example : refusedOnce.reply 12 =
    .scheduler (.runEnded 0 (.failed "invalid credentials: revoked")) := rfl

example : (refusedOnce.before 12).fatal = some .authenticationFailed := rfl

end Steward.Crew
