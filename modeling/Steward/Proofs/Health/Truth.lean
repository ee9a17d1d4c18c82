import Steward.Health.Inquiry
import Steward.Proofs.Duties.Staffed
import Steward.Proofs.Keeper.Phase
/-!
# Whether the health report tells the truth

The service is healthy while a credential is held and no task is failed.  A request that finds the
keeper at rest, or asking for a refresh, is answered as it should be.  During a login nothing is
held, and yet the answer is that all is well if no task is failed; nowhere else does it err.
-/

set_option autoImplicit false

namespace Steward

/-! ## The keeper of a crew -/

namespace Crew

theorem keeper_proceed (crew : Crew) (task body : Nat) (cursor : Cursor Transaction) (count : Nat)
    (session : Session.Stage) (input : Session.Input (Page Transaction)) :
    (crew.proceed task body cursor count session input).1.keeper = crew.keeper := by
  simp only [proceed]
  split <;> rfl

theorem keeper_obtained (crew : Crew) (body : Nat) (result : Except AuthError Held) :
    (crew.obtained body result).1.keeper = crew.keeper := by
  simp only [obtained]
  split
  · rfl
  · exact keeper_proceed ..
  · rfl

theorem keeper_poll (crew : Crew) (task body job now : Nat) (stage : PollStage) :
    (crew.poll task body job now stage).1.keeper = crew.keeper := by
  cases stage <;> rfl

theorem keeper_walk (crew : Crew) (task body : Nat) (cursor : Cursor Transaction) (count : Nat) :
    (crew.walk task body cursor count).1.keeper = crew.keeper := by
  simp only [walk]
  split <;> rfl

theorem keeper_begin (crew : Crew) (task body : Nat) :
    (crew.begin task body).keeper = crew.keeper := by
  simp only [begin]
  split <;> rfl

theorem keeper_step (crew : Crew) (event : Event) :
    (crew.step event).1.keeper = crew.keeper ∨
      ∃ moved, (crew.step event).1.keeper = (crew.keeper.step moved).1 := by
  cases event with
  | keeper event =>
      simp only [step]
      split
      · exact .inl rfl
      · refine .inr ⟨event, ?_⟩
        split
        · rw [keeper_obtained]
        · rfl
  | scheduler event =>
      refine .inl ?_
      simp only [step]
      split
      · rfl
      · split
        · rw [keeper_begin]
        · rfl
  | account event => exact .inl rfl
  | strategy event =>
      refine .inl ?_
      simp only [step]
      split <;> rfl
  | answered body answer =>
      refine .inl ?_
      simp only [step]
      split
      · exact keeper_proceed ..
      · rfl
  | goOn body job now =>
      refine .inl ?_
      simp only [step]
      split
      · exact keeper_poll ..
      · exact keeper_walk ..
      · rfl
  | gone body =>
      refine .inl ?_
      simp only [step]
      split <;> rfl
  | take =>
      refine .inl ?_
      simp only [step]
      split <;> rfl

/-- What is true of the keeper with which a crew has begun, and kept by everything that happens to
a keeper, is true of the keeper of the crew all the time. -/
theorem keeper_holds {config : Config} {keeper : Keeper} (life : Life config keeper)
    (Holds : Keeper → Prop) (atStart : Holds keeper)
    (kept : ∀ keeper event, Holds keeper → Holds (keeper.step event).1) (n : Nat) :
    Holds (life.before n).keeper := by
  refine life.holds_of_kept (fun crew => Holds crew.keeper) atStart ?_ n
  intro n holds
  rw [Run.before_succ]
  rcases keeper_step (life.before n) (life.event n) with same | ⟨event, moved⟩
  · exact same ▸ holds
  · exact moved ▸ kept _ event holds

end Crew

namespace Inquiry

open Health (Response)

variable {config : Config} {window : RefreshWindow}

/-! ## What a request finds -/

section Found

variable (inquiry : Inquiry) (crews : Nat → Crew)

/-- No task is failed when it is read. -/
def NoneFailed : Prop :=
  ∀ index < (crews inquiry.count).scheduler.tasks.length, ∀ task,
    (crews (inquiry.task index)).scheduler.tasks[index]? = some task → task.state ≠ .failed

/-- A login is under way when the phase is read. -/
def DuringLogin : Prop := (crews inquiry.phase).keeper.phase = .authenticating

/-- The moment of which the credential is told: when it is read, or when a request for another one
was seen to be under way. -/
def moment : Nat :=
  if (crews inquiry.phase).keeper.phase = .idle then inquiry.credential else inquiry.phase

/-- A credential is held at the moment that is told of. -/
def Holding : Prop := ∃ held, (crews (inquiry.moment crews)).keeper.current = some held

def answer (config : Config) (seen now : Instant) (uptime : Nat) (withBody : Bool) : Response :=
  (inquiry.health config crews seen now uptime).respond [] (.page .health withBody)

/-- The answer is that all is well exactly while a credential is held and no task is failed. -/
structure Truthful (response : Response) : Prop where
  healthy : response.status = 200 ↔ inquiry.Holding crews ∧ inquiry.NoneFailed crews
  degraded : response.status = 503 ↔ ¬ (inquiry.Holding crews ∧ inquiry.NoneFailed crews)

end Found

theorem told_unauthenticated_iff {current : Option Held} {now : Instant} {phase : Keeper.Phase} :
    Keeper.told window current now phase = .unauthenticated ↔ phase = .idle ∧ current = none := by
  cases phase with
  | authenticating => simp [Keeper.told]
  | refreshing => simp [Keeper.told]
  | idle =>
      cases current with
      | none => simp [Keeper.told]
      | some held =>
          simp only [Keeper.told]
          split <;> simp

theorem status_eq_200_iff (health : Health) : health.status = 200 ↔ health.isHealthy = true := by
  rw [Health.status]
  cases health.isHealthy <;> simp

theorem status_eq_503_iff (health : Health) : health.status = 503 ↔ ¬ health.isHealthy = true := by
  rw [Health.status]
  cases health.isHealthy <;> simp

section Answers

variable {inquiry : Inquiry} {crews : Nat → Crew} {seen now : Instant} {uptime : Nat}
  {withBody : Bool}

theorem status_answer : (inquiry.answer crews config seen now uptime withBody).status =
    (inquiry.health config crews seen now uptime).status := by
  cases withBody <;> rfl

theorem all_read_iff :
    ((inquiry.health config crews seen now uptime).tasks.all fun task => task.state != .failed) =
      true ↔ inquiry.NoneFailed crews := by
  simp only [health, NoneFailed, List.all_eq_true, List.mem_filterMap, List.mem_range, bne_iff_ne]
  constructor
  · intro all index bound task there
    exact all task ⟨index, bound, there⟩
  · rintro all task ⟨index, bound, there⟩
    exact all index bound task there

theorem told_iff (matched : Keeper.Matched (crews inquiry.phase).keeper) :
    (inquiry.health config crews seen now uptime).credential ≠ .unauthenticated ↔
      inquiry.Holding crews ∨ inquiry.DuringLogin crews := by
  rw [health, Ne, told_unauthenticated_iff]
  cases phase : (crews inquiry.phase).keeper.phase with
  | idle =>
      have read : inquiry.moment crews = inquiry.credential := if_pos phase
      simp [Holding, DuringLogin, read, phase, Option.ne_none_iff_exists']
  | refreshing =>
      have read : inquiry.moment crews = inquiry.phase := if_neg (by simp [phase])
      have held := matched.held phase
      simp [Holding, read, held]
  | authenticating => simp [DuringLogin, phase]

theorem isHealthy_iff (matched : Keeper.Matched (crews inquiry.phase).keeper) :
    (inquiry.health config crews seen now uptime).isHealthy = true ↔
      (inquiry.Holding crews ∨ inquiry.DuringLogin crews) ∧ inquiry.NoneFailed crews := by
  rw [Health.isHealthy, Bool.and_eq_true, bne_iff_ne, told_iff matched, all_read_iff]

theorem not_holding_of_login (matched : Keeper.Matched (crews inquiry.phase).keeper)
    (during : inquiry.DuringLogin crews) : ¬ inquiry.Holding crews := by
  rintro ⟨held, there⟩
  have busy : (crews inquiry.phase).keeper.phase = .authenticating := during
  have read : inquiry.moment crews = inquiry.phase := if_neg (by simp [busy])
  rw [read] at there
  cases (matched.absent busy).symm.trans there

end Answers

theorem matched_before (first : Keeper.Life window) (m : Nat)
    (life : Crew.Life config (first.before m)) (n : Nat) :
    Keeper.Matched (life.before n).keeper := by
  have all := Crew.keeper_holds life
    (fun keeper => keeper.Consistent ∧ keeper.Phased ∧ keeper.Matched)
    ⟨Keeper.consistent_before first m, Keeper.phased_before first m,
      Keeper.matched_before first m⟩
    (fun keeper event ⟨consistent, phased, matched⟩ =>
      have change := Keeper.change_step keeper event
      ⟨Keeper.consistent_change consistent change,
        Keeper.phased_of_change consistent.toOrderly change phased,
        Keeper.matched_of_change phased change matched⟩) n
  exact all.2.2

/-- Whatever the keeper and the tasks have been through, and whatever goes on during the request:

* the answer is that all is well exactly if no task is failed, and a credential is held or a login
  is under way; otherwise it is that something is wrong;
* during a login no credential is held;
* so the answer is true exactly unless it comes during a login while no task is failed. -/
theorem truthful_iff (first : Keeper.Life window) (m : Nat)
    (life : Crew.Life config (first.before m)) (inquiry : Inquiry) (seen now : Instant)
    (uptime : Nat) (withBody : Bool) :
    ((inquiry.answer life.before config seen now uptime withBody).status = 200 ↔
      (inquiry.Holding life.before ∨ inquiry.DuringLogin life.before) ∧
        inquiry.NoneFailed life.before) ∧
    ((inquiry.answer life.before config seen now uptime withBody).status = 503 ↔
      ¬ ((inquiry.Holding life.before ∨ inquiry.DuringLogin life.before) ∧
        inquiry.NoneFailed life.before)) ∧
    (inquiry.DuringLogin life.before → ¬ inquiry.Holding life.before) ∧
    (inquiry.Truthful life.before (inquiry.answer life.before config seen now uptime withBody) ↔
      ¬ (inquiry.DuringLogin life.before ∧ inquiry.NoneFailed life.before)) := by
  have matched := matched_before first m life inquiry.phase
  have apart := not_holding_of_login matched
  refine ⟨?_, ?_, apart, ?_, ?_⟩
  · rw [status_answer, status_eq_200_iff, isHealthy_iff matched]
  · rw [status_answer, status_eq_503_iff, isHealthy_iff matched]
  · rintro ⟨healthy, -⟩ ⟨during, fine⟩
    rw [status_answer, status_eq_200_iff, isHealthy_iff matched] at healthy
    exact apart during (healthy.mp ⟨.inr during, fine⟩).1
  · intro spared
    have same : (inquiry.Holding life.before ∨ inquiry.DuringLogin life.before) ∧
        inquiry.NoneFailed life.before ↔
          inquiry.Holding life.before ∧ inquiry.NoneFailed life.before := by
      constructor
      · rintro ⟨holding | during, fine⟩
        · exact ⟨holding, fine⟩
        · exact absurd ⟨during, fine⟩ spared
      · rintro ⟨holding, fine⟩
        exact ⟨.inl holding, fine⟩
    constructor
    · rw [status_answer, status_eq_200_iff, isHealthy_iff matched, same]
    · rw [status_answer, status_eq_503_iff, isHealthy_iff matched, same]

def afterLogin : Keeper.Life default := .ofList Keeper.loggedIn (.leave 0)

/-- The credential is in its window, its refresh is refused, and a login is under way. -/
def loggingInAgain : Crew.Life Crew.smallest (afterLogin.before 10) :=
  .ofList [.keeper (.arrive 2), .keeper (.look 2 400000), .keeper (.join 2),
    .keeper (.enter 2 400000),
    .keeper (.answered 2 (.error (.invalidCredentials "revoked")) 400000)] .take

/-- During a login the answer is that all is well, though no credential is held. -/
theorem not_always_truthful :
    ¬ ∀ (window : RefreshWindow) (config : Config) (first : Keeper.Life window) (m : Nat)
      (life : Crew.Life config (first.before m)) (inquiry : Inquiry) (seen now : Instant)
      (uptime : Nat) (withBody : Bool), inquiry.Truthful life.before
        (inquiry.answer life.before config seen now uptime withBody) := by
  intro always
  have truthful :=
    always default Crew.smallest afterLogin 10 loggingInAgain (.atOnce 5) 400000 400000 0 true
  obtain ⟨⟨held, there⟩, -⟩ := truthful.healthy.mp rfl
  have missing : (loggingInAgain.before 5).keeper.current = none := rfl
  have read : (atOnce 5).moment loggingInAgain.before = 5 := rfl
  rw [read] at there
  cases missing.symm.trans there

end Inquiry

end Steward
