import Steward.Proofs.Duties.Effect
/-!
# Crews with their loops

Every body at work lives, does the work of its task, and is looked after by the loop of this task.
So a body that a loop finds ended while it waits for it has ended by its own work.
-/

set_option autoImplicit false

namespace Steward.Crew

open Duties
open Scheduler (Tends Driven InOrder Watched Distinct)

/-! ## The scheduler of a crew -/

section Start

variable (config : Config) (keeper : Keeper)

theorem scheduler_start : (start config keeper).scheduler =
    enlist (.new config.scheduler.workers) (assignments config) := by
  rw [start]

variable {config keeper} in
theorem holds_at_start {Holds : Scheduler → Prop}
    (kept : ∀ scheduler loop name timing, Holds scheduler →
      Holds (scheduler.step (.schedule loop name timing)).1)
    (none : Holds (.new config.scheduler.workers)) : Holds (start config keeper).scheduler := by
  have enlisted : ∀ (tasks : List Assignment) (scheduler : Scheduler), Holds scheduler →
      Holds (enlist scheduler tasks) := by
    intro tasks
    induction tasks with
    | nil => exact fun _ holds => holds
    | cons first rest ih =>
        intro scheduler holds
        exact ih _ (kept scheduler _ first.name first.timing holds)
  rw [scheduler_start]
  exact enlisted _ _ none

theorem duties_start : (start config keeper).duties = (assignments config).map (·.duty) := by
  rw [start]

theorem inOrder_start : InOrder (start config keeper).scheduler :=
  holds_at_start
    (fun _ _ _ _ inOrder => Scheduler.inOrder_of_change inOrder (Scheduler.change_step _ _))
    ⟨nofun, nofun, nofun⟩

theorem watched_start : Watched (start config keeper).scheduler :=
  holds_at_start
    (fun _ _ _ _ watched => Scheduler.watched_of_change watched (Scheduler.change_step _ _))
    ⟨nofun, nofun⟩

theorem distinct_start : Distinct (start config keeper).scheduler :=
  holds_at_start
    (fun _ _ _ _ distinct => Scheduler.distinct_of_change distinct (Scheduler.change_step _ _))
    ⟨List.nodup_nil, List.nodup_nil, List.nodup_nil⟩

theorem bodies_schedule (scheduler : Scheduler) (loop : Nat) (name : String) (timing : Timing) :
    (scheduler.step (.schedule loop name timing)).1.bodies = scheduler.bodies := by
  simp only [Scheduler.step]
  split
  · rfl
  · split <;> rfl

theorem bodies_start : (start config keeper).scheduler.bodies = [] := by
  have kept : ∀ (scheduler : Scheduler) loop name timing, scheduler.bodies = [] →
      (scheduler.step (.schedule loop name timing)).1.bodies = [] := by
    intro scheduler loop name timing none
    exact (bodies_schedule scheduler loop name timing).trans none
  exact holds_at_start kept rfl

/-- The tasks are those of the duties, in their order, and none has begun. -/
theorem tasks_start : (start config keeper).scheduler.tasks =
    (assignments config).mapIdx fun index assignment =>
      Task.new assignment.name assignment.timing index := by
  rw [scheduler_start]
  cases strategy : config.strategy <;>
    simp [assignments, strategy, enlist, Scheduler.step, Scheduler.new, Scheduler.uses,
      Scheduler.setLoop]

end Start

theorem isAborted_iff {crew : Crew} (distinct : Distinct crew.scheduler) {body : Nat} :
    crew.isAborted body = true ↔
      ∃ loop task cause, crew.scheduler.loops.lookup loop = some ⟨task, .reaping body cause⟩ := by
  rw [isAborted, List.any_eq_true]
  constructor
  · rintro ⟨⟨loop, task, stage⟩, there, reaps⟩
    cases stage with
    | reaping watched cause =>
        obtain rfl : watched = body := by simpa using reaps
        exact ⟨loop, task, cause, lookup_of_mem distinct.loops there⟩
    | _ => cases reaps
  · rintro ⟨loop, task, cause, found⟩
    exact ⟨_, mem_of_lookup found, by simp⟩

/-! ## Bodies with their loops -/

structure Staffed (crew : Crew) : Prop where
  inOrder : InOrder crew.scheduler
  watched : Watched crew.scheduler
  distinct : Distinct crew.scheduler
  tended : ∀ body member, crew.member? body = some member →
    ∃ loop deadline, Tends crew.scheduler loop member.task body deadline
  serves : ∀ body member, crew.member? body = some member →
    ∃ duty, crew.duties[member.task]? = some duty ∧ member.activity.Serves duty

theorem staffed_start (config : Config) (keeper : Keeper) : Staffed (start config keeper) :=
  ⟨inOrder_start .., watched_start .., distinct_start .., nofun, nofun⟩

section Step

variable {crew next : Crew} {event : Event} {reply : Reply}

theorem member_of_active {body : Nat} {member : Member}
    (found : crew.active? body = some member) :
    crew.member? body = some member ∧ crew.isAborted body = false := by
  simp only [active?] at found
  split at found
  · cases found
  · next free => exact ⟨found, Bool.eq_false_iff.mpr free⟩

theorem running_of_active (staffed : Staffed crew) {body : Nat} {member : Member}
    (found : crew.active? body = some member) :
    ∃ loop deadline, crew.scheduler.loops.lookup loop = some ⟨member.task, .running body deadline⟩ ∧
      crew.scheduler.bodies.lookup body = some none := by
  obtain ⟨there, free⟩ := member_of_active found
  obtain ⟨loop, deadline, alive, running | ⟨cause, reaping⟩⟩ := staffed.tended body member there
  · exact ⟨loop, deadline, running, alive⟩
  · have aborted := (isAborted_iff staffed.distinct).mpr ⟨loop, _, cause, reaping⟩
    cases free.symm.trans aborted

theorem member_before (effect : Effect crew next event reply) {body : Nat} {member : Member}
    (found : next.member? body = some member) :
    crew.member? body = some member ∨
      (reply = .scheduler (.startBody member.task body) ∧
        ∃ duty, crew.duties[member.task]? = some duty ∧ member.activity = .first duty) ∨
      ∃ activity, crew.member? body = some ⟨member.task, activity⟩ ∧
        (∀ duty, activity.Serves duty → member.activity.Serves duty) ∧
        ∀ failure, member.activity = .polling (.restrictionsFailure failure) →
          failure = crew.account.balance.cache.lastFailure ∧
            ∃ job now, event = .goOn body job now := by
  cases effect with
  | idle alike => exact .inl ((alike.member? body).symm.trans found)
  | refused same => exact .inl (same ▸ found)
  | taken _ alike => exact .inl ((alike.member? body).symm.trans found)
  | scheduled _ _ begins =>
      rcases begins body member found with same | ⟨rfl, first⟩
      · exact .inl same
      · exact .inr (.inl ⟨rfl, first⟩)
  | @worked _ _ other task activity later there alike serves reads =>
      have found := (alike.member? body).symm.trans found
      rw [member?_place] at found
      by_cases own : body = other
      · subst own
        rw [if_pos rfl] at found
        cases found
        exact .inr (.inr ⟨activity, (member_of_active there).1, serves, reads⟩)
      · rw [if_neg own] at found
        exact .inl found
  | @finished _ other _ _ _ _ _ alike =>
      have found := (alike.member? body).symm.trans found
      rw [member?_finish] at found
      by_cases own : body = other
      · rw [if_pos own] at found
        cases found
      · rw [if_neg own] at found
        exact .inl found
  | @gone other _ _ _ alike =>
      have found := (alike.member? body).symm.trans found
      rw [member?_leave] at found
      by_cases own : body = other
      · rw [if_pos own] at found
        cases found
      · rw [if_neg own] at found
        exact .inl found

/-- The scheduler of a crew moves by at most one event: one of its own, or the end of a body that is
not at work any more. -/
theorem scheduler_of_effect (effect : Effect crew next event reply) :
    next.scheduler = crew.scheduler ∨
      ∃ moved answer, Scheduler.Change crew.scheduler moved next.scheduler answer ∧
        ((event = .scheduler moved ∧ reply = .scheduler answer ∧ isReserved moved = false) ∨
          ∃ body how, moved = .bodyEnded body how ∧ next.member? body = none) := by
  cases effect with
  | idle alike => exact .inl alike.scheduler
  | refused same => exact .inl (congrArg Crew.scheduler same)
  | worked _ alike => exact .inl alike.scheduler
  | taken _ alike => exact .inl alike.scheduler
  | scheduled free change => exact .inr ⟨_, _, change, .inl ⟨rfl, rfl, free⟩⟩
  | @finished _ body _ _ finding _ _ alike =>
      have change := Scheduler.change_step crew.scheduler
        (.bodyEnded body (.done finding.verdict.result))
      have moved : next.scheduler =
          (crew.scheduler.step (.bodyEnded body (.done finding.verdict.result))).1 :=
        alike.scheduler
      rw [← moved] at change
      refine .inr ⟨_, _, change, .inr ⟨body, _, rfl, ?_⟩⟩
      rw [alike.member?, member?_finish, if_pos rfl]
  | @gone body _ _ _ alike =>
      have change := Scheduler.change_step crew.scheduler (.bodyEnded body .cancelled)
      have moved : next.scheduler = (crew.scheduler.step (.bodyEnded body .cancelled)).1 :=
        alike.scheduler
      rw [← moved] at change
      refine .inr ⟨_, _, change, .inr ⟨body, _, rfl, ?_⟩⟩
      rw [alike.member?, member?_leave, if_pos rfl]

theorem duties_of_effect (effect : Effect crew next event reply) : next.duties = crew.duties := by
  cases effect with
  | idle alike => exact alike.duties
  | refused same => exact congrArg Crew.duties same
  | scheduled _ _ _ duties => exact duties
  | worked _ alike => exact alike.duties
  | finished _ _ alike => exact alike.duties
  | gone _ _ alike => exact alike.duties
  | taken _ alike => exact alike.duties

theorem tended_of_effect (staffed : Staffed crew) (effect : Effect crew next event reply)
    {body : Nat} {member : Member} (found : next.member? body = some member) :
    ∃ loop deadline, Tends next.scheduler loop member.task body deadline := by
  have kept : ∀ activity, crew.member? body = some ⟨member.task, activity⟩ →
      ∃ loop deadline, Tends next.scheduler loop member.task body deadline := by
    intro activity before
    obtain ⟨loop, deadline, tends⟩ := staffed.tended body _ before
    rcases scheduler_of_effect effect with same | ⟨moved, answer, change, own⟩
    · exact ⟨loop, deadline, same ▸ tends⟩
    · refine ⟨loop, deadline, Scheduler.tends_of_change tends change ?_⟩
      rintro how rfl
      rcases own with ⟨-, -, free⟩ | ⟨_, _, ⟨⟩, gone⟩
      · cases free
      · cases gone.symm.trans found
  rcases member_before effect found with before | ⟨starts, -⟩ | ⟨activity, before, -⟩
  · exact kept _ before
  · cases effect with
    | scheduled free change =>
        cases starts
        obtain ⟨loop, now, _, task, -, -, -, -, running, alive⟩ := Scheduler.began_of_change change
        exact ⟨loop, _, alive, .inl running⟩
    | idle _ quiet | worked _ _ _ _ quiet =>
        subst starts
        cases quiet
    | _ => cases starts
  · exact kept activity before

theorem staffed_of_effect (staffed : Staffed crew) (effect : Effect crew next event reply) :
    Staffed next := by
  have duties := duties_of_effect effect
  have kept : InOrder next.scheduler ∧ Watched next.scheduler ∧ Distinct next.scheduler := by
    rcases scheduler_of_effect effect with same | ⟨moved, answer, change, -⟩
    · rw [same]
      exact ⟨staffed.inOrder, staffed.watched, staffed.distinct⟩
    · exact ⟨Scheduler.inOrder_of_change staffed.inOrder change,
        Scheduler.watched_of_change staffed.watched change,
        Scheduler.distinct_of_change staffed.distinct change⟩
  refine ⟨kept.1, kept.2.1, kept.2.2, fun _ _ => tended_of_effect staffed effect, ?_⟩
  intro body member found
  rw [duties]
  rcases member_before effect found with before | ⟨-, duty, known, first⟩ | ⟨_, before, serves, -⟩
  · exact staffed.serves body member before
  · exact ⟨duty, known, first ▸ Activity.serves_first duty⟩
  · obtain ⟨duty, known, works⟩ := staffed.serves body _ before
    exact ⟨duty, known, serves duty works⟩

end Step

/-! ## Lives of crews -/

abbrev Life (config : Config) (keeper : Keeper) := Run step (start config keeper)

def smallest : Config where
  remote := ⟨"", none, 0, ""⟩
  account := ⟨"", none, "", false, .conceal "", none, ""⟩
  startup := ⟨0, 0⟩
  refresh := ⟨none, 60, 60, 240, 0⟩
  scheduler := ⟨1, 0⟩
  polling := ⟨0, 0, 0, 0, 0⟩
  strategy := none
  health := none

variable {config : Config} {keeper : Keeper}

theorem effect_at (life : Life config keeper) (n : Nat) :
    Effect (life.before n) (life.before (n + 1)) (life.event n) (life.reply n) :=
  effect_step (life.before n) (life.event n)

theorem staffed_before (life : Life config keeper) (n : Nat) : Staffed (life.before n) :=
  life.holds_of_kept Staffed (staffed_start config keeper)
    (fun n staffed => staffed_of_effect staffed (effect_at life n)) n

theorem duties_before (life : Life config keeper) (n : Nat) :
    (life.before n).duties = (assignments config).map (·.duty) :=
  life.holds_of_kept (fun crew => crew.duties = (assignments config).map (·.duty))
    (duties_start config keeper) (fun n same => (duties_of_effect (effect_at life n)).trans same) n

end Steward.Crew
