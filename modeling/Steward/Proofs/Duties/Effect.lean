import Steward.Duties.Crew
import Steward.Proofs.Scheduler.Failing
/-!
# What an event does to a crew

An event moves the scheduler, has a body start, go on, end or disappear, or touches nothing but the
parts that bodies share.  `effect_step` says so, and what a body has found when it ends.
-/

set_option autoImplicit false

namespace Steward.Crew

open Duties

/-! ## Bodies at work -/

@[simp] theorem member?_place (crew : Crew) (body : Nat) (member : Member) (other : Nat) :
    (crew.place body member).member? other =
      if other = body then some member else crew.member? other :=
  lookup_placed crew.members body other member

@[simp] theorem member?_leave (crew : Crew) (body : Nat) (how : Scheduler.BodyEnd) (other : Nat) :
    (crew.leave body how).member? other = if other = body then none else crew.member? other :=
  lookup_forgotten crew.members body other

@[simp] theorem member?_finish (crew : Crew) (task body : Nat) (finding : Finding) (other : Nat) :
    (crew.finish task body finding).1.member? other =
      if other = body then none else crew.member? other :=
  lookup_forgotten crew.members body other

/-- The work is that of the duty. -/
inductive Activity.Serves : Activity → Duty → Prop where
  | checks : Serves .checking .checkCredential
  | polls {stage : PollStage} : Serves (.polling stage) .pollAccount
  | walks {cursor : Cursor Transaction} {count : Nat} :
      Serves (.walking cursor count) .syncTransactions
  | calls {cursor : Cursor Transaction} {count : Nat} {session : Session.Stage} :
      Serves (.calling cursor count session) .syncTransactions
  | refreshes {path : String} : Serves .refreshing (.watchStrategy path)

theorem Activity.serves_first (duty : Duty) : (first duty).Serves duty := by
  cases duty with
  | checkCredential => exact .checks
  | pollAccount => exact .polls
  | syncTransactions => exact .walks
  | watchStrategy => exact .refreshes

inductive Given (crew : Crew) (body : Nat) : Event → Session.Input (Page Transaction) → Prop where
  | credential {event : Keeper.Event} {result : Except AuthError Held} (own : event.call = body)
      (returns : (crew.keeper.step event).2 = .finished result) :
      Given crew body (.keeper event) (.credential result)
  | answer {answer : Except RemoteError (Page Transaction)} :
      Given crew body (.answered body answer) (.result answer)

/-- By this event the work of the body, at this stage, comes to this. -/
inductive Finds (crew : Crew) (body : Nat) : Event → Activity → Finding → Prop where
  | credential {event : Keeper.Event} {result : Except AuthError Held} (own : event.call = body)
      (returns : (crew.keeper.step event).2 = .finished result) :
      Finds crew body (.keeper event) .checking (.credential result)
  | failures {balance : Option AccountError} {job now : Nat} :
      Finds crew body (.goOn body job now) (.polling (.restrictionsFailure balance))
        (.failures balance crew.account.restrictions.cache.lastFailure)
  | walked {cursor : Cursor Transaction} {count job now : Nat} :
      Finds crew body (.goOn body job now) (.walking cursor count) (.synced (.ok count))
  | broken {event : Event} {cursor : Cursor Transaction} {count : Nat} {session : Session.Stage}
      {input : Session.Input (Page Transaction)} {error : AccountError}
      (given : Given crew body event input)
      (ends : (Session.step session input).2 = .finished (.error error)) :
      Finds crew body event (.calling cursor count session) (.synced (.error error))
  | refreshed {event : Source.Event String FileError}
      {result : Except FileError (Option (Source.Change String))} (own : event.call = body)
      (returns : (crew.strategy.step event).2 = .finished result) :
      Finds crew body (.strategy event) .refreshing (.refreshed result)

/-! ## Effects -/

structure Alike (crew next : Crew) : Prop where
  duties : next.duties = crew.duties
  scheduler : next.scheduler = crew.scheduler
  members : next.members = crew.members
  fatal : next.fatal = crew.fatal

namespace Alike

variable {crew next : Crew}

theorem refl (crew : Crew) : Alike crew crew := ⟨rfl, rfl, rfl, rfl⟩

theorem member? (alike : Alike crew next) (body : Nat) : next.member? body = crew.member? body := by
  rw [Crew.member?, alike.members]
  rfl

theorem active? (alike : Alike crew next) (body : Nat) : next.active? body = crew.active? body := by
  rw [Crew.active?, isAborted, alike.scheduler, alike.member?]
  rfl

theorem place (alike : Alike crew next) (body : Nat) (member : Member) :
    Alike (crew.place body member) (next.place body member) := by
  obtain ⟨duties, scheduler, members, fatal⟩ := alike
  exact ⟨duties, scheduler, by simp only [Crew.place, members], fatal⟩

theorem finish (alike : Alike crew next) (task body : Nat) (finding : Finding) :
    Alike (crew.finish task body finding).1 (next.finish task body finding).1 := by
  obtain ⟨duties, scheduler, members, fatal⟩ := alike
  refine ⟨duties, ?_, ?_, ?_⟩
  · simp only [Crew.finish, leave, scheduler]
  · simp only [Crew.finish, leave, members]
  · simp only [Crew.finish, fatal]

end Alike

/-- The reply is no news of the scheduler, the channel, or a body that is over. -/
def Reply.isQuiet : Reply → Bool
  | .keeper _ | .account _ | .strategy _ | .progress => true
  | .scheduler _ | .finished .. | .taken _ | .refused => false

/-- Everything an event can do to a crew. -/
inductive Effect (crew next : Crew) : Event → Reply → Prop where
  | idle {event : Event} {reply : Reply} (alike : Alike crew next) (quiet : reply.isQuiet = true) :
      Effect crew next event reply
  | refused {event : Event} (same : next = crew) : Effect crew next event .refused
  | scheduled {event : Scheduler.Event} {reply : Scheduler.Reply} (free : isReserved event = false)
      (change : Scheduler.Change crew.scheduler event next.scheduler reply)
      (begins : ∀ body member, next.member? body = some member →
        crew.member? body = some member ∨ reply = .startBody member.task body ∧
          ∃ duty, crew.duties[member.task]? = some duty ∧ member.activity = .first duty)
      (duties : next.duties = crew.duties) (fatal : next.fatal = crew.fatal) :
      Effect crew next (.scheduler event) (.scheduler reply)
  | worked {event : Event} {reply : Reply} {body task : Nat} {activity later : Activity}
      (found : crew.active? body = some ⟨task, activity⟩)
      (alike : Alike (crew.place body ⟨task, later⟩) next)
      (serves : ∀ duty, activity.Serves duty → later.Serves duty)
      (reads : ∀ failure, later = .polling (.restrictionsFailure failure) →
        failure = crew.account.balance.cache.lastFailure ∧ ∃ job now, event = .goOn body job now)
      (quiet : reply.isQuiet = true) : Effect crew next event reply
  | finished {event : Event} {body task : Nat} {activity : Activity} {finding : Finding}
      (found : crew.active? body = some ⟨task, activity⟩)
      (finds : Finds crew body event activity finding)
      (alike : Alike (crew.finish task body finding).1 next) :
      Effect crew next event (.finished task body finding)
  | gone {body : Nat} {member : Member} (found : crew.member? body = some member)
      (aborted : crew.isAborted body = true) (alike : Alike (crew.leave body .cancelled) next) :
      Effect crew next (.gone body) .progress
  | taken {reason : ExitReason} (there : crew.fatal = some reason)
      (alike : Alike { crew with fatal := none } next) : Effect crew next .take (.taken reason)

section Effects

variable {crew moved : Crew} {event : Event} {task body : Nat}

theorem effect_proceed (alike : Alike crew moved) {cursor : Cursor Transaction} {count : Nat}
    {session : Session.Stage} {input : Session.Input (Page Transaction)}
    (found : crew.active? body = some ⟨task, .calling cursor count session⟩)
    (given : Given crew body event input) :
    Effect crew (moved.proceed task body cursor count session input).1 event
      (moved.proceed task body cursor count session input).2 := by
  simp only [proceed]
  split
  · refine .worked found (alike.place _ _) ?_ nofun rfl
    intro duty serves
    cases serves
    exact .walks
  · next ends => exact .finished found (.broken given (congrArg Prod.snd ends)) (alike.finish _ _ _)
  · exact .idle alike rfl
  · refine .worked found (alike.place _ _) ?_ nofun rfl
    intro duty serves
    cases serves
    exact .calls

theorem effect_obtained (alike : Alike crew moved) {event : Keeper.Event}
    {result : Except AuthError Held} (returns : (crew.keeper.step event).2 = .finished result) :
    Effect crew (moved.obtained event.call result).1 (.keeper event)
      (moved.obtained event.call result).2 := by
  simp only [obtained, alike.active?]
  split
  · next found => exact .finished found (.credential rfl returns) (alike.finish _ _ _)
  · next found => exact effect_proceed alike found (.credential rfl returns)
  · exact .idle alike rfl

theorem effect_poll {job now : Nat} {stage : PollStage}
    (found : crew.active? body = some ⟨task, .polling stage⟩) :
    Effect crew (crew.poll task body job now stage).1 (.goOn body job now)
      (crew.poll task body job now stage).2 := by
  have polls : ∀ {later : PollStage} (duty : Duty), (Activity.polling stage).Serves duty →
      (Activity.polling later).Serves duty := by
    intro later duty serves
    cases serves
    exact .polls
  cases stage with
  | balance => exact .worked found ⟨rfl, rfl, rfl, rfl⟩ polls nofun rfl
  | restrictions => exact .worked found ⟨rfl, rfl, rfl, rfl⟩ polls nofun rfl
  | balanceFailure =>
      refine .worked found ⟨rfl, rfl, rfl, rfl⟩ polls ?_ rfl
      rintro failure ⟨⟩
      exact ⟨rfl, job, now, rfl⟩
  | restrictionsFailure balance => exact .finished found .failures (.refl _)

theorem effect_walk {job now : Nat} {cursor : Cursor Transaction} {count : Nat}
    (found : crew.active? body = some ⟨task, .walking cursor count⟩) :
    Effect crew (crew.walk task body cursor count).1 (.goOn body job now)
      (crew.walk task body cursor count).2 := by
  simp only [walk]
  split
  · exact .finished found .walked (.refl _)
  · refine .worked found (.refl _) ?_ nofun rfl
    intro duty serves
    cases serves
    exact .walks
  · refine .worked found (.refl _) ?_ nofun rfl
    intro duty serves
    cases serves
    exact .calls

theorem effect_scheduler (crew : Crew) (event : Scheduler.Event) :
    Effect crew (crew.step (.scheduler event)).1 (.scheduler event)
      (crew.step (.scheduler event)).2 := by
  simp only [step]
  split
  · exact .refused rfl
  · next free =>
      have change := Scheduler.change_step crew.scheduler event
      have free := Bool.eq_false_iff.mpr free
      split
      · next task body starts =>
          simp only [begin]
          split
          · next duty known =>
              refine .scheduled free change ?_ rfl rfl
              intro other member found
              rw [member?_place] at found
              by_cases own : other = body
              · rw [if_pos own] at found
                cases found
                exact .inr ⟨own ▸ starts, duty, known, rfl⟩
              · rw [if_neg own] at found
                exact .inl found
          · exact .scheduled free change (fun _ _ found => .inl found) rfl rfl
      · exact .scheduled free change (fun _ _ found => .inl found) rfl rfl

theorem effect_step (crew : Crew) (event : Event) :
    Effect crew (crew.step event).1 event (crew.step event).2 := by
  cases event with
  | scheduler event => exact effect_scheduler crew event
  | keeper event =>
      simp only [step]
      split
      · exact .refused rfl
      · split
        · next returns =>
            have alike : Alike crew { crew with keeper := (crew.keeper.step event).1 } :=
              ⟨rfl, rfl, rfl, rfl⟩
            exact effect_obtained alike returns
        · exact .idle ⟨rfl, rfl, rfl, rfl⟩ rfl
  | account event => exact .idle ⟨rfl, rfl, rfl, rfl⟩ rfl
  | strategy event =>
      simp only [step]
      split
      · next returns found =>
          exact .finished found (.refreshed rfl returns) ⟨rfl, rfl, rfl, rfl⟩
      · exact .idle ⟨rfl, rfl, rfl, rfl⟩ rfl
  | answered body answer =>
      simp only [step]
      split
      · next found => exact effect_proceed (.refl _) found .answer
      · exact .refused rfl
  | goOn body job now =>
      simp only [step]
      split
      · next found => exact effect_poll found
      · next found => exact effect_walk found
      · exact .refused rfl
  | gone body =>
      simp only [step]
      split
      · next aborted =>
          rw [Bool.and_eq_true] at aborted
          obtain ⟨member, found⟩ := Option.isSome_iff_exists.mp aborted.2
          exact .gone found aborted.1 (.refl _)
      · exact .refused rfl
  | take =>
      simp only [step]
      split
      · next there => exact .taken there (.refl _)
      · exact .refused rfl

end Effects

end Steward.Crew
