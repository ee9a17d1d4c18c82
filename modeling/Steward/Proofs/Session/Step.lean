import Steward.Proofs.Keeper.Change
import Steward.Session.Desk
/-!
# What an event does to the calls of a service

`Step` lists everything that one event can do to a desk.  What the keeper and the rules for one call
do there is written into the list, so that all else is derived from it.
-/

set_option autoImplicit false

namespace Steward

namespace Session

def standing {α : Type} (answer : Except RemoteError α) : Except AccountError α :=
  answer.mapError .remote

theorem finish_eq {α : Type} (answer : Except RemoteError α) :
    finish answer = .finished (standing answer) := by
  cases answer <;> rfl

/-- The service refused the credential. -/
def IsRejection {α : Type} (answer : Except RemoteError α) : Prop :=
  ∃ error, answer = .error error ∧ error.classification = .authentication

/-- A call at this stage that is given `held` runs with it. -/
inductive Stage.RunsWith (held : Held) : Stage → Stage → Prop where
  | first : RunsWith held .obtaining (.running held)
  | again {refused : Held} : RunsWith held (.replacing refused) (.rerunning held)

def Stage.IsWaiting (stage : Stage) : Prop :=
  stage = .obtaining ∨ ∃ refused, stage = .replacing refused

theorem Stage.busy_running (used : Held) : ¬ (Stage.running used).IsWaiting := by
  rintro (impossible | ⟨_, impossible⟩) <;> cases impossible

theorem Stage.busy_rerunning (used : Held) : ¬ (Stage.rerunning used).IsWaiting := by
  rintro (impossible | ⟨_, impossible⟩) <;> cases impossible

/-- The answer of the service stands for a call at this stage. -/
inductive Stage.Settles {α : Type} (answer : Except RemoteError α) : Stage → Prop where
  | first {used : Held} (taken : ¬ IsRejection answer) : Settles answer (.running used)
  | again {used : Held} : Settles answer (.rerunning used)

end Session

namespace Desk

variable {α : Type}

theorem call?_place (desk : Desk) (number : Nat) (call : Call) (other : Nat) :
    (desk.place number call).call? other =
      if other = number then some call else desk.call? other :=
  lookup_placed desk.calls number other call

theorem call?_forget (desk : Desk) (number other : Nat) :
    (desk.forget number).call? other = if other = number then none else desk.call? other :=
  lookup_forgotten desk.calls number other

theorem call?_place_self (desk : Desk) (number : Nat) (call : Call) :
    (desk.place number call).call? number = some call :=
  (call?_place desk number call number).trans (if_pos rfl)

theorem call?_forget_self (desk : Desk) (number : Nat) :
    (desk.forget number).call? number = none :=
  (call?_forget desk number number).trans (if_pos rfl)

/-- Everything an event can do to a desk. -/
inductive Step (desk : Desk) : Event α → Desk → Reply α → Prop where
  | refused {event : Event α} : Step desk event desk .refused
  | begun {number now : Nat} {operation : String} (absent : desk.call? number = none)
      (unknown : desk.keeper.stage? number = none) :
      Step desk (.begin number operation now) (desk.place number ⟨operation, now, .obtaining⟩)
        .obtain
  | foreign {event : Keeper.Event} {now : Nat} {next : Keeper} {reply : Keeper.Reply}
      (absent : desk.call? event.call = none)
      (change : Keeper.Change desk.keeper event next reply) :
      Step desk (.keeper event now) { desk with keeper := next } (.keeper reply)
  | went {event : Keeper.Event} {now : Nat} {call : Call} {next : Keeper} {reply : Keeper.Reply}
      (found : desk.call? event.call = some call) (admitted : call.stage.admits event = true)
      (change : Keeper.Change desk.keeper event next reply)
      (unfinished : ∀ result, reply ≠ .finished result) :
      Step desk (.keeper event now) { desk with keeper := next } (.keeper reply)
  | obtained {event : Keeper.Event} {now : Nat} {call : Call} {next : Keeper} {held : Held}
      {stage : Session.Stage} (found : desk.call? event.call = some call)
      (change : Keeper.Change desk.keeper event next (.finished (.ok held)))
      (runs : call.stage.RunsWith held stage) :
      Step desk (.keeper event now)
        ({ desk with keeper := next }.place event.call { call with stage := stage }) (.run held)
  | unobtained {event : Keeper.Event} {now : Nat} {call : Call} {next : Keeper} {error : AuthError}
      (found : desk.call? event.call = some call)
      (change : Keeper.Change desk.keeper event next (.finished (.error error)))
      (waits : call.stage.IsWaiting) :
      Step desk (.keeper event now) ({ desk with keeper := next }.forget event.call)
        (.finished call.operation (.error (.auth error))
          (call.samples (.error (.auth error) : Except AccountError α) now))
  | stray {event : Keeper.Event} {now : Nat} {call : Call} {next : Keeper}
      {result : Except AuthError Held} (found : desk.call? event.call = some call)
      (change : Keeper.Change desk.keeper event next (.finished result))
      (busy : ¬ call.stage.IsWaiting) :
      Step desk (.keeper event now) { desk with keeper := next } .refused
  | rejected {number now : Nat} {call : Call} {used : Held} {answer : Except RemoteError α}
      (found : desk.call? number = some call) (stage : call.stage = .running used)
      (rejection : Session.IsRejection answer) :
      Step desk (.answered number answer now)
        (desk.place number { call with stage := .replacing used }) (.replace used)
  | settled {number now : Nat} {call : Call} {answer : Except RemoteError α}
      (found : desk.call? number = some call) (settles : call.stage.Settles answer) :
      Step desk (.answered number answer now) (desk.forget number)
        (.finished call.operation (Session.standing answer)
          (call.samples (Session.standing answer) now))
  | abandoned {number : Nat} {call : Call} {next : Keeper} {reply : Keeper.Reply}
      (found : desk.call? number = some call)
      (change : Keeper.Change desk.keeper (.drop number) next reply) :
      Step desk (.abandon number) ({ desk with keeper := next }.forget number) .abandoned

theorem step_of_given {desk : Desk} {event : Keeper.Event} {now : Nat} {call : Call}
    {next : Keeper} {result : Except AuthError Held}
    (found : desk.call? event.call = some call)
    (change : Keeper.Change desk.keeper event next (.finished result)) :
    Step (α := α) desk (.keeper event now)
      ({ desk with keeper := next }.proceed (α := α) event.call call (.credential result) now).1
      ({ desk with keeper := next }.proceed (α := α) event.call call (.credential result) now).2 := by
  obtain ⟨operation, begun, stage⟩ := call
  cases stage with
  | obtaining =>
      cases result with
      | ok held => exact .obtained found change .first
      | error error => exact .unobtained found change (.inl rfl)
  | replacing refused =>
      cases result with
      | ok held => exact .obtained found change .again
      | error error => exact .unobtained found change (.inr ⟨refused, rfl⟩)
  | running used => exact .stray found change (Session.Stage.busy_running used)
  | rerunning used => exact .stray found change (Session.Stage.busy_rerunning used)

theorem step_of_answer {desk : Desk} {number now : Nat} {call : Call}
    (answer : Except RemoteError α) (found : desk.call? number = some call) :
    Step desk (.answered number answer now) (desk.proceed number call (.result answer) now).1
      (desk.proceed number call (.result answer) now).2 := by
  obtain ⟨operation, begun, stage⟩ := call
  cases stage with
  | obtaining => exact .refused
  | replacing refused => exact .refused
  | running used =>
      cases answer with
      | ok value =>
          have taken : ¬ Session.IsRejection (.ok value : Except RemoteError α) := nofun
          exact .settled found (.first taken)
      | error error =>
          by_cases classed : error.classification = .authentication
          · simp only [proceed, Session.step, classed, if_true]
            exact .rejected found rfl ⟨error, rfl, classed⟩
          · simp only [proceed, Session.step, classed, if_false]
            refine .settled found (.first ?_)
            rintro ⟨_, ⟨⟩, rejected⟩
            exact classed rejected
  | rerunning used =>
      simp only [proceed, Session.step, Session.finish_eq]
      exact .settled found .again

theorem step_of_event (desk : Desk) (event : Event α) :
    Step desk event (desk.step event).1 (desk.step event).2 := by
  cases event with
  | begin number operation now =>
      simp only [step]
      split
      · next absent unknown => exact .begun absent unknown
      · exact .refused
  | keeper event now =>
      have change := Keeper.change_step desk.keeper event
      simp only [step]
      generalize (desk.keeper.step event).1 = next, (desk.keeper.step event).2 = reply at change ⊢
      split
      · next absent => exact .foreign absent change
      · next found =>
          split
          · next admitted =>
              split
              · exact step_of_given found change
              · next unfinished => exact .went found admitted change unfinished
          · exact .refused
  | answered number answer now =>
      simp only [step]
      split
      · next found => exact step_of_answer answer found
      · exact .refused
  | abandon number =>
      simp only [step]
      split
      · next found => exact .abandoned found (Keeper.change_step desk.keeper (.drop number))
      · exact .refused

end Desk

end Steward
