import Steward.Credential.Keeper
import Steward.Proofs.Run
/-!
# What an event does to a keeper

`Change` lists everything that one event can do to a keeper, with the conditions under which it does
so and the reply that the caller gets.  `change_step` says that the list is complete.  All that is
known of runs of a keeper is derived from it, without a look at how a step is computed.
-/

set_option autoImplicit false

namespace Steward.Keeper

/-! ## The stage of a call -/

@[simp] theorem stage?_place (keeper : Keeper) (call : Nat) (stage : Stage) (other : Nat) :
    (keeper.place call stage).stage? other =
      if other = call then some stage else keeper.stage? other :=
  lookup_placed keeper.calls call other stage

@[simp] theorem stage?_forget (keeper : Keeper) (call other : Nat) :
    (keeper.forget call).stage? other = if other = call then none else keeper.stage? other :=
  lookup_forgotten keeper.calls call other

theorem stage?_place_self (keeper : Keeper) (call : Nat) (stage : Stage) :
    (keeper.place call stage).stage? call = some stage :=
  (stage?_place keeper call stage call).trans (if_pos rfl)

theorem stage?_forget_self (keeper : Keeper) (call : Nat) :
    (keeper.forget call).stage? call = none :=
  (stage?_forget keeper call call).trans (if_pos rfl)

/-! ## Changes -/

/-- The reading of the clock that comes with an event. -/
def Event.now? : Event → Option Instant
  | .look _ now | .enter _ now | .resume _ now | .answered _ _ now => some now
  | _ => none

/-- Whether a call at this stage has a place in the line. -/
def Stage.isInLine : Stage → Bool
  | .arrived _ | .missed _ => false
  | _ => true

/-- Whether a call at this stage is inside the turnstile and has decided what to do. -/
def Stage.isInside : Stage → Bool
  | .arrived _ | .missed _ | .queued _ => false
  | _ => true

/-- The keeper after a transition with this outcome, apart from the stage of the call. -/
def published (keeper : Keeper) (result : Except AuthError Held) : Keeper :=
  { keeper with
    phase := .idle
    lastFailure := match result with
      | .ok _ => none
      | .error error => some error
    completed := keeper.completed + 1 }

/-- By this event a call has to ask for a new credential: it has come inside, was given nothing, and
the secret store was asked before, or the secret store has given nothing that would do. -/
inductive Due (keeper : Keeper) (call : Nat) : Bool → Event → Prop where
  | entered {now : Instant} {purpose : Purpose}
      (stage : keeper.stage? call = some (.queued purpose))
      (inside : keeper.gate.holder? = some call)
      (unknown : keeper.known now purpose = none)
      (restored : keeper.restored = true) :
      Due keeper call purpose.isForced (.enter call now)
  | resumed {now : Instant} {forced : Bool}
      (stage : keeper.stage? call = some (.restored forced))
      (unusable : forced = true ∨ keeper.usable now = none) :
      Due keeper call forced (.resume call now)

theorem Due.call_eq {keeper : Keeper} {call : Nat} {forced : Bool} {event : Event}
    (due : Due keeper call forced event) : event.call = call := by
  cases due with
  | entered => rfl
  | resumed => rfl

/-- Everything an event can do to a keeper. -/
inductive Change (keeper : Keeper) : Event → Keeper → Reply → Prop where
  | refused {event : Event} : Change keeper event keeper .refused
  | waited {call : Nat} {now : Instant} {purpose : Purpose}
      (stage : keeper.stage? call = some (.queued purpose))
      (behind : keeper.gate.holder? ≠ some call) : Change keeper (.enter call now) keeper .wait
  | arrived {call : Nat} (absent : keeper.stage? call = none) :
      Change keeper (.arrive call) (keeper.place call (.arrived keeper.completed)) .look
  | served {call seen : Nat} {now : Instant} {held : Held}
      (stage : keeper.stage? call = some (.arrived seen))
      (usable : keeper.usable now = some held) :
      Change keeper (.look call now) (keeper.forget call) (.finished (.ok held))
  | missed {call seen : Nat} {now : Instant}
      (stage : keeper.stage? call = some (.arrived seen))
      (unusable : keeper.usable now = none) :
      Change keeper (.look call now) (keeper.place call (.missed seen)) .join
  | joined {call seen : Nat} (stage : keeper.stage? call = some (.missed seen)) :
      Change keeper (.join call)
        ({ keeper with gate := keeper.gate.enter call }.place call (.queued (.usable seen))) .wait
  | rejected {call number : Nat} (absent : keeper.stage? call = none) :
      Change keeper (.reject call number)
        ({ keeper with gate := keeper.gate.enter call }.place call
          (.queued (.replacement number))) .wait
  | shared {call : Nat} {now : Instant} {purpose : Purpose} {result : Except AuthError Held}
      (stage : keeper.stage? call = some (.queued purpose))
      (inside : keeper.gate.holder? = some call)
      (known : keeper.known now purpose = some result) :
      Change keeper (.enter call now) (keeper.place call (.leaving (some result))) .leave
  | asked {call : Nat} {now : Instant} {purpose : Purpose}
      (stage : keeper.stage? call = some (.queued purpose))
      (inside : keeper.gate.holder? = some call)
      (unknown : keeper.known now purpose = none)
      (fresh : keeper.restored = false) :
      Change keeper (.enter call now)
        ({ keeper with restored := true }.place call (.loading purpose.isForced)) .load
  | restored {call : Nat} {forced : Bool} {credential : Credential}
      (stage : keeper.stage? call = some (.loading forced)) :
      Change keeper (.loaded call (.ok (some credential)))
        ((keeper.install credential).place call (.restored forced)) .resume
  | unrestored {call : Nat} {forced : Bool} {stored : Except AuthError (Option Credential)}
      (stage : keeper.stage? call = some (.loading forced))
      (nothing : ∀ credential, stored ≠ .ok (some credential)) :
      Change keeper (.loaded call stored) (keeper.place call (.restored forced)) .resume
  | sufficed {call : Nat} {now : Instant} {held : Held}
      (stage : keeper.stage? call = some (.restored false))
      (usable : keeper.usable now = some held) :
      Change keeper (.resume call now)
        ((keeper.published (.ok held)).place call (.leaving (some (.ok held)))) .leave
  | refresh {call : Nat} {event : Event} {forced : Bool} {held : Held}
      (due : Due keeper call forced event) (present : keeper.current = some held) :
      Change keeper event
        ({ keeper with phase := .refreshing }.place call (.refreshing held forced)) (.refresh held)
  | login {call : Nat} {event : Event} {forced : Bool}
      (due : Due keeper call forced event) (absent : keeper.current = none) :
      Change keeper event ({ keeper with phase := .authenticating }.place call .loggingIn) .login
  | granted {call : Nat} {now : Instant} {fresh : Credential} {stage : Stage}
      (found : keeper.stage? call = some stage)
      (asking : stage = .loggingIn ∨ ∃ held forced, stage = .refreshing held forced) :
      Change keeper (.answered call (.ok fresh) now) (keeper.place call (.saving fresh))
        (.save fresh)
  | kept {call : Nat} {now : Instant} {held : Held} {error : AuthError}
      (stage : keeper.stage? call = some (.refreshing held false))
      (passing : error.classification.isRetryable = true)
      (valid : held.credential.isExpired now = false) :
      Change keeper (.answered call (.error error) now)
        ((keeper.published (.ok held)).place call (.leaving (some (.ok held)))) .leave
  | discarded {call : Nat} {now : Instant} {held : Held} {forced : Bool} {error : AuthError}
      (stage : keeper.stage? call = some (.refreshing held forced))
      (unkept : error.classification.isRetryable = false ∨ forced = true ∨
        held.credential.isExpired now = true) :
      Change keeper (.answered call (.error error) now)
        ({ keeper with current := none, phase := .authenticating }.place call .loggingIn) .login
  | failed {call : Nat} {now : Instant} {error : AuthError}
      (stage : keeper.stage? call = some .loggingIn) :
      Change keeper (.answered call (.error error) now)
        ((keeper.published (.error error)).place call (.leaving (some (.error error)))) .leave
  | saved {call : Nat} {fresh : Credential} {result : Except AuthError Unit}
      (stage : keeper.stage? call = some (.saving fresh)) :
      Change keeper (.saved call result) (keeper.place call (.installing fresh)) .install
  | installed {call : Nat} {fresh : Credential}
      (stage : keeper.stage? call = some (.installing fresh)) :
      Change keeper (.install call)
        (((keeper.install fresh).published (.ok ⟨keeper.made + 1, fresh⟩)).place call
          (.leaving (some (.ok ⟨keeper.made + 1, fresh⟩)))) .leave
  | withdrew {call seen : Nat}
      (stage : keeper.stage? call = some (.arrived seen) ∨
        keeper.stage? call = some (.missed seen)) :
      Change keeper (.drop call) (keeper.forget call) .dropped
  | unqueued {call : Nat} {purpose : Purpose}
      (stage : keeper.stage? call = some (.queued purpose)) :
      Change keeper (.drop call) ({ keeper with gate := keeper.gate.leave call }.forget call)
        .dropped
  | interrupted {call : Nat} {stage : Stage} {phase : Phase}
      (found : keeper.stage? call = some stage) (inside : stage.isInside = true)
      (reset : phase = .idle ∨ (∃ result, stage = .leaving result) ∧ phase = keeper.phase) :
      Change keeper (.drop call) ({ keeper with phase := phase }.place call (.leaving none)) .leave
  | returned {call : Nat} {result : Except AuthError Held}
      (stage : keeper.stage? call = some (.leaving (some result))) :
      Change keeper (.leave call) ({ keeper with gate := keeper.gate.leave call }.forget call)
        (.finished result)
  | gone {call : Nat} (stage : keeper.stage? call = some (.leaving none)) :
      Change keeper (.leave call) ({ keeper with gate := keeper.gate.leave call }.forget call)
        .dropped

/-! ## The list is complete -/

theorem change_renew {keeper : Keeper} {call : Nat} {forced : Bool} {event : Event}
    (due : Due keeper call forced event) :
    Change keeper event (keeper.renew call forced).1 (keeper.renew call forced).2 := by
  unfold renew
  split
  · next absent => exact .login due absent
  · next present => exact .refresh due present

theorem change_decide {keeper : Keeper} {call : Nat} {now : Instant} {purpose : Purpose}
    (stage : keeper.stage? call = some (.queued purpose))
    (inside : keeper.gate.holder? = some call) :
    Change keeper (.enter call now) (keeper.decide call now purpose).1
      (keeper.decide call now purpose).2 := by
  unfold decide
  cases known : keeper.known now purpose with
  | some result => exact .shared stage inside known
  | none =>
      dsimp only
      unfold beginTransition
      cases restored : keeper.restored with
      | false => exact .asked stage inside known restored
      | true => exact change_renew (.entered stage inside known restored)

theorem change_restore {keeper : Keeper} {call : Nat} {forced : Bool}
    (stored : Except AuthError (Option Credential))
    (stage : keeper.stage? call = some (.loading forced)) :
    Change keeper (.loaded call stored) (keeper.restore call forced stored).1
      (keeper.restore call forced stored).2 := by
  unfold restore
  split
  · exact .restored stage
  · next nothing => exact .unrestored stage fun credential same => nothing credential same

theorem change_afterRestore {keeper : Keeper} {call : Nat} {forced : Bool} {now : Instant}
    (stage : keeper.stage? call = some (.restored forced)) :
    Change keeper (.resume call now) (keeper.afterRestore call forced now).1
      (keeper.afterRestore call forced now).2 := by
  unfold afterRestore
  cases forced with
  | true => exact change_renew (.resumed stage (.inl rfl))
  | false =>
      cases usable : keeper.usable now with
      | none => exact change_renew (.resumed stage (.inr usable))
      | some held => exact .sufficed stage usable

theorem change_afterRefresh {keeper : Keeper} {call : Nat} {held : Held} {forced : Bool}
    {now : Instant} (answer : Except AuthError Credential)
    (stage : keeper.stage? call = some (.refreshing held forced)) :
    Change keeper (.answered call answer now) (keeper.afterRefresh call held forced now answer).1
      (keeper.afterRefresh call held forced now answer).2 := by
  cases answer with
  | ok fresh => exact .granted stage (.inr ⟨held, forced, rfl⟩)
  | error error =>
      simp only [afterRefresh]
      split
      · next keeps =>
          simp only [Bool.and_eq_true, Bool.not_eq_true'] at keeps
          obtain ⟨⟨passing, unforced⟩, valid⟩ := keeps
          subst unforced
          exact .kept stage passing valid
      · next discards =>
          refine .discarded stage ?_
          simp only [Bool.and_eq_true, Bool.not_eq_true', not_and_or, Bool.not_eq_false,
            Bool.not_eq_true, or_assoc] at discards
          exact discards

theorem change_afterLogin {keeper : Keeper} {call : Nat} {now : Instant}
    (answer : Except AuthError Credential) (stage : keeper.stage? call = some .loggingIn) :
    Change keeper (.answered call answer now) (keeper.afterLogin call answer).1
      (keeper.afterLogin call answer).2 := by
  cases answer with
  | ok fresh => exact .granted stage (.inl rfl)
  | error error => exact .failed stage

theorem change_abandon {keeper : Keeper} {call : Nat} {stage : Stage}
    (found : keeper.stage? call = some stage) :
    Change keeper (.drop call) (keeper.abandon call stage).1 (keeper.abandon call stage).2 := by
  cases stage with
  | arrived seen => exact .withdrew (.inl found)
  | missed seen => exact .withdrew (.inr found)
  | queued purpose => exact .unqueued found
  | leaving result => exact .interrupted found rfl (.inr ⟨⟨result, rfl⟩, rfl⟩)
  | loading forced => exact .interrupted found rfl (.inl rfl)
  | restored forced => exact .interrupted found rfl (.inl rfl)
  | refreshing held forced => exact .interrupted found rfl (.inl rfl)
  | loggingIn => exact .interrupted found rfl (.inl rfl)
  | saving fresh => exact .interrupted found rfl (.inl rfl)
  | installing fresh => exact .interrupted found rfl (.inl rfl)

/-- What an event does to a keeper is on the list of changes. -/
theorem change_step (keeper : Keeper) (event : Event) :
    Change keeper event (keeper.step event).1 (keeper.step event).2 := by
  cases event with
  | arrive call =>
      simp only [step]
      split
      · next absent => exact .arrived absent
      · exact .refused
  | look call now =>
      simp only [step]
      split
      · next seen stage =>
          cases usable : keeper.usable now with
          | some held => exact .served stage usable
          | none => exact .missed stage usable
      · exact .refused
  | join call =>
      simp only [step]
      split
      · next stage => exact .joined stage
      · exact .refused
  | reject call number =>
      simp only [step]
      split
      · next absent => exact .rejected absent
      · exact .refused
  | enter call now =>
      simp only [step]
      split
      · next purpose stage =>
          split
          · next inside => exact change_decide stage inside
          · next behind => exact .waited stage behind
      · exact .refused
  | loaded call stored =>
      simp only [step]
      split
      · next stage => exact change_restore stored stage
      · exact .refused
  | resume call now =>
      simp only [step]
      split
      · next stage => exact change_afterRestore stage
      · exact .refused
  | answered call answer now =>
      simp only [step]
      split
      · next stage => exact change_afterRefresh answer stage
      · next stage => exact change_afterLogin answer stage
      · exact .refused
  | saved call result =>
      simp only [step]
      split
      · next stage => cases result <;> exact .saved stage
      · exact .refused
  | install call =>
      simp only [step]
      split
      · next stage => exact .installed stage
      · exact .refused
  | drop call =>
      simp only [step]
      split
      · next found => exact change_abandon found
      · exact .refused
  | leave call =>
      simp only [step]
      split
      · next result stage =>
          cases result with
          | some result => exact .returned stage
          | none => exact .gone stage
      · exact .refused

end Steward.Keeper
