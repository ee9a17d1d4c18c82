import Steward.Proofs.Keeper.Change
/-!
# The course of one call

A call goes from stage to stage by events of its own and stays where it is by those of others.
`Moves` lists the ways from each stage, with the event and the reply that the caller gets.  A call
that has come inside never waits again before it ends.
-/

set_option autoImplicit false

namespace Steward.Keeper

inductive Moves : Stage → Event → Reply → Option Stage → Prop where
  | refused {stage : Stage} {event : Event} : Moves stage event .refused (some stage)
  | waited {purpose : Purpose} {call : Nat} {now : Instant} :
      Moves (.queued purpose) (.enter call now) .wait (some (.queued purpose))
  | served {seen call : Nat} {now : Instant} {held : Held} :
      Moves (.arrived seen) (.look call now) (.finished (.ok held)) none
  | missed {seen call : Nat} {now : Instant} :
      Moves (.arrived seen) (.look call now) .join (some (.missed seen))
  | joined {seen call : Nat} :
      Moves (.missed seen) (.join call) .wait (some (.queued (.usable seen)))
  | shared {purpose : Purpose} {call : Nat} {now : Instant} {result : Except AuthError Held} :
      Moves (.queued purpose) (.enter call now) .leave (some (.leaving (some result)))
  | asked {purpose : Purpose} {call : Nat} {now : Instant} :
      Moves (.queued purpose) (.enter call now) .load (some (.loading purpose.isForced))
  | told {forced : Bool} {call : Nat} {stored : Except AuthError (Option Credential)} :
      Moves (.loading forced) (.loaded call stored) .resume (some (.restored forced))
  | sufficed {call : Nat} {now : Instant} {held : Held} :
      Moves (.restored false) (.resume call now) .leave (some (.leaving (some (.ok held))))
  | refreshAtOnce {purpose : Purpose} {call : Nat} {now : Instant} {held : Held} :
      Moves (.queued purpose) (.enter call now) (.refresh held)
        (some (.refreshing held purpose.isForced))
  | loginAtOnce {purpose : Purpose} {call : Nat} {now : Instant} :
      Moves (.queued purpose) (.enter call now) .login (some .loggingIn)
  | refreshAfterRestore {forced : Bool} {call : Nat} {now : Instant} {held : Held} :
      Moves (.restored forced) (.resume call now) (.refresh held) (some (.refreshing held forced))
  | loginAfterRestore {forced : Bool} {call : Nat} {now : Instant} :
      Moves (.restored forced) (.resume call now) .login (some .loggingIn)
  | refreshed {held : Held} {forced : Bool} {call : Nat} {now : Instant} {fresh : Credential} :
      Moves (.refreshing held forced) (.answered call (.ok fresh) now) (.save fresh)
        (some (.saving fresh))
  | kept {held : Held} {call : Nat} {now : Instant} {error : AuthError} :
      Moves (.refreshing held false) (.answered call (.error error) now) .leave
        (some (.leaving (some (.ok held))))
  | discarded {held : Held} {forced : Bool} {call : Nat} {now : Instant} {error : AuthError} :
      Moves (.refreshing held forced) (.answered call (.error error) now) .login (some .loggingIn)
  | loggedIn {call : Nat} {now : Instant} {fresh : Credential} :
      Moves .loggingIn (.answered call (.ok fresh) now) (.save fresh) (some (.saving fresh))
  | failed {call : Nat} {now : Instant} {error : AuthError} :
      Moves .loggingIn (.answered call (.error error) now) .leave
        (some (.leaving (some (.error error))))
  | saved {fresh : Credential} {call : Nat} {result : Except AuthError Unit} :
      Moves (.saving fresh) (.saved call result) .install (some (.installing fresh))
  | installed {fresh : Credential} {call : Nat} {held : Held} :
      Moves (.installing fresh) (.install call) .leave (some (.leaving (some (.ok held))))
  | withdrew {stage : Stage} {call : Nat} (outside : stage.isInside = false) :
      Moves stage (.drop call) .dropped none
  | interrupted {stage : Stage} {call : Nat} (inside : stage.isInside = true) :
      Moves stage (.drop call) .leave (some (.leaving none))
  | returned {result : Except AuthError Held} {call : Nat} :
      Moves (.leaving (some result)) (.leave call) (.finished result) none
  | gone {call : Nat} : Moves (.leaving none) (.leave call) .dropped none

theorem stage?_of_other {keeper next : Keeper} {event : Event} {reply : Reply} {call : Nat}
    (change : Change keeper event next reply) (other : event.call ≠ call) :
    next.stage? call = keeper.stage? call := by
  have differs : ¬ call = event.call := fun same => other same.symm
  cases change with
  | refused => rfl
  | waited => rfl
  | refresh due =>
      cases due <;> exact (stage?_place _ _ _ _).trans (if_neg differs)
  | login due =>
      cases due <;> exact (stage?_place _ _ _ _).trans (if_neg differs)
  | served => exact (stage?_forget _ _ _).trans (if_neg differs)
  | withdrew => exact (stage?_forget _ _ _).trans (if_neg differs)
  | unqueued => exact (stage?_forget _ _ _).trans (if_neg differs)
  | returned => exact (stage?_forget _ _ _).trans (if_neg differs)
  | gone => exact (stage?_forget _ _ _).trans (if_neg differs)
  | _ => exact (stage?_place _ _ _ _).trans (if_neg differs)

theorem moves_of_change {keeper next : Keeper} {event : Event} {reply : Reply} {call : Nat}
    {stage : Stage} (change : Change keeper event next reply) (own : event.call = call)
    (found : keeper.stage? call = some stage) :
    Moves stage event reply (next.stage? call) := by
  cases own
  cases change with
  | refused =>
      rw [found]
      exact .refused
  | waited before =>
      cases found.symm.trans before
      exact found ▸ .waited
  | arrived absent => cases found.symm.trans absent
  | rejected absent => cases found.symm.trans absent
  | served before =>
      cases found.symm.trans before
      exact stage?_forget_self _ _ ▸ .served
  | missed before =>
      cases found.symm.trans before
      exact stage?_place_self _ _ _ ▸ .missed
  | joined before =>
      cases found.symm.trans before
      exact stage?_place_self _ _ _ ▸ .joined
  | shared before =>
      cases found.symm.trans before
      exact stage?_place_self _ _ _ ▸ .shared
  | asked before =>
      cases found.symm.trans before
      exact stage?_place_self _ _ _ ▸ .asked
  | restored before =>
      cases found.symm.trans before
      exact stage?_place_self _ _ _ ▸ .told
  | unrestored before =>
      cases found.symm.trans before
      exact stage?_place_self _ _ _ ▸ .told
  | sufficed before =>
      cases found.symm.trans before
      exact stage?_place_self _ _ _ ▸ .sufficed
  | refresh due =>
      cases due with
      | entered before =>
          cases found.symm.trans before
          exact stage?_place_self _ _ _ ▸ .refreshAtOnce
      | resumed before =>
          cases found.symm.trans before
          exact stage?_place_self _ _ _ ▸ .refreshAfterRestore
  | login due =>
      cases due with
      | entered before =>
          cases found.symm.trans before
          exact stage?_place_self _ _ _ ▸ .loginAtOnce
      | resumed before =>
          cases found.symm.trans before
          exact stage?_place_self _ _ _ ▸ .loginAfterRestore
  | granted before asking =>
      cases found.symm.trans before
      rcases asking with rfl | ⟨held, forced, rfl⟩
      · exact stage?_place_self _ _ _ ▸ .loggedIn
      · exact stage?_place_self _ _ _ ▸ .refreshed
  | kept before =>
      cases found.symm.trans before
      exact stage?_place_self _ _ _ ▸ .kept
  | discarded before =>
      cases found.symm.trans before
      exact stage?_place_self _ _ _ ▸ .discarded
  | failed before =>
      cases found.symm.trans before
      exact stage?_place_self _ _ _ ▸ .failed
  | saved before =>
      cases found.symm.trans before
      exact stage?_place_self _ _ _ ▸ .saved
  | installed before =>
      cases found.symm.trans before
      exact stage?_place_self _ _ _ ▸ .installed
  | withdrew before =>
      rcases before with before | before
      · cases found.symm.trans before
        exact stage?_forget_self _ _ ▸ .withdrew rfl
      · cases found.symm.trans before
        exact stage?_forget_self _ _ ▸ .withdrew rfl
  | unqueued before =>
      cases found.symm.trans before
      exact stage?_forget_self _ _ ▸ .withdrew rfl
  | interrupted before inside =>
      cases found.symm.trans before
      exact stage?_place_self _ _ _ ▸ .interrupted inside
  | returned before =>
      cases found.symm.trans before
      exact stage?_forget_self _ _ ▸ .returned
  | gone before =>
      cases found.symm.trans before
      exact stage?_forget_self _ _ ▸ .gone

/-- Whoever is not known to the keeper can only begin. -/
theorem begins_of_absent {keeper next : Keeper} {event : Event} {reply : Reply}
    (change : Change keeper event next reply) (absent : keeper.stage? event.call = none) :
    (next = keeper ∧ reply = .refused) ∨
      ((∃ call, event = .arrive call) ∧ reply = .look ∧
        next.stage? event.call = some (.arrived keeper.completed)) ∨
      ∃ call rejected, event = .reject call rejected ∧ reply = .wait ∧
        next.stage? event.call = some (.queued (.replacement rejected)) := by
  cases change with
  | refused => exact .inl ⟨rfl, rfl⟩
  | arrived => exact .inr (.inl ⟨⟨_, rfl⟩, rfl, stage?_place_self _ _ _⟩)
  | rejected => exact .inr (.inr ⟨_, _, rfl, rfl, stage?_place_self _ _ _⟩)
  | waited before => cases absent.symm.trans before
  | refresh due => cases due with | _ before => cases absent.symm.trans before
  | login due => cases due with | _ before => cases absent.symm.trans before
  | withdrew before => rcases before with before | before <;> cases absent.symm.trans before
  | served before => cases absent.symm.trans before
  | missed before => cases absent.symm.trans before
  | joined before => cases absent.symm.trans before
  | shared before => cases absent.symm.trans before
  | asked before => cases absent.symm.trans before
  | restored before => cases absent.symm.trans before
  | unrestored before => cases absent.symm.trans before
  | sufficed before => cases absent.symm.trans before
  | granted before => cases absent.symm.trans before
  | kept before => cases absent.symm.trans before
  | discarded before => cases absent.symm.trans before
  | failed before => cases absent.symm.trans before
  | saved before => cases absent.symm.trans before
  | installed before => cases absent.symm.trans before
  | unqueued before => cases absent.symm.trans before
  | interrupted before => cases absent.symm.trans before
  | returned before => cases absent.symm.trans before
  | gone before => cases absent.symm.trans before

theorem begins_of_change {keeper next : Keeper} {event : Event} {reply : Reply} {call : Nat}
    {stage : Stage} (change : Change keeper event next reply) (absent : keeper.stage? call = none)
    (found : next.stage? call = some stage) :
    (event = .arrive call ∧ stage = .arrived keeper.completed) ∨
      ∃ rejected, event = .reject call rejected ∧ stage = .queued (.replacement rejected) := by
  have own : event.call = call := by
    by_contra other
    rw [stage?_of_other change other, absent] at found
    cases found
  cases own
  rcases begins_of_absent change absent with ⟨rfl, -⟩ | ⟨⟨_, rfl⟩, -, arrived⟩ |
    ⟨_, rejected, rfl, -, queued⟩
  · cases absent.symm.trans found
  · cases arrived.symm.trans found
    exact .inl ⟨rfl, rfl⟩
  · cases queued.symm.trans found
    exact .inr ⟨rejected, rfl, rfl⟩

theorem moves_or_stays {keeper next : Keeper} {event : Event} {reply : Reply} {call : Nat}
    {stage after : Stage} (change : Change keeper event next reply)
    (found : keeper.stage? call = some stage) (nextFound : next.stage? call = some after) :
    (event.call = call ∧ Moves stage event reply (some after)) ∨ after = stage := by
  by_cases own : event.call = call
  · exact .inl ⟨own, nextFound ▸ moves_of_change change own found⟩
  · rw [stage?_of_other change own, found] at nextFound
    exact .inr (Option.some.inj nextFound).symm

theorem isInside_of_moves {stage after : Stage} {event : Event} {reply : Reply}
    (moves : Moves stage event reply (some after)) (inside : stage.isInside = true) :
    after.isInside = true := by
  cases moves with
  | refused => exact inside
  | waited => cases inside
  | joined => cases inside
  | missed => cases inside
  | _ => rfl

theorem queued_or_entered_of_moves {purpose : Purpose} {after : Stage} {event : Event}
    {reply : Reply} (moves : Moves (.queued purpose) event reply (some after)) :
    after = .queued purpose ∨ after.isInside = true ∧ ∃ call now, event = .enter call now := by
  cases moves with
  | refused => exact .inl rfl
  | waited => exact .inl rfl
  | shared => exact .inr ⟨rfl, _, _, rfl⟩
  | asked => exact .inr ⟨rfl, _, _, rfl⟩
  | refreshAtOnce => exact .inr ⟨rfl, _, _, rfl⟩
  | loginAtOnce => exact .inr ⟨rfl, _, _, rfl⟩
  | interrupted inside => cases inside

/-- Whoever waits has waited before, has queued for a usable credential, or has just come for a
replacement. -/
theorem queued_of_change {keeper next : Keeper} {event : Event} {reply : Reply} {call : Nat}
    {purpose : Purpose} (change : Change keeper event next reply)
    (waits : next.stage? call = some (.queued purpose)) :
    keeper.stage? call = some (.queued purpose) ∨ (∃ seen, purpose = .usable seen) ∨
      ∃ rejected, event = .reject call rejected ∧ purpose = .replacement rejected := by
  cases before : keeper.stage? call with
  | none =>
      rcases begins_of_change change before waits with ⟨_, impossible⟩ | ⟨rejected, event, same⟩
      · cases impossible
      · cases same
        exact .inr (.inr ⟨rejected, event, rfl⟩)
  | some stage =>
      rcases moves_or_stays change before waits with ⟨_, moves⟩ | rfl
      · cases moves with
        | refused => exact .inl rfl
        | waited => exact .inl rfl
        | joined => exact .inr (.inl ⟨_, rfl⟩)
      · exact .inl rfl

theorem first_of_enter {keeper next : Keeper} {call : Nat} {now : Instant} {reply : Reply}
    (change : Change keeper (.enter call now) next reply) :
    keeper.gate.holder? = some call ∨ next = keeper := by
  cases change with
  | refused => exact .inr rfl
  | waited => exact .inr rfl
  | shared _ first => exact .inl first
  | asked _ first => exact .inl first
  | refresh due =>
      cases due with
      | entered _ first => exact .inl first
  | login due =>
      cases due with
      | entered _ first => exact .inl first

/-! ## Events that are never refused -/

theorem step_arrive {keeper : Keeper} {call : Nat} (absent : keeper.stage? call = none) :
    keeper.step (.arrive call) = (keeper.place call (.arrived keeper.completed), .look) := by
  simp only [step, absent]

theorem step_reject {keeper : Keeper} {call rejected : Nat}
    (absent : keeper.stage? call = none) :
    keeper.step (.reject call rejected) =
      ({ keeper with gate := keeper.gate.enter call }.place call
        (.queued (.replacement rejected)), .wait) := by
  simp only [step, absent]

theorem step_enter {keeper : Keeper} {call : Nat} {now : Instant} {purpose : Purpose}
    {result : Except AuthError Held} (stage : keeper.stage? call = some (.queued purpose))
    (inside : keeper.gate.holder? = some call) (known : keeper.known now purpose = some result) :
    keeper.step (.enter call now) = (keeper.place call (.leaving (some result)), .leave) := by
  simp only [step, stage, inside, if_true, decide, known, share]

theorem step_enter_unknown {keeper : Keeper} {call : Nat} {now : Instant} {purpose : Purpose}
    (stage : keeper.stage? call = some (.queued purpose))
    (inside : keeper.gate.holder? = some call) (unknown : keeper.known now purpose = none) :
    keeper.step (.enter call now) = keeper.beginTransition call purpose.isForced := by
  simp only [step, stage, inside, if_true, decide, unknown]

theorem step_look_unusable {keeper : Keeper} {call seen : Nat} {now : Instant}
    (stage : keeper.stage? call = some (.arrived seen)) (unusable : keeper.usable now = none) :
    keeper.step (.look call now) = (keeper.place call (.missed seen), .join) := by
  simp only [step, stage, unusable]

theorem step_join {keeper : Keeper} {call seen : Nat}
    (stage : keeper.stage? call = some (.missed seen)) :
    keeper.step (.join call) =
      ({ keeper with gate := keeper.gate.enter call }.place call (.queued (.usable seen)),
        .wait) := by
  simp only [step, stage]

theorem step_loaded {keeper : Keeper} {call : Nat} {forced : Bool} {stored : Credential}
    (stage : keeper.stage? call = some (.loading forced)) :
    keeper.step (.loaded call (.ok (some stored))) =
      ((keeper.install stored).place call (.restored forced), .resume) := by
  simp only [step, stage, restore]

theorem step_resume_usable {keeper : Keeper} {call : Nat} {now : Instant} {held : Held}
    (stage : keeper.stage? call = some (.restored false))
    (usable : keeper.usable now = some held) :
    keeper.step (.resume call now) = keeper.complete call (.ok held) := by
  simp only [step, stage, afterRestore, Bool.false_eq_true, if_false, usable]

theorem step_leave {keeper : Keeper} {call : Nat} {result : Except AuthError Held}
    (stage : keeper.stage? call = some (.leaving (some result))) :
    keeper.step (.leave call) =
      ({ keeper with gate := keeper.gate.leave call }.forget call, .finished result) := by
  simp only [step, stage]

end Steward.Keeper
