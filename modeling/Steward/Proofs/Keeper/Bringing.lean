import Steward.Proofs.Keeper.Replacement
/-!
# What a call will be given

A call is given a credential object that has been made, or a failure.  If it is a call for the
replacement of a rejected object, it is given another one, since nothing is kept that was rejected
and whatever is made anew has a number of its own.  A call that is not given up ends with a result.
-/

set_option autoImplicit false

namespace Steward.Keeper

/-- The result is a failure, or an object that has been made and is not the rejected one, if there
is one. -/
def Acceptable (made : Nat) (rejected : Option Nat) (result : Except AuthError Held) : Prop :=
  ∀ held, result = .ok held → held.number ≤ made ∧ rejected ≠ some held.number

/-- A call at this stage has not been given up, and asks for another object than the rejected one if
there is one.  What it leaves with is acceptable. -/
structure Stage.Brings (made : Nat) (rejected : Option Nat) (stage : Stage) : Prop where
  wants : ∀ number, rejected = some number → stage.Wants number
  leaves : ∀ given, stage = .leaving given →
    ∃ result, given = some result ∧ Acceptable made rejected result

theorem acceptable_failure (made : Nat) (rejected : Option Nat) (error : AuthError) :
    Acceptable made rejected (.error error) := nofun

section Change

variable {keeper next : Keeper} {event : Event} {reply : Reply} {call : Nat} {stage after : Stage}
  {rejected : Option Nat} {made : Nat}

theorem Acceptable.grown {result : Except AuthError Held}
    (acceptable : Acceptable made rejected result)
    {later : Nat} (grown : made ≤ later) : Acceptable later rejected result :=
  fun held same => ⟨Nat.le_trans (acceptable held same).1 grown, (acceptable held same).2⟩

theorem Stage.Brings.grown (brings : stage.Brings made rejected) {later : Nat}
    (grown : made ≤ later) : stage.Brings later rejected := by
  refine ⟨brings.wants, fun given same => ?_⟩
  obtain ⟨result, rfl, acceptable⟩ := brings.leaves given same
  exact ⟨result, rfl, acceptable.grown grown⟩

theorem brings_of_outside (wants : ∀ number, rejected = some number → stage.Wants number)
    (outside : stage.isInside = false) : stage.Brings made rejected := by
  refine ⟨wants, ?_⟩
  rintro given rfl
  cases outside

/-- What the keeper knows without a transition is acceptable to whoever asks for it. -/
theorem acceptable_of_known (consistent : Consistent keeper) {now : Instant} {purpose : Purpose}
    (brings : (Stage.queued purpose).Brings keeper.made rejected)
    {result : Except AuthError Held} (known : keeper.known now purpose = some result) :
    Acceptable keeper.made rejected result := by
  rintro held rfl
  cases purpose with
  | usable seen =>
      have unrejected : rejected ≠ some held.number := fun same => by
        cases brings.wants held.number same
      rcases shows_or_usable_of_known known with ⟨-, shows⟩ | ⟨found, same, usable⟩
      · exact ⟨consistent.number_le held shows.2, unrejected⟩
      · cases same
        exact ⟨consistent.number_le held (eq_of_usable usable).1, unrejected⟩
  | replacement other =>
      obtain ⟨found, same, current, differs⟩ := known_replacement_iff.mp known
      cases same
      refine ⟨consistent.number_le held current, fun same => ?_⟩
      cases brings.wants held.number same
      exact differs rfl

/-- A call that goes on without being given up still brings what it asks for. -/
theorem brings_of_change (consistent : Consistent keeper) (change : Change keeper event next reply)
    (own : event.call = call) (kept : ∀ call, event ≠ .drop call)
    (le : ∀ number, rejected = some number → number ≤ keeper.made)
    (found : keeper.stage? call = some stage) (brings : stage.Brings keeper.made rejected)
    (nextFound : next.stage? call = some after) : after.Brings next.made rejected := by
  have moves := moves_of_change change own found
  rw [nextFound] at moves
  refine ⟨fun number same => wants_of_moves moves (brings.wants number same), ?_⟩
  rintro given rfl
  -- A call that keeps a credential, or takes one over, is no call for a replacement.
  have unforced : ∀ {number : Nat}, (∀ rejection, ¬ stage.Wants rejection) →
      rejected ≠ some number := fun unwanted same => unwanted _ (brings.wants _ same)
  cases own
  cases change with
  | refused =>
      cases found.symm.trans nextFound
      exact brings.leaves given rfl
  | waited before => cases before.symm.trans nextFound
  | shared before inside known =>
      cases found.symm.trans before
      cases (stage?_place_self _ _ _).symm.trans nextFound
      exact ⟨_, rfl, acceptable_of_known consistent brings known⟩
  | sufficed before usable =>
      cases found.symm.trans before
      cases (stage?_place_self _ _ _).symm.trans nextFound
      refine ⟨_, rfl, ?_⟩
      rintro held ⟨⟩
      exact ⟨consistent.number_le _ (eq_of_usable usable).1, unforced nofun⟩
  | kept before =>
      cases found.symm.trans before
      cases (stage?_place_self _ _ _).symm.trans nextFound
      refine ⟨_, rfl, ?_⟩
      rintro held ⟨⟩
      exact ⟨consistent.number_le _ (consistent.fits _ _ before).2, unforced nofun⟩
  | failed =>
      cases (stage?_place_self _ _ _).symm.trans nextFound
      exact ⟨_, rfl, acceptable_failure _ _ _⟩
  | installed =>
      cases (stage?_place_self _ _ _).symm.trans nextFound
      refine ⟨_, rfl, ?_⟩
      rintro held ⟨⟩
      refine ⟨Nat.le_refl _, fun same => ?_⟩
      have upTo := le _ same
      exact absurd upTo (Nat.not_succ_le_self _)
  | interrupted => exact absurd rfl (kept _)
  | refresh due =>
      cases due with
      | _ => cases (stage?_place_self _ _ _).symm.trans nextFound
  | login due =>
      cases due with
      | _ => cases (stage?_place_self _ _ _).symm.trans nextFound
  | served => cases (stage?_forget_self _ _).symm.trans nextFound
  | withdrew => cases (stage?_forget_self _ _).symm.trans nextFound
  | unqueued => cases (stage?_forget_self _ _).symm.trans nextFound
  | returned => cases (stage?_forget_self _ _).symm.trans nextFound
  | gone => cases (stage?_forget_self _ _).symm.trans nextFound
  | _ => cases (stage?_place_self _ _ _).symm.trans nextFound

/-- A result ends the call for it. -/
theorem ended_of_finished {result : Except AuthError Held}
    (change : Change keeper event next (.finished result)) :
    (∃ stage, keeper.stage? event.call = some stage) ∧ next.stage? event.call = none ∧
      next.made = keeper.made := by
  cases change with
  | served stage => exact ⟨⟨_, stage⟩, stage?_forget_self _ _, rfl⟩
  | returned stage => exact ⟨⟨_, stage⟩, stage?_forget_self _ _, rfl⟩

theorem acceptable_of_finished (consistent : Consistent keeper) {result : Except AuthError Held}
    (change : Change keeper event next (.finished result))
    (brings : ∀ stage, keeper.stage? event.call = some stage → stage.Brings keeper.made rejected) :
    Acceptable keeper.made rejected result := by
  cases change with
  | served stage usable =>
      rintro held ⟨⟩
      refine ⟨consistent.number_le _ (eq_of_usable usable).1, fun same => ?_⟩
      cases (brings _ stage).wants _ same
  | returned stage =>
      obtain ⟨given, same, acceptable⟩ := (brings _ stage).leaves _ rfl
      cases same
      exact acceptable

theorem goes_on_of_change (change : Change keeper event next reply)
    (kept : ∀ call, event ≠ .drop call) (unfinished : ∀ result, reply ≠ .finished result)
    (found : keeper.stage? event.call = some stage) (brings : stage.Brings made rejected) :
    ∃ after, next.stage? event.call = some after := by
  have moves := moves_of_change change rfl found
  cases ended : next.stage? event.call with
  | some after => exact ⟨after, rfl⟩
  | none =>
      rw [ended] at moves
      generalize event = happens at moves kept
      cases moves with
      | served => exact absurd rfl (unfinished _)
      | withdrew => exact absurd rfl (kept _)
      | returned => exact absurd rfl (unfinished _)
      | gone =>
          obtain ⟨result, impossible, -⟩ := brings.leaves none rfl
          cases impossible

end Change

end Steward.Keeper
