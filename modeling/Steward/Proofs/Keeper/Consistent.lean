import Steward.Proofs.Keeper.Line
/-!
# What calls rely on

A call that has come inside remembers what it found there: the credential that it has refreshed, or
that there was none.  Since nobody else is inside, what it remembers stays true until it changes it
itself.  The secret store is asked in the first transition only, before any transition is completed.
-/

set_option autoImplicit false

namespace Steward.Keeper

/-- What a call at this stage relies on. -/
def Stage.Fits (keeper : Keeper) : Stage → Prop
  | .arrived seen | .missed seen | .queued (.usable seen) => seen ≤ keeper.completed
  | .queued (.replacement _) | .leaving _ => True
  | .loading _ | .restored _ => keeper.restored = true ∧ keeper.completed = 0
  | .refreshing held _ => keeper.restored = true ∧ keeper.current = some held
  | .loggingIn => keeper.restored = true ∧ keeper.current = none
  | .saving _ | .installing _ => keeper.restored = true

structure Consistent (keeper : Keeper) : Prop extends Orderly keeper where
  fits : ∀ call stage, keeper.stage? call = some stage → stage.Fits keeper
  number_le : ∀ held, keeper.current = some held → held.number ≤ keeper.made
  untouched : keeper.restored = false → keeper.completed = 0 ∧ keeper.current = none

theorem fits_congr {keeper next : Keeper} {stage : Stage} (fits : stage.Fits keeper)
    (restored : next.restored = keeper.restored) (completed : next.completed = keeper.completed)
    (current : next.current = keeper.current) : stage.Fits next := by
  unfold Stage.Fits at fits ⊢
  rw [restored, completed, current]
  exact fits

theorem fits_of_outside {keeper next : Keeper} {stage : Stage} (fits : stage.Fits keeper)
    (outside : stage.isInside = false) (grown : keeper.completed ≤ next.completed) :
    stage.Fits next := by
  cases stage with
  | arrived seen => exact Nat.le_trans fits grown
  | missed seen => exact Nat.le_trans fits grown
  | queued purpose =>
      cases purpose with
      | usable seen => exact Nat.le_trans fits grown
      | replacement rejected => trivial
  | loading forced => cases outside
  | restored forced => cases outside
  | refreshing held forced => cases outside
  | loggingIn => cases outside
  | saving fresh => cases outside
  | installing fresh => cases outside
  | leaving result => trivial

namespace Consistent

variable {keeper next : Keeper} {call : Nat}

theorem outside_of_first (consistent : Consistent keeper)
    (first : keeper.gate.holder? = some call) {other : Nat} {stage : Stage}
    (found : keeper.stage? other = some stage) (differs : other ≠ call) :
    stage.isInside = false := by
  cases inside : stage.isInside with
  | false => rfl
  | true =>
      have otherFirst := consistent.first_of_inside other stage found inside
      exact absurd (Option.some.inj (otherFirst.symm.trans first)) differs

theorem move (consistent : Consistent keeper) {stage : Stage} (orderly : Orderly next)
    (stages : ∀ other, next.stage? other =
      if other = call then some stage else keeper.stage? other)
    (fits : stage.Fits keeper) (restored : next.restored = keeper.restored)
    (completed : next.completed = keeper.completed) (current : next.current = keeper.current)
    (made : next.made = keeper.made) : Consistent next := by
  refine ⟨orderly, holds_of_moved stages ?_ ?_, ?_, ?_⟩
  · rintro _ ⟨⟩
    exact fits_congr fits restored completed current
  · intro other otherStage _ found
    exact fits_congr (consistent.fits other otherStage found) restored completed current
  · rw [current, made]
    exact consistent.number_le
  · rw [restored, completed, current]
    exact consistent.untouched

theorem forget (consistent : Consistent keeper) (orderly : Orderly next)
    (stages : ∀ other, next.stage? other = if other = call then none else keeper.stage? other)
    (restored : next.restored = keeper.restored) (completed : next.completed = keeper.completed)
    (current : next.current = keeper.current) (made : next.made = keeper.made) :
    Consistent next := by
  refine ⟨orderly, holds_of_moved stages nofun ?_, ?_, ?_⟩
  · intro other otherStage _ found
    exact fits_congr (consistent.fits other otherStage found) restored completed current
  · rw [current, made]
    exact consistent.number_le
  · rw [restored, completed, current]
    exact consistent.untouched

theorem advance (consistent : Consistent keeper) {stage : Stage} (orderly : Orderly next)
    (first : keeper.gate.holder? = some call)
    (stages : ∀ other, next.stage? other =
      if other = call then some stage else keeper.stage? other)
    (fits : stage.Fits next) (restored : next.restored = true)
    (grown : keeper.completed ≤ next.completed)
    (number_le : ∀ held, next.current = some held → held.number ≤ next.made) :
    Consistent next := by
  refine ⟨orderly, holds_of_moved stages ?_ ?_, number_le, ?_⟩
  · rintro _ ⟨⟩
    exact fits
  · intro other otherStage differs found
    exact fits_of_outside (consistent.fits other otherStage found)
      (consistent.outside_of_first first found differs) grown
  · rw [restored]
    intro impossible
    cases impossible

end Consistent

theorem Due.restored {keeper : Keeper} {call : Nat} {forced : Bool} {event : Event}
    (consistent : Consistent keeper) (due : Due keeper call forced event) :
    keeper.restored = true := by
  cases due with
  | entered stage inside unknown restored => exact restored
  | resumed stage => exact (consistent.fits call _ stage).1

theorem consistent_change {keeper next : Keeper} {event : Event} {reply : Reply}
    (consistent : Consistent keeper) (change : Change keeper event next reply) :
    Consistent next := by
  have orderly := orderly_change consistent.toOrderly change
  cases change with
  | refused => exact consistent
  | waited => exact consistent
  | arrived absent =>
      exact consistent.move orderly (stage?_place _ _ _) (Nat.le_refl _) rfl rfl rfl rfl
  | served stage => exact consistent.forget orderly (stage?_forget _ _) rfl rfl rfl rfl
  | missed stage =>
      have fits := consistent.fits _ _ stage
      exact consistent.move orderly (stage?_place _ _ _) fits rfl rfl rfl rfl
  | joined stage =>
      have fits := consistent.fits _ _ stage
      exact consistent.move orderly (stage?_place _ _ _) fits rfl rfl rfl rfl
  | rejected absent =>
      exact consistent.move orderly (stage?_place _ _ _) trivial rfl rfl rfl rfl
  | shared stage inside known =>
      exact consistent.move orderly (stage?_place _ _ _) trivial rfl rfl rfl rfl
  | asked stage inside unknown fresh =>
      obtain ⟨none_completed, none_current⟩ := consistent.untouched fresh
      exact consistent.advance orderly inside (stage?_place _ _ _) ⟨rfl, none_completed⟩ rfl
        (Nat.le_refl _) consistent.number_le
  | restored stage =>
      have fits := consistent.fits _ _ stage
      have first := consistent.first_of_inside _ _ stage rfl
      refine consistent.advance orderly first (stage?_place _ _ _) fits fits.1 (Nat.le_refl _) ?_
      intro held current
      cases current
      exact Nat.le_refl _
  | unrestored stage =>
      have fits := consistent.fits _ _ stage
      exact consistent.move orderly (stage?_place _ _ _) fits rfl rfl rfl rfl
  | sufficed stage usable =>
      have fits := consistent.fits _ _ stage
      have first := consistent.first_of_inside _ _ stage rfl
      exact consistent.advance orderly first (stage?_place _ _ _) trivial fits.1 (Nat.le_succ _)
        consistent.number_le
  | refresh due present =>
      exact consistent.move orderly (stage?_place _ _ _) ⟨due.restored consistent, present⟩
        rfl rfl rfl rfl
  | login due absent =>
      exact consistent.move orderly (stage?_place _ _ _) ⟨due.restored consistent, absent⟩
        rfl rfl rfl rfl
  | granted found asking =>
      have restored : keeper.restored = true := by
        have fits := consistent.fits _ _ found
        rcases asking with rfl | ⟨_, _, rfl⟩
        · exact fits.1
        · exact fits.1
      exact consistent.move orderly (stage?_place _ _ _) restored rfl rfl rfl rfl
  | kept stage =>
      have fits := consistent.fits _ _ stage
      have first := consistent.first_of_inside _ _ stage rfl
      exact consistent.advance orderly first (stage?_place _ _ _) trivial fits.1 (Nat.le_succ _)
        consistent.number_le
  | discarded stage =>
      have fits := consistent.fits _ _ stage
      have first := consistent.first_of_inside _ _ stage rfl
      refine consistent.advance orderly first (stage?_place _ _ _) ⟨fits.1, rfl⟩ fits.1
        (Nat.le_refl _) ?_
      intro held current
      cases current
  | failed stage =>
      have fits := consistent.fits _ _ stage
      have first := consistent.first_of_inside _ _ stage rfl
      exact consistent.advance orderly first (stage?_place _ _ _) trivial fits.1 (Nat.le_succ _)
        consistent.number_le
  | saved stage =>
      have fits := consistent.fits _ _ stage
      exact consistent.move orderly (stage?_place _ _ _) fits rfl rfl rfl rfl
  | installed stage =>
      have fits := consistent.fits _ _ stage
      have first := consistent.first_of_inside _ _ stage rfl
      refine consistent.advance orderly first (stage?_place _ _ _) trivial fits (Nat.le_succ _) ?_
      intro held current
      cases current
      exact Nat.le_refl _
  | withdrew stage => exact consistent.forget orderly (stage?_forget _ _) rfl rfl rfl rfl
  | unqueued stage => exact consistent.forget orderly (stage?_forget _ _) rfl rfl rfl rfl
  | interrupted found inside =>
      exact consistent.move orderly (stage?_place _ _ _) trivial rfl rfl rfl rfl
  | returned stage => exact consistent.forget orderly (stage?_forget _ _) rfl rfl rfl rfl
  | gone stage => exact consistent.forget orderly (stage?_forget _ _) rfl rfl rfl rfl

theorem consistent_new (window : RefreshWindow) : Consistent (Keeper.new window) := by
  refine ⟨Turnstile.orderly_empty _ _, ?_, ?_, fun _ => ⟨rfl, rfl⟩⟩
  · intro call stage found
    cases found
  · intro held current
    cases current

end Steward.Keeper
