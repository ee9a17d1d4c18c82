import Steward.Proofs.Keeper.Change
import Steward.Proofs.Line
/-!
# Who stands in line before a keeper

The turnstile of a keeper holds exactly the calls that wait or have come inside, each once, and a
call that has decided what to do stands first.  So at most one call is inside at any time, and what
such a call relies on is changed by nobody else.
-/

set_option autoImplicit false

namespace Steward.Keeper

/-- The line and the stages of the calls fit together. -/
abbrev Orderly (keeper : Keeper) : Prop :=
  Turnstile.Orderly Stage.isInLine Stage.isInside keeper.gate keeper.stage?

theorem Due.first {keeper : Keeper} {call : Nat} {forced : Bool} {event : Event}
    (orderly : Orderly keeper) (due : Due keeper call forced event) :
    keeper.gate.holder? = some call := by
  cases due with
  | entered stage inside => exact inside
  | resumed stage => exact orderly.first_of_inside call _ stage rfl

theorem orderly_change {keeper next : Keeper} {event : Event} {reply : Reply}
    (orderly : Orderly keeper) (change : Change keeper event next reply) : Orderly next := by
  cases change with
  | refused => exact orderly
  | waited => exact orderly
  | arrived absent =>
      refine orderly.move rfl (stage?_place _ _ _) ?_ (by intro inside; cases inside)
      exact iff_of_false (orderly.not_mem_of_absent absent) (by simp [Stage.isInLine])
  | served stage =>
      exact orderly.forget rfl (stage?_forget _ _) (orderly.not_mem_of_outside stage rfl)
  | missed stage =>
      refine orderly.move rfl (stage?_place _ _ _) ?_ (by intro inside; cases inside)
      exact iff_of_false (orderly.not_mem_of_outside stage rfl) (by simp [Stage.isInLine])
  | joined stage =>
      exact orderly.join rfl (stage?_place _ _ _) (orderly.not_mem_of_outside stage rfl) rfl rfl
  | rejected absent =>
      exact orderly.join rfl (stage?_place _ _ _) (orderly.not_mem_of_absent absent) rfl rfl
  | shared stage inside =>
      exact orderly.advance rfl (stage?_place _ _ _) inside rfl
  | asked stage inside =>
      exact orderly.advance rfl (stage?_place _ _ _) inside rfl
  | restored stage =>
      exact orderly.proceed stage rfl rfl (stage?_place _ _ _) rfl
  | unrestored stage =>
      exact orderly.proceed stage rfl rfl (stage?_place _ _ _) rfl
  | sufficed stage =>
      exact orderly.proceed stage rfl rfl (stage?_place _ _ _) rfl
  | refresh due =>
      exact orderly.advance rfl (stage?_place _ _ _) (due.first orderly) rfl
  | login due =>
      exact orderly.advance rfl (stage?_place _ _ _) (due.first orderly) rfl
  | granted found asking =>
      rcases asking with rfl | ⟨_, _, rfl⟩
      · exact orderly.proceed found rfl rfl (stage?_place _ _ _) rfl
      · exact orderly.proceed found rfl rfl (stage?_place _ _ _) rfl
  | kept stage =>
      exact orderly.proceed stage rfl rfl (stage?_place _ _ _) rfl
  | discarded stage =>
      exact orderly.proceed stage rfl rfl (stage?_place _ _ _) rfl
  | failed stage =>
      exact orderly.proceed stage rfl rfl (stage?_place _ _ _) rfl
  | saved stage =>
      exact orderly.proceed stage rfl rfl (stage?_place _ _ _) rfl
  | installed stage =>
      exact orderly.proceed stage rfl rfl (stage?_place _ _ _) rfl
  | withdrew stage =>
      refine orderly.forget rfl (stage?_forget _ _) ?_
      rcases stage with stage | stage
      · exact orderly.not_mem_of_outside stage rfl
      · exact orderly.not_mem_of_outside stage rfl
  | unqueued stage => exact orderly.quit rfl (stage?_forget _ _)
  | interrupted found inside =>
      exact orderly.proceed found inside rfl (stage?_place _ _ _) rfl
  | returned stage => exact orderly.quit rfl (stage?_forget _ _)
  | gone stage => exact orderly.quit rfl (stage?_forget _ _)

end Steward.Keeper
