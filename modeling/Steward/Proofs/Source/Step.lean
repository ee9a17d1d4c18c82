import Steward.Proofs.Line
import Steward.Proofs.Run
import Steward.Source
/-!
# What an event does to a source

`Step` lists everything that one event can do to a source, with the conditions under which it does
so and the reply that the caller gets.  `step_of_event` says that the list is complete.  Refreshes
stand in line before the turnstile, and at most one is inside.
-/

set_option autoImplicit false

namespace Steward.Source

variable {V E : Type}

theorem stage?_place (source : Source V) (call : Nat) (stage : Stage) (other : Nat) :
    (source.place call stage).stage? other =
      if other = call then some stage else source.stage? other :=
  lookup_placed source.calls call other stage

theorem stage?_retire (source : Source V) (call other : Nat) :
    (source.retire call).stage? other = if other = call then none else source.stage? other :=
  lookup_forgotten source.calls call other

theorem stage?_place_self (source : Source V) (call : Nat) (stage : Stage) :
    (source.place call stage).stage? call = some stage :=
  (stage?_place source call stage call).trans (if_pos rfl)

theorem stage?_retire_self (source : Source V) (call : Nat) :
    (source.retire call).stage? call = none :=
  (stage?_retire source call call).trans (if_pos rfl)

/-! ## Steps -/

def Stage.isInside : Stage → Bool
  | .queued => false
  | .probing | .loading _ => true

/-- Everything an event can do to a source. -/
inductive Step [DecidableEq V] (source : Source V) : Event V E → Source V → Reply V E → Prop where
  | refused {event : Event V E} : Step source event source .refused
  | queued {call : Nat} (absent : source.stage? call = none) :
      Step source (.refresh call)
        ({ source with gate := source.gate.enter call }.place call .queued) .wait
  | waited {call : Nat} (stage : source.stage? call = some .queued)
      (behind : source.gate.holder? ≠ some call) : Step source (.enter call) source .wait
  | entered {call : Nat} (stage : source.stage? call = some .queued)
      (first : source.gate.holder? = some call) :
      Step source (.enter call) (source.place call .probing) .probe
  | unprobed {call : Nat} {error : E} (stage : source.stage? call = some .probing) :
      Step source (.probed call (.error error)) (source.retire call) (.finished (.error error))
  | removed {call : Nat} (stage : source.stage? call = some .probing) :
      Step source (.probed call (.ok none)) (source.remove.1.retire call)
        (.finished (.ok source.remove.2))
  | unchanged {call : Nat} {fingerprint : String} (stage : source.stage? call = some .probing)
      (same : source.fingerprint = some fingerprint) :
      Step source (.probed call (.ok (some fingerprint))) (source.retire call)
        (.finished (.ok none))
  | asked {call : Nat} {fingerprint : String} (stage : source.stage? call = some .probing)
      (differs : source.fingerprint ≠ some fingerprint) :
      Step source (.probed call (.ok (some fingerprint)))
        (source.place call (.loading fingerprint)) (.load fingerprint)
  | unloaded {call : Nat} {fingerprint : String} {error : E}
      (stage : source.stage? call = some (.loading fingerprint)) :
      Step source (.loaded call (.error error)) (source.retire call) (.finished (.error error))
  | replaced {call : Nat} {fingerprint : String} {new : V}
      (stage : source.stage? call = some (.loading fingerprint)) :
      Step source (.loaded call (.ok new)) ((source.replace fingerprint new).1.retire call)
        (.finished (.ok (source.replace fingerprint new).2))
  | dropped {call : Nat} {stage : Stage} (found : source.stage? call = some stage) :
      Step source (.drop call) (source.retire call) .dropped

variable [DecidableEq V]

theorem step_of_event (source : Source V) (event : Event V E) :
    Step source event (source.step event).1 (source.step event).2 := by
  cases event with
  | refresh call =>
      simp only [step]
      split
      · exact .refused
      · next absent => exact .queued absent
  | enter call =>
      simp only [step]
      split
      · next stage =>
          split
          · next first => exact .entered stage first
          · next behind => exact .waited stage behind
      · exact .refused
  | probed call fingerprint =>
      simp only [step]
      split
      · next stage =>
          split
          · exact .unprobed stage
          · exact .removed stage
          · next fingerprint =>
              split
              · next same => exact .unchanged stage same
              · next differs => exact .asked stage differs
      · exact .refused
  | loaded call contents =>
      simp only [step]
      split
      · next stage =>
          split
          · exact .unloaded stage
          · exact .replaced stage
      · exact .refused
  | drop call =>
      simp only [step]
      split
      · next found => exact .dropped found
      · exact .refused

/-- The line and the stages of the refreshes fit together. -/
abbrev Orderly (source : Source V) : Prop :=
  Turnstile.Orderly (fun _ => true) Stage.isInside source.gate source.stage?

theorem orderly_of_step {source next : Source V} {event : Event V E} {reply : Reply V E}
    (orderly : Orderly source) (step : Step source event next reply) : Orderly next := by
  cases step with
  | refused => exact orderly
  | waited => exact orderly
  | queued absent =>
      exact orderly.join rfl (stage?_place _ _ _) (orderly.not_mem_of_absent absent) rfl rfl
  | entered stage first => exact orderly.advance rfl (stage?_place _ _ _) first rfl
  | asked stage => exact orderly.proceed stage rfl rfl (stage?_place _ _ _) rfl
  | unprobed => exact orderly.quit rfl (stage?_retire _ _)
  | removed => exact orderly.quit rfl (stage?_retire _ _)
  | unchanged => exact orderly.quit rfl (stage?_retire _ _)
  | unloaded => exact orderly.quit rfl (stage?_retire _ _)
  | replaced => exact orderly.quit rfl (stage?_retire _ _)
  | dropped => exact orderly.quit rfl (stage?_retire _ _)

theorem stage?_of_other {source next : Source V} {event : Event V E} {reply : Reply V E}
    {call : Nat} (step : Step source event next reply) (other : event.call ≠ call) :
    next.stage? call = source.stage? call := by
  have differs : ¬ call = event.call := fun same => other same.symm
  cases step with
  | refused => rfl
  | waited => rfl
  | queued => exact (stage?_place _ _ _ _).trans (if_neg differs)
  | entered => exact (stage?_place _ _ _ _).trans (if_neg differs)
  | asked => exact (stage?_place _ _ _ _).trans (if_neg differs)
  | _ => exact (stage?_retire _ _ _).trans (if_neg differs)

end Steward.Source
