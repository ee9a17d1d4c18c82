import Steward.Proofs.Cache.Life
import Steward.Proofs.Line
/-!
# Who stands in line before a cache

The turnstile of a cache holds exactly the readers and jobs that wait or compute, each once, and one
that computes stands first.  So at most one computation is under way at any time, and nobody else
comes inside before it is over.
-/

set_option autoImplicit false

namespace Steward.Cache

variable {V E : Type} {ttl : Option Duration}

def Stage.isInLine : Stage → Bool
  | .spawned _ | .missed _ => false
  | .queued _ | .computing .. => true

def Stage.isInside : Stage → Bool
  | .computing .. => true
  | _ => false

/-- The line and the stages of the calls fit together. -/
abbrev Orderly (cache : Cache V E) : Prop :=
  Turnstile.Orderly Stage.isInLine Stage.isInside cache.gate cache.stage?

@[simp] theorem gate_retire (cache : Cache V E) (call : Nat) (role : Role) :
    (cache.retire call role).gate = cache.gate.leave call := by
  cases role with
  | reader seen => rfl
  | job epoch =>
      simp only [retire, clearPending]
      split <;> rfl

@[simp] theorem gate_clearPending (cache : Cache V E) (epoch : Nat) :
    (cache.clearPending epoch).gate = cache.gate := by
  unfold clearPending
  split <;> rfl

@[simp] theorem gate_apply (cache : Cache V E) (epoch now : Nat) (result : Except E V) :
    (cache.apply epoch now result).gate = cache.gate := by
  cases result <;> rfl

@[simp] theorem stage?_apply (cache : Cache V E) (epoch now : Nat) (result : Except E V) :
    (cache.apply epoch now result).stage? = cache.stage? := by
  cases result <;> rfl

theorem orderly_change {cache next : Cache V E} {event : Event V E} {reply : Reply V E}
    (orderly : Orderly cache) (change : Change cache event next reply) : Orderly next := by
  cases change with
  | refused => exact orderly
  | waited => exact orderly
  | found => exact orderly
  | shown => exact orderly
  | invalidated => exact orderly
  | missed absent =>
      refine orderly.move rfl (stage?_place _ _ _) ?_ (by intro inside; cases inside)
      exact iff_of_false (orderly.not_mem_of_absent absent) (by simp [Stage.isInLine])
  | spawned absent =>
      refine orderly.move rfl (stage?_place _ _ _) ?_ (by intro inside; cases inside)
      exact iff_of_false (orderly.not_mem_of_absent absent) (by simp [Stage.isInLine])
  | joined stage =>
      exact orderly.join rfl (stage?_queue _ _ _) (orderly.not_mem_of_outside stage rfl) rfl rfl
  | begun stage =>
      exact orderly.join rfl (stage?_queue _ _ _) (orderly.not_mem_of_outside stage rfl) rfl rfl
  | declined stage =>
      refine orderly.forget (gate_clearPending _ _) ?_ (orderly.not_mem_of_outside stage rfl)
      intro other
      rw [stage?_clearPending, stage?_forget]
  | shared => exact orderly.quit (gate_retire _ _ _) (stage?_retire _ _ _)
  | spared => exact orderly.quit (gate_retire _ _ _) (stage?_retire _ _ _)
  | started stage inside => exact orderly.advance rfl (stage?_place _ _ _) inside rfl
  | @completed call _ epoch now role result =>
      have left : ((cache.apply epoch now result).retire call role).gate =
          cache.gate.leave call := by
        rw [gate_retire, gate_apply]
      refine orderly.quit left ?_
      intro other
      rw [stage?_retire, stage?_apply]
  | withdrew found outside =>
      refine orderly.forget rfl (stage?_forget _ _) (orderly.not_mem_of_outside found ?_)
      rcases outside with ⟨_, rfl⟩ | ⟨_, rfl⟩ <;> rfl
  | abandoned => exact orderly.quit (gate_retire _ _ _) (stage?_retire _ _ _)

/-- In every cache that can be reached, line and stages fit together. -/
theorem orderly_before (life : Life V E ttl) (n : Nat) : Orderly (life.before n) :=
  life.holds_of_kept Orderly (Turnstile.orderly_empty _ _)
    (fun n orderly => orderly_change orderly (change_at life n)) n

/-! ## Computations under way -/

def InFlight (cache : Cache V E) (call : Nat) : Prop :=
  ∃ role ticket epoch, cache.stage? call = some (.computing role ticket epoch)

theorem inFlight_unique {cache : Cache V E} (orderly : Orderly cache) {call other : Nat}
    (computes : InFlight cache call) (also : InFlight cache other) : call = other := by
  obtain ⟨role, ticket, epoch, found⟩ := computes
  obtain ⟨otherRole, number, since, otherFound⟩ := also
  exact orderly.inside_unique otherFound rfl found rfl

/-- A call that computes has done so before, or has just started as the first in line. -/
theorem computing_of_change {cache next : Cache V E} {event : Event V E} {reply : Reply V E}
    {call ticket epoch : Nat} {role : Role} (change : Change cache event next reply)
    (computes : next.stage? call = some (.computing role ticket epoch)) :
    cache.stage? call = some (.computing role ticket epoch) ∨
      cache.stage? call = some (.queued role) ∧ cache.gate.holder? = some call ∧
        (∃ now, event = .enter call now ∧ Needed cache now role) ∧
        reply = .load ticket ∧ ticket = cache.started + 1 ∧ epoch = cache.epoch := by
  cases found : cache.stage? call with
  | none =>
      rcases begins_of_change change found computes with ⟨_, _, impossible⟩ | ⟨_, _, impossible⟩
      · cases impossible
      · cases impossible
  | some stage =>
      rcases moves_or_stays change found computes with ⟨own, moves⟩ | same
      · cases moves with
        | refused => exact .inl rfl
        | started =>
            cases own
            cases change with
            | started before inside needed =>
                rw [stage?_place_self] at computes
                cases computes
                cases before.symm.trans found
                exact .inr ⟨rfl, inside, ⟨_, rfl, needed⟩, rfl, rfl, rfl⟩
      · exact .inl (congrArg some same.symm)

theorem no_load_while_computing {cache next : Cache V E} {event : Event V E} {reply : Reply V E}
    (orderly : Orderly cache) (change : Change cache event next reply) {call : Nat}
    (computes : InFlight cache call) (ticket : Nat) : reply ≠ .load ticket := by
  obtain ⟨role, number, epoch, found⟩ := computes
  intro loads
  cases change with
  | started stage inside =>
      have first := orderly.first_of_inside call _ found rfl
      cases first.symm.trans inside
      cases stage.symm.trans found
  | _ => cases loads

end Steward.Cache
