import Steward.Proofs.Cache.Change
/-!
# The course of one reader or job

A reader that waits and a background job go from stage to stage by events of their own and stay
where they are by those of others.  `Moves` lists the ways from each stage.
-/

set_option autoImplicit false

namespace Steward.Cache

variable {V E : Type}

inductive Moves : Stage → Event V E → Reply V E → Option Stage → Prop where
  | refused {stage : Stage} {event : Event V E} : Moves stage event .refused (some stage)
  | waited {role : Role} {call now : Nat} :
      Moves (.queued role) (.enter call now) .wait (some (.queued role))
  | joined {seen call : Nat} :
      Moves (.missed seen) (.join call) .wait (some (.queued (.reader seen)))
  | begun {epoch job : Nat} :
      Moves (.spawned epoch) (.begin job) .wait (some (.queued (.job epoch)))
  | declined {epoch job : Nat} : Moves (.spawned epoch) (.decline job) .done none
  | shared {seen call now : Nat} {result : Except E V} :
      Moves (.queued (.reader seen)) (.enter call now) (.served result) none
  | spared {epoch job now : Nat} : Moves (.queued (.job epoch)) (.enter job now) .done none
  | started {role : Role} {call now ticket epoch : Nat} :
      Moves (.queued role) (.enter call now) (.load ticket) (some (.computing role ticket epoch))
  | completed {role : Role} {ticket epoch call now : Nat} {result : Except E V} :
      Moves (.computing role ticket epoch) (.loaded call result now)
        (.completed result role.isReader) none
  | dropped {stage : Stage} {call : Nat} : Moves stage (.drop call) .done none

theorem stage?_of_other {cache next : Cache V E} {event : Event V E} {reply : Reply V E}
    {call : Nat} (change : Change cache event next reply) (other : event.call? ≠ some call) :
    next.stage? call = cache.stage? call := by
  have differs : ∀ {own : Nat}, event.call? = some own → ¬ call = own := by
    intro own belongs same
    exact other (belongs.trans (congrArg some same.symm))
  cases change with
  | refused => rfl
  | waited => rfl
  | found => rfl
  | shown => rfl
  | invalidated => rfl
  | joined => exact (stage?_queue _ _ _ _).trans (if_neg (differs rfl))
  | begun => exact (stage?_queue _ _ _ _).trans (if_neg (differs rfl))
  | declined =>
      exact (stage?_clearPending _ _ _).trans
        ((stage?_forget _ _ _).trans (if_neg (differs rfl)))
  | shared => exact (stage?_retire _ _ _ _).trans (if_neg (differs rfl))
  | spared => exact (stage?_retire _ _ _ _).trans (if_neg (differs rfl))
  | completed =>
      refine (stage?_retire _ _ _ _).trans ((if_neg (differs rfl)).trans ?_)
      cases ‹Except E V› <;> rfl
  | withdrew => exact (stage?_forget _ _ _).trans (if_neg (differs rfl))
  | abandoned => exact (stage?_retire _ _ _ _).trans (if_neg (differs rfl))
  | _ => exact (stage?_place _ _ _ _).trans (if_neg (differs rfl))

theorem moves_of_change {cache next : Cache V E} {event : Event V E} {reply : Reply V E}
    {call : Nat} {stage : Stage} (change : Change cache event next reply)
    (own : event.call? = some call) (found : cache.stage? call = some stage) :
    Moves stage event reply (next.stage? call) := by
  cases change with
  | refused =>
      rw [found]
      exact .refused
  | invalidated => cases own
  | waited before =>
      cases own
      cases found.symm.trans before
      exact found ▸ .waited
  | found absent =>
      cases own
      cases found.symm.trans absent
  | missed absent =>
      cases own
      cases found.symm.trans absent
  | shown absent =>
      cases own
      cases found.symm.trans absent
  | spawned absent =>
      cases own
      cases found.symm.trans absent
  | joined before =>
      cases own
      cases found.symm.trans before
      exact stage?_queue_self _ _ _ ▸ .joined
  | begun before =>
      cases own
      cases found.symm.trans before
      exact stage?_queue_self _ _ _ ▸ .begun
  | declined before =>
      cases own
      cases found.symm.trans before
      simp only [stage?_clearPending, stage?_forget, if_true]
      exact .declined
  | shared before =>
      cases own
      cases found.symm.trans before
      simp only [stage?_retire, if_true]
      exact .shared
  | spared before =>
      cases own
      cases found.symm.trans before
      simp only [stage?_retire, if_true]
      exact .spared
  | started before =>
      cases own
      cases found.symm.trans before
      exact stage?_place_self _ _ _ ▸ .started
  | completed before =>
      cases own
      cases found.symm.trans before
      simp only [stage?_retire, if_true]
      exact .completed
  | withdrew =>
      cases own
      simp only [stage?_forget, if_true]
      exact .dropped
  | abandoned =>
      cases own
      simp only [stage?_retire, if_true]
      exact .dropped

theorem moves_or_stays {cache next : Cache V E} {event : Event V E} {reply : Reply V E}
    {call : Nat} {stage after : Stage} (change : Change cache event next reply)
    (found : cache.stage? call = some stage) (nextFound : next.stage? call = some after) :
    (event.call? = some call ∧ Moves stage event reply (some after)) ∨ after = stage := by
  by_cases own : event.call? = some call
  · exact .inl ⟨own, nextFound ▸ moves_of_change change own found⟩
  · rw [stage?_of_other change own, found] at nextFound
    exact .inr (Option.some.inj nextFound).symm

theorem computing_of_moves {role : Role} {ticket epoch : Nat} {after : Stage} {event : Event V E}
    {reply : Reply V E} (moves : Moves (.computing role ticket epoch) event reply (some after)) :
    after = .computing role ticket epoch := by
  cases moves
  rfl

theorem begins_of_change {cache next : Cache V E} {event : Event V E} {reply : Reply V E}
    {call : Nat} {stage : Stage} (change : Change cache event next reply)
    (absent : cache.stage? call = none) (found : next.stage? call = some stage) :
    (∃ now, event = .get call now ∧ stage = .missed cache.completed) ∨
      ∃ now, event = .getNow call now ∧ stage = .spawned cache.epoch := by
  have own : event.call? = some call := by
    by_contra other
    rw [stage?_of_other change other, absent] at found
    cases found
  cases change with
  | missed =>
      cases own
      cases (stage?_place_self _ _ _).symm.trans found
      exact .inl ⟨_, rfl, rfl⟩
  | spawned =>
      cases own
      cases (stage?_place_self _ _ _).symm.trans found
      exact .inr ⟨_, rfl, rfl⟩
  | refused => cases absent.symm.trans found
  | found => cases absent.symm.trans found
  | shown => cases absent.symm.trans found
  | invalidated => cases own
  | waited before => cases own; cases absent.symm.trans before
  | joined before => cases own; cases absent.symm.trans before
  | declined before => cases own; cases absent.symm.trans before
  | begun before => cases own; cases absent.symm.trans before
  | shared before => cases own; cases absent.symm.trans before
  | spared before => cases own; cases absent.symm.trans before
  | started before => cases own; cases absent.symm.trans before
  | completed before => cases own; cases absent.symm.trans before
  | withdrew before => cases own; cases absent.symm.trans before
  | abandoned before => cases own; cases absent.symm.trans before

end Steward.Cache
