import Steward.Proofs.Keeper.Requests
/-!
# The phase of a keeper

The phase says which request the running transition has begun last.  It is idle while nobody is
inside the turnstile, and before and after the requests of a transition.  So whoever reads it sees a
refresh or a login exactly while one call is inside and waits for its answer or for the secret store
that is to keep what the answer has brought.
-/

set_option autoImplicit false

namespace Steward.Keeper

/-- Whether this is the phase while a call at this stage is inside.  A call that has got a new
credential has the phase of the request that has brought it. -/
def Stage.HasPhase (phase : Phase) : Stage → Prop
  | .refreshing _ _ => phase = .refreshing
  | .loggingIn => phase = .authenticating
  | .saving _ | .installing _ => phase ≠ .idle
  | .loading _ | .restored _ | .leaving _ => phase = .idle
  | .arrived _ | .missed _ | .queued _ => True

def Stage.isRenewing : Stage → Bool
  | .refreshing _ _ | .loggingIn | .saving _ | .installing _ => true
  | _ => false

/-- The phase fits the stage of the call inside, and is idle if there is none. -/
structure Phased (keeper : Keeper) : Prop where
  shown : ∀ call stage, keeper.stage? call = some stage → stage.HasPhase keeper.phase
  busy : keeper.phase ≠ .idle →
    ∃ call stage, keeper.stage? call = some stage ∧ stage.isRenewing = true

theorem isInside_of_renewing {stage : Stage} (renewing : stage.isRenewing = true) :
    stage.isInside = true := by
  cases stage with
  | refreshing held forced => rfl
  | loggingIn => rfl
  | saving fresh => rfl
  | installing fresh => rfl
  | _ => cases renewing

theorem hasPhase_of_outside {stage : Stage} (outside : stage.isInside = false) (phase : Phase) :
    stage.HasPhase phase := by
  cases stage with
  | arrived seen => trivial
  | missed seen => trivial
  | queued purpose => trivial
  | _ => cases outside

theorem isRenewing_of_hasPhase {stage : Stage} {phase : Phase} (has : stage.HasPhase phase)
    (inside : stage.isInside = true) (begun : phase ≠ .idle) : stage.isRenewing = true := by
  cases stage with
  | refreshing held forced => rfl
  | loggingIn => rfl
  | saving fresh => rfl
  | installing fresh => rfl
  | loading forced => exact absurd has begun
  | restored forced => exact absurd has begun
  | leaving result => exact absurd has begun
  | _ => cases inside

theorem begun_of_renewing {stage : Stage} {phase : Phase} (renewing : stage.isRenewing = true)
    (has : stage.HasPhase phase) : phase ≠ .idle := by
  cases stage with
  | refreshing held forced => exact fun idle => nomatch idle.symm.trans has
  | loggingIn => exact fun idle => nomatch idle.symm.trans has
  | saving fresh => exact has
  | installing fresh => exact has
  | _ => cases renewing

namespace Phased

variable {keeper next : Keeper} {call : Nat}

/-- Where the first in line has begun no request, nobody has. -/
theorem idle_of_first (phased : Phased keeper) (orderly : Orderly keeper) {stage : Stage}
    (first : keeper.gate.holder? = some call) (found : keeper.stage? call = some stage)
    (resting : stage.isRenewing = false) : keeper.phase = .idle := by
  by_contra begun
  obtain ⟨other, busy, busyFound, renewing⟩ := phased.busy begun
  have otherFirst := orderly.first_of_inside other busy busyFound (isInside_of_renewing renewing)
  cases first.symm.trans otherFirst
  cases found.symm.trans busyFound
  rw [renewing] at resting
  cases resting

theorem keep (phased : Phased keeper) {after : Option Stage} (same : next.phase = keeper.phase)
    (stages : ∀ other, next.stage? other = if other = call then after else keeper.stage? other)
    (was : ∀ stage, keeper.stage? call = some stage → stage.isInside = false)
    (is : ∀ stage, after = some stage → stage.isInside = false) : Phased next := by
  refine ⟨holds_of_moved stages ?_ ?_, ?_⟩
  · intro stage found
    exact hasPhase_of_outside (is stage found) next.phase
  · intro other stage _ found
    rw [same]
    exact phased.shown other stage found
  · intro begun
    obtain ⟨other, stage, found, renewing⟩ := phased.busy (same ▸ begun)
    have differs : other ≠ call := by
      rintro rfl
      have outside := was stage found
      rw [isInside_of_renewing renewing] at outside
      cases outside
    exact ⟨other, stage, ((stages other).trans (if_neg differs)).trans found, renewing⟩

theorem advance (orderly : Orderly keeper) {stage : Stage}
    (first : keeper.gate.holder? = some call)
    (stages : ∀ other, next.stage? other =
      if other = call then some stage else keeper.stage? other)
    (inside : stage.isInside = true) (has : stage.HasPhase next.phase) : Phased next := by
  refine ⟨holds_of_moved stages ?_ ?_, ?_⟩
  · rintro _ ⟨⟩
    exact has
  · intro other otherStage differs found
    cases otherInside : otherStage.isInside with
    | false => exact hasPhase_of_outside otherInside next.phase
    | true =>
        have otherFirst := orderly.first_of_inside other otherStage found otherInside
        exact absurd (Option.some.inj (otherFirst.symm.trans first)) differs
  · intro begun
    exact ⟨call, stage, (stages call).trans (if_pos rfl), isRenewing_of_hasPhase has inside begun⟩

theorem leave (phased : Phased keeper) {result : Option (Except AuthError Held)}
    (found : keeper.stage? call = some (.leaving result)) (same : next.phase = keeper.phase)
    (stages : ∀ other, next.stage? other = if other = call then none else keeper.stage? other) :
    Phased next := by
  have idle : keeper.phase = .idle := phased.shown call _ found
  refine ⟨holds_of_moved stages nofun ?_, fun begun => absurd (same.trans idle) begun⟩
  intro other stage _ otherFound
  rw [same]
  exact phased.shown other stage otherFound

end Phased

theorem phased_new (window : RefreshWindow) : Phased (Keeper.new window) := by
  constructor
  · intro call stage found
    cases found
  · intro begun
    exact absurd rfl begun

theorem outside_of_absent {keeper : Keeper} {call : Nat} (absent : keeper.stage? call = none)
    (stage : Stage) (found : keeper.stage? call = some stage) : stage.isInside = false := by
  cases absent.symm.trans found

theorem outside_of_found {keeper : Keeper} {call : Nat} {stage : Stage}
    (found : keeper.stage? call = some stage) (outside : stage.isInside = false) (other : Stage)
    (also : keeper.stage? call = some other) : other.isInside = false := by
  cases found.symm.trans also
  exact outside

theorem outside_of_some {stage : Stage} (outside : stage.isInside = false) (other : Stage)
    (same : some stage = some other) : other.isInside = false := by
  cases same
  exact outside

theorem phased_of_change {keeper next : Keeper} {event : Event} {reply : Reply}
    (orderly : Orderly keeper) (change : Change keeper event next reply) (phased : Phased keeper) :
    Phased next := by
  cases change with
  | refused => exact phased
  | waited => exact phased
  | arrived absent =>
      exact phased.keep rfl (stage?_place _ _ _) (outside_of_absent absent) (outside_of_some rfl)
  | served stage =>
      exact phased.keep rfl (stage?_forget _ _) (outside_of_found stage rfl) nofun
  | missed stage =>
      exact phased.keep rfl (stage?_place _ _ _) (outside_of_found stage rfl) (outside_of_some rfl)
  | joined stage =>
      exact phased.keep rfl (stage?_place _ _ _) (outside_of_found stage rfl) (outside_of_some rfl)
  | rejected absent =>
      exact phased.keep rfl (stage?_place _ _ _) (outside_of_absent absent) (outside_of_some rfl)
  | shared stage first =>
      have idle := phased.idle_of_first orderly first stage rfl
      exact .advance orderly first (stage?_place _ _ _) rfl idle
  | asked stage first =>
      have idle := phased.idle_of_first orderly first stage rfl
      exact .advance orderly first (stage?_place _ _ _) rfl idle
  | restored stage =>
      have idle : keeper.phase = .idle := phased.shown _ _ stage
      have first := orderly.first_of_inside _ _ stage rfl
      exact .advance orderly first (stage?_place _ _ _) rfl idle
  | unrestored stage =>
      have idle : keeper.phase = .idle := phased.shown _ _ stage
      have first := orderly.first_of_inside _ _ stage rfl
      exact .advance orderly first (stage?_place _ _ _) rfl idle
  | refresh due => exact .advance orderly (due.first orderly) (stage?_place _ _ _) rfl rfl
  | login due => exact .advance orderly (due.first orderly) (stage?_place _ _ _) rfl rfl
  | @granted call _ _ stage found asking =>
      have renewing : stage.isRenewing = true := by
        rcases asking with rfl | ⟨_, _, rfl⟩
        · rfl
        · rfl
      have first := orderly.first_of_inside call stage found (isInside_of_renewing renewing)
      have begun := begun_of_renewing renewing (phased.shown call stage found)
      exact .advance orderly first (stage?_place _ _ _) rfl begun
  | sufficed stage =>
      have first := orderly.first_of_inside _ _ stage rfl
      exact .advance orderly first (stage?_place _ _ _) rfl rfl
  | kept stage =>
      have first := orderly.first_of_inside _ _ stage rfl
      exact .advance orderly first (stage?_place _ _ _) rfl rfl
  | discarded stage =>
      have first := orderly.first_of_inside _ _ stage rfl
      exact .advance orderly first (stage?_place _ _ _) rfl rfl
  | failed stage =>
      have first := orderly.first_of_inside _ _ stage rfl
      exact .advance orderly first (stage?_place _ _ _) rfl rfl
  | saved stage =>
      have first := orderly.first_of_inside _ _ stage rfl
      have begun : keeper.phase ≠ .idle := phased.shown _ _ stage
      exact .advance orderly first (stage?_place _ _ _) rfl begun
  | installed stage =>
      have first := orderly.first_of_inside _ _ stage rfl
      exact .advance orderly first (stage?_place _ _ _) rfl rfl
  | withdrew stage =>
      refine phased.keep rfl (stage?_forget _ _) ?_ nofun
      rcases stage with stage | stage
      · exact outside_of_found stage rfl
      · exact outside_of_found stage rfl
  | unqueued stage =>
      exact phased.keep rfl (stage?_forget _ _) (outside_of_found stage rfl) nofun
  | interrupted found inside reset =>
      have first := orderly.first_of_inside _ _ found inside
      refine .advance orderly first (stage?_place _ _ _) rfl ?_
      rcases reset with idle | ⟨⟨_, rfl⟩, same⟩
      · exact idle
      · exact same.trans (phased.shown _ _ found)
  | returned stage => exact phased.leave stage rfl (stage?_forget _ _)
  | gone stage => exact phased.leave stage rfl (stage?_forget _ _)

theorem phased_before {window : RefreshWindow} (life : Life window) (n : Nat) :
    Phased (life.before n) :=
  life.holds_of_kept Phased (phased_new window)
    (fun n => phased_of_change (consistent_before life n).toOrderly (change_at life n)) n

/-! ## The credential while a request is under way -/

/-- A refresh is asked for with a credential at hand, and a login without one. -/
structure Matched (keeper : Keeper) : Prop where
  held : keeper.phase = .refreshing → ∃ held, keeper.current = some held
  absent : keeper.phase = .authenticating → keeper.current = none

theorem matched_of_idle {keeper : Keeper} (idle : keeper.phase = .idle) : Matched keeper := by
  constructor
  · intro refreshing
    cases idle.symm.trans refreshing
  · intro authenticating
    cases idle.symm.trans authenticating

theorem matched_of_change {keeper next : Keeper} {event : Event} {reply : Reply}
    (phased : Phased keeper) (change : Change keeper event next reply) (matched : Matched keeper) :
    Matched next := by
  cases change with
  | restored stage => exact matched_of_idle (phased.shown _ _ stage)
  | refresh _ present => exact ⟨fun _ => ⟨_, present⟩, nofun⟩
  | login _ absent => exact ⟨nofun, fun _ => absent⟩
  | discarded => exact ⟨nofun, fun _ => rfl⟩
  | sufficed | kept | failed | installed => exact matched_of_idle rfl
  | interrupted found inside reset =>
      rcases reset with idle | ⟨-, same⟩
      · exact matched_of_idle idle
      · exact ⟨fun refreshing => matched.held (same ▸ refreshing),
          fun authenticating => matched.absent (same ▸ authenticating)⟩
  | _ => exact ⟨matched.held, matched.absent⟩

theorem matched_before {window : RefreshWindow} (life : Life window) (n : Nat) :
    Matched (life.before n) :=
  life.holds_of_kept Matched (matched_of_idle rfl)
    (fun n => matched_of_change (phased_before life n) (change_at life n)) n

end Steward.Keeper
