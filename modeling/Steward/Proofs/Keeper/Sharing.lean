import Steward.Proofs.Keeper.Passing
import Steward.Proofs.Keeper.Requests
/-!
# Sharing outcomes

Where no call is given up, a call that finds on coming inside that transitions have been completed
since it came is given the outcome of the last of them and asks for nothing.  If all calls are for
usable credentials, everybody who stands in line when a transition is completed passes without a
transition of its own, so the whole line is given that one outcome.
-/

set_option autoImplicit false

namespace Steward.Keeper

variable {window : RefreshWindow}

theorem leaving_until {life : Life window} (undropped : ∀ n call, life.event n ≠ .drop call)
    {call i a j : Nat} {result : Except AuthError Held}
    (leaving : (life.before a).stage? call = some (.leaving (some result))) (after : i < a)
    (upTo : a ≤ j) (lasts : Lasts life call i j) :
    (life.before j).stage? call = some (.leaving (some result)) := by
  induction j, upTo using Nat.le_induction with
  | base => exact leaving
  | succ j upTo ih =>
      have found := ih (lasts.shorter (Nat.le_succ j))
      obtain ⟨next, nextFound⟩ := lasts.stage (show i < j + 1 by omega) (Nat.le_refl (j + 1))
      rcases moves_or_stays (change_at life j) found nextFound with ⟨own, moves⟩ | rfl
      · generalize event : life.event j = happens at moves
        generalize life.reply j = reply at moves
        cases moves with
        | refused => exact nextFound
        | interrupted => exact absurd event (undropped j _)
      · exact nextFound

theorem returns_of_leaving {life : Life window} (undropped : ∀ n call, life.event n ≠ .drop call)
    {call i a j : Nat} {result : Except AuthError Held}
    (leaving : (life.before a).stage? call = some (.leaving (some result))) (after : i < a)
    (upTo : a ≤ j) (lasts : Lasts life call i j) (event : life.event j = .leave call) :
    Returns life call j result := by
  refine ⟨by rw [event, Event.call], ?_⟩
  rw [Run.reply, event, step_leave (leaving_until undropped leaving after upTo lasts)]

theorem only_of_leaving {life : Life window} (undropped : ∀ n call, life.event n ≠ .drop call)
    {call i a j : Nat} {result other : Except AuthError Held}
    (leaving : (life.before a).stage? call = some (.leaving (some result))) (after : i < a)
    (lasted : Lasts life call i a) (since : i < j) (lasts : Lasts life call i j)
    (returns : Returns life call j other) : other = result := by
  rcases Nat.lt_or_ge j a with early | late
  · exact absurd (ended_of_returns returns) (lasted (j + 1) (Nat.lt_succ_of_lt since) early)
  · have still := leaving_until undropped leaving after late lasts
    rcases source_of_returns returns with ⟨_, _, _, ⟨_, arrived⟩, _⟩ | left
    · cases arrived.symm.trans still
    · cases left.symm.trans still
      rfl

theorem queued_or_entered {life : Life window} {call i n j : Nat} {purpose : Purpose}
    (waits : (life.before n).stage? call = some (.queued purpose)) (after : i < n) (upTo : n ≤ j)
    (lasts : Lasts life call i j) :
    (life.before j).stage? call = some (.queued purpose) ∨
      (∃ stage, (life.before j).stage? call = some stage ∧ stage.isInside = true) ∧
        ∃ m, n ≤ m ∧ m < j ∧ Enters life call m := by
  induction j, upTo using Nat.le_induction with
  | base => exact .inl waits
  | succ j upTo ih =>
      obtain ⟨next, nextFound⟩ := lasts.stage (show i < j + 1 by omega) (Nat.le_refl (j + 1))
      rcases ih (lasts.shorter (Nat.le_succ j)) with found | ⟨⟨stage, found, inside⟩, entered⟩
      · rcases moves_or_stays (change_at life j) found nextFound with ⟨own, moves⟩ | rfl
        · rcases queued_or_entered_of_moves moves with rfl | ⟨inside, other, now, event⟩
          · exact .inl nextFound
          · obtain rfl : other = call := by rw [← own, event, Event.call]
            refine .inr ⟨⟨next, nextFound, inside⟩, j, upTo, Nat.lt_succ_self j, ⟨now, event⟩,
              ⟨purpose, found⟩, ?_⟩
            have change := change_at life j
            rw [event] at change
            rcases first_of_enter change with first | same
            · exact first
            · rw [same, found] at nextFound
              cases nextFound
              cases inside
        · exact .inl nextFound
      · obtain ⟨m, from_n, below, enters⟩ := entered
        refine .inr ⟨⟨next, nextFound, ?_⟩, m, from_n, Nat.lt_succ_of_lt below, enters⟩
        rcases moves_or_stays (change_at life j) found nextFound with ⟨_, moves⟩ | rfl
        · exact isInside_of_moves moves inside
        · exact inside

/-! ## What a call is given inside -/

/-- The call that began with event number `i` is given `result` when it comes inside by event number
`m`, asks for nothing, and returns `result` and nothing else. -/
structure ServedBy (life : Life window) (call i m : Nat) (result : Except AuthError Held) :
    Prop where
  decided : (life.before (m + 1)).stage? call = some (.leaving (some result))
  silent : ∀ j, i ≤ j → Lasts life call i j → requests life call i (j + 1) = []
  returns : ∀ j, m < j → Lasts life call i j → life.event j = .leave call →
    Returns life call j result
  only : ∀ j other, i < j → Lasts life call i j → Returns life call j other → other = result

theorem silent_of_leaving {keeper next : Keeper} {event : Event} {reply : Reply} {call : Nat}
    {result : Option (Except AuthError Held)} (change : Change keeper event next reply)
    (leaving : keeper.stage? call = some (.leaving result)) : issued call event reply = [] := by
  by_cases own : event.call = call
  · have moves := moves_of_change change own leaving
    have nothing : reply.request? = none := by
      generalize next.stage? call = ended at moves
      cases moves <;> rfl
    rw [issued, if_pos own, nothing, Option.toList_none]
  · exact if_neg own

section Given

variable {life : Life window} {call i m : Nat} {result : Except AuthError Held}

theorem step_of_given (given : GivenInside life call m result) :
    life.before (m + 1) = (life.before m).place call (.leaving (some result)) ∧
      life.reply m = .leave := by
  obtain ⟨now, purpose, event, waits, first, known⟩ := given
  rw [Run.before_succ, Run.reply, event, step_enter waits first known]
  exact ⟨rfl, rfl⟩

theorem leaving_of_given (given : GivenInside life call m result) :
    (life.before (m + 1)).stage? call = some (.leaving (some result)) := by
  rw [(step_of_given given).1]
  exact stage?_place_self _ _ _

theorem silent_of_given (undropped : ∀ n call, life.event n ≠ .drop call)
    (begins : Begins life call i) (after : i < m) (lasts : Lasts life call i m)
    (given : GivenInside life call m result) {j : Nat} (upTo : i ≤ j)
    (lastsOn : Lasts life call i j) : requests life call i (j + 1) = [] := by
  obtain ⟨_, _, _, waits, _⟩ := id given
  have waiting : requests life call i m = [] :=
    List.mem_singleton.mp (requests_mem_stage_words begins after lasts waits)
  rcases Nat.lt_or_ge j m with early | late
  · have before : requests life call i (j + 1) <+: requests life call i m :=
      requests_prefix life call i early
    rw [waiting] at before
    exact List.prefix_nil.mp before
  · induction j, late using Nat.le_induction with
    | base =>
        rw [requests_succ life upTo, waiting, issued, (step_of_given given).2]
        simp [Reply.request?]
    | succ j late ih =>
        have leaving := leaving_until undropped (leaving_of_given given) (Nat.lt_succ_of_lt after)
          (Nat.succ_le_succ late) lastsOn
        rw [requests_succ life upTo, ih (by omega) (lastsOn.shorter (Nat.le_succ j)),
          silent_of_leaving (change_at life (j + 1)) leaving]
        rfl

theorem servedBy_of_given (undropped : ∀ n call, life.event n ≠ .drop call)
    (begins : Begins life call i) (after : i < m) (lasts : Lasts life call i m)
    (given : GivenInside life call m result) : ServedBy life call i m result := by
  have leaving := leaving_of_given given
  have later : i < m + 1 := Nat.lt_succ_of_lt after
  refine ⟨leaving, ?_, ?_, ?_⟩
  · intro j upTo lastsOn
    exact silent_of_given undropped begins after lasts given upTo lastsOn
  · intro j beyond lastsOn event
    exact returns_of_leaving undropped leaving later beyond lastsOn event
  · intro j other since lastsOn returns
    exact only_of_leaving undropped leaving later (lasts.succ leaving) since lastsOn returns

end Given

/-! ## The outcome of the last transition -/

def Stage.isReplacing : Stage → Bool
  | .loggingIn | .saving _ | .installing _ => true
  | _ => false

/-- If the credential that the last transition gave is gone, some call is about to bring another. -/
def Replaced (keeper : Keeper) : Prop :=
  keeper.completed ≠ 0 → keeper.lastFailure = none → keeper.current = none →
    ∃ call stage, keeper.stage? call = some stage ∧ stage.isReplacing = true

theorem isInside_of_replacing {stage : Stage} (replacing : stage.isReplacing = true) :
    stage.isInside = true := by
  cases stage with
  | loggingIn => rfl
  | saving fresh => rfl
  | installing fresh => rfl
  | _ => cases replacing

theorem replaced_of_change {keeper next : Keeper} {event : Event} {reply : Reply}
    (consistent : Consistent keeper) (change : Change keeper event next reply)
    (undropped : ∀ call, event ≠ .drop call) (replaced : Replaced keeper) : Replaced next := by
  intro begun passed gone
  rcases completion_of_change consistent change with ⟨result, _, _, shows⟩ | ⟨count, failure⟩
  · cases result with
    | ok held => cases gone.symm.trans shows.2
    | error error => cases passed.symm.trans shows
  · cases present : keeper.current with
    | some held =>
        cases change with
        | discarded => exact ⟨_, _, stage?_place_self _ _ _, rfl⟩
        | restored => cases gone
        | installed => cases gone
        | _ => cases present.symm.trans gone
    | none =>
        obtain ⟨call, stage, found, replacing⟩ :=
          replaced (count ▸ begun) (failure.symm.trans passed) present
        by_cases own : event.call = call
        · have moves := moves_of_change change own found
          generalize after : next.stage? call = ended at moves
          have busy := isInside_of_replacing replacing
          cases moves with
          | refused => exact ⟨call, stage, after, replacing⟩
          | loggedIn => exact ⟨call, _, after, rfl⟩
          | saved => exact ⟨call, _, after, rfl⟩
          | failed =>
              rcases leaving_of_change change after with same | ⟨_, _, _, waits, _⟩ | ⟨_, grown⟩
              · cases found.symm.trans same
              · cases found.symm.trans waits
              · omega
          | installed =>
              rcases leaving_of_change change after with same | ⟨_, _, _, waits, _⟩ | ⟨_, grown⟩
              · cases found.symm.trans same
              · cases found.symm.trans waits
              · omega
          | withdrew outside => rw [busy] at outside; cases outside
          | interrupted => exact absurd rfl (undropped _)
          | _ => cases replacing
        · exact ⟨call, stage, (stage?_of_other change own).trans found, replacing⟩

theorem replaced_before {life : Life window} (undropped : ∀ n call, life.event n ≠ .drop call)
    (n : Nat) : Replaced (life.before n) :=
  life.holds_of_kept Replaced (fun begun => absurd rfl begun)
    (fun n => replaced_of_change (consistent_before life n) (change_at life n) (undropped n)) n

theorem shows_at_turn {life : Life window} (undropped : ∀ n call, life.event n ≠ .drop call)
    {call n m : Nat} {purpose : Purpose} {result : Except AuthError Held}
    (completes : Completes life n result) (after : n < m)
    (quiet : ∀ k, n < k → k < m → ∀ other, ¬ Completes life k other)
    (waits : (life.before m).stage? call = some (.queued purpose))
    (first : (life.before m).gate.holder? = some call) : Shows (life.before m) result := by
  have showed := shows_of_completes completes
  have failure := (quiet_of_no_completion (show n + 1 ≤ m from after) quiet).2
  cases result with
  | error error => exact failure.trans showed
  | ok held =>
      have passed : (life.before m).lastFailure = none := failure.trans showed.1
      refine ⟨passed, ?_⟩
      rcases current_after_completion completes after quiet with current | gone
      · exact current
      · have begun : (life.before m).completed ≠ 0 := by
          have more := completed_lt completes (Nat.zero_le n) after
          omega
        -- Some call is about to bring another one, and it stands where `call` has come inside.
        obtain ⟨other, stage, found, replacing⟩ := replaced_before undropped m begun passed gone
        have otherFirst := (consistent_before life m).first_of_inside other stage found
          (isInside_of_replacing replacing)
        cases first.symm.trans otherFirst
        cases found.symm.trans waits
        cases replacing

/-- A call since whose coming transitions have been completed is served by the last of them. -/
theorem served_by_latest {life : Life window} (undropped : ∀ n call, life.event n ≠ .drop call)
    {call i n m : Nat} {result : Except AuthError Held} (arrives : Arrives life call i)
    (lasts : Lasts life call i m) (enters : Enters life call m)
    (completes : Completes life n result) (after : i < n) (before : n < m) :
    ∃ last outcome, i < last ∧ last < m ∧ Completes life last outcome ∧
      (∀ k, last < k → k < m → ∀ other, ¬ Completes life k other) ∧
      ServedBy life call i m outcome := by
  obtain ⟨⟨now, event⟩, ⟨purpose, waits⟩, first⟩ := enters
  have more := completed_lt completes (Nat.le_of_lt after) before
  obtain ⟨last, outcome, from_i, below, latest, quiet⟩ :=
    exists_latest_completion (by omega) (Nat.ne_of_lt more)
  have later : i < last := Nat.lt_of_le_of_ne from_i (Ne.symm (ne_of_arrives arrives latest))
  refine ⟨last, outcome, later, below, latest, quiet, ?_⟩
  have since : i < m := Nat.lt_trans later below
  have came := cameAt_while_lasting arrives since lasts waits
  cases purpose with
  | replacement rejected => cases came
  | usable seen =>
      have seen_eq : seen = (life.before i).completed := came
      have shows := shows_at_turn undropped latest below quiet waits first
      have known : (life.before m).known now (.usable seen) = some outcome :=
        known_of_shows shows (by omega)
      exact servedBy_of_given undropped (.inl arrives) since lasts
        ⟨now, .usable seen, event, waits, first, known⟩

/-! ## A line served by one transition -/

theorem served_in_line {life : Life window} (undropped : ∀ n call, life.event n ≠ .drop call)
    (unrejected : ∀ n call rejected, life.event n ≠ .reject call rejected) {call i n m : Nat}
    {purpose : Purpose} {result : Except AuthError Held} (arrives : Arrives life call i)
    (after : i < n) (waits : (life.before n).stage? call = some (.queued purpose))
    (completes : Completes life n result) (later : n < m) (lasts : Lasts life call i m)
    (enters : Enters life call m) : ServedBy life call i m result := by
  obtain ⟨last, outcome, _, below, latest, quiet, served⟩ :=
    served_by_latest undropped arrives lasts enters completes after later
  have only := no_completion_in_line undropped (settles_of_unrejected unrejected n result)
    completes waits after lasts
  rcases Nat.lt_trichotomy last n with early | rfl | late
  · exact absurd completes (quiet n early later result)
  · cases completes.unique latest
    exact served
  · exact absurd latest (only last late below outcome)

theorem returns_in_line {life : Life window} (undropped : ∀ n call, life.event n ≠ .drop call)
    (unrejected : ∀ n call rejected, life.event n ≠ .reject call rejected) {call i n j : Nat}
    {purpose : Purpose} {result other : Except AuthError Held} (arrives : Arrives life call i)
    (after : i < n) (lasted : Lasts life call i n)
    (waits : (life.before n).stage? call = some (.queued purpose))
    (completes : Completes life n result) (later : i < j) (lasts : Lasts life call i j)
    (returns : Returns life call j other) : other = result := by
  have ended := ended_of_returns returns
  rcases Nat.lt_trichotomy j n with early | rfl | late
  · exact absurd ended (lasted (j + 1) (Nat.lt_succ_of_lt later) early)
  · rw [← returns.1] at ended
    cases ended.symm.trans completes.2
  · rcases queued_or_entered waits after (Nat.le_of_lt late) lasts with
      still | ⟨_, m, from_n, below, enters⟩
    · rcases source_of_returns returns with ⟨_, _, _, ⟨_, arrived⟩, _⟩ | left
      · cases arrived.symm.trans still
      · cases left.symm.trans still
    · have apart : m ≠ n := by
        rintro rfl
        obtain ⟨⟨now, event⟩, ⟨_, queued⟩, _⟩ := enters
        obtain ⟨stage, found, inside⟩ := inside_of_completes completes
        rw [event] at found
        cases found.symm.trans queued
        cases inside
      have beyond : n < m := Nat.lt_of_le_of_ne from_n (Ne.symm apart)
      exact (served_in_line undropped unrejected arrives after waits completes beyond
        (lasts.shorter (Nat.le_of_lt below)) enters).only j other later lasts returns

/-- A failure that a call returns is that of a transition completed while the call lasted: its own,
or the last one before it came inside. -/
theorem completion_of_failure {life : Life window} {call i j : Nat} {error : AuthError}
    (arrives : Arrives life call i) (after : i < j) (lasts : Lasts life call i j)
    (returns : Returns life call j (.error error)) :
    ∃ n, i < n ∧ n < j ∧ Completes life n (.error error) ∧
      ((life.event n).call = call ∨ ∃ m, n < m ∧ m < j ∧ Enters life call m ∧
        ∀ k, n < k → k < m → ∀ other, ¬ Completes life k other) := by
  rcases source_of_returns returns with ⟨_, _, _, _, _, impossible⟩ | leaving
  · cases impossible
  · obtain ⟨m, from_i, below, given | ⟨own, completes⟩⟩ :=
      decided_of_leaving arrives after lasts leaving
    · rcases origin_of_given arrives from_i (lasts.shorter (Nat.le_of_lt below)) given with
        ⟨n, later, before, completes, quiet⟩ | ⟨_, _, _, _, impossible⟩
      · exact ⟨n, later, Nat.lt_trans before below, completes,
          .inr ⟨m, before, below, given.enters, quiet⟩⟩
      · cases impossible
    · exact ⟨m, from_i, below, completes, .inl own⟩

/-- Where no call is given up: a call that comes inside after transitions have been completed since
it came is served by the last of them; if nobody rejects a credential, all who wait when a
transition is completed are served by that one; and no call returns a failure from before it came.
-/
theorem outcome_sharing (life : Life window) (undropped : ∀ n call, life.event n ≠ .drop call) :
    (∀ call i n m result, Arrives life call i → Lasts life call i m → Enters life call m →
      i < n → n < m → Completes life n result →
      ∃ last outcome, i < last ∧ last < m ∧ Completes life last outcome ∧
        (∀ k, last < k → k < m → ∀ other, ¬ Completes life k other) ∧
        ServedBy life call i m outcome) ∧
    ((∀ n call rejected, life.event n ≠ .reject call rejected) →
      ∀ call i n purpose result, Arrives life call i → i < n → Lasts life call i n →
        (life.before n).stage? call = some (.queued purpose) → Completes life n result →
        (∀ m, n < m → Lasts life call i m → Enters life call m →
          ServedBy life call i m result) ∧
        (∀ j other, i < j → Lasts life call i j → Returns life call j other → other = result)) ∧
    (∀ call i j error, Arrives life call i → i < j → Lasts life call i j →
      Returns life call j (.error error) →
      ∃ n, i < n ∧ n < j ∧ Completes life n (.error error) ∧
        ((life.event n).call = call ∨ ∃ m, n < m ∧ m < j ∧ Enters life call m ∧
          ∀ k, n < k → k < m → ∀ other, ¬ Completes life k other)) := by
  refine ⟨?_, ?_, ?_⟩
  · intro call i n m result arrives lasts enters after before completes
    exact served_by_latest undropped arrives lasts enters completes after before
  · intro unrejected call i n purpose result arrives after lasted waits completes
    refine ⟨?_, ?_⟩
    · intro m later lasts enters
      exact served_in_line undropped unrejected arrives after waits completes later lasts enters
    · intro j other later lasts returns
      exact returns_in_line undropped unrejected arrives after lasted waits completes later lasts
        returns
  · intro call i j error arrives after lasts returns
    exact completion_of_failure arrives after lasts returns

def twoCallers : Life default :=
  .ofList [.arrive 1, .look 1 0, .join 1, .arrive 2, .look 2 0, .join 2, .enter 1 0,
    .loaded 1 (.ok none), .resume 1 0, .answered 1 (.ok tenMinutes) 0, .saved 1 (.ok ()),
    .install 1, .leave 1, .enter 2 0, .leave 2] (.leave 0)

theorem outcome_sharing_twoCallers : ServedBy twoCallers 2 3 13 (.ok ⟨1, tenMinutes⟩) := by
  have undropped : ∀ n call, twoCallers.event n ≠ .drop call := by
    intro n call drop
    have member : twoCallers.event n ∈ _ := Run.event_ofList_mem _ _ n
    simp [drop] at member
  have unrejected : ∀ n call rejected, twoCallers.event n ≠ .reject call rejected := by
    intro n call rejected reject
    have member : twoCallers.event n ∈ _ := Run.event_ofList_mem _ _ n
    simp [reject] at member
  have arrives : Arrives twoCallers 2 3 := ⟨rfl, rfl⟩
  have waits : (twoCallers.before 11).stage? 2 = some (.queued (.usable 0)) := rfl
  have completes : Completes twoCallers 11 (.ok ⟨1, tenMinutes⟩) := ⟨rfl, rfl⟩
  have enters : Enters twoCallers 2 13 := ⟨⟨0, rfl⟩, ⟨_, rfl⟩, rfl⟩
  have lasts : Lasts twoCallers 2 3 13 := lasts_of_isSome (by decide +kernel)
  have served := (outcome_sharing twoCallers undropped).2.1 unrejected 2 3 11 (.usable 0) _ arrives
    (by decide) (lasts.shorter (by decide)) waits completes
  exact served.1 13 (by decide) lasts enters

end Steward.Keeper
