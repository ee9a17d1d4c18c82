import Steward.Proofs.Keeper.Life
/-!
# Outcomes of transitions

A transition is completed by an event that raises the count of completed transitions and has its
call leave with a result.  After that the keeper shows the outcome until the next transition changes
it.  A call leaves with a result that it found when it came inside, or with the outcome of a
transition of its own.
-/

set_option autoImplicit false

namespace Steward.Keeper

variable {window : RefreshWindow}

/-- The keeper shows this as the outcome of the transition that was completed last. -/
def Shows (keeper : Keeper) : Except AuthError Held → Prop
  | .ok held => keeper.lastFailure = none ∧ keeper.current = some held
  | .error error => keeper.lastFailure = some error

/-- Event number `n` completes a transition with this outcome. -/
def Completes (life : Life window) (n : Nat) (result : Except AuthError Held) : Prop :=
  (life.before (n + 1)).completed = (life.before n).completed + 1 ∧
    (life.before (n + 1)).stage? (life.event n).call = some (.leaving (some result))

/-- The call comes inside by event number `n` and learns what it is given there. -/
def Enters (life : Life window) (call n : Nat) : Prop :=
  (∃ now, life.event n = .enter call now) ∧
    (∃ purpose, (life.before n).stage? call = some (.queued purpose)) ∧
    (life.before n).gate.holder? = some call

theorem Completes.unique {life : Life window} {n : Nat} {result other : Except AuthError Held}
    (completes : Completes life n result) (also : Completes life n other) : other = result := by
  have same := also.2.symm.trans completes.2
  cases same
  rfl

theorem eq_of_usable {keeper : Keeper} {now : Instant} {held : Held}
    (usable : keeper.usable now = some held) :
    keeper.current = some held ∧ keeper.window.needsRefresh held.credential now = false := by
  obtain ⟨current, spared⟩ := Option.filter_eq_some_iff.mp usable
  exact ⟨current, by simpa using spared⟩

theorem completion_of_change {keeper next : Keeper} {event : Event} {reply : Reply}
    (consistent : Consistent keeper) (change : Change keeper event next reply) :
    (∃ result, next.completed = keeper.completed + 1 ∧
      next.stage? event.call = some (.leaving (some result)) ∧ Shows next result) ∨
    (next.completed = keeper.completed ∧ next.lastFailure = keeper.lastFailure) := by
  cases change with
  | sufficed stage usable =>
      exact .inl ⟨_, rfl, stage?_place_self _ _ _, rfl, (eq_of_usable usable).1⟩
  | kept stage =>
      have present := (consistent.fits _ _ stage).2
      exact .inl ⟨_, rfl, stage?_place_self _ _ _, rfl, present⟩
  | failed stage => exact .inl ⟨_, rfl, stage?_place_self _ _ _, rfl⟩
  | installed stage => exact .inl ⟨_, rfl, stage?_place_self _ _ _, rfl, rfl⟩
  | _ => exact .inr ⟨rfl, rfl⟩

theorem completed_le_succ (life : Life window) (n : Nat) :
    (life.before n).completed ≤ (life.before (n + 1)).completed := by
  rcases completion_of_change (consistent_before life n) (change_at life n) with
    ⟨result, grown, _, _⟩ | ⟨same, _⟩
  · omega
  · omega

theorem completed_le (life : Life window) {i n : Nat} (le : i ≤ n) :
    (life.before i).completed ≤ (life.before n).completed :=
  life.le_of_grown Keeper.completed (completed_le_succ life) le

theorem completed_lt {life : Life window} {i n m : Nat} {result : Except AuthError Held}
    (completes : Completes life n result) (le : i ≤ n) (lt : n < m) :
    (life.before i).completed < (life.before m).completed := by
  have upTo := completed_le life le
  have from_n := completed_le life (show n + 1 ≤ m from lt)
  have grown := completes.1
  omega

theorem shows_of_completes {life : Life window} {n : Nat} {result : Except AuthError Held}
    (completes : Completes life n result) : Shows (life.before (n + 1)) result := by
  rcases completion_of_change (consistent_before life n) (change_at life n) with
    ⟨other, _, leaving, shows⟩ | ⟨same, _⟩
  · cases completes.2.symm.trans leaving
    exact shows
  · have grown := completes.1
    omega

theorem quiet_of_no_completion {life : Life window} {i n : Nat} (le : i ≤ n)
    (quiet : ∀ k, i ≤ k → k < n → ∀ result, ¬ Completes life k result) :
    (life.before n).completed = (life.before i).completed ∧
      (life.before n).lastFailure = (life.before i).lastFailure := by
  induction n, le using Nat.le_induction with
  | base => exact ⟨rfl, rfl⟩
  | succ n le ih =>
      obtain ⟨count, failure⟩ := ih fun k from_i below => quiet k from_i (Nat.lt_succ_of_lt below)
      rcases completion_of_change (consistent_before life n) (change_at life n) with
        ⟨result, grown, leaving, _⟩ | ⟨sameCount, sameFailure⟩
      · exact absurd ⟨grown, leaving⟩ (quiet n le (Nat.lt_succ_self n) result)
      · exact ⟨sameCount.trans count, sameFailure.trans failure⟩

theorem exists_latest_completion {life : Life window} {i m : Nat} (le : i ≤ m)
    (more : (life.before i).completed ≠ (life.before m).completed) :
    ∃ n result, i ≤ n ∧ n < m ∧ Completes life n result ∧
      ∀ k, n < k → k < m → ∀ other, ¬ Completes life k other := by
  by_cases some_completed : ∃ n, i ≤ n ∧ n < m ∧ ∃ result, Completes life n result
  · obtain ⟨first, from_i, below, happens⟩ := some_completed
    obtain ⟨n, from_first, below, ⟨result, completes⟩, last⟩ :=
      exists_latest (fun k => ∃ result, Completes life k result) happens below
    refine ⟨n, result, Nat.le_trans from_i from_first, below, completes, ?_⟩
    intro k above upTo other also
    exact last k above upTo ⟨other, also⟩
  · refine absurd (quiet_of_no_completion le ?_).1.symm more
    intro k from_i below result completes
    exact some_completed ⟨k, from_i, below, result, completes⟩

/-! ## What a call knows when it comes inside -/

/-- The number of completed transitions at the moment at which a call for a usable credential came,
as far as its stage remembers it. -/
def Stage.CameAt (count : Nat) : Stage → Prop
  | .arrived seen | .missed seen | .queued (.usable seen) => seen = count
  | .queued (.replacement _) => False
  | _ => True

theorem cameAt_of_moves {stage after : Stage} {event : Event} {reply : Reply} {count : Nat}
    (moves : Moves stage event reply (some after)) (came : stage.CameAt count) :
    after.CameAt count := by
  cases moves with
  | refused => exact came
  | waited => exact came
  | missed => exact came
  | joined => exact came
  | _ => trivial

theorem cameAt_while_lasting {life : Life window} {call i j : Nat} (arrives : Arrives life call i)
    (after : i < j) (lasts : Lasts life call i j) {stage : Stage}
    (found : (life.before j).stage? call = some stage) :
    stage.CameAt (life.before i).completed := by
  refine holds_while_lasting (fun _ stage => stage.CameAt (life.before i).completed)
    ?_ ?_ after lasts found
  · intro stage found
    rw [Run.before_succ, arrives.1, step_arrive arrives.2, stage?_place, if_pos rfl] at found
    cases found
    rfl
  · intro n stage next _ found came nextFound
    rcases moves_or_stays (change_at life n) found nextFound with ⟨_, moves⟩ | rfl
    · exact cameAt_of_moves moves came
    · exact came

theorem known_of_shows {keeper : Keeper} {seen : Nat} {now : Instant}
    {result : Except AuthError Held} (shows : Shows keeper result)
    (more : keeper.completed ≠ seen) : keeper.known now (.usable seen) = some result := by
  cases result with
  | ok held =>
      obtain ⟨passed, current⟩ := shows
      simp only [known, if_neg more, passed, current, Option.map_some, Option.some_or]
  | error error =>
      have failed : keeper.lastFailure = some error := shows
      simp only [known, if_neg more, failed, Option.some_or]

theorem known_replacement_iff {keeper : Keeper} {rejected : Nat} {now : Instant}
    {result : Except AuthError Held} :
    keeper.known now (.replacement rejected) = some result ↔
      ∃ held, result = .ok held ∧ keeper.current = some held ∧ held.number ≠ rejected := by
  simp only [known, Option.map_eq_some_iff, Option.filter_eq_some_iff, bne_iff_ne]
  constructor
  · rintro ⟨held, ⟨current, differs⟩, rfl⟩
    exact ⟨held, rfl, current, differs⟩
  · rintro ⟨held, rfl, current, differs⟩
    exact ⟨held, ⟨current, differs⟩, rfl⟩

theorem shows_or_usable_of_known {keeper : Keeper} {seen : Nat} {now : Instant}
    {result : Except AuthError Held} (given : keeper.known now (.usable seen) = some result) :
    (keeper.completed ≠ seen ∧ Shows keeper result) ∨
      ∃ held, result = .ok held ∧ keeper.usable now = some held := by
  have found : ∀ held, (keeper.usable now).map Except.ok = some (held : Except AuthError Held) →
      ∃ found, held = .ok found ∧ keeper.usable now = some found := by
    intro held mapped
    obtain ⟨found, usable, rfl⟩ := Option.map_eq_some_iff.mp mapped
    exact ⟨found, rfl, usable⟩
  by_cases same : keeper.completed = seen
  · simp only [known, if_pos same, Option.none_or] at given
    exact .inr (found result given)
  · cases failure : keeper.lastFailure with
    | some error =>
        simp only [known, if_neg same, failure, Option.some_or, Option.some.injEq] at given
        subst given
        exact .inl ⟨same, failure⟩
    | none =>
        simp only [known, if_neg same, failure] at given
        cases current : keeper.current with
        | some held =>
            simp only [current, Option.map_some, Option.some_or, Option.some.injEq] at given
            subst given
            exact .inl ⟨same, failure, current⟩
        | none =>
            simp only [current, Option.map_none, Option.none_or] at given
            exact .inr (found result given)

/-! ## The outcome shown is that of a transition -/

theorem current_of_change {keeper next : Keeper} {event : Event} {reply : Reply}
    (consistent : Consistent keeper) (change : Change keeper event next reply)
    (same : next.completed = keeper.completed) (begun : keeper.completed ≠ 0) :
    next.current = keeper.current ∨ next.current = none := by
  cases change with
  | restored stage =>
      -- The secret store is asked before any transition has been completed.
      exact absurd (consistent.fits _ _ stage).2 begun
  | discarded => exact .inr rfl
  | installed => exact absurd same (Nat.succ_ne_self _)
  | _ => exact .inl rfl

theorem current_after_completion {life : Life window} {n m : Nat} {held : Held}
    (completes : Completes life n (.ok held)) (after : n + 1 ≤ m)
    (quiet : ∀ k, n < k → k < m → ∀ other, ¬ Completes life k other) :
    (life.before m).current = some held ∨ (life.before m).current = none := by
  induction m, after using Nat.le_induction with
  | base => exact .inl (shows_of_completes completes).2
  | succ m after ih =>
      have earlier := ih fun k above below => quiet k above (Nat.lt_succ_of_lt below)
      have begun : (life.before m).completed ≠ 0 := by
        have more := completed_lt completes (Nat.zero_le n) after
        omega
      have count : (life.before (m + 1)).completed = (life.before m).completed := by
        refine (quiet_of_no_completion (Nat.le_succ m) ?_).1
        intro k from_m below other
        exact quiet k (Nat.lt_of_lt_of_le after from_m) below other
      rcases current_of_change (consistent_before life m) (change_at life m) count begun with
        same | gone
      · rw [same]
        exact earlier
      · exact .inr gone

/-- If transitions were completed between two moments and an outcome is shown at the second one, it
is that of the last of them. -/
theorem completion_of_shows {life : Life window} {i m : Nat} {result : Except AuthError Held}
    (le : i ≤ m) (more : (life.before i).completed ≠ (life.before m).completed)
    (shows : Shows (life.before m) result) :
    ∃ n, i ≤ n ∧ n < m ∧ Completes life n result ∧
      ∀ k, n < k → k < m → ∀ other, ¬ Completes life k other := by
  obtain ⟨n, shown, from_i, below, completes, last⟩ := exists_latest_completion le more
  have showed := shows_of_completes completes
  have kept := (quiet_of_no_completion (show n + 1 ≤ m from below) last).2
  refine ⟨n, from_i, below, ?_, last⟩
  cases result with
  | error error =>
      have failure : (life.before m).lastFailure = some error := shows
      cases shown with
      | ok held => simp [failure, showed.1] at kept
      | error other =>
          have earlier : (life.before (n + 1)).lastFailure = some other := showed
          cases failure.symm.trans (kept.trans earlier)
          exact completes
  | ok held =>
      obtain ⟨passed, current⟩ := shows
      cases shown with
      | error other =>
          have earlier : (life.before (n + 1)).lastFailure = some other := showed
          cases passed.symm.trans (kept.trans earlier)
      | ok other =>
          rcases current_after_completion completes below last with same | gone
          · cases current.symm.trans same
            exact completes
          · cases current.symm.trans gone

/-- By event number `m` the call comes inside and is given `result` there. -/
def GivenInside (life : Life window) (call m : Nat) (result : Except AuthError Held) : Prop :=
  ∃ now purpose, life.event m = .enter call now ∧
    (life.before m).stage? call = some (.queued purpose) ∧
    (life.before m).gate.holder? = some call ∧
    (life.before m).known now purpose = some result

theorem leaving_of_change {keeper next : Keeper} {event : Event} {reply : Reply} {call : Nat}
    {result : Except AuthError Held} (change : Change keeper event next reply)
    (leaving : next.stage? call = some (.leaving (some result))) :
    keeper.stage? call = some (.leaving (some result)) ∨
    (∃ now purpose, event = .enter call now ∧ keeper.stage? call = some (.queued purpose) ∧
      keeper.gate.holder? = some call ∧ keeper.known now purpose = some result) ∨
    (event.call = call ∧ next.completed = keeper.completed + 1) := by
  by_cases own : event.call = call
  · cases own
    cases change with
    | refused => exact .inl leaving
    | waited => exact .inl leaving
    | shared stage inside known =>
        cases (stage?_place_self _ _ _).symm.trans leaving
        exact .inr (.inl ⟨_, _, rfl, stage, inside, known⟩)
    | sufficed => exact .inr (.inr ⟨rfl, rfl⟩)
    | kept => exact .inr (.inr ⟨rfl, rfl⟩)
    | failed => exact .inr (.inr ⟨rfl, rfl⟩)
    | installed => exact .inr (.inr ⟨rfl, rfl⟩)
    | refresh due =>
        cases due with
        | _ => cases (stage?_place_self _ _ _).symm.trans leaving
    | login due =>
        cases due with
        | _ => cases (stage?_place_self _ _ _).symm.trans leaving
    | served => cases (stage?_forget_self _ _).symm.trans leaving
    | withdrew => cases (stage?_forget_self _ _).symm.trans leaving
    | unqueued => cases (stage?_forget_self _ _).symm.trans leaving
    | returned => cases (stage?_forget_self _ _).symm.trans leaving
    | gone => cases (stage?_forget_self _ _).symm.trans leaving
    | _ => cases (stage?_place_self _ _ _).symm.trans leaving
  · rw [stage?_of_other change own] at leaving
    exact .inl leaving

/-- A call that leaves with a result was given it inside or completed a transition with it. -/
theorem decided_of_leaving {life : Life window} {call i j : Nat}
    {result : Except AuthError Held} (arrives : Arrives life call i) (after : i < j)
    (lasts : Lasts life call i j)
    (leaving : (life.before j).stage? call = some (.leaving (some result))) :
    ∃ m, i < m ∧ m < j ∧ (GivenInside life call m result ∨
      (life.event m).call = call ∧ Completes life m result) := by
  refine holds_while_lasting (fun n stage => stage = .leaving (some result) →
    ∃ m, i < m ∧ m < n ∧ (GivenInside life call m result ∨
      (life.event m).call = call ∧ Completes life m result)) ?_ ?_ after lasts leaving rfl
  · intro stage found leaving
    rw [Run.before_succ, arrives.1, step_arrive arrives.2, stage?_place_self, leaving] at found
    cases found
  · intro n stage next from_i found before nextFound leaving
    subst leaving
    rcases leaving_of_change (change_at life n) nextFound with same | given | ⟨own, grown⟩
    · obtain ⟨m, above, below, decided⟩ := before (Option.some.inj (found.symm.trans same))
      exact ⟨m, above, Nat.lt_succ_of_lt below, decided⟩
    · exact ⟨n, from_i, Nat.lt_succ_self n, .inl given⟩
    · exact ⟨n, from_i, Nat.lt_succ_self n, .inr ⟨own, grown, own ▸ nextFound⟩⟩

theorem source_of_returns {life : Life window} {call j : Nat} {result : Except AuthError Held}
    (returns : Returns life call j result) :
    (∃ now held, life.event j = .look call now ∧
      (∃ seen, (life.before j).stage? call = some (.arrived seen)) ∧
      (life.before j).usable now = some held ∧ result = .ok held) ∨
    (life.before j).stage? call = some (.leaving (some result)) := by
  obtain ⟨own, finished⟩ := returns
  have change := change_at life j
  generalize life.event j = event, life.before (j + 1) = next, life.reply j = reply
    at change own finished
  cases own
  cases change with
  | served stage usable =>
      cases finished
      exact .inl ⟨_, _, rfl, ⟨_, stage⟩, usable, rfl⟩
  | returned stage =>
      cases finished
      exact .inr stage
  | _ => cases finished

theorem ended_of_returns {life : Life window} {call j : Nat} {result : Except AuthError Held}
    (returns : Returns life call j result) : (life.before (j + 1)).stage? call = none := by
  obtain ⟨own, finished⟩ := returns
  have change := change_at life j
  generalize life.event j = event, life.before (j + 1) = next, life.reply j = reply
    at change own finished ⊢
  cases own
  cases change with
  | served => exact stage?_forget_self _ _
  | returned => exact stage?_forget_self _ _
  | _ => cases finished

theorem inside_of_completes {life : Life window} {n : Nat} {result : Except AuthError Held}
    (completes : Completes life n result) :
    ∃ stage, (life.before n).stage? (life.event n).call = some stage ∧ stage.isInside = true := by
  have grown := completes.1
  have change := change_at life n
  generalize life.event n = event, life.before (n + 1) = next, life.reply n = reply
    at change grown ⊢
  cases change with
  | sufficed stage => exact ⟨_, stage, rfl⟩
  | kept stage => exact ⟨_, stage, rfl⟩
  | failed stage => exact ⟨_, stage, rfl⟩
  | installed stage => exact ⟨_, stage, rfl⟩
  | _ => exact absurd grown (Nat.succ_ne_self _).symm

theorem ne_of_arrives {life : Life window} {call i n : Nat} {result : Except AuthError Held}
    (arrives : Arrives life call i) (completes : Completes life n result) : n ≠ i := by
  rintro rfl
  obtain ⟨stage, found, _⟩ := inside_of_completes completes
  rw [arrives.1] at found
  cases found.symm.trans arrives.2

theorem GivenInside.enters {life : Life window} {call m : Nat} {result : Except AuthError Held}
    (given : GivenInside life call m result) : Enters life call m := by
  obtain ⟨now, purpose, event, waits, first, _⟩ := given
  exact ⟨⟨now, event⟩, ⟨_, waits⟩, first⟩

/-- What a call for a usable credential is given inside is the outcome of the last transition since
it came, or a credential that it finds usable there. -/
theorem origin_of_given {life : Life window} {call i m : Nat} {result : Except AuthError Held}
    (arrives : Arrives life call i) (after : i < m) (lasts : Lasts life call i m)
    (given : GivenInside life call m result) :
    (∃ n, i < n ∧ n < m ∧ Completes life n result ∧
        ∀ k, n < k → k < m → ∀ other, ¬ Completes life k other) ∨
      ∃ now held, life.event m = .enter call now ∧ (life.before m).usable now = some held ∧
        result = .ok held := by
  obtain ⟨now, purpose, event, waits, _, known⟩ := given
  have came := cameAt_while_lasting arrives after lasts waits
  cases purpose with
  | replacement rejected => cases came
  | usable seen =>
      have seen_eq : seen = (life.before i).completed := came
      rcases shows_or_usable_of_known known with ⟨more, shows⟩ | ⟨held, same, usable⟩
      · rw [seen_eq] at more
        obtain ⟨n, since, before, completes, quiet⟩ :=
          completion_of_shows (Nat.le_of_lt after) (Ne.symm more) shows
        have later : i < n :=
          Nat.lt_of_le_of_ne since (Ne.symm (ne_of_arrives arrives completes))
        exact .inl ⟨n, later, before, completes, quiet⟩
      · exact .inr ⟨now, held, event, usable, same⟩

end Steward.Keeper
