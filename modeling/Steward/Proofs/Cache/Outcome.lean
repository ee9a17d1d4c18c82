import Steward.Proofs.Cache.Life
/-!
# Outcomes of computations

A cache changes its value and its last failure only when a computation completes.  So the value that
is there is the outcome of the last computation that succeeded, and has the epoch in which that
started.
-/

set_option autoImplicit false

namespace Steward.Cache

variable {V E : Type} {ttl : Option Duration}

theorem Completes.unique {life : Life V E ttl} {m ticket number : Nat} {result other : Except E V}
    (completes : Completes life m ticket result) (also : Completes life m number other) :
    number = ticket ∧ other = result := by
  obtain ⟨call, role, epoch, now, event, stage⟩ := completes
  obtain ⟨_, _, _, _, same, otherStage⟩ := also
  cases event.symm.trans same
  cases stage.symm.trans otherStage
  exact ⟨rfl, rfl⟩

theorem ne_of_gets {life : Life V E ttl} {call i m ticket : Nat} {result : Except E V}
    (gets : Gets life call i) (completes : Completes life m ticket result) : m ≠ i := by
  rintro rfl
  obtain ⟨⟨_, get⟩, _⟩ := gets
  obtain ⟨_, _, _, _, loads, _⟩ := completes
  cases get.symm.trans loads

theorem effect_of_completes {life : Life V E ttl} {m ticket : Nat} {result : Except E V}
    (completes : Completes life m ticket result) :
    ∃ b now, b < m ∧ Starts life b ticket ∧
      Alike ((life.before m).apply (life.before b).epoch now result) (life.before (m + 1)) := by
  obtain ⟨call, role, epoch, now, event, stage⟩ := completes
  obtain ⟨b, earlier, starts, since, _⟩ := starts_of_computing life stage
  refine ⟨b, now, earlier, starts, ?_⟩
  rw [Run.before_succ, event, since]
  simp only [step, stage]
  exact .retire _ _ _

theorem completed_of_completes {life : Life V E ttl} {m ticket : Nat} {result : Except E V}
    (completes : Completes life m ticket result) :
    (life.before (m + 1)).completed = (life.before m).completed + 1 := by
  obtain ⟨b, now, _, _, alike⟩ := effect_of_completes completes
  rw [alike.completed]
  cases result <;> rfl

/-- The two agree in the value, its epoch, the number of completed computations and the last
failure. -/
def SameSlot (cache next : Cache V E) : Prop :=
  next.value = cache.value ∧ next.loadedEpoch = cache.loadedEpoch ∧
    next.completed = cache.completed ∧ next.lastFailure = cache.lastFailure

theorem sameSlot_of_quiet {life : Life V E ttl} {n : Nat}
    (quiet : ∀ ticket result, ¬ Completes life n ticket result) :
    SameSlot (life.before n) (life.before (n + 1)) := by
  have effect := effect_of_change (change_at life n)
  generalize happens : life.event n = event, life.reply n = reply at effect
  cases effect with
  | nothing alike =>
      exact ⟨alike.value, alike.loadedEpoch, alike.completed, alike.lastFailure⟩
  | started alike =>
      exact ⟨alike.value, alike.loadedEpoch, alike.completed, alike.lastFailure⟩
  | completed stage => exact absurd ⟨_, _, _, _, happens, stage⟩ (quiet _ _)
  | invalidated alike =>
      exact ⟨alike.value, alike.loadedEpoch, alike.completed, alike.lastFailure⟩

theorem sameSlot_while_quiet {life : Life V E ttl} {i n : Nat} (le : i ≤ n)
    (quiet : ∀ k, i ≤ k → k < n → ∀ ticket result, ¬ Completes life k ticket result) :
    SameSlot (life.before i) (life.before n) := by
  induction n, le using Nat.le_induction with
  | base => exact ⟨rfl, rfl, rfl, rfl⟩
  | succ n le ih =>
      obtain ⟨value, epoch, count, failure⟩ :=
        ih fun k from_i below => quiet k from_i (Nat.lt_succ_of_lt below)
      obtain ⟨sameValue, sameEpoch, sameCount, sameFailure⟩ :=
        sameSlot_of_quiet (quiet n le (Nat.lt_succ_self n))
      exact ⟨sameValue.trans value, sameEpoch.trans epoch, sameCount.trans count,
        sameFailure.trans failure⟩

theorem completed_le (life : Life V E ttl) {i n : Nat} (le : i ≤ n) :
    (life.before i).completed ≤ (life.before n).completed := by
  refine life.le_of_grown Cache.completed ?_ le
  intro n
  by_cases happens : ∃ ticket result, Completes life n ticket result
  · obtain ⟨ticket, result, completes⟩ := happens
    rw [completed_of_completes completes]
    exact Nat.le_succ _
  · have quiet := sameSlot_of_quiet fun ticket result completes =>
      happens ⟨ticket, result, completes⟩
    exact Nat.le_of_eq quiet.2.2.1.symm

/-! ## The outcome that is shown -/

/-- By what the cache holds, the last computation to complete had this outcome. -/
def Shows (cache : Cache V E) : Except E V → Prop
  | .ok value => cache.lastFailure = none ∧ cache.value = some value
  | .error error => cache.lastFailure = some error

theorem shows_of_completes {life : Life V E ttl} {m ticket : Nat} {result : Except E V}
    (completes : Completes life m ticket result) : Shows (life.before (m + 1)) result := by
  obtain ⟨b, now, _, _, alike⟩ := effect_of_completes completes
  cases result with
  | ok value => exact ⟨alike.lastFailure, alike.value⟩
  | error error => exact alike.lastFailure

theorem shows_while_quiet {life : Life V E ttl} {i n : Nat} {result : Except E V}
    (shows : Shows (life.before i) result) (le : i ≤ n)
    (quiet : ∀ k, i ≤ k → k < n → ∀ ticket other, ¬ Completes life k ticket other) :
    Shows (life.before n) result := by
  obtain ⟨value, _, _, failure⟩ := sameSlot_while_quiet le quiet
  cases result with
  | ok loaded => exact ⟨failure.trans shows.1, value.trans shows.2⟩
  | error error => exact failure.trans shows

theorem Shows.unique {cache : Cache V E} {result other : Except E V} (shows : Shows cache result)
    (also : Shows cache other) : other = result := by
  cases result with
  | ok value =>
      cases other with
      | ok loaded =>
          cases shows.2.symm.trans also.2
          rfl
      | error error => cases shows.1.symm.trans also
  | error error =>
      cases other with
      | ok loaded => cases also.1.symm.trans shows
      | error failure =>
          have same : some failure = some error := Eq.trans (Eq.symm also) shows
          cases same
          rfl

theorem exists_latest_completion {life : Life V E ttl} {i j : Nat} (le : i ≤ j)
    (more : (life.before j).completed ≠ (life.before i).completed) :
    ∃ m ticket result, i ≤ m ∧ m < j ∧ Completes life m ticket result ∧
      (∀ k, m < k → k < j → ∀ number other, ¬ Completes life k number other) ∧
      Shows (life.before j) result := by
  by_cases happens : ∃ n, i ≤ n ∧ n < j ∧ ∃ ticket result, Completes life n ticket result
  · obtain ⟨first, from_i, below, happens⟩ := happens
    obtain ⟨m, from_first, below, ⟨ticket, result, completes⟩, last⟩ :=
      exists_latest (fun k => ∃ ticket result, Completes life k ticket result) happens below
    have quiet : ∀ k, m < k → k < j → ∀ number other, ¬ Completes life k number other :=
      fun k above upTo number other also => last k above upTo ⟨number, other, also⟩
    exact ⟨m, ticket, result, Nat.le_trans from_i from_first, below, completes, quiet,
      shows_while_quiet (shows_of_completes completes) below quiet⟩
  · refine absurd (sameSlot_while_quiet le ?_).2.2.1 more
    intro k from_i below ticket result completes
    exact happens ⟨k, from_i, below, ticket, result, completes⟩

/-! ## What a reader is given -/

theorem fresh_iff {cache : Cache V E} {now : Nat} {value : V} :
    cache.fresh now = some value ↔
      cache.value = some value ∧ cache.loadedEpoch = cache.epoch ∧
        ∃ loadedAt, cache.loadedAt = some loadedAt ∧
          ∀ limit, cache.ttl = some limit → Moment.since now loadedAt < limit := by
  unfold fresh isStale
  cases there : cache.value with
  | none => simp
  | some loaded =>
      cases moment : cache.loadedAt with
      | none => simp
      | some loadedAt =>
          cases age : cache.ttl with
          | none => simp [and_comm]
          | some limit =>
              by_cases current : cache.loadedEpoch = cache.epoch
              · by_cases old : limit ≤ Moment.since now loadedAt
                · have apart : ¬ Moment.since now loadedAt < limit := Nat.not_lt.mpr old
                  simp [current, old, apart]
                · have young : Moment.since now loadedAt < limit := Nat.not_le.mp old
                  simp [current, old, young]
              · simp [current]

/-- At moment `now` and before event number `n`, the value is of the present epoch and has not
reached its age. -/
def Fresh (life : Life V E ttl) (n now : Nat) (value : V) : Prop :=
  (life.before n).value = some value ∧ (life.before n).loadedEpoch = (life.before n).epoch ∧
    ∃ loadedAt, (life.before n).loadedAt = some loadedAt ∧
      ∀ limit, ttl = some limit → Moment.since now loadedAt < limit

theorem fresh_before_iff {life : Life V E ttl} {n now : Nat} {value : V} :
    (life.before n).fresh now = some value ↔ Fresh life n now value := by
  rw [fresh_iff, ttl_before, Fresh]

theorem known_of_shows {cache : Cache V E} {seen : Nat} {result : Except E V} (now : Nat)
    (more : cache.completed ≠ seen) (shows : Shows cache result) :
    cache.known now seen = some result := by
  cases result with
  | ok value => simp [known, more, shows.1, shows.2]
  | error error =>
      have failed : cache.lastFailure = some error := shows
      simp [known, more, failed]

theorem shows_or_fresh_of_known {cache : Cache V E} {now seen : Nat} {result : Except E V}
    (given : cache.known now seen = some result) :
    cache.completed ≠ seen ∧ Shows cache result ∨
      ∃ value, result = .ok value ∧ cache.fresh now = some value := by
  have found : (cache.fresh now).map Except.ok = some result →
      ∃ value, result = .ok value ∧ cache.fresh now = some value := by
    intro mapped
    obtain ⟨value, fresh, same⟩ := Option.map_eq_some_iff.mp mapped
    exact ⟨value, same.symm, fresh⟩
  by_cases same : cache.completed = seen
  · simp only [known, if_pos same, Option.none_or] at given
    exact .inr (found given)
  · cases failure : cache.lastFailure with
    | some error =>
        simp only [known, if_neg same, failure, Option.some_or] at given
        cases given
        exact .inl ⟨same, failure⟩
    | none =>
        cases there : cache.value with
        | some loaded =>
            simp only [known, if_neg same, failure, there, Option.map_some, Option.some_or] at given
            cases given
            exact .inl ⟨same, failure, there⟩
        | none =>
            simp only [known, if_neg same, failure, there, Option.map_none, Option.none_or] at given
            exact .inr (found given)

theorem completes_of_reply {life : Life V E ttl} {call j : Nat} {result : Except E V}
    (own : (life.event j).call? = some call)
    (finished : life.reply j = .completed result true) :
    ∃ ticket role epoch, Completes life j ticket result ∧
      (life.before j).stage? call = some (.computing role ticket epoch) := by
  have change := change_at life j
  generalize happens : life.event j = event, life.before (j + 1) = next, life.reply j = reply
    at change own finished
  cases change with
  | completed stage =>
      cases own
      injection finished with same
      subst same
      exact ⟨_, _, _, ⟨_, _, _, _, happens, stage⟩, stage⟩
  | _ => cases finished

/-- Event number `m` completed the computation whose outcome is the value before event number `n`.
-/
def Stored (life : Life V E ttl) (n m : Nat) (value : V) : Prop :=
  m < n ∧ (∃ ticket, Completes life m ticket (.ok value)) ∧
    ∀ k, m < k → k < n → ∀ ticket other, ¬ Completes life k ticket (.ok other)

theorem Stored.unique {life : Life V E ttl} {n m other : Nat} {value otherValue : V}
    (stored : Stored life n m value) (also : Stored life n other otherValue) : other = m := by
  obtain ⟨below, ⟨ticket, completes⟩, last⟩ := stored
  obtain ⟨otherBelow, ⟨number, otherCompletes⟩, otherLast⟩ := also
  rcases Nat.lt_trichotomy other m with earlier | same | later
  · exact absurd completes (otherLast m earlier below ticket value)
  · exact same
  · exact absurd otherCompletes (last other later otherBelow number otherValue)

theorem Stored.longer {life : Life V E ttl} {n m : Nat} {value : V}
    (stored : Stored life n m value)
    (quiet : ∀ ticket other, ¬ Completes life n ticket (.ok other)) :
    Stored life (n + 1) m value := by
  obtain ⟨below, completes, last⟩ := stored
  refine ⟨Nat.lt_succ_of_lt below, completes, ?_⟩
  intro k above upTo
  rcases Nat.lt_succ_iff_lt_or_eq.mp upTo with before | rfl
  · exact last k above before
  · exact quiet

/-- The value that is there is the outcome of a computation, and has the epoch in which that
started. -/
theorem stored_of_value (life : Life V E ttl) {n : Nat} {value : V}
    (there : (life.before n).value = some value) :
    ∃ m b ticket, Stored life n m value ∧ Completes life m ticket (.ok value) ∧
      Starts life b ticket ∧ b < m ∧ (life.before b).epoch = (life.before n).loadedEpoch := by
  induction n with
  | zero => cases there
  | succ n ih =>
      by_cases happens : ∃ ticket result, Completes life n ticket result
      · obtain ⟨ticket, result, completes⟩ := happens
        obtain ⟨b, now, earlier, starts, alike⟩ := effect_of_completes completes
        cases result with
        | ok loaded =>
            have same : some loaded = some value := alike.value.symm.trans there
            cases same
            refine ⟨n, b, ticket, ⟨Nat.lt_succ_self n, ⟨ticket, completes⟩, ?_⟩, completes, starts,
              earlier, alike.loadedEpoch.symm⟩
            intro k above below
            omega
        | error error =>
            -- A failure leaves the value that was there, so nothing has succeeded since event `m`.
            obtain ⟨m, b, number, stored, origin⟩ := ih (alike.value.symm.trans there)
            rw [alike.loadedEpoch]
            refine ⟨m, b, number, stored.longer ?_, origin⟩
            intro other loaded also
            cases (completes.unique also).2
      · have quiet : ∀ ticket result, ¬ Completes life n ticket result :=
          fun ticket result completes => happens ⟨ticket, result, completes⟩
        obtain ⟨value_eq, epoch_eq, _, _⟩ := sameSlot_of_quiet quiet
        obtain ⟨m, b, ticket, stored, origin⟩ := ih (value_eq.symm.trans there)
        rw [epoch_eq]
        exact ⟨m, b, ticket, stored.longer fun number other => quiet number (.ok other), origin⟩

theorem stored_of_shared {life : Life V E ttl} {i j : Nat} (le : i ≤ j)
    (more : (life.before j).completed ≠ (life.before i).completed)
    (passed : (life.before j).lastFailure = none) :
    ∃ m value, i ≤ m ∧ Stored life j m value ∧
      ∀ k, m < k → k < j → ∀ ticket result, ¬ Completes life k ticket result := by
  obtain ⟨m, ticket, result, from_i, below, completes, quiet, shows⟩ :=
    exists_latest_completion le more
  cases result with
  | error error => cases passed.symm.trans shows
  | ok value =>
      refine ⟨m, value, from_i, ⟨below, ⟨ticket, completes⟩, ?_⟩, quiet⟩
      intro k above upTo number other
      exact quiet k above upTo number (.ok other)

end Steward.Cache
