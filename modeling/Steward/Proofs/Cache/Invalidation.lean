import Steward.Proofs.Cache.Outcome
/-!
# Values from before an invalidation

Every value that a waiting reader gets is the outcome of one computation.  A reader that comes after
an invalidation gets the outcome of a computation from before it in one case only: that computation
was still running when the reader came, and was the last to complete before the reader was let in.
Those who wait share the outcome of what they have waited for, whatever has been invalidated
meanwhile.
-/

set_option autoImplicit false

namespace Steward.Cache

variable {V E : Type} {ttl : Option Duration}

theorem current_of_fresh {cache : Cache V E} {now : Nat} {value : V}
    (fresh : cache.fresh now = some value) :
    cache.value = some value ∧ cache.loadedEpoch = cache.epoch := by
  obtain ⟨there, current, _⟩ := fresh_iff.mp fresh
  exact ⟨there, current⟩

theorem value_of_known {cache : Cache V E} {now seen : Nat} {value : V}
    (given : cache.known now seen = some (.ok value)) :
    cache.value = some value ∧
      (cache.completed ≠ seen ∧ cache.lastFailure = none ∨ cache.loadedEpoch = cache.epoch) := by
  rcases shows_or_fresh_of_known given with ⟨more, passed, there⟩ | ⟨loaded, same, fresh⟩
  · exact ⟨there, .inl ⟨more, passed⟩⟩
  · cases same
    obtain ⟨there, current⟩ := current_of_fresh fresh
    exact ⟨there, .inr current⟩

/-- By event number `j` the reader gets `value`, the outcome of the computation that event number
`m` completed: one that it has run itself, or the last one that has succeeded. -/
def HandsOut (life : Life V E ttl) (call j m : Nat) (value : V) : Prop :=
  (life.event j).call? = some call ∧
    (life.reply j = .served (.ok value) ∧ Stored life j m value ∨
      life.reply j = .completed (.ok value) true ∧ m = j)

theorem HandsOut.unique {life : Life V E ttl} {call j m other : Nat} {value otherValue : V}
    (hands : HandsOut life call j m value) (also : HandsOut life call j other otherValue) :
    other = m := by
  obtain ⟨_, ⟨served, stored⟩ | ⟨finished, rfl⟩⟩ := hands
  · obtain ⟨_, ⟨_, otherStored⟩ | ⟨finished, _⟩⟩ := also
    · exact stored.unique otherStored
    · cases served.symm.trans finished
  · obtain ⟨_, ⟨served, _⟩ | ⟨_, same⟩⟩ := also
    · cases served.symm.trans finished
    · exact same

theorem value_of_served {life : Life V E ttl} {call j : Nat} {value : V}
    (own : (life.event j).call? = some call) (served : life.reply j = .served (.ok value)) :
    (life.before j).value = some value ∧
      ((life.before j).loadedEpoch = (life.before j).epoch ∨
        (∃ now seen, life.event j = .enter call now ∧
          (life.before j).stage? call = some (.queued (.reader seen)) ∧
          (life.before j).gate.holder? = some call ∧ (life.before j).completed ≠ seen ∧
          (life.before j).lastFailure = none)) := by
  have change := change_at life j
  generalize life.event j = event, life.before (j + 1) = next, life.reply j = reply
    at change own served ⊢
  cases change with
  | found absent fresh =>
      injection served with same
      cases same
      obtain ⟨there, current⟩ := current_of_fresh fresh
      exact ⟨there, .inl current⟩
  | shared stage inside known =>
      cases own
      injection served with same
      subst same
      obtain ⟨there, ⟨more, passed⟩ | current⟩ := value_of_known known
      · exact ⟨there, .inr ⟨_, _, rfl, stage, inside, more, passed⟩⟩
      · exact ⟨there, .inl current⟩
  | _ => cases served

theorem handsOut_of_returns {life : Life V E ttl} {call j : Nat} {value : V}
    (returns : Returns life call j (.ok value)) :
    ∃ m b ticket, HandsOut life call j m value ∧ Completes life m ticket (.ok value) ∧
      Starts life b ticket ∧ b < m := by
  obtain ⟨own, served | finished⟩ := returns
  · obtain ⟨there, _⟩ := value_of_served own served
    obtain ⟨m, b, ticket, stored, completes, starts, earlier, _⟩ := stored_of_value life there
    exact ⟨m, b, ticket, ⟨own, .inl ⟨served, stored⟩⟩, completes, starts, earlier⟩
  · obtain ⟨ticket, role, epoch, completes, stage⟩ := completes_of_reply own finished
    obtain ⟨b, earlier, starts, _⟩ := starts_of_computing life stage
    exact ⟨j, b, ticket, ⟨own, .inr ⟨finished, rfl⟩⟩, completes, starts, earlier⟩

/-! ## Readers that come after an invalidation -/

section Clear

variable {life : Life V E ttl} {call i j k : Nat}

theorem epoch_ne_of_stored {m b n ticket : Nat} {value : V} (stored : Stored life n m value)
    (completes : Completes life m ticket (.ok value)) (starts : Starts life b ticket)
    (there : (life.before n).value = some value) (clears : life.event k = .invalidate)
    (older : b < k) (after : k < n) : (life.before n).loadedEpoch ≠ (life.before n).epoch := by
  obtain ⟨m', b', ticket', stored', completes', starts', _, since⟩ := stored_of_value life there
  cases stored.unique stored'
  cases (completes.unique completes').1
  cases starts_unique starts starts'
  -- The value has the epoch in which its computation started, and that has grown by event `k`.
  have apart := epoch_lt clears (Nat.le_of_lt older) after
  omega

theorem late_of_older (gets : Gets life call i) (upTo : i ≤ j) (lasts : Lasts life call i j)
    (clears : life.event k = .invalidate) (before : k < i) {m b ticket : Nat} {value : V}
    (completes : Completes life m ticket (.ok value)) (starts : Starts life b ticket)
    (older : b < k) (hands : HandsOut life call j m value) :
    Enters life call j ∧ i < m ∧ m < j ∧
      ∀ n, m < n → n < j → ∀ other result, ¬ Completes life n other result := by
  obtain ⟨own, ⟨served, stored⟩ | ⟨finished, rfl⟩⟩ := hands
  · obtain ⟨there, current | ⟨now, seen, event, stage, inside, more, passed⟩⟩ :=
      value_of_served own served
    · exact absurd current
        (epoch_ne_of_stored stored completes starts there clears older (by omega))
    · have later : i < j := by
        rcases Nat.lt_or_eq_of_le upTo with later | rfl
        · exact later
        · cases gets.2.symm.trans stage
      have came : seen = (life.before i).completed :=
        cameAt_while_lasting gets later lasts stage
      obtain ⟨last, loaded, from_i, storedLast, quiet⟩ :=
        stored_of_shared upTo (came ▸ more) passed
      cases stored.unique storedLast
      exact ⟨⟨⟨now, event⟩, ⟨_, stage⟩, inside⟩,
        Nat.lt_of_le_of_ne from_i (ne_of_gets gets completes).symm, stored.1, quiet⟩
  · -- A computation of its own has started after the reader came.
    obtain ⟨number, role, epoch, also, stage⟩ := completes_of_reply own finished
    obtain ⟨b', _, starts', _, _, present⟩ := starts_of_computing life stage
    cases (completes.unique also).1
    cases starts_unique starts starts'
    exact absurd gets.2 (present i (by omega) upTo)

theorem older_of_late (gets : Gets life call i) (lasts : Lasts life call i j)
    (enters : Enters life call j) {m ticket : Nat} {value : V}
    (completes : Completes life m ticket (.ok value)) (after : i < m) (below : m < j)
    (quiet : ∀ n, m < n → n < j → ∀ other result, ¬ Completes life n other result) :
    HandsOut life call j m value := by
  obtain ⟨⟨now, event⟩, ⟨role, stage⟩, inside⟩ := enters
  have came := cameAt_while_lasting gets (Nat.lt_trans after below) lasts stage
  cases role with
  | job epoch => cases came
  | reader seen =>
      have seen_eq : seen = (life.before i).completed := came
      have shows := shows_while_quiet (shows_of_completes completes) below quiet
      have more : (life.before j).completed ≠ seen := by
        have earlier := completed_le life (Nat.le_of_lt after)
        have later := completed_le life (show m + 1 ≤ j from below)
        have grown := completed_of_completes completes
        omega
      have known := known_of_shows now more shows
      refine ⟨by rw [event, Event.call?], .inl ⟨?_, below, ⟨ticket, completes⟩, ?_⟩⟩
      · rw [Run.reply, event, step_enter stage inside known]
      · intro n above upTo number other
        exact quiet n above upTo number (.ok other)

end Clear

/-- Every value that a reader gets is the outcome of one computation.  If the reader came after an
invalidation and the computation had started before it, the reader gets that outcome exactly if it
is let in after that computation, still running when the reader came, has completed as the last one.
-/
theorem handsOut_older_iff (life : Life V E ttl) {call i j k : Nat} (gets : Gets life call i)
    (upTo : i ≤ j) (lasts : Lasts life call i j) (clears : life.event k = .invalidate)
    (before : k < i) :
    (∀ value, Returns life call j (.ok value) →
      ∃ m b ticket, HandsOut life call j m value ∧ Completes life m ticket (.ok value) ∧
        Starts life b ticket ∧ b < m ∧ ∀ other, HandsOut life call j other value → other = m) ∧
    ∀ m b ticket value, Completes life m ticket (.ok value) → Starts life b ticket → b < k →
      (HandsOut life call j m value ↔
        Enters life call j ∧ i < m ∧ m < j ∧
          ∀ n, m < n → n < j → ∀ other result, ¬ Completes life n other result) := by
  refine ⟨?_, ?_⟩
  · intro value returns
    obtain ⟨m, b, ticket, hands, completes, starts, earlier⟩ := handsOut_of_returns returns
    exact ⟨m, b, ticket, hands, completes, starts, earlier, fun other also => hands.unique also⟩
  intro m b ticket value completes starts older
  constructor
  · intro hands
    exact late_of_older gets upTo lasts clears before completes starts older hands
  · rintro ⟨enters, after, below, quiet⟩
    exact older_of_late gets lasts enters completes after below quiet

def clearedWhileLoading : Life Nat String none :=
  .ofList [.get 1 0, .join 1, .enter 1 0, .invalidate, .get 2 10, .join 2, .loaded 1 (.ok 1) 100,
    .enter 2 100] (.decline 0)

theorem handsOut_older_clearedWhileLoading : HandsOut clearedWhileLoading 2 7 6 1 := by
  have gets : Gets clearedWhileLoading 2 4 := ⟨⟨10, rfl⟩, rfl⟩
  have lasts : Lasts clearedWhileLoading 2 4 7 := lasts_of_isSome (by decide +kernel)
  have completes : Completes clearedWhileLoading 6 1 (.ok 1) :=
    ⟨1, .reader 0, 0, 100, rfl, rfl⟩
  have enters : Enters clearedWhileLoading 2 7 := ⟨⟨100, rfl⟩, ⟨_, rfl⟩, rfl⟩
  have older := (handsOut_older_iff clearedWhileLoading gets (by decide) lasts
    (show clearedWhileLoading.event 3 = .invalidate from rfl) (by decide)).2 6 2 1 1 completes rfl
    (by decide)
  exact older.mpr ⟨enters, by decide, by decide, fun n above below => by omega⟩

/-- So an invalidation does not keep readers that come later from older values. -/
theorem not_all_readers_newer :
    ¬ ∀ (life : Life Nat String none) (call i j k m b ticket value : Nat),
      Gets life call i → i ≤ j → Lasts life call i j → life.event k = .invalidate → k < i →
      HandsOut life call j m value → Completes life m ticket (.ok value) →
      Starts life b ticket → ¬ b < k := by
  intro newer
  have lasts : Lasts clearedWhileLoading 2 4 7 := lasts_of_isSome (by decide +kernel)
  have completes : Completes clearedWhileLoading 6 1 (.ok 1) :=
    ⟨1, .reader 0, 0, 100, rfl, rfl⟩
  have stored : Stored clearedWhileLoading 7 6 1 :=
    ⟨by decide, ⟨1, completes⟩, fun n above below => by omega⟩
  exact newer clearedWhileLoading 2 4 7 3 6 2 1 1 ⟨⟨10, rfl⟩, rfl⟩ (by decide) lasts rfl (by decide)
    ⟨rfl, .inl ⟨rfl, stored⟩⟩ completes rfl (by decide)

end Steward.Cache
