import Steward.Proofs.Cache.Line
import Steward.Proofs.Cache.Outcome
/-!
# What a cache shows of its computations

Computations are numbered as they start, and since one is under way at a time they complete in the
order of their numbers.  So what a cache holds can be read off its history: the value, its moment
and its epoch are those of the success with the greatest number, and the last failure is there if
the computation with the greatest number of all has failed.  Computations that fail, crash or are
given up leave the value alone, and whoever follows the values is told of each success once and in
order.
-/

set_option autoImplicit false

namespace Steward.Cache

variable {V E : Type} {ttl : Option Duration}

structure Counted (cache : Cache V E) : Prop where
  completed_le : cache.completed ≤ cache.started
  loadedEpoch_le : cache.loadedEpoch ≤ cache.epoch
  computing : ∀ call role ticket epoch,
    cache.stage? call = some (.computing role ticket epoch) →
      ticket = cache.started ∧ cache.completed < cache.started ∧ epoch ≤ cache.epoch

theorem counted_change {cache next : Cache V E} {event : Event V E} {reply : Reply V E}
    (orderly : Orderly cache) (counted : Counted cache) (change : Change cache event next reply) :
    Counted next := by
  have effect := effect_of_change change
  cases effect with
  | nothing alike idle =>
      refine ⟨?_, ?_, ?_⟩
      · rw [alike.completed, alike.started]
        exact counted.completed_le
      · rw [alike.loadedEpoch, alike.epoch]
        exact counted.loadedEpoch_le
      · intro call role ticket epoch computes
        rw [alike.completed, alike.started, alike.epoch]
        rcases computing_of_change change computes with before | ⟨_, _, _, loads, _⟩
        · exact counted.computing call role ticket epoch before
        · exact absurd loads (idle ticket)
  | started alike =>
      have more : next.started = cache.started + 1 := alike.started
      have completed : next.completed = cache.completed := alike.completed
      have epochs : next.epoch = cache.epoch := alike.epoch
      have grown := counted.completed_le
      refine ⟨by omega, ?_, ?_⟩
      · rw [alike.loadedEpoch, epochs]
        exact counted.loadedEpoch_le
      · intro call role ticket epoch computes
        rcases computing_of_change change computes with before | ⟨_, _, _, _, rfl, rfl⟩
        · exact absurd rfl (no_load_while_computing orderly change ⟨_, _, _, before⟩ _)
        · exact ⟨more.symm, by omega, Nat.le_of_eq epochs.symm⟩
  | @completed own ticket epoch now role result stage alike =>
      obtain ⟨_, below, since⟩ := counted.computing own role ticket epoch stage
      have more : next.completed = cache.completed + 1 := by
        rw [alike.completed]
        cases result <;> rfl
      have started : next.started = cache.started := by
        rw [alike.started]
        cases result <;> rfl
      have epochs : next.epoch = cache.epoch := by
        rw [alike.epoch]
        cases result <;> rfl
      refine ⟨by omega, ?_, ?_⟩
      · rw [alike.loadedEpoch, epochs]
        cases result with
        | ok value => exact since
        | error error => exact counted.loadedEpoch_le
      · intro call otherRole number epoch computes
        rcases computing_of_change change computes with before | ⟨_, _, _, impossible, _⟩
        · -- Nobody else computes, and the call whose computation completes has ended.
          cases orderly.inside_unique before rfl stage rfl
          have moves := moves_of_change change rfl stage
          rw [computes] at moves
          cases moves
        · cases impossible
  | invalidated alike =>
      have epochs : next.epoch = cache.epoch + 1 := alike.epoch
      refine ⟨?_, ?_, ?_⟩
      · rw [alike.completed, alike.started]
        exact counted.completed_le
      · have earlier := counted.loadedEpoch_le
        rw [alike.loadedEpoch, epochs]
        exact Nat.le_succ_of_le earlier
      · intro call role ticket epoch computes
        rcases computing_of_change change computes with before | ⟨_, _, _, impossible, _⟩
        · obtain ⟨latest, below, since⟩ := counted.computing call role ticket epoch before
          rw [alike.completed, alike.started, epochs]
          exact ⟨latest, below, Nat.le_succ_of_le since⟩
        · cases impossible

theorem counted_before (life : Life V E ttl) (n : Nat) : Counted (life.before n) := by
  refine life.holds_of_kept Counted ?_ ?_ n
  · refine ⟨Nat.le_refl 0, Nat.le_refl 0, ?_⟩
    intro call role ticket epoch computes
    cases computes
  · intro n counted
    exact counted_change (orderly_before life n) counted (change_at life n)

/-! ## The history of computations -/

/-- Computation number `ticket`, started after `epoch` invalidations, comes to `result` by event
number `m`, at moment `now`. -/
def CompletesAt (life : Life V E ttl) (m ticket epoch now : Nat) (result : Except E V) : Prop :=
  ∃ call role, life.event m = .loaded call result now ∧
    (life.before m).stage? call = some (.computing role ticket epoch)

/-- Computation number `ticket`, started after `epoch` invalidations, has come to `result` before
event number `n`, at moment `now`. -/
def Computed (life : Life V E ttl) (n ticket epoch now : Nat) (result : Except E V) : Prop :=
  ∃ b m, b < m ∧ m < n ∧ Starts life b ticket ∧ (life.before b).epoch = epoch ∧
    CompletesAt life m ticket epoch now result

section History

variable {life : Life V E ttl} {n ticket epoch now : Nat} {result : Except E V}

theorem CompletesAt.unique {number since moment : Nat} {other : Except E V}
    (completes : CompletesAt life n ticket epoch now result)
    (also : CompletesAt life n number since moment other) :
    number = ticket ∧ since = epoch ∧ moment = now ∧ other = result := by
  obtain ⟨call, role, event, stage⟩ := completes
  obtain ⟨_, _, same, otherStage⟩ := also
  cases event.symm.trans same
  cases stage.symm.trans otherStage
  exact ⟨rfl, rfl, rfl, rfl⟩

theorem alike_of_completesAt (completes : CompletesAt life n ticket epoch now result) :
    Alike ((life.before n).apply epoch now result) (life.before (n + 1)) := by
  obtain ⟨call, role, event, stage⟩ := completes
  rw [Run.before_succ, event]
  simp only [step, stage]
  exact .retire _ _ _

theorem absent_of_loaded {call : Nat} {role : Role}
    (loads : life.event n = .loaded call result now)
    (computes : (life.before n).stage? call = some (.computing role ticket epoch)) :
    (life.before (n + 1)).stage? call = none := by
  rw [Run.before_succ, loads]
  simp [step, computes]

theorem not_computed_zero : ¬ Computed life 0 ticket epoch now result := by
  rintro ⟨b, m, _, below, _⟩
  exact Nat.not_lt_zero m below

theorem computed_succ_iff :
    Computed life (n + 1) ticket epoch now result ↔
      Computed life n ticket epoch now result ∨ CompletesAt life n ticket epoch now result := by
  constructor
  · rintro ⟨b, m, earlier, below, starts, since, completes⟩
    rcases Nat.lt_succ_iff_lt_or_eq.mp below with before | rfl
    · exact .inl ⟨b, m, earlier, before, starts, since, completes⟩
    · exact .inr completes
  · rintro (⟨b, m, earlier, below, rest⟩ | completes)
    · exact ⟨b, m, earlier, Nat.lt_succ_of_lt below, rest⟩
    · obtain ⟨call, role, event, stage⟩ := id completes
      obtain ⟨b, earlier, starts, since, _⟩ := starts_of_computing life stage
      exact ⟨b, n, earlier, Nat.lt_succ_self n, starts, since, completes⟩

theorem ticket_lt_of_computed {number since moment : Nat} {other : Except E V}
    (computed : Computed life n ticket epoch now result)
    (completes : CompletesAt life n number since moment other) : ticket < number := by
  obtain ⟨b, m, earlier, below, starts, _, first⟩ := computed
  obtain ⟨call, role, event, stage⟩ := completes
  obtain ⟨latest, _, _⟩ := (counted_before life n).computing call role number since stage
  have upTo : ticket ≤ number := by
    have counted := (started_of_starts starts).2
    have grown := started_le life (show b + 1 ≤ n by omega)
    omega
  refine Nat.lt_of_le_of_ne upTo ?_
  rintro rfl
  -- Then the call that computes now would be the one whose computation has completed already.
  obtain ⟨b', _, starts', _, ⟨_, enters⟩, present⟩ := starts_of_computing life stage
  cases starts_unique starts starts'
  obtain ⟨own, ownRole, loads, found⟩ := first
  obtain ⟨b'', _, starts'', _, ⟨_, enters'⟩, _⟩ := starts_of_computing life found
  cases starts_unique starts starts''
  obtain rfl : own = call := by
    cases enters.symm.trans enters'
    rfl
  exact present (m + 1) (by omega) below (absent_of_loaded loads found)

end History

/-! ## What the history leaves in the cache -/

def held (cache : Cache V E) : Option V × Option Nat × Nat :=
  (cache.value, cache.loadedAt, cache.loadedEpoch)

/-- Of the successes before event number `n`, this has the greatest number. -/
def LatestSuccess (life : Life V E ttl) (n ticket epoch now : Nat) (value : V) : Prop :=
  Computed life n ticket epoch now (.ok value) ∧
    ∀ other since moment loaded, Computed life n other since moment (.ok loaded) → other ≤ ticket

/-- Of the computations completed before event number `n`, this has the greatest number. -/
def Latest (life : Life V E ttl) (n ticket epoch now : Nat) (result : Except E V) : Prop :=
  Computed life n ticket epoch now result ∧
    ∀ other since moment outcome, Computed life n other since moment outcome → other ≤ ticket

def told (life : Life V E ttl) : Nat → List V
  | 0 => []
  | n + 1 => told life n ++ (life.reply n).news?.toList

theorem news_iff {life : Life V E ttl} {n : Nat} {value : V} :
    (life.reply n).news? = some value ↔
      ∃ ticket epoch now, CompletesAt life n ticket epoch now (.ok value) := by
  constructor
  · intro news
    have change := change_at life n
    generalize happens : life.event n = event, life.before (n + 1) = next,
      life.reply n = reply at change news
    cases change with
    | @completed call ticket epoch now role result stage =>
        cases result with
        | ok loaded =>
            cases news
            exact ⟨ticket, epoch, now, call, role, happens, stage⟩
        | error error => cases news
    | _ => cases news
  · rintro ⟨ticket, epoch, now, call, role, event, stage⟩
    rw [Run.reply, event]
    simp only [step, stage, Reply.news?]

theorem held_of_no_success {life : Life V E ttl} {n : Nat}
    (none : ∀ ticket epoch now value, ¬ CompletesAt life n ticket epoch now (.ok value)) :
    (life.before (n + 1)).held = (life.before n).held := by
  have effect := effect_of_change (change_at life n)
  generalize happens : life.event n = event, life.reply n = reply at effect
  unfold held
  cases effect with
  | nothing alike => rw [alike.value, alike.loadedAt, alike.loadedEpoch]
  | started alike => rw [alike.value, alike.loadedAt, alike.loadedEpoch]
  | @completed call ticket epoch now role result stage alike =>
      cases result with
      | ok value => exact absurd ⟨call, role, happens, stage⟩ (none ticket epoch now value)
      | error error =>
          rw [alike.value, alike.loadedAt, alike.loadedEpoch]
          rfl
  | invalidated alike => rw [alike.value, alike.loadedAt, alike.loadedEpoch]

theorem held_of_success {life : Life V E ttl} {n ticket epoch now : Nat} {value : V}
    (completes : CompletesAt life n ticket epoch now (.ok value)) :
    (life.before (n + 1)).held = (some value, some now, epoch) := by
  have alike := alike_of_completesAt completes
  unfold held
  rw [alike.value, alike.loadedAt, alike.loadedEpoch]
  rfl

theorem held_of_history (life : Life V E ttl) (n : Nat) :
    (∀ ticket epoch now value, ¬ Computed life n ticket epoch now (.ok value)) ∧
        (life.before n).held = (none, none, 0) ∨
      ∃ ticket epoch now value, LatestSuccess life n ticket epoch now value ∧
        (life.before n).held = (some value, some now, epoch) := by
  induction n with
  | zero => exact .inl ⟨fun _ _ _ _ => not_computed_zero, rfl⟩
  | succ n ih =>
      by_cases happens : ∃ ticket epoch now value, CompletesAt life n ticket epoch now (.ok value)
      · obtain ⟨ticket, epoch, now, value, completes⟩ := happens
        refine .inr ⟨ticket, epoch, now, value, ⟨computed_succ_iff.mpr (.inr completes), ?_⟩,
          held_of_success completes⟩
        intro other since moment loaded computed
        rcases computed_succ_iff.mp computed with before | also
        · exact Nat.le_of_lt (ticket_lt_of_computed before completes)
        · exact Nat.le_of_eq (completes.unique also).1
      · have quiet : ∀ ticket epoch now value, ¬ CompletesAt life n ticket epoch now (.ok value) :=
          fun ticket epoch now value completes => happens ⟨ticket, epoch, now, value, completes⟩
        have same : ∀ {ticket epoch now value}, Computed life (n + 1) ticket epoch now (.ok value) →
            Computed life n ticket epoch now (.ok value) := by
          intro ticket epoch now value computed
          exact (computed_succ_iff.mp computed).resolve_right (quiet ticket epoch now value)
        rw [held_of_no_success quiet]
        rcases ih with ⟨none, empty⟩ | ⟨ticket, epoch, now, value, ⟨computed, greatest⟩, shown⟩
        · exact .inl ⟨fun ticket epoch now value computed =>
            none ticket epoch now value (same computed), empty⟩
        · refine .inr ⟨ticket, epoch, now, value,
            ⟨computed_succ_iff.mpr (.inl computed), ?_⟩, shown⟩
          intro other since moment loaded also
          exact greatest other since moment loaded (same also)

/-- What is held changes only when a computation succeeds, and that has a greater number than all
that have completed before. -/
theorem held_changes (life : Life V E ttl) (n : Nat) :
    (life.before (n + 1)).held = (life.before n).held ∨
      ∃ ticket epoch now value, CompletesAt life n ticket epoch now (.ok value) ∧
        (life.before (n + 1)).held = (some value, some now, epoch) ∧
        ∀ other since moment outcome, Computed life n other since moment outcome →
          other < ticket := by
  by_cases happens : ∃ ticket epoch now value, CompletesAt life n ticket epoch now (.ok value)
  · obtain ⟨ticket, epoch, now, value, completes⟩ := happens
    exact .inr ⟨ticket, epoch, now, value, completes, held_of_success completes,
      fun other since moment outcome computed => ticket_lt_of_computed computed completes⟩
  · exact .inl (held_of_no_success fun ticket epoch now value completes =>
      happens ⟨ticket, epoch, now, value, completes⟩)

theorem lastFailure_iff (life : Life V E ttl) (n : Nat) (error : E) :
    (life.before n).lastFailure = some error ↔
      ∃ ticket epoch now, Latest life n ticket epoch now (.error error) := by
  induction n with
  | zero =>
      refine iff_of_false nofun ?_
      rintro ⟨ticket, epoch, now, computed, _⟩
      exact not_computed_zero computed
  | succ n ih =>
      by_cases happens : ∃ ticket epoch now result, CompletesAt life n ticket epoch now result
      · obtain ⟨ticket, epoch, now, result, completes⟩ := happens
        have last : Latest life (n + 1) ticket epoch now result := by
          refine ⟨computed_succ_iff.mpr (.inr completes), ?_⟩
          intro other since moment outcome computed
          rcases computed_succ_iff.mp computed with before | also
          · exact Nat.le_of_lt (ticket_lt_of_computed before completes)
          · exact Nat.le_of_eq (completes.unique also).1
        have only : ∀ {number since moment outcome},
            Latest life (n + 1) number since moment outcome → outcome = result := by
          intro number since moment outcome latest
          rcases computed_succ_iff.mp latest.1 with before | also
          · have less := ticket_lt_of_computed before completes
            have most := latest.2 ticket epoch now result last.1
            omega
          · exact (completes.unique also).2.2.2
        rw [(alike_of_completesAt completes).lastFailure]
        cases result with
        | ok value =>
            refine iff_of_false nofun ?_
            rintro ⟨number, since, moment, latest⟩
            cases only latest
        | error failure =>
            constructor
            · intro same
              cases same
              exact ⟨ticket, epoch, now, last⟩
            · rintro ⟨number, since, moment, latest⟩
              cases only latest
              rfl
      · have quiet : ∀ ticket epoch now result, ¬ CompletesAt life n ticket epoch now result :=
          fun ticket epoch now result completes => happens ⟨ticket, epoch, now, result, completes⟩
        have same : ∀ {ticket epoch now result}, Computed life (n + 1) ticket epoch now result ↔
            Computed life n ticket epoch now result := by
          intro ticket epoch now result
          exact computed_succ_iff.trans (or_iff_left (quiet ticket epoch now result))
        have slot : SameSlot (life.before n) (life.before (n + 1)) := by
          apply sameSlot_of_quiet
          rintro ticket result ⟨call, role, epoch, now, event, stage⟩
          exact quiet ticket epoch now result ⟨call, role, event, stage⟩
        rw [slot.2.2.2, ih]
        simp only [Latest, same]

theorem told_of_history (life : Life V E ttl) (n : Nat) :
    ∃ successes : List (Nat × V), successes.map (·.2) = told life n ∧
      (successes.map (·.1)).Pairwise (· < ·) ∧
      ∀ ticket value, (ticket, value) ∈ successes ↔
        ∃ epoch now, Computed life n ticket epoch now (.ok value) := by
  induction n with
  | zero =>
      refine ⟨[], rfl, List.Pairwise.nil, ?_⟩
      intro ticket value
      refine iff_of_false List.not_mem_nil ?_
      rintro ⟨epoch, now, computed⟩
      exact not_computed_zero computed
  | succ n ih =>
      obtain ⟨successes, values, ordered, listed⟩ := ih
      cases news : (life.reply n).news? with
      | none =>
          refine ⟨successes, ?_, ordered, ?_⟩
          · rw [told, news, values, Option.toList_none, List.append_nil]
          · intro ticket value
            rw [listed]
            have silent : ∀ epoch now, ¬ CompletesAt life n ticket epoch now (.ok value) := by
              intro epoch now completes
              rw [news_iff.mpr ⟨ticket, epoch, now, completes⟩] at news
              cases news
            simp only [computed_succ_iff, silent, or_false]
      | some loaded =>
          obtain ⟨number, since, moment, completes⟩ := news_iff.mp news
          refine ⟨successes ++ [(number, loaded)], ?_, ?_, ?_⟩
          · rw [told, news, List.map_append, values]
            rfl
          · rw [List.map_append]
            refine List.pairwise_append.mpr ⟨ordered, List.pairwise_singleton _ _, ?_⟩
            intro earlier member last isLast
            cases List.mem_singleton.mp isLast
            obtain ⟨⟨ticket, value⟩, there, rfl⟩ := List.mem_map.mp member
            obtain ⟨epoch, now, computed⟩ := (listed ticket value).mp there
            exact ticket_lt_of_computed computed completes
          · intro ticket value
            simp only [List.mem_append, List.mem_singleton, listed, computed_succ_iff]
            constructor
            · rintro (⟨epoch, now, computed⟩ | same)
              · exact ⟨epoch, now, .inl computed⟩
              · cases same
                exact ⟨since, moment, .inr completes⟩
            · rintro ⟨epoch, now, computed | also⟩
              · exact .inl ⟨epoch, now, computed⟩
              · obtain ⟨rfl, rfl, rfl, same⟩ := completes.unique also
                cases same
                exact .inr rfl

/-! ## The slot -/

/-- What can be relied on in a cache before event number `n`, whatever has happened to it. -/
structure Reliable (life : Life V E ttl) (n : Nat) : Prop where
  single : ∀ call other, InFlight (life.before n) call → InFlight (life.before n) other →
    call = other
  completed_le : (life.before n).completed ≤ (life.before n).started
  loadedEpoch_le : (life.before n).loadedEpoch ≤ (life.before n).epoch
  held : (∀ ticket epoch now value, ¬ Computed life n ticket epoch now (.ok value)) ∧
      (life.before n).held = (none, none, 0) ∨
    ∃ ticket epoch now value, LatestSuccess life n ticket epoch now value ∧
      (life.before n).held = (some value, some now, epoch)
  changes : (life.before (n + 1)).held = (life.before n).held ∨
    ∃ ticket epoch now value, CompletesAt life n ticket epoch now (.ok value) ∧
      (life.before (n + 1)).held = (some value, some now, epoch) ∧
      ∀ other since moment outcome, Computed life n other since moment outcome → other < ticket
  lastFailure : ∀ error, (life.before n).lastFailure = some error ↔
    ∃ ticket epoch now, Latest life n ticket epoch now (.error error)
  told : ∃ successes : List (Nat × V), successes.map (·.2) = told life n ∧
    (successes.map (·.1)).Pairwise (· < ·) ∧
    ∀ ticket value, (ticket, value) ∈ successes ↔
      ∃ epoch now, Computed life n ticket epoch now (.ok value)

/-- However readers and jobs come, compute, fail and are given up, a cache can be relied on. -/
theorem reliable_before (life : Life V E ttl) (n : Nat) : Reliable life n where
  single _ _ computes also := inFlight_unique (orderly_before life n) computes also
  completed_le := (counted_before life n).completed_le
  loadedEpoch_le := (counted_before life n).loadedEpoch_le
  held := held_of_history life n
  changes := held_changes life n
  lastFailure := lastFailure_iff life n
  told := told_of_history life n

end Steward.Cache
