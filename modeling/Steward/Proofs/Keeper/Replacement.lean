import Steward.Proofs.Keeper.Provenance
import Steward.Proofs.Keeper.Sharing
/-!
# Calls for a replacement

Callers whose credential was rejected ask for another one.  The first of them that comes inside
while the rejected credential is still current runs a transition for it.  If that brings a new
credential, everybody who waits for a replacement of the rejected one is given it and asks for
nothing.  If it fails, no credential is current any more, and a call for a replacement does not look
at the failure: another transition is run.  So these calls share a transition exactly if it brings a
credential.
-/

set_option autoImplicit false

namespace Steward.Keeper

variable {window : RefreshWindow}

/-- By event number `i` a call for the replacement of object number `rejected` begins. -/
def Rejects (life : Life window) (call rejected i : Nat) : Prop :=
  life.event i = .reject call rejected ∧ (life.before i).stage? call = none

theorem Rejects.begins {life : Life window} {call rejected i : Nat}
    (rejects : Rejects life call rejected i) : Begins life call i :=
  .inr ⟨⟨rejected, rejects.1⟩, rejects.2⟩

/-! ## The course of a call for a replacement -/

def Stage.Wants (rejected : Nat) : Stage → Prop
  | .arrived _ | .missed _ => False
  | .queued purpose => purpose = .replacement rejected
  | .loading forced | .restored forced | .refreshing _ forced => forced = true
  | .loggingIn | .saving _ | .installing _ | .leaving _ => True

theorem wants_of_moves {rejected : Nat} {stage after : Stage} {event : Event} {reply : Reply}
    (moves : Moves stage event reply (some after)) (wants : stage.Wants rejected) :
    after.Wants rejected := by
  cases moves with
  | refused => exact wants
  | waited => exact wants
  | missed => cases wants
  | joined => cases wants
  | asked =>
      cases wants
      exact rfl
  | refreshAtOnce =>
      cases wants
      exact rfl
  | told => exact wants
  | refreshAfterRestore => exact wants
  | _ => trivial

theorem wants_while_lasting {life : Life window} {call rejected i j : Nat} {stage : Stage}
    (rejects : Rejects life call rejected i) (after : i < j) (lasts : Lasts life call i j)
    (found : (life.before j).stage? call = some stage) : stage.Wants rejected := by
  refine holds_while_lasting (fun _ stage => stage.Wants rejected) ?_ ?_ after lasts found
  · intro stage found
    rw [Run.before_succ, rejects.1, step_reject rejects.2, stage?_place_self] at found
    cases found
    exact rfl
  · intro n stage next _ found wants nextFound
    rcases moves_or_stays (change_at life n) found nextFound with ⟨_, moves⟩ | rfl
    · exact wants_of_moves moves wants
    · exact wants

theorem inside_while_lasting {life : Life window} {call a j : Nat}
    (inside : ∃ stage, (life.before a).stage? call = some stage ∧ stage.isInside = true)
    (upTo : a ≤ j) (lasts : Lasts life call a j) :
    ∃ stage, (life.before j).stage? call = some stage ∧ stage.isInside = true := by
  induction j, upTo using Nat.le_induction with
  | base => exact inside
  | succ j upTo ih =>
      obtain ⟨stage, found, isInside⟩ := ih (lasts.shorter (Nat.le_succ j))
      obtain ⟨next, nextFound⟩ := lasts.stage (Nat.lt_succ_of_le upTo) (Nat.le_refl (j + 1))
      refine ⟨next, nextFound, ?_⟩
      rcases moves_or_stays (change_at life j) found nextFound with ⟨_, moves⟩ | rfl
      · exact isInside_of_moves moves isInside
      · exact isInside

theorem waits_until_entering {life : Life window} {call rejected i n m : Nat}
    (rejects : Rejects life call rejected i) (after : i < n) (upTo : n ≤ m)
    (lasts : Lasts life call i m) (enters : Enters life call m) :
    (life.before n).stage? call = some (.queued (.replacement rejected)) := by
  obtain ⟨stage, found⟩ := lasts.stage after upTo
  have wants := wants_while_lasting rejects after (lasts.shorter upTo) found
  cases inside : stage.isInside with
  | true =>
      -- Whoever has come inside does not come inside again.
      obtain ⟨still, stillFound, stillInside⟩ := inside_while_lasting ⟨stage, found, inside⟩ upTo
        fun k later => lasts k (Nat.lt_trans after later)
      obtain ⟨_, ⟨purpose, waits⟩, _⟩ := enters
      cases stillFound.symm.trans waits
      cases stillInside
  | false =>
      cases stage with
      | queued purpose =>
          cases wants
          exact found
      | arrived seen => cases wants
      | missed seen => cases wants
      | _ => cases inside

theorem not_opens_of_inside {life : Life window} {call other n : Nat} {stage : Stage}
    (found : (life.before n).stage? call = some stage) (inside : stage.isInside = true) :
    ¬ Opens life other n := by
  intro opens
  obtain ⟨_, _, _, waits, first, _⟩ := entrance_of_opens opens
  have ownFirst := (consistent_before life n).first_of_inside call stage found inside
  cases ownFirst.symm.trans first
  cases found.symm.trans waits
  cases inside

theorem outcome_of_wants {life : Life window} {rejected n : Nat} {stage : Stage}
    {result : Except AuthError Held}
    (found : (life.before n).stage? (life.event n).call = some stage)
    (wants : stage.Wants rejected) (completes : Completes life n result) :
    (∃ fresh, result = .ok fresh ∧ fresh.number = (life.before n).made + 1) ∨
      (∃ error, result = .error error) ∧ (life.before (n + 1)).current = none := by
  have consistent := consistent_before life n
  have change := change_at life n
  obtain ⟨grown, leaving⟩ := completes
  generalize life.event n = event, life.before (n + 1) = next, life.reply n = reply
    at change grown leaving found ⊢
  cases change with
  | sufficed before =>
      cases found.symm.trans before
      cases wants
  | kept before =>
      cases found.symm.trans before
      cases wants
  | failed before =>
      cases (stage?_place_self _ _ _).symm.trans leaving
      exact .inr ⟨⟨_, rfl⟩, (consistent.fits _ _ before).2⟩
  | installed =>
      cases (stage?_place_self _ _ _).symm.trans leaving
      exact .inl ⟨_, rfl, rfl⟩
  | _ => exact absurd grown (Nat.succ_ne_self _).symm

theorem rejected_le_made {life : Life window}
    (existing : ∀ n call rejected, life.event n = .reject call rejected →
      rejected ≤ (life.before n).made) (n : Nat) :
    ∀ call rejected, (life.before n).stage? call = some (.queued (.replacement rejected)) →
      rejected ≤ (life.before n).made := by
  induction n with
  | zero =>
      intro call rejected waits
      cases waits
  | succ n ih =>
      intro call rejected waits
      have grown := made_le life (Nat.le_succ n)
      rcases queued_of_change (change_at life n) waits with before | ⟨_, other⟩ | ⟨_, event, same⟩
      · exact Nat.le_trans (ih call rejected before) grown
      · cases other
      · cases same
        exact Nat.le_trans (existing n call rejected event) grown

theorem settles_of_new {life : Life window}
    (existing : ∀ n call rejected, life.event n = .reject call rejected →
      rejected ≤ (life.before n).made) {n : Nat} {fresh : Held}
    (new : fresh.number = (life.before n).made + 1) : Settles life n (.ok fresh) := by
  intro call rejected waits
  have upTo := rejected_le_made existing n call rejected waits
  exact ⟨fresh, rfl, by omega⟩

section Waiting

variable {life : Life window} {call rejected i n m : Nat} {fresh : Held} {error : AuthError}

/-- A new credential serves all who wait for a replacement, and nobody up to them in line runs a
transition. -/
theorem served_by_new (undropped : ∀ n call, life.event n ≠ .drop call)
    (settles : Settles life n (.ok fresh)) (completes : Completes life n (.ok fresh))
    (rejects : Rejects life call rejected i) (after : i < n) (later : n < m)
    (lasts : Lasts life call i m) (enters : Enters life call m) :
    ServedBy life call i m (.ok fresh) ∧ ∀ k other, n < k → k ≤ m → ¬ Opens life other k := by
  have waits := waits_until_entering rejects after (Nat.le_of_lt later) lasts enters
  have passing := passing_of_completes settles completes waits
  have passes : ∀ k, n < k → k ≤ m →
      Passing (life.before k) call (life.before (n + 1)).completed (.ok fresh) := by
    intro k above upTo
    exact passing_while_lasting undropped passing (Nat.lt_succ_of_lt after) above
      (lasts.shorter upTo)
  constructor
  · obtain ⟨⟨now, event⟩, ⟨purpose, queued⟩, first⟩ := enters
    have given := (passes m later (Nat.le_refl m)).known_of_first now first queued
    exact servedBy_of_given undropped rejects.begins (Nat.lt_trans after later) lasts
      ⟨now, purpose, event, queued, first, given⟩
  · intro k other above upTo opens
    obtain ⟨now, purpose, _, queued, first, unknown⟩ := entrance_of_opens opens
    exact (passes k above upTo).not_unknown first queued unknown

/-! ## After a failure -/

def Resting (keeper : Keeper) : Prop :=
  ∀ call stage, keeper.stage? call = some stage → stage.isInside = true →
    ∃ given, stage = .leaving given

theorem resting_of_change {keeper next : Keeper} {event : Event} {reply : Reply}
    (change : Change keeper event next reply) (resting : Resting keeper)
    (unopened : ∀ call now, event = .enter call now → reply ≠ .load ∧ reply.request? = none) :
    Resting next := by
  intro call stage found inside
  cases before : keeper.stage? call with
  | none =>
      rcases begins_of_change change before found with ⟨_, rfl⟩ | ⟨_, _, rfl⟩
      · cases inside
      · cases inside
  | some last =>
      rcases moves_or_stays change before found with ⟨_, moves⟩ | rfl
      · have busy : last.isInside = true → ∃ given, last = .leaving given :=
          resting call last before
        cases moves with
        | refused => exact busy inside
        | waited => cases inside
        | missed => cases inside
        | joined => cases inside
        | shared => exact ⟨_, rfl⟩
        | interrupted => exact ⟨_, rfl⟩
        | asked => exact absurd rfl (unopened _ _ rfl).1
        | refreshAtOnce => cases (unopened _ _ rfl).2
        | loginAtOnce => cases (unopened _ _ rfl).2
        | _ =>
            obtain ⟨_, impossible⟩ := busy rfl
            cases impossible
      · exact resting call stage before inside

theorem current_of_resting {keeper next : Keeper} {event : Event} {reply : Reply}
    (change : Change keeper event next reply) (resting : Resting keeper) :
    next.current = keeper.current := by
  have idle : ∀ {call stage}, keeper.stage? call = some stage → stage.isInside = true →
      (∀ given, stage ≠ .leaving given) → False := by
    intro call stage found inside busy
    obtain ⟨given, leaving⟩ := resting call stage found inside
    exact busy given leaving
  cases change with
  | restored stage => exact (idle stage rfl nofun).elim
  | discarded stage => exact (idle stage rfl nofun).elim
  | installed stage => exact (idle stage rfl nofun).elim
  | _ => rfl

theorem resting_of_completes {life : Life window} {n : Nat} {result : Except AuthError Held}
    (completes : Completes life n result) : Resting (life.before (n + 1)) := by
  intro other stage found inside
  have own := (consistent_before life (n + 1)).inside_unique completes.2 rfl found inside
  subst own
  cases completes.2.symm.trans found
  exact ⟨_, rfl⟩

/-- After a failure, another transition is run before a call that waits for a replacement has come
inside, or by that call itself. -/
theorem opens_after_failure (completes : Completes life n (.error error))
    (gone : (life.before (n + 1)).current = none) (rejects : Rejects life call rejected i)
    (after : i < n) (later : n < m) (lasts : Lasts life call i m) (enters : Enters life call m) :
    ∃ k other, n < k ∧ k ≤ m ∧ Opens life other k := by
  by_contra never
  have unopened : ∀ k, n < k → k ≤ m → ∀ other now, life.event k = .enter other now →
      life.reply k ≠ .load ∧ (life.reply k).request? = none := by
    intro k above upTo other now event
    have closed : ¬ Opens life other k := fun opens => never ⟨k, other, above, upTo, opens⟩
    refine ⟨fun load => closed ⟨⟨now, event⟩, .inl load⟩, ?_⟩
    exact Option.not_isSome_iff_eq_none.mp fun asks => closed ⟨⟨now, event⟩, .inr asks⟩
  have rests : ∀ k, n < k → k ≤ m → Resting (life.before k) ∧ (life.before k).current = none := by
    intro k above
    induction k, above using Nat.le_induction with
    | base => exact fun _ => ⟨resting_of_completes completes, gone⟩
    | succ k above ih =>
        intro upTo
        have below : k ≤ m := Nat.le_of_succ_le upTo
        obtain ⟨resting, absent⟩ := ih below
        have change := change_at life k
        exact ⟨resting_of_change change resting (unopened k above below),
          (current_of_resting change resting).trans absent⟩
  have waits := waits_until_entering rejects (Nat.lt_trans after later) (Nat.le_refl m) lasts enters
  obtain ⟨⟨now, event⟩, _, first⟩ := enters
  have absent := (rests m later (Nat.le_refl m)).2
  have unknown : (life.before m).known now (.replacement rejected) = none := by
    simp only [known, absent, Option.filter_none, Option.map_none]
  exact never ⟨m, call, later, Nat.le_refl m, opens_of_entrance event waits first unknown⟩

theorem ok_of_served {result : Except AuthError Held} (rejects : Rejects life call rejected i)
    (after : i < m) (lasts : Lasts life call i m) (enters : Enters life call m)
    (served : ServedBy life call i m result) : ∃ fresh, result = .ok fresh := by
  have waits := waits_until_entering rejects after (Nat.le_refl m) lasts enters
  rcases leaving_of_change (change_at life m) served.decided with left | given | ⟨own, grown⟩
  · cases waits.symm.trans left
  · obtain ⟨now, purpose, _, queued, _, known⟩ := given
    cases waits.symm.trans queued
    obtain ⟨fresh, same, _⟩ := known_replacement_iff.mp known
    exact ⟨fresh, same⟩
  · -- Nobody completes a transition by coming inside.
    obtain ⟨stage, found, inside⟩ := inside_of_completes ⟨grown, own ▸ served.decided⟩
    rw [own] at found
    cases waits.symm.trans found
    cases inside

end Waiting

/-! ## Sharing a transition -/

/-- The call that began with event number `i` comes inside by event number `m`, while the credential
that it rejects is still current, and completes a transition by event number `n`. -/
structure Replaces (life : Life window) (call i m n : Nat) (held : Held)
    (result : Except AuthError Held) : Prop where
  rejects : Rejects life call held.number i
  after : i < m
  enters : Enters life call m
  current : (life.before m).current = some held
  later : m < n
  lasts : Lasts life call i n
  own : (life.event n).call = call
  completes : Completes life n result

namespace Replaces

variable {life : Life window} {call i m n : Nat} {held : Held} {result : Except AuthError Held}

theorem entrance (replaces : Replaces life call i m n held result) :
    ∃ now, life.event m = .enter call now ∧
      (life.before m).stage? call = some (.queued (.replacement held.number)) ∧
      (life.before m).gate.holder? = some call ∧
      (life.before m).known now (.replacement held.number) = none := by
  have waits := waits_until_entering replaces.rejects replaces.after (Nat.le_refl m)
    (replaces.lasts.shorter (Nat.le_of_lt replaces.later)) replaces.enters
  obtain ⟨⟨now, event⟩, _, first⟩ := replaces.enters
  refine ⟨now, event, waits, first, ?_⟩
  simp only [known, replaces.current, Option.filter_some, bne_self_eq_false, Bool.false_eq_true,
    if_false, Option.map_none]

theorem opens (replaces : Replaces life call i m n held result) : Opens life call m := by
  obtain ⟨now, event, waits, first, unknown⟩ := replaces.entrance
  exact opens_of_entrance event waits first unknown

theorem refreshes (replaces : Replaces life call i m n held result) :
    life.reply m = .refresh held ∧
      (life.before (m + 1)).stage? call = some (.refreshing held true) := by
  obtain ⟨now, event, waits, first, unknown⟩ := replaces.entrance
  have restored : (life.before m).restored = true := by
    by_contra fresh
    have none_current := ((consistent_before life m).untouched (by simpa using fresh)).2
    cases replaces.current.symm.trans none_current
  have step : (life.before m).step (life.event m) = (life.before m).renew call true := by
    rw [event, step_enter_unknown waits first unknown, beginTransition, if_pos restored]
    rfl
  rw [Run.reply, Run.before_succ, step, renew, replaces.current]
  exact ⟨rfl, stage?_place_self _ _ _⟩

theorem inside (replaces : Replaces life call i m n held result) {k : Nat} (above : m < k)
    (upTo : k ≤ n) : ∃ stage, (life.before k).stage? call = some stage ∧ stage.isInside = true :=
  inside_while_lasting ⟨_, replaces.refreshes.2, rfl⟩ above
    fun j later le => replaces.lasts j (by have := replaces.after; omega) (Nat.le_trans le upTo)

theorem requests_mem (replaces : Replaces life call i m n held result) {j : Nat} (upTo : n ≤ j)
    (lasts : Lasts life call i j) :
    requests life call i (j + 1) ∈ [[.refresh], [.refresh, .login]] := by
  have later := replaces.later
  have before := replaces.after
  have waited : requests life call i m = [] := by
    obtain ⟨_, _, waits, _⟩ := replaces.entrance
    exact List.mem_singleton.mp (requests_mem_stage_words replaces.rejects.begins before
      (lasts.shorter (by omega)) waits)
  obtain ⟨_, event, _⟩ := replaces.entrance
  have begun : requests life call i (m + 1) = [.refresh] := by
    rw [requests_succ life (Nat.le_of_lt before), waited, issued, event, replaces.refreshes.1]
    simp [Event.call, Reply.request?]
  have allowed := words_of_call replaces.rejects.begins (show i ≤ j by omega) lasts
  obtain ⟨rest, whole⟩ := begun ▸ requests_prefix life call i (show m + 1 ≤ j + 1 by omega)
  rw [← whole] at allowed ⊢
  simpa [words] using allowed

end Replaces

/-- Where no call is given up and only objects that exist are rejected, consider the first call for
the replacement of a current credential that comes inside.  It runs a transition that asks for a
refresh and for at most one login after it, and returns the outcome.  Every other such call that has
come before the transition is completed is served by it exactly if it brings a credential, and
exactly then no other transition is run before that call has come inside, or by it. -/
theorem replacement_sharing (life : Life window) (undropped : ∀ n call, life.event n ≠ .drop call)
    (existing : ∀ n call rejected, life.event n = .reject call rejected →
      rejected ≤ (life.before n).made)
    {call i m n : Nat} {held : Held} {result : Except AuthError Held}
    (replaces : Replaces life call i m n held result) :
    (Opens life call m ∧
      (∀ j, n ≤ j → Lasts life call i j →
        requests life call i (j + 1) ∈ [[.refresh], [.refresh, .login]]) ∧
      (∀ j, n < j → Lasts life call i j → life.event j = .leave call →
        Returns life call j result) ∧
      (∀ j other, i < j → Lasts life call i j → Returns life call j other → other = result)) ∧
    ∀ other i' m', Rejects life other held.number i' → i' < n → n < m' →
      Lasts life other i' m' → Enters life other m' →
      (ServedBy life other i' m' result ↔ ∃ fresh, result = .ok fresh) ∧
      ((∀ k another, m < k → k ≤ m' → ¬ Opens life another k) ↔ ∃ fresh, result = .ok fresh) := by
  have begun := replaces.after
  have since : i < n + 1 := by have := replaces.later; omega
  have leaving : (life.before (n + 1)).stage? call = some (.leaving (some result)) :=
    replaces.own ▸ replaces.completes.2
  refine ⟨⟨replaces.opens, fun j upTo lasts => replaces.requests_mem upTo lasts, ?_, ?_⟩, ?_⟩
  · intro j later lasts event
    exact returns_of_leaving undropped leaving since later lasts event
  · intro j other after lasts returns
    exact only_of_leaving undropped leaving since (replaces.lasts.succ leaving) after lasts returns
  intro other i' m' rejects after later lasts enters
  obtain ⟨stage, found, _⟩ := replaces.inside replaces.later (Nat.le_refl n)
  have wants := wants_while_lasting replaces.rejects (Nat.lt_trans begun replaces.later)
    replaces.lasts found
  have whole : Completes life n result := replaces.completes
  rcases outcome_of_wants (replaces.own ▸ found) wants whole with
    ⟨fresh, rfl, new⟩ | ⟨⟨error, rfl⟩, gone⟩
  · obtain ⟨served, unopened⟩ := served_by_new undropped (settles_of_new existing new) whole rejects
      after later lasts enters
    refine ⟨iff_of_true served ⟨fresh, rfl⟩, iff_of_true ?_ ⟨fresh, rfl⟩⟩
    intro k another above upTo
    rcases Nat.lt_or_ge n k with beyond | within
    · exact unopened k another beyond upTo
    · obtain ⟨_, stageFound, inside⟩ := replaces.inside above within
      exact not_opens_of_inside stageFound inside
  · have failed : ¬ ∃ fresh, (.error error : Except AuthError Held) = .ok fresh := by
      rintro ⟨_, impossible⟩
      cases impossible
    obtain ⟨k, another, above, upTo, opens⟩ := opens_after_failure whole gone rejects after later
      lasts enters
    refine ⟨iff_of_false ?_ failed, iff_of_false ?_ failed⟩
    · exact fun served =>
        failed (ok_of_served rejects (Nat.lt_trans after later) lasts enters served)
    · exact fun unopened => unopened k another (Nat.lt_trans replaces.later above) upTo opens

/-- If credentials are rejected only after the first events, it is enough that those exist after
the first events which are rejected at all. -/
theorem existing_ofList {first others : List Event}
    (unrejected : ∀ call rejected, .reject call rejected ∉ first)
    (made : ∀ call rejected, .reject call rejected ∈ others →
      rejected ≤ ((.ofList (first ++ others) (.leave 0) : Life window).before first.length).made)
    (n call rejected : Nat)
    (event : (.ofList (first ++ others) (.leave 0) : Life window).event n = .reject call rejected) :
    rejected ≤ ((.ofList (first ++ others) (.leave 0) : Life window).before n).made := by
  rcases Nat.lt_or_ge n first.length with early | late
  · have member : (.ofList (first ++ others) (.leave 0) : Life window).event n ∈ first :=
      Run.event_ofList_left others (.leave 0) early
    exact absurd (event ▸ member) (unrejected call rejected)
  · have member : (.ofList (first ++ others) (.leave 0) : Life window).event n ∈ _ :=
      Run.event_ofList_mem (first ++ others) (.leave 0) n
    rw [event] at member
    have later : .reject call rejected ∈ others := by
      simpa [unrejected] using member
    exact Nat.le_trans (made call rejected later) (made_le _ late)

def refreshedForTwo : Life default :=
  .ofList (loggedIn ++ [.reject 2 1, .reject 3 1, .enter 2 0, .answered 2 (.ok tenMinutes) 0,
    .saved 2 (.ok ()), .install 2, .leave 2, .enter 3 0, .leave 3]) (.leave 0)

theorem replacement_sharing_refreshedForTwo :
    Replaces refreshedForTwo 2 10 12 15 ⟨1, tenMinutes⟩ (.ok ⟨2, tenMinutes⟩) ∧
      ServedBy refreshedForTwo 3 11 17 (.ok ⟨2, tenMinutes⟩) := by
  have undropped : ∀ n call, refreshedForTwo.event n ≠ .drop call := by
    intro n call drop
    have member : refreshedForTwo.event n ∈ _ := Run.event_ofList_mem _ _ n
    simp [drop, loggedIn] at member
  have existing : ∀ n call rejected, refreshedForTwo.event n = .reject call rejected →
      rejected ≤ (refreshedForTwo.before n).made := by
    refine existing_ofList (by simp [loggedIn]) ?_
    intro call rejected member
    obtain rfl : rejected = 1 := by
      simp at member
      omega
    decide +kernel
  have replaces : Replaces refreshedForTwo 2 10 12 15 ⟨1, tenMinutes⟩ (.ok ⟨2, tenMinutes⟩) :=
    ⟨⟨rfl, rfl⟩, by decide, ⟨⟨0, rfl⟩, ⟨_, rfl⟩, rfl⟩, rfl, by decide,
      lasts_of_isSome (by decide +kernel), rfl, ⟨rfl, rfl⟩⟩
  have lasts : Lasts refreshedForTwo 3 11 17 := lasts_of_isSome (by decide +kernel)
  have shares := (replacement_sharing refreshedForTwo undropped existing replaces).2 3 11 17
    ⟨rfl, rfl⟩ (by decide) (by decide) lasts ⟨⟨0, rfl⟩, ⟨_, rfl⟩, rfl⟩
  exact ⟨replaces, shares.1.mpr ⟨_, rfl⟩⟩

def refusedForTwo : Life default :=
  .ofList (loggedIn ++ [.reject 2 1, .reject 3 1, .enter 2 0,
    .answered 2 (.error (.transport "refused")) 0, .answered 2 (.error (.transport "refused")) 0,
    .leave 2, .enter 3 0]) (.leave 0)

/-- So calls for a replacement do not always share a transition. -/
theorem not_always_shared :
    ¬ ∀ (life : Life default) (call i m n : Nat) (held : Held) (result : Except AuthError Held)
      (other i' m' : Nat), (∀ n call, life.event n ≠ .drop call) →
      (∀ n call rejected, life.event n = .reject call rejected →
        rejected ≤ (life.before n).made) →
      Replaces life call i m n held result → Rejects life other held.number i' → i' < n → n < m' →
      Lasts life other i' m' → Enters life other m' → ServedBy life other i' m' result := by
  intro always
  have undropped : ∀ n call, refusedForTwo.event n ≠ .drop call := by
    intro n call drop
    have member : refusedForTwo.event n ∈ _ := Run.event_ofList_mem _ _ n
    simp [drop, loggedIn] at member
  have existing : ∀ n call rejected, refusedForTwo.event n = .reject call rejected →
      rejected ≤ (refusedForTwo.before n).made := by
    refine existing_ofList (by simp [loggedIn]) ?_
    intro call rejected member
    obtain rfl : rejected = 1 := by
      simp at member
      omega
    decide +kernel
  have replaces :
      Replaces refusedForTwo 2 10 12 14 ⟨1, tenMinutes⟩ (.error (.transport "refused")) :=
    ⟨⟨rfl, rfl⟩, by decide, ⟨⟨0, rfl⟩, ⟨_, rfl⟩, rfl⟩, rfl, by decide,
      lasts_of_isSome (by decide +kernel), rfl, ⟨rfl, rfl⟩⟩
  have rejects : Rejects refusedForTwo 3 1 11 := ⟨rfl, rfl⟩
  have lasts : Lasts refusedForTwo 3 11 16 := lasts_of_isSome (by decide +kernel)
  have enters : Enters refusedForTwo 3 16 := ⟨⟨0, rfl⟩, ⟨_, rfl⟩, rfl⟩
  have served := always refusedForTwo 2 10 12 14 _ _ 3 11 16 undropped existing replaces rejects
    (by decide) (by decide) lasts enters
  obtain ⟨fresh, impossible⟩ := ok_of_served rejects (by decide) lasts enters served
  cases impossible

end Steward.Keeper
