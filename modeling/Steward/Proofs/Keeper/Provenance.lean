import Steward.Proofs.Keeper.Outcome
import Steward.Proofs.Keeper.Requests
/-!
# Where credentials come from

However calls come, are answered and are given up, a caller gets a credential that was current and
outside the refresh window at some instant of its call, or that a transition brought or kept while
the call lasted.  A credential that was let go is never handed out to a call that comes later, since
objects are numbered in the order in which they are made.
-/

set_option autoImplicit false

namespace Steward.Keeper

variable {window : RefreshWindow}

/-- Event number `n` reads the clock while `held` is current and outside the refresh window. -/
def UsableAt (life : Life window) (n : Nat) (held : Held) : Prop :=
  ∃ now, (life.event n).now? = some now ∧ (life.before n).current = some held ∧
    window.needsRefresh held.credential now = false

/-- Event number `n` completes a transition that makes a new object of what the token endpoint has
given. -/
def Installs (life : Life window) (n : Nat) (held : Held) : Prop :=
  ∃ call, life.event n = .install call ∧ Completes life n (.ok held) ∧
    held.number = (life.before n).made + 1 ∧
    ∃ k now, k < n ∧ life.event k = .answered call (.ok held.credential) now ∧
      InFlight (life.before k) call

/-- Event number `n` completes a transition that keeps `held` after a refresh that has failed for a
reason that may pass, while `held` has not expired. -/
def Keeps (life : Life window) (n : Nat) (held : Held) : Prop :=
  ∃ call error now, life.event n = .answered call (.error error) now ∧
    (life.before n).stage? call = some (.refreshing held false) ∧ Completes life n (.ok held) ∧
    (error.classification = .transient ∨ error.classification = .unavailable) ∧
    held.credential.isExpired now = false

/-- What a call that lasts from event number `i` to event number `j` may be given. -/
inductive Sourced (life : Life window) (i j : Nat) (held : Held) : Prop where
  | usable {n : Nat} (after : i < n) (upTo : n ≤ j) (usable : UsableAt life n held)
  | installed {n : Nat} (after : i < n) (before : n < j) (installs : Installs life n held)
  | kept {n : Nat} (after : i < n) (before : n < j) (keeps : Keeps life n held)

/-! ## What a transition ends with -/

def Stage.fresh? : Stage → Option Credential
  | .saving fresh | .installing fresh => some fresh
  | _ => none

/-- A call has its new credential from an answer of the token endpoint, or had it before. -/
theorem fresh_of_moves {stage after : Stage} {event : Event} {reply : Reply} {fresh : Credential}
    (moves : Moves stage event reply (some after)) (has : after.fresh? = some fresh) :
    stage.fresh? = some fresh ∨
      (∃ call now, event = .answered call (.ok fresh) now) ∧ stage.request?.isSome = true := by
  cases moves with
  | refused => exact .inl has
  | refreshed =>
      cases has
      exact .inr ⟨⟨_, _, rfl⟩, rfl⟩
  | loggedIn =>
      cases has
      exact .inr ⟨⟨_, _, rfl⟩, rfl⟩
  | saved => exact .inl has
  | _ => cases has

theorem answered_of_fresh (life : Life window) {n call : Nat} {stage : Stage} {fresh : Credential}
    (found : (life.before n).stage? call = some stage) (has : stage.fresh? = some fresh) :
    ∃ k now, k < n ∧ life.event k = .answered call (.ok fresh) now ∧
      InFlight (life.before k) call := by
  induction n generalizing stage with
  | zero => cases found
  | succ n ih =>
      have later : ∀ {last}, (life.before n).stage? call = some last → last.fresh? = some fresh →
          ∃ k now, k < n + 1 ∧ life.event k = .answered call (.ok fresh) now ∧
            InFlight (life.before k) call := by
        intro last before had
        obtain ⟨k, now, below, answered⟩ := ih before had
        exact ⟨k, now, Nat.lt_succ_of_lt below, answered⟩
      cases before : (life.before n).stage? call with
      | none =>
          rcases begins_of_change (change_at life n) before found with ⟨_, rfl⟩ | ⟨_, _, rfl⟩
          · cases has
          · cases has
      | some last =>
          rcases moves_or_stays (change_at life n) before found with ⟨own, moves⟩ | rfl
          · rcases fresh_of_moves moves has with had | ⟨⟨_, now, happens⟩, asks⟩
            · exact later before had
            · rw [happens] at own
              cases own
              exact ⟨n, now, Nat.lt_succ_self n, happens, last, before, asks⟩
          · exact later before has

theorem source_of_completes {life : Life window} {n : Nat} {held : Held}
    (completes : Completes life n (.ok held)) :
    UsableAt life n held ∨ Installs life n held ∨ Keeps life n held := by
  have sameWindow := window_before life n
  have change := change_at life n
  obtain ⟨grown, leaving⟩ := id completes
  generalize happens : life.event n = event, after : life.before (n + 1) = next,
    life.reply n = reply at change grown leaving
  cases change with
  | sufficed stage usable =>
      cases (stage?_place_self _ _ _).symm.trans leaving
      obtain ⟨current, spared⟩ := eq_of_usable usable
      rw [sameWindow] at spared
      exact .inl ⟨_, by rw [happens]; rfl, current, spared⟩
  | kept stage passing valid =>
      cases (stage?_place_self _ _ _).symm.trans leaving
      exact .inr (.inr ⟨_, _, _, happens, stage, completes, (isRetryable_iff _).mp passing, valid⟩)
  | failed stage => cases (stage?_place_self _ _ _).symm.trans leaving
  | installed stage =>
      cases (stage?_place_self _ _ _).symm.trans leaving
      exact .inr (.inl ⟨_, happens, completes, rfl, answered_of_fresh life stage rfl⟩)
  | _ => exact absurd grown (Nat.succ_ne_self _).symm

theorem sourced_of_completes {life : Life window} {i j n : Nat} {held : Held} (after : i < n)
    (before : n < j) (completes : Completes life n (.ok held)) : Sourced life i j held := by
  rcases source_of_completes completes with usable | installs | keeps
  · exact .usable after (Nat.le_of_lt before) usable
  · exact .installed after before installs
  · exact .kept after before keeps

theorem usableAt_of_usable {life : Life window} {n : Nat} {now : Instant} {held : Held}
    (read : (life.event n).now? = some now) (usable : (life.before n).usable now = some held) :
    UsableAt life n held := by
  obtain ⟨current, spared⟩ := eq_of_usable usable
  rw [window_before] at spared
  exact ⟨now, read, current, spared⟩

theorem sourced_of_returns {life : Life window} {call i j : Nat} {held : Held}
    (arrives : Arrives life call i) (after : i < j) (lasts : Lasts life call i j)
    (returns : Returns life call j (.ok held)) : Sourced life i j held := by
  rcases source_of_returns returns with ⟨now, found, event, _, usable, same⟩ | leaving
  · cases same
    exact .usable after (Nat.le_refl j) (usableAt_of_usable (by rw [event]; rfl) usable)
  · obtain ⟨m, from_i, below, given | ⟨_, completes⟩⟩ :=
      decided_of_leaving arrives after lasts leaving
    · rcases origin_of_given arrives from_i (lasts.shorter (Nat.le_of_lt below)) given with
        ⟨n, later, before, completes, _⟩ | ⟨now, found, event, usable, same⟩
      · exact sourced_of_completes later (Nat.lt_trans before below) completes
      · cases same
        exact .usable from_i (Nat.le_of_lt below) (usableAt_of_usable (by rw [event]; rfl) usable)
    · exact sourced_of_completes from_i below completes

/-! ## What was let go -/

theorem made_of_change {keeper next : Keeper} {event : Event} {reply : Reply}
    (change : Change keeper event next reply) : keeper.made ≤ next.made := by
  cases change with
  | restored => exact Nat.le_succ _
  | installed => exact Nat.le_succ _
  | _ => exact Nat.le_refl _

theorem made_le (life : Life window) {i n : Nat} (le : i ≤ n) :
    (life.before i).made ≤ (life.before n).made :=
  life.le_of_grown Keeper.made (fun n => made_of_change (change_at life n)) le

theorem current_or_new {keeper next : Keeper} {event : Event} {reply : Reply} {held : Held}
    (change : Change keeper event next reply) (current : next.current = some held) :
    keeper.current = some held ∨ held.number = keeper.made + 1 := by
  cases change with
  | restored =>
      cases current
      exact .inr rfl
  | installed =>
      cases current
      exact .inr rfl
  | discarded => cases current
  | _ => exact .inl current

theorem made_lt_number {life : Life window} {r n : Nat} {held : Held}
    (gone : (life.before r).current = none) (later : r ≤ n)
    (current : (life.before n).current = some held) : (life.before r).made < held.number := by
  induction n, later using Nat.le_induction generalizing held with
  | base => cases gone.symm.trans current
  | succ n later ih =>
      rcases current_or_new (change_at life n) current with before | fresh
      · exact ih before
      · -- A new object has a higher number than all that were made before.
        have upTo := made_le life later
        omega

theorem number_of_sourced {life : Life window} {r i j : Nat} {held : Held}
    (gone : (life.before r).current = none) (later : r ≤ i) (sourced : Sourced life i j held) :
    (life.before r).made < held.number := by
  cases sourced with
  | usable after _ usable =>
      obtain ⟨_, _, current, _⟩ := usable
      exact made_lt_number gone (by omega) current
  | installed after _ installs =>
      obtain ⟨_, _, _, fresh, _⟩ := installs
      have upTo := made_le life (Nat.le_trans later (Nat.le_of_lt after))
      omega
  | @kept n after _ keeps =>
      obtain ⟨call, _, _, _, stage, _⟩ := keeps
      exact made_lt_number gone (by omega) ((consistent_before life n).fits call _ stage).2

/-- In every life of a keeper, a caller gets a credential that was usable, was brought or was kept
while its call lasted, and never one that was let go before the call came. -/
theorem provenance (life : Life window) {call i j : Nat} {held : Held}
    (arrives : Arrives life call i) (after : i < j) (lasts : Lasts life call i j)
    (returns : Returns life call j (.ok held)) :
    Sourced life i j held ∧
      ∀ r removed, r < i → (life.before r).current = some removed →
        (life.before (r + 1)).current = none → held.number ≠ removed.number := by
  have sourced := sourced_of_returns arrives after lasts returns
  refine ⟨sourced, ?_⟩
  intro r removed earlier present gone same
  have upTo := (consistent_before life r).number_le removed present
  have beyond := number_of_sourced gone earlier sourced
  have grown := made_le life (show r ≤ r + 1 from Nat.le_succ r)
  omega

def replacedOnce : Life default :=
  .ofList [.arrive 1, .look 1 0, .join 1, .enter 1 0, .loaded 1 (.ok none), .resume 1 0,
    .answered 1 (.ok tenMinutes) 0, .saved 1 (.ok ()), .install 1, .leave 1, .reject 2 1,
    .enter 2 0, .answered 2 (.error (.transport "refused")) 0, .answered 2 (.ok tenMinutes) 0,
    .saved 2 (.ok ()), .install 2, .leave 2, .arrive 3, .look 3 0] (.leave 0)

theorem provenance_replacedOnce :
    Sourced replacedOnce 17 18 ⟨2, tenMinutes⟩ ∧
      (replacedOnce.before 12).current = some ⟨1, tenMinutes⟩ ∧ (2 : Nat) ≠ 1 := by
  have arrives : Arrives replacedOnce 3 17 := ⟨rfl, rfl⟩
  have lasts : Lasts replacedOnce 3 17 18 := lasts_of_isSome (by decide +kernel)
  have returns : Returns replacedOnce 3 18 (.ok ⟨2, tenMinutes⟩) := ⟨rfl, rfl⟩
  have present : (replacedOnce.before 12).current = some ⟨1, tenMinutes⟩ := rfl
  obtain ⟨sourced, differs⟩ := provenance replacedOnce arrives (by decide) lasts returns
  exact ⟨sourced, present, differs 12 ⟨1, tenMinutes⟩ (by decide) present rfl⟩

end Steward.Keeper
