import Steward.Proofs.Keeper.Consistent
import Steward.Proofs.Keeper.Course
/-!
# Lives of keepers

The life of a keeper is an order of events that reach it.  Calls come and go in it: a call begins by
an event that finds it absent, and lasts as long as the keeper knows a stage of it.  The same number
may be used for a later call.
-/

set_option autoImplicit false

namespace Steward.Keeper

abbrev Life (window : RefreshWindow) := Run Keeper.step (Keeper.new window)

variable {window : RefreshWindow}

theorem change_at (life : Life window) (n : Nat) :
    Change (life.before n) (life.event n) (life.before (n + 1)) (life.reply n) :=
  change_step (life.before n) (life.event n)

/-- Every keeper that can be reached is consistent. -/
theorem consistent_before (life : Life window) (n : Nat) : Consistent (life.before n) :=
  life.holds_of_kept Consistent (consistent_new window)
    (fun n consistent => consistent_change consistent (change_at life n)) n

theorem window_of_change {keeper next : Keeper} {event : Event} {reply : Reply}
    (change : Change keeper event next reply) : next.window = keeper.window := by
  cases change <;> rfl

theorem window_before (life : Life window) (n : Nat) : (life.before n).window = window :=
  life.holds_of_kept (fun keeper => keeper.window = window) rfl
    (fun n same => (window_of_change (change_at life n)).trans same) n

def tenMinutes : Credential := .issue "access" "refresh" "full" 0 (.ofSeconds 600)

def loggedIn : List Event :=
  [.arrive 1, .look 1 0, .join 1, .enter 1 0, .loaded 1 (.ok none), .resume 1 0,
    .answered 1 (.ok tenMinutes) 0, .saved 1 (.ok ()), .install 1, .leave 1]

/-! ## Calls -/

def Arrives (life : Life window) (call i : Nat) : Prop :=
  life.event i = .arrive call ∧ (life.before i).stage? call = none

def Begins (life : Life window) (call i : Nat) : Prop :=
  Arrives life call i ∨
    (∃ rejected, life.event i = .reject call rejected) ∧ (life.before i).stage? call = none

/-- The call that began with event number `i` has not ended when event number `j` comes. -/
def Lasts (life : Life window) (call i j : Nat) : Prop :=
  ∀ k, i < k → k ≤ j → (life.before k).stage? call ≠ none

/-- By event number `j` the caller gets `result`. -/
def Returns (life : Life window) (call j : Nat) (result : Except AuthError Held) : Prop :=
  (life.event j).call = call ∧ life.reply j = .finished result

theorem Lasts.shorter {life : Life window} {call i j k : Nat} (lasts : Lasts life call i j)
    (le : k ≤ j) : Lasts life call i k :=
  fun n after upTo => lasts n after (Nat.le_trans upTo le)

theorem Lasts.succ {life : Life window} {call i j : Nat} {stage : Stage}
    (lasts : Lasts life call i j) (found : (life.before (j + 1)).stage? call = some stage) :
    Lasts life call i (j + 1) := by
  intro n after upTo
  rcases Nat.lt_or_eq_of_le upTo with below | rfl
  · exact lasts n after (Nat.le_of_lt_succ below)
  · exact Option.ne_none_iff_exists'.mpr ⟨stage, found⟩

theorem lasts_of_isSome {life : Life window} {call i j : Nat}
    (there : ∀ k < j + 1, i < k → ((life.before k).stage? call).isSome = true) :
    Lasts life call i j := by
  intro k after upTo absent
  have present := there k (Nat.lt_succ_of_le upTo) after
  rw [absent] at present
  cases present

theorem Lasts.stage {life : Life window} {call i j : Nat} (lasts : Lasts life call i j)
    {n : Nat} (after : i < n) (upTo : n ≤ j) : ∃ stage, (life.before n).stage? call = some stage :=
  Option.ne_none_iff_exists'.mp (lasts n after upTo)

/-- What is true of a call when it begins, and kept while it lasts, is true of it to its end. -/
theorem holds_while_lasting {life : Life window} {call i : Nat} (Holds : Nat → Stage → Prop)
    (atStart : ∀ stage, (life.before (i + 1)).stage? call = some stage → Holds (i + 1) stage)
    (kept : ∀ n stage next, i < n → (life.before n).stage? call = some stage → Holds n stage →
      (life.before (n + 1)).stage? call = some next → Holds (n + 1) next)
    {j : Nat} (after : i < j) (lasts : Lasts life call i j) {stage : Stage}
    (found : (life.before j).stage? call = some stage) : Holds j stage := by
  induction j generalizing stage with
  | zero => omega
  | succ j ih =>
      rcases Nat.lt_succ_iff_lt_or_eq.mp after with earlier | rfl
      · obtain ⟨last, lastFound⟩ := lasts.stage earlier (Nat.le_succ j)
        have lastHolds := ih earlier (lasts.shorter (Nat.le_succ j)) lastFound
        exact kept j last stage earlier lastFound lastHolds found
      · exact atStart stage found

end Steward.Keeper
