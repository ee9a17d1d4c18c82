import Mathlib.Data.List.Basic
import Mathlib.Algebra.Order.Group.Nat
import Steward.Backoff
/-!
# Delays and series of attempts

The delay doubles with every attempt until the factor has come to its limit.  A series of attempts
ends at the first attempt that succeeds, fails for good, or is over when the budget is spent, and
its attempts begin at moments that depend on the attempts before and not on the series.  Whole
delays on a clock that shows them exactly bring every attempt into the budget; and since they
double, they use it up within few attempts.
-/

set_option autoImplicit false

namespace Steward

namespace Resolution

variable (resolution : Resolution)

theorem le_after (now : Nat) (length : Duration) :
    now * resolution.nanos + length.nanos ≤ resolution.after now length * resolution.nanos := by
  have step := resolution.positive
  have division := Nat.div_add_mod (length.nanos + (resolution.nanos - 1)) resolution.nanos
  have rest := Nat.mod_lt (length.nanos + (resolution.nanos - 1)) step
  rw [after, Nat.add_mul]
  rw [Nat.mul_comm] at division
  omega

theorem after_exact {length : Duration} (whole : resolution.nanos ∣ length.nanos) (now : Nat) :
    resolution.after now length * resolution.nanos = now * resolution.nanos + length.nanos := by
  have step := resolution.positive
  obtain ⟨steps, same⟩ := whole
  have rounded : (length.nanos + (resolution.nanos - 1)) / resolution.nanos = steps := by
    rw [same, Nat.mul_add_div step, Nat.div_eq_of_lt (by omega), Nat.add_zero]
  rw [after, rounded, Nat.add_mul, same, Nat.mul_comm steps]

theorem nanos_since (now : Nat) :
    (resolution.since now 0).nanos = min (now * resolution.nanos) Duration.ceiling := rfl

end Resolution

namespace Backoff

variable {α ε : Type} (backoff : Backoff)

/-! ## Delays -/

theorem factor_eq (attempt : Nat) : factor attempt = min (2 ^ attempt) (2 ^ 32 - 1) := by
  unfold factor largestFactor
  split
  · next early =>
      have below : 2 ^ attempt ≤ 2 ^ 31 := Nat.pow_le_pow_right (by decide) (by omega)
      change 2 ^ attempt = _
      omega
  · next late =>
      have beyond : 2 ^ 32 ≤ 2 ^ attempt := Nat.pow_le_pow_right (by decide) (by omega)
      exact (Nat.min_eq_right (by omega)).symm

theorem factor_of_lt {attempt : Nat} (early : attempt < 32) : factor attempt = 2 ^ attempt :=
  if_pos early

theorem factor_le (attempt : Nat) : factor attempt ≤ 2 ^ attempt := by
  rw [factor_eq]
  exact Nat.min_le_left _ _

/-- The count of attempts stops at its largest value, where the delay grows no more. -/
theorem factor_counted (count : Nat) : factor (min count lastAttempt) = factor count := by
  rcases Nat.le_total count lastAttempt with counted | beyond
  · rw [Nat.min_eq_left counted]
  · have late : 32 ≤ lastAttempt := by decide
    rw [Nat.min_eq_right beyond, factor, factor, if_neg (by omega), if_neg (by omega)]

theorem nanos_delay (attempt : Nat) (left : Duration) :
    (backoff.delay attempt left).nanos =
      min left.nanos (backoff.initial.nanos * factor attempt) := by
  have bounded := left.bounded
  rw [delay, Duration.nanos_shorter, Duration.nanos_times]
  omega

/-- The initial delay doubled with every attempt, without regard to any limit but the longest
duration and what is left. -/
def doubled (attempt : Nat) (left : Duration) : Nat :=
  min left.nanos (min Duration.ceiling (backoff.initial.nanos * 2 ^ attempt))

/-- The delay doubles with every attempt up to the largest factor, and so it does without that limit
for the first thirty-two attempts or if no more is left than the limit lets through; in all other
cases it is shorter. -/
theorem delay_eq_doubled_iff (attempt : Nat) (left : Duration) :
    (backoff.delay attempt left).nanos = min left.nanos
        (min Duration.ceiling (backoff.initial.nanos * min (2 ^ attempt) (2 ^ 32 - 1))) ∧
      ((backoff.delay attempt left).nanos = backoff.doubled attempt left ↔
        attempt < 32 ∨ left.nanos ≤ backoff.initial.nanos * (2 ^ 32 - 1)) ∧
      (backoff.delay attempt left).nanos ≤ backoff.doubled attempt left := by
  have bounded := left.bounded
  have nanos := backoff.nanos_delay attempt left
  have grown : backoff.initial.nanos * factor attempt ≤ backoff.initial.nanos * 2 ^ attempt :=
    Nat.mul_le_mul_left _ (factor_le attempt)
  refine ⟨?_, ?_, ?_⟩
  · rw [nanos, factor_eq]
    omega
  · rw [nanos, doubled]
    rcases Nat.lt_or_ge attempt 32 with early | late
    · rw [factor_of_lt early]
      exact iff_of_true (by omega) (.inl early)
    · have limit : factor attempt = 2 ^ 32 - 1 := if_neg (by omega)
      have more : backoff.initial.nanos * (2 ^ 32 - 1) < backoff.initial.nanos * 2 ^ attempt := by
        have beyond : 2 ^ 32 ≤ 2 ^ attempt := Nat.pow_le_pow_right (by decide) late
        exact Nat.mul_lt_mul_of_pos_left (by omega) backoff.positive
      rw [limit]
      omega
  · rw [nanos, doubled]
    omega

/-- The delay after attempt 32 is shorter by one initial delay than the doubled one. -/
theorem not_always_doubled :
    ¬ ∀ (initial budget left : Duration) (attempt : Nat), attempt < 2 ^ 32 →
      ((Backoff.of initial budget).delay attempt left).nanos =
        (Backoff.of initial budget).doubled attempt left := by
  intro always
  have doubles := always (.ofMillis 1) .longest (.ofMillis 4294967296) 32 (by decide)
  revert doubles
  decide

/-! ## When attempts begin -/

section Series

variable (resolution : Resolution) (retryable : ε → Bool) (operation : Nat → Nat × Except ε α)

/-- When attempt number `i` begins, if there is one. -/
def beginning : Nat → Nat
  | 0 => 0
  | i + 1 =>
    let ended := beginning i + (operation i).1
    resolution.after ended
      (backoff.delay i (backoff.budget.monus (resolution.since ended 0)))

/-- Attempt number `i` has failed, trying again may help, and there is some budget left. -/
def GoesOn (i : Nat) : Prop :=
  (∃ error, (operation i).2 = .error error ∧ retryable error = true) ∧
    (backoff.beginning resolution operation i + (operation i).1) * resolution.nanos <
      backoff.budget.nanos

theorem afterAttempt_of_goesOn {i : Nat}
    (goesOn : backoff.GoesOn resolution retryable operation i) :
    backoff.afterAttempt retryable (min i lastAttempt)
        (resolution.since (backoff.beginning resolution operation i + (operation i).1) 0)
        (operation i).2 =
      .retry (backoff.delay i (backoff.budget.monus
          (resolution.since (backoff.beginning resolution operation i + (operation i).1) 0)))
        (min (i + 1) lastAttempt) := by
  obtain ⟨⟨error, failed, retries⟩, early⟩ := goesOn
  have some_left : ¬ backoff.budget ≤
      resolution.since (backoff.beginning resolution operation i + (operation i).1) 0 := by
    rw [Duration.le_iff, resolution.nanos_since]
    omega
  have next : min (min i lastAttempt + 1) lastAttempt = min (i + 1) lastAttempt := by omega
  rw [failed, afterAttempt, retries, decide_eq_false some_left, delay, delay, factor_counted, next]
  rfl

theorem afterAttempt_of_not_goesOn {i : Nat}
    (stops : ¬ backoff.GoesOn resolution retryable operation i) :
    backoff.afterAttempt retryable (min i lastAttempt)
        (resolution.since (backoff.beginning resolution operation i + (operation i).1) 0)
        (operation i).2 = .stop (operation i).2 := by
  cases result : (operation i).2 with
  | ok value => rfl
  | error error =>
      refine if_pos ?_
      rw [Bool.or_eq_true, Bool.not_eq_true', decide_eq_true_eq, Duration.le_iff,
        resolution.nanos_since]
      by_contra goes
      rw [not_or, Bool.not_eq_false] at goes
      have bounded := backoff.budget.bounded
      exact stops ⟨⟨error, result, goes.1⟩, by omega⟩

/-- A series is made up of the attempts that go on and the first one that does not. -/
theorem seriesFrom_eq (count : Nat) :
    ∃ more, (∀ i < more, backoff.GoesOn resolution retryable operation (count + i)) ∧
      ¬ backoff.GoesOn resolution retryable operation (count + more) ∧
      backoff.seriesFrom resolution retryable operation
          (backoff.beginning resolution operation count) (min count lastAttempt) count =
        ⟨(List.range' count (more + 1)).map (backoff.beginning resolution operation),
          backoff.beginning resolution operation (count + more) + (operation (count + more)).1,
          (operation (count + more)).2⟩ := by
  -- What is left of the budget falls from attempt to attempt.
  induction left : backoff.left resolution (backoff.beginning resolution operation count)
    using Nat.strongRecOn generalizing count with
  | _ left ih =>
    subst left
    by_cases goesOn : backoff.GoesOn resolution retryable operation count
    · have retry := afterAttempt_of_goesOn backoff resolution retryable operation goesOn
      obtain ⟨more, go, stops, same⟩ := ih _ (left_lt_of_retry retry) (count + 1) rfl
      refine ⟨more + 1, ?_, ?_, ?_⟩
      · intro i below
        cases i with
        | zero => exact goesOn
        | succ i =>
            rw [Nat.add_comm i, ← Nat.add_assoc]
            exact go i (by omega)
      · rw [Nat.add_comm more, ← Nat.add_assoc]
        exact stops
      · have first : backoff.seriesFrom resolution retryable operation
            (backoff.beginning resolution operation count) (min count lastAttempt) count =
            (backoff.seriesFrom resolution retryable operation
              (backoff.beginning resolution operation (count + 1)) (min (count + 1) lastAttempt)
              (count + 1)).precededBy (backoff.beginning resolution operation count) := by
          rw [seriesFrom]
          split
          · next stop => cases retry.symm.trans stop
          · next again =>
              cases retry.symm.trans again
              rfl
        have all : List.range' count (more + 1 + 1) = count :: List.range' (count + 1) (more + 1) :=
          List.range'_succ
        rw [first, same, all, List.map_cons, Nat.add_comm more, ← Nat.add_assoc]
        rfl
    · have stop := afterAttempt_of_not_goesOn backoff resolution retryable operation goesOn
      refine ⟨0, fun i below => absurd below i.not_lt_zero, goesOn, ?_⟩
      rw [seriesFrom]
      split
      · next result stopped =>
          cases stop.symm.trans stopped
          rfl
      · next again => cases stop.symm.trans again

variable {backoff resolution retryable operation}

theorem nanos_left {now : Nat} (early : now * resolution.nanos < backoff.budget.nanos) :
    (backoff.budget.monus (resolution.since now 0)).nanos =
      backoff.budget.nanos - now * resolution.nanos := by
  have bounded := backoff.budget.bounded
  rw [Duration.nanos_monus, resolution.nanos_since]
  omega

/-- Nothing is lost of a delay if the clock shows the initial delay and the budget exactly. -/
theorem beginning_exact (wholeInitial : resolution.nanos ∣ backoff.initial.nanos)
    (wholeBudget : resolution.nanos ∣ backoff.budget.nanos) {i : Nat}
    (goesOn : backoff.GoesOn resolution retryable operation i) :
    backoff.beginning resolution operation (i + 1) * resolution.nanos =
      (backoff.beginning resolution operation i + (operation i).1) * resolution.nanos +
        (backoff.delay i (backoff.budget.monus
          (resolution.since (backoff.beginning resolution operation i + (operation i).1) 0))).nanos := by
  refine resolution.after_exact ?_ _
  rw [nanos_delay, nanos_left goesOn.2]
  have wholeLeft := Nat.dvd_sub wholeBudget (Nat.dvd_mul_left resolution.nanos
    (backoff.beginning resolution operation i + (operation i).1))
  rcases Nat.le_total (backoff.budget.nanos -
      (backoff.beginning resolution operation i + (operation i).1) * resolution.nanos)
    (backoff.initial.nanos * factor i) with cut | uncut
  · rw [Nat.min_eq_left cut]
    exact wholeLeft
  · rw [Nat.min_eq_right uncut]
    exact Nat.dvd_mul_right_of_dvd wholeInitial _

theorem beginning_le (wholeInitial : resolution.nanos ∣ backoff.initial.nanos)
    (wholeBudget : resolution.nanos ∣ backoff.budget.nanos) {i : Nat}
    (goOn : ∀ j < i, backoff.GoesOn resolution retryable operation j) :
    backoff.beginning resolution operation i * resolution.nanos ≤ backoff.budget.nanos := by
  cases i with
  | zero => simp [beginning]
  | succ i =>
      have goesOn := goOn i (Nat.lt_succ_self i)
      have early := goesOn.2
      rw [beginning_exact wholeInitial wholeBudget goesOn, nanos_delay, nanos_left early]
      omega

theorem two_pow_succ_sub_one (i : Nat) : 2 ^ (i + 1) - 1 = (2 ^ i - 1) + 2 ^ i := by
  have positive := Nat.two_pow_pos i
  rw [Nat.pow_succ]
  omega

/-- The delays before an attempt add up to all initial delays doubled, or the budget is spent. -/
theorem le_beginning {i : Nat} (early : i ≤ 32)
    (goOn : ∀ j < i, backoff.GoesOn resolution retryable operation j) :
    min backoff.budget.nanos (backoff.initial.nanos * (2 ^ i - 1)) ≤
      backoff.beginning resolution operation i * resolution.nanos := by
  induction i with
  | zero => simp
  | succ i ih =>
      have before := ih (by omega) fun j below => goOn j (by omega)
      have left := nanos_left (goOn i (Nat.lt_succ_self i)).2
      have waited :=
        resolution.le_after (backoff.beginning resolution operation i + (operation i).1)
        (backoff.delay i (backoff.budget.monus
          (resolution.since (backoff.beginning resolution operation i + (operation i).1) 0)))
      rw [nanos_delay, left, factor_of_lt (by omega), Nat.add_mul] at waited
      rw [two_pow_succ_sub_one, Nat.mul_add]
      change _ ≤ resolution.after _ _ * resolution.nanos
      omega

theorem le_of_goOn {m last : Nat} (early : m ≤ 32)
    (enough : backoff.budget.nanos ≤ backoff.initial.nanos * (2 ^ m - 1))
    (goOn : ∀ i < last, backoff.GoesOn resolution retryable operation i) : last ≤ m := by
  by_contra more
  rw [Nat.not_le] at more
  have spent := le_beginning early fun i below => goOn i (Nat.lt_trans below more)
  have unspent := (goOn m more).2
  rw [Nat.add_mul] at unspent
  omega

/-- Attempts that take no time are no later than the delays before them. -/
theorem beginning_le_of_instant (wholeInitial : resolution.nanos ∣ backoff.initial.nanos)
    (wholeBudget : resolution.nanos ∣ backoff.budget.nanos)
    (instant : ∀ i, (operation i).1 = 0) {i : Nat}
    (goOn : ∀ j < i, backoff.GoesOn resolution retryable operation j) :
    backoff.beginning resolution operation i * resolution.nanos ≤
      backoff.initial.nanos * (2 ^ i - 1) := by
  induction i with
  | zero => simp [beginning]
  | succ i ih =>
      have before := ih fun j below => goOn j (by omega)
      have doubles : backoff.initial.nanos * factor i ≤ backoff.initial.nanos * 2 ^ i :=
        Nat.mul_le_mul_left _ (factor_le i)
      rw [beginning_exact wholeInitial wholeBudget (goOn i (Nat.lt_succ_self i)), nanos_delay,
        instant, Nat.add_zero, two_pow_succ_sub_one, Nat.mul_add]
      omega

/-! ## Series -/

def Series.began (series : Series α ε) (i : Nat) : Nat := series.begins.getD i 0

variable (backoff resolution retryable operation) in
/-- What a series comes to whose last attempt has number `last`, counted from zero.  Between two
attempts lies the delay for what was left when the first of them had ended.  Where `m` delays use
up the budget, no more attempts than that follow the first one, and if nothing but the delays takes
time, as many do. -/
structure Spent (series : Series α ε) (last : Nat) : Prop where
  attempts : series.begins.length = last + 1
  result : series.result = (operation last).2
  ended : series.ended = series.began last + (operation last).1
  retried : ∀ i < last, ∃ error, (operation i).2 = .error error ∧ retryable error = true
  exhausted : ∀ error, (operation last).2 = .error error → retryable error = true →
    backoff.budget.nanos ≤ series.ended * resolution.nanos
  first : series.began 0 = 0
  spaced : ∀ i < last, series.began (i + 1) * resolution.nanos =
    (series.began i + (operation i).1) * resolution.nanos +
      (backoff.delay i (backoff.budget.monus
        (resolution.since (series.began i + (operation i).1) 0))).nanos
  inTime : ∀ i ≤ last, series.began i * resolution.nanos ≤ backoff.budget.nanos
  few : ∀ m ≤ 32, backoff.budget.nanos ≤ backoff.initial.nanos * (2 ^ m - 1) → last ≤ m
  all : ∀ m ≤ 32, backoff.budget.nanos ≤ backoff.initial.nanos * (2 ^ m - 1) →
    (∀ fewer < m, backoff.initial.nanos * (2 ^ fewer - 1) < backoff.budget.nanos) →
    (∀ i, (operation i).1 = 0 ∧ ∃ error, (operation i).2 = .error error ∧ retryable error = true) →
    last = m

/-- On a clock that shows the initial delay and the budget exactly, every series comes to an end:
with the first attempt that succeeds, fails for good, or is over when the budget is spent.  Every
attempt begins after exactly its delay and within the budget, and since the delays double, the
attempts are few. -/
theorem series_spends (backoff : Backoff) (resolution : Resolution) (retryable : ε → Bool)
    (operation : Nat → Nat × Except ε α)
    (wholeInitial : resolution.nanos ∣ backoff.initial.nanos)
    (wholeBudget : resolution.nanos ∣ backoff.budget.nanos) :
    ∃ last, Spent backoff resolution retryable operation
      (backoff.seriesOn resolution retryable operation) last := by
  obtain ⟨last, goOn, stops, same⟩ := seriesFrom_eq backoff resolution retryable operation 0
  simp only [Nat.zero_add] at goOn stops same
  have whole : backoff.seriesOn resolution retryable operation = _ := same
  have began : ∀ i ≤ last, (backoff.seriesOn resolution retryable operation).began i =
      backoff.beginning resolution operation i := by
    intro i within
    have short : i < last + 1 := Nat.lt_succ_of_le within
    rw [whole, Series.began, List.getD_eq_getElem?_getD, List.getElem?_map,
      List.getElem?_range' short]
    simp
  refine ⟨last, ?_⟩
  constructor
  case attempts => simp [whole]
  case result => rw [whole]
  case ended => rw [began last (Nat.le_refl last), whole]
  case retried => exact fun i below => (goOn i below).1
  case exhausted =>
    intro error failed retries
    by_contra early
    rw [whole, Nat.not_le] at early
    exact stops ⟨⟨error, failed, retries⟩, early⟩
  case first => exact began 0 (Nat.zero_le last)
  case spaced =>
    intro i below
    rw [began i (Nat.le_of_lt below), began (i + 1) below]
    exact beginning_exact wholeInitial wholeBudget (goOn i below)
  case inTime =>
    intro i within
    rw [began i within]
    exact beginning_le wholeInitial wholeBudget fun j below =>
      goOn j (Nat.lt_of_lt_of_le below within)
  case few => exact fun m early enough => le_of_goOn early enough goOn
  case all =>
    intro m early enough least failing
    have instant : ∀ i, (operation i).1 = 0 := fun i => (failing i).1
    refine Nat.le_antisymm (le_of_goOn early enough goOn) ?_
    by_contra fewer
    rw [Nat.not_le] at fewer
    have soon := beginning_le_of_instant wholeInitial wholeBudget instant goOn
    have unspent := least last fewer
    refine stops ⟨(failing last).2, ?_⟩
    rw [instant, Nat.add_zero]
    omega

def refusing (attempt : Nat) : Nat × Except String Unit := (0, .error (toString attempt))

/-- Delays of one, two and four seconds leave three seconds of ten for the delay after them. -/
theorem series_spends_tenSeconds :
    ∃ last, Spent (.of (.ofSeconds 1) (.ofSeconds 10)) .millis (fun _ => true) refusing
        ((Backoff.of (.ofSeconds 1) (.ofSeconds 10)).series (fun _ => true) refusing) last ∧
      last = 4 := by
  obtain ⟨last, spent⟩ := series_spends (.of (.ofSeconds 1) (.ofSeconds 10)) .millis
    (fun _ => true) refusing (by decide) (by decide)
  exact ⟨last, spent, spent.all 4 (by decide) (by decide) (by decide) fun i => ⟨rfl, _, rfl, rfl⟩⟩

end Series

end Backoff

end Steward
