import Steward.Moment
/-!
# Retrying with growing delays

The delay after attempt `n` is the initial delay doubled `n` times, cut to what is left of the
time budget.  An attempt that fails for good, or that ends when the budget is spent, is the last.
-/

set_option autoImplicit false

namespace Steward

/-- The initial delay is not zero, so that every delay brings the end of the budget nearer. -/
structure Backoff where
  initial : Duration
  budget : Duration
  positive : 0 < initial.nanos
  deriving DecidableEq

namespace Backoff

def of (initial budget : Duration) : Backoff where
  initial := Duration.longer initial (.ofMillis 1)
  budget := budget
  positive := by
    rw [Duration.nanos_longer]
    exact Nat.lt_of_lt_of_le (by decide) (Nat.le_max_right _ _)

def largestFactor : Nat := 4294967295

/-- How often the initial delay is taken after attempt `attempt`. -/
def factor (attempt : Nat) : Nat := if attempt < 32 then Nat.pow 2 attempt else largestFactor

def delay (backoff : Backoff) (attempt : Nat) (left : Duration) : Duration :=
  Duration.shorter (backoff.initial.times (factor attempt)) left

def lastAttempt : Nat := 4294967295

inductive Next (α ε : Type) where
  | stop (result : Except ε α)
  | retry (after : Duration) (attempt : Nat)

/-- What follows attempt number `attempt`, which ended with `result` when `elapsed` had passed
since the first attempt began. -/
def afterAttempt {α ε : Type} (backoff : Backoff) (retryable : ε → Bool) (attempt : Nat)
    (elapsed : Duration) : Except ε α → Next α ε
  | .ok value => .stop (.ok value)
  | .error error =>
    if !retryable error || backoff.budget ≤ elapsed then .stop (.error error)
    else
      .retry (backoff.delay attempt (backoff.budget.monus elapsed))
        (min (attempt + 1) lastAttempt)

theorem factor_pos (attempt : Nat) : 0 < factor attempt := by
  unfold factor
  split
  · exact Nat.two_pow_pos attempt
  · decide

theorem delay_pos (backoff : Backoff) (attempt : Nat) {left : Duration} (some : 0 < left.nanos) :
    0 < (backoff.delay attempt left).nanos := by
  have positive := Nat.mul_pos backoff.positive (factor_pos attempt)
  have ceiling : 0 < Duration.ceiling := by decide
  simp only [delay, Duration.nanos_shorter, Duration.nanos_times]
  omega

/-- A retry is made only with some budget left, and begins later than the attempt before has ended.
-/
theorem lt_after_of_retry {α ε : Type} {backoff : Backoff} {retryable : ε → Bool}
    {attempt next : Nat} {elapsed : Duration} {result : Except ε α} {wait : Duration}
    (retry : backoff.afterAttempt retryable attempt elapsed result = .retry wait next)
    (resolution : Resolution) (now : Nat) :
    elapsed.nanos < backoff.budget.nanos ∧ now < resolution.after now wait := by
  cases result with
  | ok value => cases retry
  | error error =>
    simp only [afterAttempt] at retry
    split at retry
    · cases retry
    · rename_i more
      simp only [Bool.or_eq_true, Bool.not_eq_true', decide_eq_true_eq, not_or,
        Duration.le_iff] at more
      have left : 0 < (backoff.budget.monus elapsed).nanos := by
        rw [Duration.nanos_monus]
        omega
      cases retry
      exact ⟨by omega, resolution.lt_after (backoff.delay_pos attempt left)⟩

def left (backoff : Backoff) (resolution : Resolution) (now : Nat) : Nat :=
  backoff.budget.nanos - now * resolution.nanos

theorem left_lt_of_retry {α ε : Type} {backoff : Backoff} {retryable : ε → Bool}
    {resolution : Resolution} {attempt next now taken : Nat} {result : Except ε α}
    {wait : Duration}
    (retry : backoff.afterAttempt retryable attempt (resolution.since (now + taken) 0) result
      = .retry wait next) :
    backoff.left resolution (resolution.after (now + taken) wait)
      < backoff.left resolution now := by
  obtain ⟨early, later⟩ := lt_after_of_retry retry resolution (now + taken)
  have bounded := backoff.budget.bounded
  rw [Resolution.since, Duration.nanos_clamped, Nat.sub_zero] at early
  have earlier : now * resolution.nanos ≤ (now + taken) * resolution.nanos :=
    Nat.mul_le_mul_right _ (Nat.le_add_right now taken)
  have grown : (now + taken) * resolution.nanos <
      resolution.after (now + taken) wait * resolution.nanos :=
    Nat.mul_lt_mul_of_pos_right later resolution.positive
  unfold left
  omega

structure Series (α ε : Type) where
  begins : List Nat
  ended : Nat
  result : Except ε α

def Series.precededBy {α ε : Type} (series : Series α ε) (moment : Nat) : Series α ε :=
  { series with begins := moment :: series.begins }

/-- Makes attempts from `now` on.  An operation tells, for the number of the attempt, counted from
zero, how many steps of the clock it takes and how it ends. -/
def seriesFrom {α ε : Type} (backoff : Backoff) (resolution : Resolution) (retryable : ε → Bool)
    (operation : Nat → Nat × Except ε α) (now : Nat) (attempt count : Nat) : Series α ε :=
  match h : backoff.afterAttempt retryable attempt
      (resolution.since (now + (operation count).1) 0) (operation count).2 with
  | .stop result => ⟨[now], now + (operation count).1, result⟩
  | .retry wait next =>
    (seriesFrom backoff resolution retryable operation
      (resolution.after (now + (operation count).1) wait) next (count + 1)).precededBy now
termination_by backoff.left resolution now
decreasing_by exact left_lt_of_retry h

def seriesOn {α ε : Type} (backoff : Backoff) (resolution : Resolution) (retryable : ε → Bool)
    (operation : Nat → Nat × Except ε α) : Series α ε :=
  backoff.seriesFrom resolution retryable operation 0 0 0

def series {α ε : Type} (backoff : Backoff) (retryable : ε → Bool)
    (operation : Nat → Nat × Except ε α) : Series α ε :=
  backoff.seriesOn .millis retryable operation

end Backoff

end Steward
