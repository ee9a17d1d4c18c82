import Steward.Duration
/-!
# Moments

A moment is a reading of a clock that only goes forward, as a number of steps of the clock.  Clocks
differ in how long a step is.  Where no clock is named, a step is a millisecond.
-/

set_option autoImplicit false

namespace Steward

/-- How many nanoseconds a clock takes from one reading to the next. -/
structure Resolution where
  nanos : Nat
  positive : 0 < nanos

namespace Resolution

def millis : Resolution := ⟨1000000, by decide⟩

/-- The first reading that is not too early, when so much time is to pass. -/
def after (resolution : Resolution) (now : Nat) (length : Duration) : Nat :=
  now + (length.nanos + (resolution.nanos - 1)) / resolution.nanos

def since (resolution : Resolution) (now start : Nat) : Duration :=
  .clamped ((now - start) * resolution.nanos)

theorem lt_after (resolution : Resolution) {now : Nat} {length : Duration}
    (positive : 0 < length.nanos) : now < resolution.after now length := by
  have step := resolution.positive
  have some_steps : 0 < (length.nanos + (resolution.nanos - 1)) / resolution.nanos :=
    Nat.div_pos (by omega) step
  unfold after
  omega

end Resolution

namespace Moment

def after (now : Nat) (length : Duration) : Nat := Resolution.millis.after now length

def since (now start : Nat) : Duration := Resolution.millis.since now start

end Moment

end Steward
