/-!
# Lengths of time

A duration counts nanoseconds and never exceeds the longest one that seconds in sixty-four bits
and a fraction below a second can express.  Every operation saturates at that ceiling and at zero.
-/

set_option autoImplicit false

namespace Steward

def Duration.ceiling : Nat := 18446744073709551615999999999

structure Duration where
  nanos : Nat
  bounded : nanos ≤ Duration.ceiling
  deriving DecidableEq

namespace Duration

/-- The duration of `nanos` nanoseconds, or the longest one if there is none that long. -/
def clamped (nanos : Nat) : Duration :=
  ⟨min nanos ceiling, Nat.min_le_right _ _⟩

def zero : Duration := clamped 0

def longest : Duration := clamped ceiling

def ofSeconds (seconds : Nat) : Duration := clamped (seconds * 1000000000)

def ofMillis (millis : Nat) : Duration := clamped (millis * 1000000)

def ofParts (seconds nanos : Nat) : Duration := clamped (seconds * 1000000000 + nanos)

def seconds (duration : Duration) : Nat := duration.nanos / 1000000000

def fraction (duration : Duration) : Nat := duration.nanos % 1000000000

def millis (duration : Duration) : Nat := duration.nanos / 1000000

/-- What is left of `a` after `b`, nothing if `b` is the longer. -/
def monus (a b : Duration) : Duration := clamped (a.nanos - b.nanos)

def shorter (a b : Duration) : Duration := if b.nanos < a.nanos then b else a

def longer (a b : Duration) : Duration := if a.nanos < b.nanos then b else a

def times (duration : Duration) (factor : Nat) : Duration := clamped (duration.nanos * factor)

instance : LT Duration := ⟨fun a b => a.nanos < b.nanos⟩

instance : LE Duration := ⟨fun a b => a.nanos ≤ b.nanos⟩

instance (a b : Duration) : Decidable (a < b) := inferInstanceAs (Decidable (a.nanos < b.nanos))

instance (a b : Duration) : Decidable (a ≤ b) := inferInstanceAs (Decidable (a.nanos ≤ b.nanos))

instance : Inhabited Duration := ⟨zero⟩

@[simp] theorem nanos_clamped (nanos : Nat) : (clamped nanos).nanos = min nanos ceiling := rfl

@[simp] theorem nanos_shorter (a b : Duration) : (shorter a b).nanos = min a.nanos b.nanos := by
  unfold shorter
  split <;> omega

@[simp] theorem nanos_longer (a b : Duration) : (longer a b).nanos = max a.nanos b.nanos := by
  unfold longer
  split <;> omega

@[simp] theorem nanos_monus (a b : Duration) : (monus a b).nanos = a.nanos - b.nanos := by
  have := a.bounded
  simp only [monus, nanos_clamped]
  omega

@[simp] theorem nanos_times (duration : Duration) (factor : Nat) :
    (duration.times factor).nanos = min (duration.nanos * factor) ceiling := rfl

theorem lt_iff {a b : Duration} : a < b ↔ a.nanos < b.nanos := Iff.rfl

theorem le_iff {a b : Duration} : a ≤ b ↔ a.nanos ≤ b.nanos := Iff.rfl

end Duration

end Steward
