/-!
# Turnstiles

A turnstile lets one caller at a time through and keeps the others in line in the order in which
they came.  Whoever stands first in line is inside.  Leaving, whether from inside or from further
back, closes the gap, so the place inside always passes to the one who has waited longest.
-/

set_option autoImplicit false

namespace Steward

structure Turnstile where
  line : List Nat
  deriving DecidableEq, Inhabited

namespace Turnstile

def empty : Turnstile := ⟨[]⟩

/-- Who is inside. -/
def holder? (gate : Turnstile) : Option Nat := gate.line.head?

def enter (gate : Turnstile) (caller : Nat) : Turnstile := ⟨gate.line ++ [caller]⟩

def leave (gate : Turnstile) (caller : Nat) : Turnstile := ⟨gate.line.erase caller⟩

@[simp] theorem line_enter (gate : Turnstile) (caller : Nat) :
    (gate.enter caller).line = gate.line ++ [caller] := rfl

@[simp] theorem line_leave (gate : Turnstile) (caller : Nat) :
    (gate.leave caller).line = gate.line.erase caller := rfl

/-- Whoever comes later does not push the one inside away. -/
theorem holder?_enter_of_some {gate : Turnstile} {inside : Nat}
    (held : gate.holder? = some inside) (caller : Nat) :
    (gate.enter caller).holder? = some inside := by
  cases gate with
  | mk line =>
    cases line with
    | nil => cases held
    | cons first rest => exact held

theorem mem_line_of_holder? {gate : Turnstile} {inside : Nat}
    (held : gate.holder? = some inside) : inside ∈ gate.line :=
  List.mem_of_mem_head? held

/-- Whoever leaves from further back leaves the one inside alone. -/
theorem holder?_leave_of_ne {gate : Turnstile} {inside caller : Nat}
    (held : gate.holder? = some inside) (other : caller ≠ inside) :
    (gate.leave caller).holder? = some inside := by
  cases gate with
  | mk line =>
    cases line with
    | nil => cases held
    | cons first rest =>
      cases held
      simp [leave, holder?, other.symm]

end Turnstile

end Steward
