/-!
# Permits

A fixed number of permits is handed out in the order of asking.  The callers who asked stand in
one line: as many from the front as there are permits hold one, the others wait.  Giving a permit
back, or giving up waiting, closes the gap.  Once closed, no one obtains a permit any more, not
even a caller to whom one has just passed.
-/

set_option autoImplicit false

namespace Steward

structure Permits where
  size : Nat
  line : List Nat
  closed : Bool
  deriving DecidableEq, Inhabited

namespace Permits

/-- So many permits, but at least one. -/
def new (size : Nat) : Permits := ⟨max size 1, [], false⟩

def ask (permits : Permits) (caller : Nat) : Permits :=
  { permits with line := permits.line ++ [caller] }

def leave (permits : Permits) (caller : Nat) : Permits :=
  { permits with line := permits.line.erase caller }

def close (permits : Permits) : Permits := { permits with closed := true }

/-- Those who hold a permit, or are next to pick one up. -/
def holders (permits : Permits) : List Nat := permits.line.take permits.size

def idle (permits : Permits) : Nat := permits.size - permits.line.length

theorem length_holders_add_idle (permits : Permits) :
    permits.holders.length + permits.idle = permits.size := by
  simp only [holders, idle, List.length_take]
  omega

theorem mem_line_of_mem_holders {permits : Permits} {caller : Nat}
    (holds : caller ∈ permits.holders) : caller ∈ permits.line :=
  List.mem_of_mem_take holds

theorem mem_holders_ask {permits : Permits} {caller other : Nat}
    (holds : other ∈ permits.holders) : other ∈ (permits.ask caller).holders := by
  simp only [holders, ask, List.take_append]
  exact List.mem_append_left _ holds

/-- Those in front of the caller keep their place, and those behind move up. -/
theorem mem_take_erase {line : List Nat} {caller other size : Nat} (apart : other ≠ caller)
    (holds : other ∈ line.take size) : other ∈ (line.erase caller).take size := by
  induction line generalizing size with
  | nil => exact holds
  | cons first rest ih =>
      cases size with
      | zero => cases holds
      | succ size =>
          rw [List.take_succ_cons, List.mem_cons] at holds
          by_cases own : first = caller
          · subst own
            have behind : other ∈ rest.take size := holds.resolve_left apart
            rw [List.erase_cons_head]
            exact List.take_subset_take_left rest (Nat.le_succ size) behind
          · rw [List.erase_cons_tail (by simpa using own), List.take_succ_cons, List.mem_cons]
            exact holds.imp_right ih

theorem mem_holders_leave {permits : Permits} {caller other : Nat} (apart : other ≠ caller)
    (holds : other ∈ permits.holders) : other ∈ (permits.leave caller).holders :=
  mem_take_erase apart holds

end Permits

end Steward
