import Steward.Proofs.Tenant.Announced
/-!
# Notices of the account

A tenant announces two caches.  The notices of a changed balance are the changes in the sequence of
balances that were stored, and likewise for the restrictions, whatever reads, refreshes, failures
and dropped calls there are in between.
-/

set_option autoImplicit false

namespace Steward

section Part

variable {V E : Type} [DecidableEq V] {State Event Reply : Type}
  {step : State → Event → State × Reply} {start : State}

/-- The part takes those steps of which `part` reads a reply off the replies of the machine, and is
not touched by others. -/
structure IsPart (step : State → Event → State × Reply) (start : State)
    (of : State → Announced V E) (part : Reply → Option (Announced.Reply V E)) : Prop where
  fresh : ∃ ttl, of start = .new ttl
  own : ∀ state event reply, part (step state event).2 = some reply →
    ∃ own, (of state).step own = (of (step state event).1, reply)
  other : ∀ state event, part (step state event).2 = none →
    of (step state event).1 = of state

variable {of : State → Announced V E} {part : Reply → Option (Announced.Reply V E)}

/-- The values that the part has stored before event number `n`. -/
def storedBefore (part : Reply → Option (Announced.Reply V E)) (life : Run step start) (n : Nat) :
    List V :=
  life.log (fun _ reply => (part reply).bind (·.stored?)) n

/-- The changes of the part that were told before event number `n`. -/
def changesBefore (part : Reply → Option (Announced.Reply V E)) (life : Run step start) (n : Nat) :
    List (Option V × V) :=
  life.log (fun _ reply => (part reply).bind (·.change?)) n

theorem standing_before (isPart : IsPart step start of part) (life : Run step start) (n : Nat) :
    (of (life.before n)).Standing (storedBefore part life n) (changesBefore part life n) := by
  induction n with
  | zero =>
      obtain ⟨ttl, fresh⟩ := isPart.fresh
      exact fresh.symm ▸ Announced.standing_new ttl
  | succ n ih =>
      rw [storedBefore, changesBefore, Run.log_succ, Run.log_succ, ← storedBefore, ← changesBefore]
      cases found : part (life.reply n) with
      | none =>
          have same : of (life.before (n + 1)) = of (life.before n) := isPart.other _ _ found
          rw [same]
          simpa using ih
      | some reply =>
          obtain ⟨event, steps⟩ := isPart.own _ _ _ found
          exact Announced.standing_of_step ih steps

end Part

namespace Tenant

def Reply.balance? : Reply → Option (Announced.Reply Balance AccountError)
  | .balance reply => some reply
  | .restrictions _ => none

def Reply.restrictions? : Reply → Option (Announced.Reply Restrictions AccountError)
  | .balance _ => none
  | .restrictions reply => some reply

abbrev Life (balanceTtl restrictionsTtl : Option Duration) :=
  Run step (new balanceTtl restrictionsTtl)

variable {balanceTtl restrictionsTtl : Option Duration}

theorem balance_isPart :
    IsPart step (new balanceTtl restrictionsTtl) (·.balance) Reply.balance? where
  fresh := ⟨balanceTtl, rfl⟩
  own tenant event reply found := by
    cases event with
    | balance event =>
        cases found
        exact ⟨event, rfl⟩
    | restrictions => cases found
  other tenant event found := by
    cases event with
    | balance => cases found
    | restrictions => rfl

theorem restrictions_isPart :
    IsPart step (new balanceTtl restrictionsTtl) (·.restrictions) Reply.restrictions? where
  fresh := ⟨restrictionsTtl, rfl⟩
  own tenant event reply found := by
    cases event with
    | restrictions event =>
        cases found
        exact ⟨event, rfl⟩
    | balance => cases found
  other tenant event found := by
    cases event with
    | restrictions => cases found
    | balance => rfl

/-! ## What listeners hear -/

def balanceChange? : Notice → Option (Option Balance × Balance)
  | .balanceChanged previous current => some (previous, current)
  | _ => none

def newRestrictions? : Notice → Option Restrictions
  | .restrictionsChanged current => some current
  | _ => none

def notices (life : Life balanceTtl restrictionsTtl) (n : Nat) : List Notice :=
  life.log (fun _ reply => reply.notice?) n

theorem balanceChanges_eq (life : Life balanceTtl restrictionsTtl) (n : Nat) :
    (notices life n).filterMap balanceChange? = changesBefore Reply.balance? life n := by
  rw [notices, Run.log, List.filterMap_filterMap]
  refine List.filterMap_congr fun k _ => ?_
  cases life.reply k with
  | balance reply =>
      cases reply with
      | announced change => cases change <;> rfl
      | _ => rfl
  | restrictions reply =>
      cases reply with
      | announced change => cases change <;> rfl
      | _ => rfl

theorem newRestrictions_eq (life : Life balanceTtl restrictionsTtl) (n : Nat) :
    (notices life n).filterMap newRestrictions? =
      (changesBefore Reply.restrictions? life n).map (·.2) := by
  rw [notices, Run.log, List.filterMap_filterMap, changesBefore, Run.log, List.map_filterMap]
  refine List.filterMap_congr fun k _ => ?_
  cases life.reply k with
  | balance reply =>
      cases reply with
      | announced change => cases change <;> rfl
      | _ => rfl
  | restrictions reply =>
      cases reply with
      | announced change => cases change <;> rfl
      | _ => rfl

/-- What is true of the notices and the caches when event number `n` comes.  Notices of a balance
go on from each other, and their balances are those that were stored one after the other; the
cached one was announced last unless it has just been stored.  Notices of restrictions that follow
each other differ, and a computation that fails tells nothing. -/
structure Mirrored (life : Life balanceTtl restrictionsTtl) (n : Nat) : Prop where
  balances : Linked none ((notices life n).filterMap balanceChange?)
  balance : (life.before n).balance.unseen = none →
    ((notices life n).filterMap balanceChange?).getLast?.map (·.2) =
      (life.before n).cachedBalance
  restrictions : ((notices life n).filterMap newRestrictions?).IsChain (· ≠ ·)
  cachedRestrictions : (life.before n).restrictions.unseen = none →
    ((notices life n).filterMap newRestrictions?).getLast? = (life.before n).cachedRestrictions
  storedBalances : ∃ shown,
    storedBefore Reply.balance? life n = shown ++ (life.before n).balance.unseen.toList ∧
      (notices life n).filterMap balanceChange? = changesOf none shown
  storedRestrictions : ∃ shown,
    storedBefore Reply.restrictions? life n =
        shown ++ (life.before n).restrictions.unseen.toList ∧
      (notices life n).filterMap newRestrictions? = (changesOf none shown).map (·.2)
  failed : ∀ call error now,
    (life.event n = .balance (.cache (.loaded call (.error error) now)) ∨
      life.event n = .restrictions (.cache (.loaded call (.error error) now))) →
    (life.reply n).notice? = none ∧
      (life.before (n + 1)).cachedBalance = (life.before n).cachedBalance ∧
      (life.before (n + 1)).cachedRestrictions = (life.before n).cachedRestrictions

/-- Notices mirror the caches in every life of a tenant. -/
theorem notices_mirror_caches (life : Life balanceTtl restrictionsTtl) (n : Nat) :
    Mirrored life n := by
  obtain ⟨-, -, balance, shown, stored, -, told⟩ := standing_before balance_isPart life n
  obtain ⟨-, -, restrictions, shownToo, storedToo, -, toldToo⟩ :=
    standing_before restrictions_isPart life n
  rw [← balanceChanges_eq] at told
  have last := last_changesOf none shown
  have lastToo := last_changesOf none shownToo
  rw [Option.or_none, Option.or_none] at last lastToo
  refine ⟨?_, ?_, ?_, ?_, ⟨shown, stored, told⟩, ⟨shownToo, storedToo, ?_⟩, ?_⟩
  · rw [told]
    exact linked_changesOf none shown
  · intro unseen
    rw [unseen, Option.toList_none, List.append_nil] at stored
    rw [told, last, ← stored]
    exact balance.symm
  · rw [newRestrictions_eq, toldToo]
    exact apart_of_linked (linked_changesOf none shownToo)
  · intro unseen
    rw [unseen, Option.toList_none, List.append_nil] at storedToo
    rw [newRestrictions_eq, toldToo, List.getLast?_map, lastToo, ← storedToo]
    exact restrictions.symm
  · rw [newRestrictions_eq, toldToo]
  · rintro call error now (event | event)
    · have kept := (Announced.step_failed (life.before n).balance call error now).1
      rw [Run.before_succ, Run.reply, event]
      exact ⟨rfl, kept, rfl⟩
    · have kept := (Announced.step_failed (life.before n).restrictions call error now).1
      rw [Run.before_succ, Run.reply, event]
      exact ⟨rfl, rfl, kept⟩

end Tenant

end Steward
