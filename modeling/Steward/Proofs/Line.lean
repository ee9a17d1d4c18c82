import Steward.Proofs.Run
import Steward.Turnstile
/-!
# Lines that fit the stages of the callers

A machine with a turnstile knows at which stage each of its callers is.  Some stages are those of
callers who stand in line, and some of these are those of callers who have come inside and decided
what to do.  Line and stages fit together if the line holds exactly the callers who stand in it,
each once, and a caller inside stands first.  So no two are inside at a time.

Each way in which a machine moves one caller keeps this, as long as callers enter the line once and
leave it when they are done.  Nobody is overtaken in line, and whoever leaves from inside lets the
next one in.
-/

set_option autoImplicit false

namespace Steward.Turnstile

/-- The line and the stages of the callers fit together. -/
structure Orderly {Stage : Type} (inLine inside : Stage → Bool) (gate : Turnstile)
    (stageOf : Nat → Option Stage) : Prop where
  once : gate.line.Nodup
  mem_line_iff : ∀ call, call ∈ gate.line ↔
    ∃ stage, stageOf call = some stage ∧ inLine stage = true
  first_of_inside : ∀ call stage, stageOf call = some stage → inside stage = true →
    gate.holder? = some call

theorem orderly_empty {Stage : Type} (inLine inside : Stage → Bool) :
    Orderly inLine inside empty fun _ => none := by
  refine ⟨List.nodup_nil, ?_, ?_⟩
  · intro call
    refine iff_of_false List.not_mem_nil ?_
    rintro ⟨stage, found, _⟩
    cases found
  · intro call stage found
    cases found

namespace Orderly

variable {Stage : Type} {inLine inside : Stage → Bool} {gate next : Turnstile}
  {stageOf nextStageOf : Nat → Option Stage} {call : Nat}

theorem not_mem_of_absent (orderly : Orderly inLine inside gate stageOf)
    (absent : stageOf call = none) : call ∉ gate.line := by
  intro member
  obtain ⟨stage, found, _⟩ := (orderly.mem_line_iff call).mp member
  rw [absent] at found
  cases found

theorem not_mem_of_outside (orderly : Orderly inLine inside gate stageOf) {stage : Stage}
    (found : stageOf call = some stage) (outside : inLine stage = false) : call ∉ gate.line := by
  intro member
  obtain ⟨other, also, stands⟩ := (orderly.mem_line_iff call).mp member
  rw [found] at also
  cases also
  rw [outside] at stands
  cases stands

theorem inside_unique (orderly : Orderly inLine inside gate stageOf) {other : Nat}
    {stage otherStage : Stage} (found : stageOf call = some stage) (isInside : inside stage = true)
    (otherFound : stageOf other = some otherStage) (otherInside : inside otherStage = true) :
    other = call := by
  have first := orderly.first_of_inside call stage found isInside
  have otherFirst := orderly.first_of_inside other otherStage otherFound otherInside
  exact Option.some.inj (otherFirst.symm.trans first)

theorem move (orderly : Orderly inLine inside gate stageOf) {stage : Stage} (same : next = gate)
    (stages : ∀ other, nextStageOf other = if other = call then some stage else stageOf other)
    (line : call ∈ gate.line ↔ inLine stage = true)
    (first : inside stage = true → gate.holder? = some call) :
    Orderly inLine inside next nextStageOf := by
  subst same
  refine ⟨orderly.once, ?_, ?_⟩
  · intro other
    rw [stages]
    by_cases own : other = call
    · subst own
      simpa using line
    · simpa [own] using orderly.mem_line_iff other
  · refine holds_of_moved stages ?_ fun other otherStage _ =>
      orderly.first_of_inside other otherStage
    rintro _ ⟨⟩
    exact first

theorem advance (orderly : Orderly inLine inside gate stageOf) {stage : Stage} (same : next = gate)
    (stages : ∀ other, nextStageOf other = if other = call then some stage else stageOf other)
    (first : gate.holder? = some call) (stands : inLine stage = true) :
    Orderly inLine inside next nextStageOf := by
  refine orderly.move same stages ?_ fun _ => first
  have member : call ∈ gate.line := mem_line_of_holder? first
  exact iff_of_true member stands

theorem proceed (orderly : Orderly inLine inside gate stageOf) {before stage : Stage}
    (found : stageOf call = some before) (isInside : inside before = true) (same : next = gate)
    (stages : ∀ other, nextStageOf other = if other = call then some stage else stageOf other)
    (stands : inLine stage = true) : Orderly inLine inside next nextStageOf :=
  orderly.advance same stages (orderly.first_of_inside call before found isInside) stands

theorem join (orderly : Orderly inLine inside gate stageOf) {stage : Stage}
    (grown : next = gate.enter call)
    (stages : ∀ other, nextStageOf other = if other = call then some stage else stageOf other)
    (outside : call ∉ gate.line) (stands : inLine stage = true) (waits : inside stage = false) :
    Orderly inLine inside next nextStageOf := by
  subst grown
  refine ⟨?_, ?_, ?_⟩
  · rw [line_enter]
    exact List.nodup_append.mpr ⟨orderly.once, List.nodup_singleton call, by
      intro other member last isLast same
      rw [List.mem_singleton] at isLast
      exact outside (isLast ▸ same ▸ member)⟩
  · intro other
    rw [stages, line_enter]
    by_cases own : other = call
    · subst own
      simp [stands]
    · simpa [own] using orderly.mem_line_iff other
  · refine holds_of_moved stages ?_ ?_
    · rintro _ ⟨⟩ isInside
      cases waits.symm.trans isInside
    · intro other otherStage _ found isInside
      exact holder?_enter_of_some (orderly.first_of_inside other otherStage found isInside) call

/-- A caller is done, or gives up, and leaves the line. -/
theorem quit (orderly : Orderly inLine inside gate stageOf) (left : next = gate.leave call)
    (stages : ∀ other, nextStageOf other = if other = call then none else stageOf other) :
    Orderly inLine inside next nextStageOf := by
  subst left
  refine ⟨orderly.once.erase call, ?_, ?_⟩
  · intro other
    rw [stages, line_leave, orderly.once.mem_erase_iff]
    by_cases own : other = call
    · simp [own]
    · simpa [own] using orderly.mem_line_iff other
  · refine holds_of_moved stages nofun ?_
    intro other stage differs found isInside
    exact holder?_leave_of_ne (orderly.first_of_inside other stage found isInside) differs.symm

/-- A caller who has no place in line is forgotten. -/
theorem forget (orderly : Orderly inLine inside gate stageOf) (same : next = gate)
    (stages : ∀ other, nextStageOf other = if other = call then none else stageOf other)
    (outside : call ∉ gate.line) : Orderly inLine inside next nextStageOf := by
  refine orderly.quit ?_ stages
  rw [same]
  exact congrArg Turnstile.mk (List.erase_of_not_mem outside).symm

end Orderly

def ahead (gate : Turnstile) (caller : Nat) : Nat := gate.line.idxOf caller

theorem exists_holder {gate : Turnstile} {caller : Nat} (member : caller ∈ gate.line) :
    ∃ first, gate.holder? = some first := by
  obtain ⟨line⟩ := gate
  cases line with
  | nil => cases member
  | cons first rest => exact ⟨first, rfl⟩

theorem ahead_enter {gate : Turnstile} {caller : Nat} (member : caller ∈ gate.line) (other : Nat) :
    (gate.enter other).ahead caller = gate.ahead caller :=
  List.idxOf_append_of_mem member

theorem ahead_leave_le {gate : Turnstile} {caller other : Nat} (differs : other ≠ caller) :
    (gate.leave other).ahead caller ≤ gate.ahead caller := by
  obtain ⟨line⟩ := gate
  change (line.erase other).idxOf caller ≤ line.idxOf caller
  induction line with
  | nil => exact Nat.le_refl _
  | cons first rest ih =>
      by_cases gone : first = other
      · subst gone
        rw [List.erase_cons_head, List.idxOf_cons_ne rest differs]
        exact Nat.le_succ _
      · rw [List.erase_cons_tail (by simpa using gone)]
        by_cases own : first = caller
        · subst own
          simp
        · rw [List.idxOf_cons_ne _ own, List.idxOf_cons_ne _ own]
          exact Nat.succ_le_succ ih

/-- When the one inside leaves, the place inside passes to the next in line. -/
theorem line_of_leave {gate : Turnstile} {first : Nat} (held : gate.holder? = some first) :
    gate.line = first :: (gate.leave first).line := by
  obtain ⟨line⟩ := gate
  cases line with
  | nil => cases held
  | cons head rest =>
      cases held
      change first :: rest = first :: List.erase (first :: rest) first
      rw [List.erase_cons_head]

/-- When the one inside leaves, everybody else comes one place nearer. -/
theorem ahead_leave_first {gate : Turnstile} {caller first : Nat}
    (held : gate.holder? = some first) (differs : first ≠ caller) :
    (gate.leave first).ahead caller + 1 = gate.ahead caller := by
  unfold ahead
  rw [line_of_leave held, List.idxOf_cons_ne _ differs]

end Steward.Turnstile
