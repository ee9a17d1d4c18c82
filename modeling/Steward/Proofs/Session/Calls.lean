import Steward.Proofs.Session.Story
import Steward.Proofs.Tallies
/-!
# Calls from beginning to end

Every call of the service that ends has a story, and its result is the one that the story has.  So
the operation is run at most twice, and a second time with another credential than the refused one.
The end of a call, and nothing else, is recorded, once as a count under the outcome and once as a
length.
-/

set_option autoImplicit false

namespace Steward.Desk

variable {α : Type} {window : RefreshWindow}

/-! ## Lives -/

/-- The life of a desk is an order of events that reach it. -/
abbrev Life (window : RefreshWindow) (α : Type) := Run (step (α := α)) (start window)

theorem step_at (life : Life window α) (n : Nat) :
    Step (life.before n) (life.event n) (life.before (n + 1)) (life.reply n) :=
  step_of_event (life.before n) (life.event n)

theorem seated_before (life : Life window α) (n : Nat) : Seated (life.before n) :=
  life.holds_of_kept Seated (seated_start window)
    (fun n seated => seated_of_step seated (step_at life n)) n

def Begins (life : Life window α) (number : Nat) (operation : String) (now i : Nat) : Prop :=
  life.event i = .begin number operation now ∧ life.reply i = .obtain

def Lasts (life : Life window α) (number i j : Nat) : Prop :=
  ∀ k, i < k → k ≤ j → (life.before k).call? number ≠ none

/-- What the call of this number does by the events from number `i` on and before `n`. -/
def tale (life : Life window α) (number i n : Nat) : List (Deed α) :=
  life.between (fun event reply => if event.number = number then deeds event reply else []) i n

theorem Lasts.shorter {life : Life window α} {number i j k : Nat} (lasts : Lasts life number i j)
    (le : k ≤ j) : Lasts life number i k :=
  fun n after upTo => lasts n after (Nat.le_trans upTo le)

section Tale

variable {life : Life window α} {number i n : Nat}

theorem tale_self (life : Life window α) (number i : Nat) : tale life number i i = [] :=
  life.between_self _ i

theorem tale_of_own (le : i ≤ n) (own : (life.event n).number = number) :
    tale life number i (n + 1) =
      tale life number i n ++ deeds (life.event n) (life.reply n) := by
  rw [tale, life.between_succ _ le, if_pos own]
  rfl

theorem tale_of_other (le : i ≤ n) (other : (life.event n).number ≠ number) :
    tale life number i (n + 1) = tale life number i n := by
  rw [tale, life.between_succ _ le, if_neg other, List.append_nil]
  rfl

end Tale

theorem other_of_step {desk next : Desk} {event : Event α} {reply : Reply α} {number : Nat}
    (step : Step desk event next reply) (other : event.number ≠ number) :
    next.call? number = desk.call? number ∧
      next.keeper.stage? number = desk.keeper.stage? number := by
  cases step with
  | refused => exact ⟨rfl, rfl⟩
  | begun => exact ⟨(call?_place _ _ _ _).trans (if_neg other.symm), rfl⟩
  | foreign absent change => exact ⟨rfl, Keeper.stage?_of_other change other⟩
  | went found admitted change => exact ⟨rfl, Keeper.stage?_of_other change other⟩
  | obtained found change =>
      exact ⟨(call?_place _ _ _ _).trans (if_neg other.symm),
        Keeper.stage?_of_other change other⟩
  | unobtained found change =>
      exact ⟨(call?_forget _ _ _).trans (if_neg other.symm),
        Keeper.stage?_of_other change other⟩
  | stray found change => exact ⟨rfl, Keeper.stage?_of_other change other⟩
  | rejected => exact ⟨(call?_place _ _ _ _).trans (if_neg other.symm), rfl⟩
  | settled => exact ⟨(call?_forget _ _ _).trans (if_neg other.symm), rfl⟩
  | abandoned found change =>
      exact ⟨(call?_forget _ _ _).trans (if_neg other.symm),
        Keeper.stage?_of_other change other⟩

section Course

variable {life : Life window α} {number now i j : Nat} {operation : String}

theorem call_of_begins (begins : Begins life number operation now i) :
    (life.before (i + 1)).call? number = some ⟨operation, now, .obtaining⟩ ∧
      (life.before (i + 1)).keeper.stage? number = none := by
  have step := step_at life i
  rw [begins.1, begins.2] at step
  generalize life.before (i + 1) = next at step
  cases step with
  | begun absent unknown => exact ⟨call?_place_self _ _ _, unknown⟩

theorem sofar_while_lasting (begins : Begins life number operation now i) (after : i < j)
    (lasts : Lasts life number i j) :
    ∃ stage, (life.before j).call? number = some ⟨operation, now, stage⟩ ∧
      Sofar stage ((life.before j).keeper.stage? number).isSome (tale life number i j) := by
  induction j, after using Nat.le_induction with
  | base =>
      obtain ⟨found, unknown⟩ := call_of_begins begins
      have own : (life.event i).number = number := congrArg Event.number begins.1
      refine ⟨.obtaining, found, ?_⟩
      rw [tale_of_own (Nat.le_refl i) own, tale_self, begins.1,
        begins.2, unknown]
      exact .begun
  | succ j after ih =>
      obtain ⟨stage, found, sofar⟩ := ih (lasts.shorter (Nat.le_succ j))
      have step := step_at life j
      by_cases own : (life.event j).number = number
      · have there := lasts (j + 1) (Nat.lt_succ_of_lt after) (Nat.le_refl _)
        rw [tale_of_own (Nat.le_of_lt after) own]
        subst own
        have goes := goes_of_step (seated_before life j) step found sofar
        generalize life.reply j = reply at goes ⊢
        cases goes with
        | on moved sofar _ => exact ⟨_, moved, sofar⟩
        | ended gone => exact absurd gone there
        | abandoned gone => exact absurd gone there
      · obtain ⟨same, known⟩ := other_of_step step own
        rw [same, known, tale_of_other (Nat.le_of_lt after) own]
        exact ⟨stage, found, sofar⟩

theorem story_of_finished (begins : Begins life number operation now i) (after : i < j)
    (lasts : Lasts life number i j) (own : (life.event j).number = number) {shown : String}
    {result : Except AccountError α} {samples : List Sample}
    (finishes : life.reply j = .finished shown result samples) :
    shown = operation ∧ Story (tale life number i (j + 1)) result ∧
      ∃ later, samples = Sample.remoteCall operation (Session.outcome result)
        (Moment.since later now).inSeconds := by
  obtain ⟨stage, found, sofar⟩ := sofar_while_lasting begins after lasts
  rw [tale_of_own (Nat.le_of_lt after) own]
  subst own
  have goes := goes_of_step (seated_before life j) (step_at life j) found sofar
  rw [finishes] at goes ⊢
  cases goes with
  | on moved sofar goesOn => cases goesOn
  | ended gone story => exact ⟨rfl, story, _, rfl⟩

/-- Until a call has come to its end or is given up, and with its last event too, it has run its
operation at most twice. -/
theorem atMostTwice_while_lasting (begins : Begins life number operation now i) (after : i < j)
    (lasts : Lasts life number i j) : AtMostTwice (tale life number i (j + 1)) := by
  obtain ⟨stage, found, sofar⟩ := sofar_while_lasting begins after lasts
  by_cases own : (life.event j).number = number
  · rw [tale_of_own (Nat.le_of_lt after) own]
    subst own
    have goes := goes_of_step (seated_before life j) (step_at life j) found sofar
    generalize life.reply j = reply at goes ⊢
    cases goes with
    | on moved sofar goesOn => exact atMostTwice_of_sofar sofar
    | ended gone story => exact atMostTwice_of_story story
    | abandoned gone =>
        rw [deeds_abandoned, List.append_nil]
        exact atMostTwice_of_sofar sofar
  · rw [tale_of_other (Nat.le_of_lt after) own]
    exact atMostTwice_of_sofar sofar

end Course

/-! ## What is recorded -/

def Reply.samples : Reply α → List Sample
  | .finished _ _ samples => samples
  | _ => []

def ended (life : Life window α) (n : Nat) : List (String × Except AccountError α) :=
  life.log (fun _ reply => reply.ended?) n

def recorded (life : Life window α) (n : Nat) : List Sample :=
  life.between (fun _ reply => reply.samples) 0 n

theorem samples_of_step {desk next : Desk} {event : Event α} {reply : Reply α}
    (step : Step desk event next reply) :
    (reply.ended? = none ∧ reply.samples = []) ∨
      ∃ operation result seconds, reply.ended? = some (operation, result) ∧
        reply.samples = Sample.remoteCall operation (Session.outcome result) seconds := by
  cases step with
  | unobtained => exact .inr ⟨_, _, _, rfl, rfl⟩
  | settled => exact .inr ⟨_, _, _, rfl, rfl⟩
  | _ => exact .inl ⟨rfl, rfl⟩

def isOf (operation : String) (call : String × Except AccountError α) : Bool :=
  call.1 = operation

def endsAs (operation outcome : String) (call : String × Except AccountError α) : Bool :=
  call.1 = operation ∧ Session.outcome call.2 = outcome

def callSeries (operation outcome : String) : Series :=
  ⟨"tenant_remote_calls_total", [("operation", operation), ("outcome", outcome)]⟩

def lengthSeries (operation : String) : Series :=
  ⟨"tenant_remote_call_duration_seconds", [("operation", operation)]⟩

theorem callSeries_eq_iff (operation outcome other another : String) :
    callSeries operation outcome = callSeries other another ↔
      operation = other ∧ outcome = another := by
  simp [callSeries]

theorem lengthSeries_eq_iff (operation other : String) :
    lengthSeries operation = lengthSeries other ↔ operation = other := by
  simp [lengthSeries]

theorem callSeries_ne_lengthSeries (operation outcome other : String) :
    callSeries operation outcome ≠ lengthSeries other := by
  simp [callSeries, lengthSeries]

theorem standing_remoteCall (samples : List Sample) (operation outcome : String) (seconds : Float)
    (series : Series) :
    standing (samples ++ Sample.remoteCall operation outcome seconds) series =
      standing samples series + (if callSeries operation outcome = series then 1 else 0) +
        if lengthSeries operation = series then 1 else 0 := by
  rw [show Sample.remoteCall operation outcome seconds =
      [.count (callSeries operation outcome)] ++ [.observe (lengthSeries operation) seconds] from
    rfl, ← List.append_assoc, standing_sample _ (fun _ => rfl), standing_sample _ fun _ => rfl]
  rfl

/-- Calls are counted under their operation and outcome, and each leaves one length. -/
theorem standing_recorded (life : Life window α) (n : Nat) (operation outcome : String) :
    standing (recorded life n) (callSeries operation outcome) =
        ((ended life n).countP (endsAs operation outcome)) ∧
      standing (recorded life n) (lengthSeries operation) =
        ((ended life n).countP (isOf operation)) := by
  induction n with
  | zero => exact ⟨rfl, rfl⟩
  | succ n ih =>
      rw [recorded, ended, life.between_succ _ (Nat.zero_le n), Run.log_succ, ← recorded, ← ended]
      rcases samples_of_step (step_at life n) with ⟨none, nothing⟩ |
        ⟨operation', result, seconds, ends, samples⟩
      · rw [none, nothing, List.append_nil, Option.toList_none, List.append_nil]
        exact ih
      · rw [ends, samples, standing_remoteCall, standing_remoteCall, ih.1, ih.2]
        have apart := callSeries_ne_lengthSeries
        constructor
        · simp [callSeries_eq_iff, (apart _ _ _).symm, List.countP_append, endsAs]
        · simp [lengthSeries_eq_iff, apart, List.countP_append, isOf]

end Steward.Desk
