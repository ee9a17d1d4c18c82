import Mathlib.Data.List.Nodup
import Mathlib.Data.Nat.Init
import Mathlib.Order.Monotone.Basic
/-!
# Runs

A machine takes one step for each event and gives a reply.  A run is an order of events for it.  An
order never ends, since what happens in a finite order happens in the beginning of an endless one.
A property that holds at the start and that every step keeps holds all the time.

Machines keep the calls that have not ended in a list of pairs, where `place` and `forget` of both
machines come down to the two equations for look-ups below.  A vault keeps its credentials, and a
tree its files, in the same way.
-/

set_option autoImplicit false

namespace Steward

/-- An order of events for a machine that starts in `start`. -/
structure Run {State Event Reply : Type} (step : State → Event → State × Reply)
    (start : State) where
  event : Nat → Event

namespace Run

variable {State Event Reply : Type} {step : State → Event → State × Reply} {start : State}

/-- The state in which event number `n` finds the machine. -/
def before (run : Run step start) : Nat → State
  | 0 => start
  | n + 1 => (step (run.before n) (run.event n)).1

def reply (run : Run step start) (n : Nat) : Reply := (step (run.before n) (run.event n)).2

theorem before_succ (run : Run step start) (n : Nat) :
    run.before (n + 1) = (step (run.before n) (run.event n)).1 := rfl

theorem holds_of_kept (run : Run step start) (Holds : State → Prop) (atStart : Holds start)
    (kept : ∀ n, Holds (run.before n) → Holds (run.before (n + 1))) (n : Nat) :
    Holds (run.before n) := by
  induction n with
  | zero => exact atStart
  | succ n ih => exact kept n ih

/-- What holds at some moment and did not at the start has begun to hold by an event before. -/
theorem exists_beginning (run : Run step start) (Holds : State → Prop) (atStart : ¬ Holds start)
    {n : Nat} (holds : Holds (run.before n)) :
    ∃ k < n, ¬ Holds (run.before k) ∧ Holds (run.before (k + 1)) := by
  induction n with
  | zero => exact absurd holds atStart
  | succ n ih =>
      by_cases earlier : Holds (run.before n)
      · obtain ⟨k, before, begins⟩ := ih earlier
        exact ⟨k, Nat.lt_succ_of_lt before, begins⟩
      · exact ⟨n, Nat.lt_succ_self n, earlier, holds⟩

/-- The run in which the events of a list happen one after the other, and then always the same. -/
def ofList (events : List Event) (rest : Event) : Run step start := ⟨fun n => events.getD n rest⟩

theorem event_ofList_mem (events : List Event) (rest : Event) (n : Nat) :
    (ofList events rest : Run step start).event n ∈ rest :: events := by
  change events.getD n rest ∈ rest :: events
  rw [List.getD_eq_getElem?_getD]
  cases found : events[n]? with
  | none => exact List.mem_cons_self
  | some event => exact List.mem_cons_of_mem rest (List.mem_of_getElem? found)

theorem event_ofList_left {first : List Event} (others : List Event) (rest : Event) {n : Nat}
    (early : n < first.length) :
    (ofList (first ++ others) rest : Run step start).event n ∈ first := by
  change (first ++ others).getD n rest ∈ first
  rw [List.getD_eq_getElem?_getD, List.getElem?_append_left early, List.getElem?_eq_getElem early]
  exact List.getElem_mem early

theorem event_ofList_rest {events : List Event} (rest : Event) {n : Nat}
    (beyond : events.length ≤ n) : (ofList events rest : Run step start).event n = rest := by
  change events.getD n rest = rest
  rw [List.getD_eq_getElem?_getD, List.getElem?_eq_none beyond]
  rfl

theorem le_of_grown (run : Run step start) (count : State → Nat)
    (grown : ∀ n, count (run.before n) ≤ count (run.before (n + 1))) {i n : Nat} (le : i ≤ n) :
    count (run.before i) ≤ count (run.before n) :=
  monotone_nat_of_le_succ (f := fun n => count (run.before n)) grown le

def log {β : Type} (read : Event → Reply → Option β) (run : Run step start) (n : Nat) : List β :=
  (List.range n).filterMap fun k => read (run.event k) (run.reply k)

theorem log_succ {β : Type} (read : Event → Reply → Option β) (run : Run step start) (n : Nat) :
    run.log read (n + 1) = run.log read n ++ (read (run.event n) (run.reply n)).toList := by
  rw [log, List.range_succ, List.filterMap_append, ← log]
  cases found : read (run.event n) (run.reply n) <;> simp [found]

/-- What is read off the events from number `i` on and before number `n`, with their replies. -/
def between {β : Type} (read : Event → Reply → List β) (run : Run step start) (i : Nat) :
    Nat → List β
  | 0 => []
  | n + 1 => run.between read i n ++ if i ≤ n then read (run.event n) (run.reply n) else []

theorem between_self {β : Type} (read : Event → Reply → List β) (run : Run step start) (i : Nat) :
    run.between read i i = [] := by
  have early : ∀ n, n ≤ i → run.between read i n = [] := by
    intro n
    induction n with
    | zero => intro _; rfl
    | succ n ih =>
        intro le
        have beyond : ¬ i ≤ n := by omega
        rw [between, ih (by omega), if_neg beyond]
        rfl
  exact early i (Nat.le_refl i)

theorem between_succ {β : Type} (read : Event → Reply → List β) (run : Run step start) {i n : Nat}
    (le : i ≤ n) :
    run.between read i (n + 1) = run.between read i n ++ read (run.event n) (run.reply n) := by
  rw [between, if_pos le]

end Run

/-- What has happened before a given moment has a latest occurrence before it. -/
theorem exists_latest (Happens : Nat → Prop) {n limit : Nat} (happens : Happens n)
    (early : n < limit) :
    ∃ m, n ≤ m ∧ m < limit ∧ Happens m ∧ ∀ k, m < k → k < limit → ¬ Happens k := by
  induction limit with
  | zero => omega
  | succ limit ih =>
      by_cases last : Happens limit
      · exact ⟨limit, by omega, by omega, last, fun k above below => by omega⟩
      · have earlier : n < limit := by
          rcases Nat.lt_succ_iff_lt_or_eq.mp early with earlier | rfl
          · exact earlier
          · exact absurd happens last
        obtain ⟨m, from_n, below, found, none⟩ := ih earlier
        refine ⟨m, from_n, by omega, found, ?_⟩
        intro k above upTo
        rcases Nat.lt_succ_iff_lt_or_eq.mp upTo with before | rfl
        · exact none k above before
        · exact last

section Calls

variable {Key Stage : Type}

def Keyed (calls : List (Key × Stage)) : Prop := (calls.map (·.1)).Nodup

/-- What is true of the call that has moved, and of all others where they stood, is true of every
call. -/
theorem holds_of_moved {Holds : Nat → Stage → Prop} {stageOf nextStageOf : Nat → Option Stage}
    {call : Nat} {after : Option Stage}
    (stages : ∀ other, nextStageOf other = if other = call then after else stageOf other)
    (own : ∀ stage, after = some stage → Holds call stage)
    (others : ∀ other stage, other ≠ call → stageOf other = some stage → Holds other stage)
    (other : Nat) (stage : Stage) (found : nextStageOf other = some stage) : Holds other stage := by
  rw [stages] at found
  by_cases same : other = call
  · rw [if_pos same] at found
    exact same ▸ own stage found
  · rw [if_neg same] at found
    exact others other stage same found

theorem keyed_of_perm {calls others : List (Key × Stage)} (keyed : Keyed calls)
    (perm : calls.Perm others) : Keyed others :=
  (perm.map Prod.fst).nodup_iff.mp keyed

variable [BEq Key]

theorem keyed_forgotten {calls : List (Key × Stage)} (keyed : Keyed calls) (call : Key) :
    Keyed (calls.filter (·.1 != call)) :=
  List.Nodup.sublist (List.Sublist.map Prod.fst List.filter_sublist) keyed

variable [LawfulBEq Key]

theorem lookup_forgotten [DecidableEq Key] (calls : List (Key × Stage)) (call other : Key) :
    (calls.filter (·.1 != call)).lookup other =
      if other = call then none else calls.lookup other := by
  induction calls with
  | nil => simp
  | cons first rest ih =>
      obtain ⟨number, stage⟩ := first
      by_cases gone : number = call
      · subst gone
        by_cases same : other = number
        · simpa [same] using ih
        · have differs : (other == number) = false := by simpa using same
          simp [same, ih, List.lookup_cons, differs]
      · by_cases same : other = number
        · subst same
          simp [gone]
        · have differs : (other == number) = false := by simpa using same
          simp [gone, ih, List.lookup_cons, differs]

theorem lookup_placed [DecidableEq Key] (calls : List (Key × Stage)) (call other : Key)
    (stage : Stage) :
    ((call, stage) :: calls.filter (·.1 != call)).lookup other =
      if other = call then some stage else calls.lookup other := by
  by_cases same : other = call
  · simp [same]
  · have differs : (other == call) = false := by simpa using same
    simp [same, List.lookup_cons, lookup_forgotten, differs]

theorem keyed_placed {calls : List (Key × Stage)} (keyed : Keyed calls) (call : Key)
    (stage : Stage) : Keyed ((call, stage) :: calls.filter (·.1 != call)) := by
  refine List.nodup_cons.mpr ⟨?_, keyed_forgotten keyed call⟩
  intro member
  obtain ⟨other, kept, same⟩ := List.mem_map.mp member
  have apart := (List.mem_filter.mp kept).2
  rw [same, bne_self_eq_false] at apart
  cases apart

theorem mem_of_lookup {calls : List (Key × Stage)} {call : Key} {stage : Stage}
    (found : calls.lookup call = some stage) : (call, stage) ∈ calls := by
  obtain ⟨front, back, rfl, -⟩ := List.lookup_eq_some_iff.mp found
  exact List.mem_append_right front List.mem_cons_self

theorem lookup_of_mem {calls : List (Key × Stage)} (keyed : Keyed calls) {call : Key}
    {stage : Stage} (member : (call, stage) ∈ calls) : calls.lookup call = some stage := by
  obtain ⟨front, back, rfl⟩ := List.append_of_mem member
  refine List.lookup_eq_some_iff.mpr ⟨front, back, rfl, fun other before => ?_⟩
  rw [Keyed, List.map_append, List.map_cons] at keyed
  have apart := (List.nodup_append.mp keyed).2.2 other.1 (List.mem_map_of_mem before) call
    List.mem_cons_self
  exact bne_iff_ne.mpr apart.symm

theorem lookup_of_perm {calls others : List (Key × Stage)} (keyed : Keyed calls)
    (perm : calls.Perm others) (call : Key) : others.lookup call = calls.lookup call := by
  refine Option.ext fun stage => ⟨fun found => ?_, fun found => ?_⟩
  · exact lookup_of_mem keyed (perm.mem_iff.mpr (mem_of_lookup found))
  · exact lookup_of_mem (keyed_of_perm keyed perm) (perm.mem_iff.mp (mem_of_lookup found))

def those (at_stage : Stage → Bool) (calls : List (Nat × Stage)) : List Nat :=
  (calls.filter (at_stage ·.2)).map (·.1)

theorem nodup_those {calls : List (Nat × Stage)} (keyed : Keyed calls)
    (at_stage : Stage → Bool) : (those at_stage calls).Nodup :=
  List.Nodup.sublist (List.Sublist.map Prod.fst List.filter_sublist) keyed

theorem mem_those_iff {calls : List (Nat × Stage)} (keyed : Keyed calls)
    {at_stage : Stage → Bool} {call : Nat} :
    call ∈ those at_stage calls ↔
      ∃ stage, calls.lookup call = some stage ∧ at_stage stage = true := by
  constructor
  · intro member
    obtain ⟨⟨number, stage⟩, kept, rfl⟩ := List.mem_map.mp member
    obtain ⟨there, holds⟩ := List.mem_filter.mp kept
    exact ⟨stage, lookup_of_mem keyed there, holds⟩
  · rintro ⟨stage, found, holds⟩
    have kept : (call, stage) ∈ calls.filter (at_stage ·.2) :=
      List.mem_filter.mpr ⟨mem_of_lookup found, holds⟩
    exact List.mem_map.mpr ⟨(call, stage), kept, rfl⟩

end Calls

end Steward
