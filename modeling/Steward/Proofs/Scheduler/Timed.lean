import Steward.Proofs.Scheduler.Bodies
/-!
# Executions in time

A clock goes along with the life of a scheduler.  It never goes back, and a poll of a loop sees what
it shows.  So a loop sleeps as long as it is told to, and what was waited for before a body starts,
a permit among others, is not counted against the body.

That a body does not outlive its time depends on somebody polling its loop.  In prompt time the
clock goes on only when no loop has anything to do, and never past a moment that a loop waits for;
and a body that has been aborted is gone before the clock goes on.

The clock shows whole milliseconds, so that a time is over when the clock first shows that it has
gone by.
-/

set_option autoImplicit false

namespace Steward.Scheduler

variable {workers : Nat}

def Event.now? : Event → Option Nat
  | .pollLoop _ now _ _ => some now
  | _ => none

/-- A clock that never goes back, as the loops see it when they are polled. -/
structure Clock (life : Life workers) where
  reading : Nat → Nat
  forward : ∀ n, reading n ≤ reading (n + 1)
  seen : ∀ n now, (life.event n).now? = some now → now = reading n

theorem Clock.now_eq {life : Life workers} (clock : Clock life) {n loop now body : Nat}
    {closingFirst : Bool} (event : life.event n = .pollLoop loop now body closingFirst) :
    now = clock.reading n :=
  clock.seen n now (congrArg Event.now? event)

theorem Clock.le {life : Life workers} (clock : Clock life) {i n : Nat} (le : i ≤ n) :
    clock.reading i ≤ clock.reading n :=
  monotone_nat_of_le_succ clock.forward le

/-! ## What a loop waits for -/

theorem le_after (now : Nat) (length : Duration) : now ≤ Moment.after now length :=
  Nat.le_add_right now _

theorem after_le_after {now later : Nat} (le : now ≤ later) (length : Duration) :
    Moment.after now length ≤ Moment.after later length :=
  Nat.add_le_add_right le _

def NotBefore (moment now : Nat) : LoopStage → Prop
  | .announcing delay => moment ≤ Moment.after now delay
  | .sleeping wake => moment ≤ wake
  | .acquiring | .running _ _ | .reaping _ _ => moment ≤ now

theorem NotBefore.later {moment now later : Nat} {stage : LoopStage}
    (bound : NotBefore moment now stage) (le : now ≤ later) : NotBefore moment later stage := by
  cases stage with
  | announcing delay => exact Nat.le_trans bound (after_le_after le delay)
  | sleeping wake => exact bound
  | acquiring => exact Nat.le_trans bound le
  | running body deadline => exact Nat.le_trans bound le
  | reaping body cause => exact Nat.le_trans bound le

theorem notBefore_of_moves {scheduler : Scheduler} {timing : Timing} {moment now body : Nat}
    {stage later : LoopStage} (moves : Moves scheduler timing now body stage later)
    (bound : NotBefore moment now stage) : NotBefore moment now later := by
  cases moves with
  | stayed => exact bound
  | announced => exact bound
  | woke due => exact Nat.le_trans bound due
  | began => exact bound
  | aborted => exact bound
  | finished => exact Nat.le_trans bound (le_after now timing.interval)
  | reaped => exact Nat.le_trans bound (le_after now timing.interval)

theorem rests_of_moves {scheduler : Scheduler} {timing : Timing} {moment now body watched : Nat}
    {stage later : LoopStage} (moves : Moves scheduler timing now body stage later)
    (due : moment ≤ Moment.after now timing.interval) (watches : stage.watched? = some watched) :
    later.watched? = some watched ∨ NotBefore moment now later := by
  cases moves with
  | stayed => exact .inl watches
  | aborted => exact .inl watches
  | finished => exact .inr due
  | reaped => exact .inr due
  | announced => cases watches
  | woke => cases watches
  | began => cases watches

section Loop

variable {life : Life workers} {i loop index : Nat} {timing : Timing}

theorem acquiring_of_starts {s body : Nat} (drives : Drives life i loop index s)
    (started : life.reply s = .startBody index body) :
    (life.before s).loops.lookup loop = some ⟨index, .acquiring⟩ := by
  obtain ⟨stage, found⟩ := drives.stage
  have change := change_at life s
  rw [started] at change
  obtain ⟨_, _, _, _, _, acquiring, _⟩ := began_of_change change
  obtain rfl := (driven_before life s).same_loop found acquiring rfl
  exact acquiring

theorem delay_over_of_starts (clock : Clock life) {k : Nat}
    (has : HasTiming (life.before k) index timing) {s body : Nat}
    (drives : Drives life i loop index s)
    (started : life.reply s = .startBody index body) :
    Moment.after (clock.reading i) timing.initialDelay ≤ clock.reading s := by
  have acquiring := acquiring_of_starts drives started
  refine drives.kept (k := i + 1)
    (fun l stage => NotBefore (Moment.after (clock.reading i) timing.initialDelay)
      (clock.reading l) stage) (Nat.lt_succ_self i) drives.after ?_ ?_ ?_ acquiring
  · intro stage found
    obtain ⟨own, hasOwn, announcing⟩ := drives.started.spec.2
    cases has.always hasOwn
    cases found.symm.trans announcing
    exact after_le_after (clock.forward i) timing.initialDelay
  · intro l stage _ bound
    exact bound.later (clock.forward l)
  · intro l stage later now new closingFirst task _ event _ moves bound
    have seen := clock.now_eq event
    subst seen
    exact (notBefore_of_moves moves bound).later (clock.forward l)

theorem watches_of_alive {s body n : Nat} (alive : Alive life s index body n) {stage : LoopStage}
    (found : (life.before n).loops.lookup loop = some ⟨index, stage⟩) :
    stage.watched? = some body := by
  obtain ⟨_, _, _, _, _, _, tends⟩ := tends_of_alive alive
  obtain ⟨stage', there, watches⟩ := tends.watches
  obtain rfl := (driven_before life n).same_loop found there rfl
  cases found.symm.trans there
  exact watches

theorem interval_over_of_starts (clock : Clock life) {k : Nat}
    (has : HasTiming (life.before k) index timing) {s s' body body' : Nat}
    (drives : Drives life i loop index s)
    (drivesToo : Drives life i loop index s') (started : life.reply s = .startBody index body)
    (again : life.reply s' = .startBody index body') (earlier : s < s') :
    ∃ g how, Alive life s index body g ∧ g < s' ∧ life.event g = .bodyEnded body how ∧
      Moment.after (clock.reading g) timing.interval ≤ clock.reading s' := by
  have acquiring := acquiring_of_starts drivesToo again
  have gone : ¬ Alive life s index body s' := by
    intro alive
    cases watches_of_alive alive acquiring
  obtain ⟨g, how, alive, below, event⟩ := exists_end started earlier gone
  refine ⟨g, how, alive, below, event, ?_⟩
  have from_i : i < g := Nat.lt_trans drives.after alive.after
  have upTo : g ≤ s' := Nat.le_of_lt below
  have bound := drivesToo.kept
    (fun l stage => stage.watched? = some body ∨
      NotBefore (Moment.after (clock.reading g) timing.interval) (clock.reading l) stage)
    from_i upTo ?_ ?_ ?_ acquiring
  · rcases bound with watches | bound
    · cases watches
    · exact bound
  · intro stage found
    exact .inl (watches_of_alive alive found)
  · rintro l stage _ (watches | bound)
    · exact .inl watches
    · exact .inr (bound.later (clock.forward l))
  · intro l stage later now new closingFirst task from_g polled there moves holds
    have seen := clock.now_eq polled
    have same := has.always (hasTiming_of_task there)
    subst seen same
    have due := after_le_after (clock.le from_g) task.timing.interval
    rcases holds with watches | bound
    · rcases rests_of_moves moves due watches with watches | bound
      · exact .inl watches
      · exact .inr (bound.later (clock.forward l))
    · exact .inr ((notBefore_of_moves moves bound).later (clock.forward l))

end Loop

/-! ## Prompt time -/

/-- No loop has anything to do at `now`, or waits for a moment before `next`, and no body is left
that was aborted. -/
structure Quiet (scheduler : Scheduler) (now next : Nat) : Prop where
  waits : ∀ loop index stage task body closingFirst,
    scheduler.loops.lookup loop = some ⟨index, stage⟩ → scheduler.tasks[index]? = some task →
    ∃ wake, (scheduler.pollLoop loop index task now body closingFirst stage).2 = .wait wake ∧
      ∀ moment, wake = some moment → next ≤ moment
  dropped : ∀ loop index body cause,
    scheduler.loops.lookup loop = some ⟨index, .reaping body cause⟩ →
    scheduler.bodies.lookup body ≠ some none

/-- The clock goes on only when all is quiet. -/
def Prompt {life : Life workers} (clock : Clock life) : Prop :=
  ∀ n, clock.reading n < clock.reading (n + 1) →
    Quiet (life.before (n + 1)) (clock.reading n) (clock.reading (n + 1))

theorem Quiet.le_deadline {scheduler : Scheduler} {now next : Nat}
    (quiet : Quiet scheduler now next) {loop index body deadline : Nat} {task : Task}
    (tends : Tends scheduler loop index body deadline)
    (there : scheduler.tasks[index]? = some task) : next ≤ deadline := by
  rcases tends.standing with running | ⟨cause, reaping⟩
  · obtain ⟨wake, waits, bound⟩ := quiet.waits loop index _ task 0 false running there
    have waitsFor : wake = some deadline := by
      have lives : (scheduler.bodies.lookup body).bind id = none := by
        rw [tends.alive]
        rfl
      simp only [pollLoop, lives] at waits
      split at waits
      · cases waits
      · split at waits
        · cases waits
        · exact (Reply.wait.inj waits).symm
    exact bound deadline waitsFor
  · exact absurd tends.alive (quiet.dropped loop index body cause reaping)

theorem timeout_ahead_of_alive {life : Life workers} {clock : Clock life} (prompt : Prompt clock)
    {s index body n k : Nat} {timing : Timing} (has : HasTiming (life.before k) index timing)
    (alive : Alive life s index body n) :
    clock.reading n ≤ Moment.after (clock.reading s) timing.timeout := by
  -- The reading for event `s` is the one from which the deadline is counted.
  have bound : ∀ k, s ≤ k → k ≤ n →
      clock.reading k ≤ Moment.after (clock.reading s) timing.timeout := by
    intro k from_s
    induction k, from_s using Nat.le_induction with
    | base => exact fun _ => le_after _ timing.timeout
    | succ k from_s ih =>
        intro below
        by_cases goesOn : clock.reading k < clock.reading (k + 1)
        · have lives := alive.earlier (Nat.lt_succ_of_le from_s) below
          obtain ⟨loop, now, closingFirst, task, event, there, tends⟩ := tends_of_alive lives
          have seen := clock.now_eq event
          have same := has.always (hasTiming_of_task there)
          subst seen same
          obtain ⟨stage, found, -⟩ := tends.watches
          obtain ⟨task', there', -⟩ := driven_before life (k + 1) loop _ found
          exact (prompt k goesOn).le_deadline tends there'
        · exact Nat.le_trans (Nat.le_of_not_lt goesOn) (ih (Nat.le_of_lt below))
  exact bound n (Nat.le_of_lt alive.after) (Nat.le_refl n)

theorem timeout_over_of_aborts {life : Life workers} (clock : Clock life)
    {s index loop body n now new k : Nat} {closingFirst : Bool} {stage : LoopStage}
    {timing : Timing} (has : HasTiming (life.before k) index timing)
    (alive : Alive life s index body n)
    (found : (life.before n).loops.lookup loop = some ⟨index, stage⟩)
    (event : life.event n = .pollLoop loop now new closingFirst)
    (aborted : life.reply n = .abortBody body) :
    (life.before n).closing = true ∨
      Moment.after (clock.reading s) timing.timeout ≤ clock.reading n := by
  obtain ⟨tender, started, _, task, starting, there, tends⟩ := tends_of_alive alive
  have seen := clock.now_eq starting
  have seenNow := clock.now_eq event
  have same := has.always (hasTiming_of_task there)
  subst seen seenNow same
  obtain ⟨_, standing, -⟩ := tends.watches
  obtain rfl := (driven_before life n).same_loop standing found rfl
  have change := change_at life n
  rw [event, aborted] at change
  generalize life.before (n + 1) = next at change
  cases change with
  | polledLoop polled _ _ change =>
      cases change with
      | stopped closing => exact .inl closing
      | overran due =>
          rcases tends.standing with running | ⟨cause, reaping⟩
          · cases running.symm.trans polled
            exact .inr due
          · cases reaping.symm.trans polled

/-! ## Executions -/

/-- The executions of a task are disjoint, spaced and bounded, by loops that were started when the
task was accepted or resubmitted.  What a body waited for before it started does not shorten its
time. -/
structure Disciplined (life : Life workers) (clock : Clock life) (index : Nat) (timing : Timing) :
    Prop where
  loops : ∀ n loop stage, (life.before n).loops.lookup loop = some ⟨index, stage⟩ →
    ∃ i, Drives life i loop index n
  oneLoop : ∀ n i j loop other, Drives life i loop index n → Drives life j other index n →
    i = j ∧ loop = other
  bodies : ∀ s body, life.reply s = .startBody index body → ∃ i loop, Drives life i loop index s
  oneBody : ∀ n s s' body body', Alive life s index body n → Alive life s' index body' n →
    s = s' ∧ body = body'
  delayed : ∀ i loop s body, Drives life i loop index s → life.reply s = .startBody index body →
    Moment.after (clock.reading i) timing.initialDelay ≤ clock.reading s
  spaced : ∀ i loop s s' body body', Drives life i loop index s → Drives life i loop index s' →
    life.reply s = .startBody index body → life.reply s' = .startBody index body' → s < s' →
    ∃ g how, Alive life s index body g ∧ g < s' ∧ life.event g = .bodyEnded body how ∧
      Moment.after (clock.reading g) timing.interval ≤ clock.reading s'
  bounded : Prompt clock → ∀ s body n, Alive life s index body n →
    clock.reading n ≤ Moment.after (clock.reading s) timing.timeout
  patient : ∀ i loop s body n now new closingFirst, Drives life i loop index n →
    Alive life s index body n → life.event n = .pollLoop loop now new closingFirst →
    life.reply n = .abortBody body →
    (life.before n).closing = true ∨
      Moment.after (clock.reading s) timing.timeout ≤ clock.reading n

/-- In every life of a scheduler and with every clock, the executions of every task are disjoint,
spaced and, in prompt time, bounded by the timing with which the task was accepted. -/
theorem execution_discipline (life : Life workers) (clock : Clock life) {k index : Nat}
    {timing : Timing} (has : HasTiming (life.before k) index timing) :
    Disciplined life clock index timing := by
  constructor
  case loops =>
    intro n loop stage found
    exact exists_drives life found
  case oneLoop =>
    intro n i j loop other drives beside
    exact drives.unique beside
  case bodies =>
    intro s body started
    have change := change_at life s
    rw [started] at change
    obtain ⟨loop, _, _, _, _, found, _⟩ := began_of_change change
    obtain ⟨i, drives⟩ := exists_drives life found
    exact ⟨i, loop, drives⟩
  case oneBody =>
    intro n s s' body body' alive beside
    exact alive.unique beside
  case delayed =>
    intro i loop s body drives started
    exact delay_over_of_starts clock has drives started
  case spaced =>
    intro i loop s s' body body' drives drivesToo started again earlier
    exact interval_over_of_starts clock has drives drivesToo started again earlier
  case bounded =>
    intro prompt s body n alive
    exact timeout_ahead_of_alive prompt has alive
  case patient =>
    intro i loop s body n now new closingFirst drives alive event aborted
    obtain ⟨stage, found⟩ := drives.stage
    exact timeout_over_of_aborts clock has alive found event aborted

theorem quiet_of_only {scheduler : Scheduler} {now next loop index : Nat} {stage : LoopStage}
    (wake : Nat) (only : scheduler.loops = [(loop, ⟨index, stage⟩)]) (le : next ≤ wake)
    (waits : ∀ task body closingFirst,
      (scheduler.pollLoop loop index task now body closingFirst stage).2 = .wait (some wake))
    (apart : ∀ body cause, stage ≠ .reaping body cause) : Quiet scheduler now next := by
  have alone : ∀ other standing, scheduler.loops.lookup other = some standing →
      other = loop ∧ standing = ⟨index, stage⟩ := by
    intro other standing found
    rw [only] at found
    by_cases own : other = loop
    · subst own
      exact ⟨rfl, by simpa using found.symm⟩
    · have differs : (other == loop) = false := by simpa using own
      simp [List.lookup_cons, differs] at found
  constructor
  · intro other beside standing task body closingFirst found _
    obtain ⟨rfl, same⟩ := alone other _ found
    cases same
    exact ⟨some wake, waits task body closingFirst, fun moment due => by cases due; exact le⟩
  · intro other beside body cause found
    obtain ⟨_, same⟩ := alone other _ found
    cases same
    exact absurd rfl (apart body cause)

def patrol : Timing := ⟨.ofMillis 2, .ofMillis 5, .ofMillis 10⟩

/-- The first body of a task is aborted when its time is over, and a second one is started. -/
def overranOnce : Life 1 :=
  .ofList [.schedule 1 "patrol" patrol, .pollLoop 1 0 9 false, .pollLoop 1 2 9 false,
    .pollLoop 1 2 9 false, .pollLoop 1 2 2 false, .pollLoop 1 12 9 false, .bodyEnded 2 .cancelled,
    .pollLoop 1 12 9 false, .pollLoop 1 12 9 false, .pollLoop 1 17 9 false, .pollLoop 1 17 9 false,
    .pollLoop 1 17 3 false] (.bodyEnded 0 .cancelled)

def overranReading (n : Nat) : Nat :=
  if n < 2 then 0 else if n < 5 then 2 else if n < 9 then 12 else 17

def overranClock : Clock overranOnce where
  reading := overranReading
  forward := by
    intro n
    unfold overranReading
    split_ifs <;> omega
  seen := by
    intro n now seen
    by_cases early : n < 12
    · have fits : ∀ n < 12, ∀ now ∈ (overranOnce.event n).now?, now = overranReading n := by
        decide
      exact fits n early now seen
    · have rest : overranOnce.event n = .bodyEnded 0 .cancelled := by
        unfold overranOnce
        exact Run.event_ofList_rest _ (Nat.le_of_not_lt early)
      rw [rest] at seen
      cases seen

theorem prompt_overranClock : Prompt overranClock := by
  intro n goesOn
  have moves : n = 1 ∨ n = 4 ∨ n = 8 := by
    change overranReading n < overranReading (n + 1) at goesOn
    unfold overranReading at goesOn
    split_ifs at goesOn <;> omega
  rcases moves with rfl | rfl | rfl
  · exact quiet_of_only 2 rfl (by decide) (fun _ _ _ => rfl) nofun
  · exact quiet_of_only 12 rfl (by decide) (fun _ _ _ => rfl) nofun
  · exact quiet_of_only 17 rfl (by decide) (fun _ _ _ => rfl) nofun

theorem execution_discipline_overranOnce :
    (∀ n, Alive overranOnce 4 0 2 n → overranReading n ≤ 12) ∧
      ∃ g how, Alive overranOnce 4 0 2 g ∧ g < 11 ∧ overranOnce.event g = .bodyEnded 2 how ∧
        Moment.after (overranReading g) patrol.interval ≤ 17 := by
  have accepts : Accepts overranOnce 0 0 patrol := ⟨rfl, rfl, 1, "patrol", rfl⟩
  have disciplined := execution_discipline overranOnce overranClock accepts.hasTiming
  have standing : ∀ k < 12, 0 < k →
      ((overranOnce.before k).loops.lookup 1).map Loop.task = some 0 := by
    decide +kernel
  have drives : Drives overranOnce 0 1 0 11 := by
    refine ⟨⟨rfl, .inl ⟨"patrol", patrol, rfl, rfl⟩⟩, by decide, fun k after upTo => ?_⟩
    obtain ⟨⟨index, stage⟩, found, same⟩ :=
      Option.map_eq_some_iff.mp (standing k (Nat.lt_succ_of_le upTo) after)
    cases same
    exact ⟨stage, found⟩
  constructor
  · intro n alive
    exact disciplined.bounded prompt_overranClock 4 2 n alive
  · exact disciplined.spaced 0 1 4 11 2 3 (drives.earlier (by decide) (by decide)) drives rfl rfl
      (by decide)

end Steward.Scheduler
