import Steward.Proofs.Scheduler.Change
/-!
# Lives of schedulers

The life of a scheduler is an order of events that reach it.  A loop that is there drives one task
all along: it is the last loop that was started for this task, and the task has not failed.  So a
task has one loop at a time, whatever is resubmitted, and nothing but its own polls moves a loop on.
-/

set_option autoImplicit false

namespace Steward.Scheduler

variable {workers : Nat}

abbrev Life (workers : Nat) := Run Scheduler.step (Scheduler.new workers)

theorem change_at (life : Life workers) (n : Nat) :
    Change (life.before n) (life.event n) (life.before (n + 1)) (life.reply n) :=
  change_step (life.before n) (life.event n)

/-! ## One loop apart from the others -/

section Apart

variable {scheduler next : Scheduler} {event : Event} {reply : Reply}

theorem LoopChange.others {loop index now body : Nat} {task : Task} {stage : LoopStage}
    (change : LoopChange scheduler loop index task now body stage next reply) {other : Nat}
    (apart : other ≠ loop) : next.loops.lookup other = scheduler.loops.lookup other := by
  cases change <;> simp [apart]

theorem ne_of_unused {loop started : Nat} {standing : Loop}
    (unused : scheduler.uses started = false)
    (found : scheduler.loops.lookup loop = some standing) : loop ≠ started := by
  rintro rfl
  have absent := (unused_iff.mp unused).1
  exact Option.some_ne_none _ (found.symm.trans absent)

theorem moves_or_stays (change : Change scheduler event next reply) {loop index : Nat}
    {stage : LoopStage} (found : scheduler.loops.lookup loop = some ⟨index, stage⟩) :
    (∃ now body closingFirst task, event = .pollLoop loop now body closingFirst ∧
      scheduler.tasks[index]? = some task ∧
      LoopChange scheduler loop index task now body stage next reply) ∨
    next.loops.lookup loop = some ⟨index, stage⟩ := by
  cases change with
  | refused | turnedAway | unfit | ended | spawned | jobEnded | closed | closedBefore
  | droppedShutdown => exact .inr found
  | polledJob _ change => cases change <;> exact .inr found
  | polledShutdown _ change => cases change <;> exact .inr found
  | scheduled unused => exact .inr (by simpa [ne_of_unused unused found] using found)
  | resubmitted _ unused => exact .inr (by simpa [ne_of_unused unused found] using found)
  | @polledLoop polled now body _ closingFirst _ task _ _ standing there _ change =>
      by_cases own : loop = polled
      · subst own
        cases found.symm.trans standing
        exact .inl ⟨now, body, closingFirst, task, rfl, there, change⟩
      · exact .inr ((change.others own).trans found)

/-- The stages that a poll at `now` leads to from a stage, if the loop goes on. -/
inductive Moves (scheduler : Scheduler) (timing : Timing) (now body : Nat) :
    LoopStage → LoopStage → Prop where
  | stayed {stage : LoopStage} : Moves scheduler timing now body stage stage
  | announced {delay : Duration} :
      Moves scheduler timing now body (.announcing delay) (.sleeping (Moment.after now delay))
  | woke {wake : Nat} (due : wake ≤ now) :
      Moves scheduler timing now body (.sleeping wake) .acquiring
  | began :
      Moves scheduler timing now body .acquiring (.running body (Moment.after now timing.timeout))
  | aborted {watched deadline : Nat} {cause : AbortCause} :
      Moves scheduler timing now body (.running watched deadline) (.reaping watched cause)
  | finished {watched deadline : Nat} {how : BodyEnd}
      (ended : scheduler.bodies.lookup watched = some (some how)) :
      Moves scheduler timing now body (.running watched deadline) (.announcing timing.interval)
  | reaped {watched : Nat} {cause : AbortCause} {how : BodyEnd}
      (ended : scheduler.bodies.lookup watched = some (some how)) :
      Moves scheduler timing now body (.reaping watched cause) (.announcing timing.interval)

theorem afterRun_eq {task : Task} {index : Nat} {outcome : RunOutcome} {standing : Loop}
    (after : afterRun task index outcome = some standing) :
    standing = ⟨index, .announcing task.timing.interval⟩ := by
  cases outcome with
  | succeeded => exact (Option.some.inj after).symm
  | timedOut => exact (Option.some.inj after).symm
  | failed reason => cases after
  | closed => cases after

theorem LoopChange.moves {loop index now body : Nat} {task : Task} {stage : LoopStage}
    (change : LoopChange scheduler loop index task now body stage next reply)
    (found : scheduler.loops.lookup loop = some ⟨index, stage⟩) {standing : Loop}
    (after : next.loops.lookup loop = some standing) :
    standing.task = index ∧ Moves scheduler task.timing now body stage standing.stage := by
  cases change with
  | waited =>
      cases found.symm.trans after
      exact ⟨rfl, .stayed⟩
  | asked =>
      cases found.symm.trans after
      exact ⟨rfl, .stayed⟩
  | announced =>
      rw [loops_setLoop, if_pos rfl] at after
      cases after
      exact ⟨rfl, .announced⟩
  | exited =>
      rw [loops_endLoop, if_pos rfl] at after
      cases after
  | woke due =>
      rw [loops_setLoop, if_pos rfl] at after
      cases after
      exact ⟨rfl, .woke due⟩
  | quit =>
      rw [loops_endRun, if_pos rfl] at after
      cases after
  | began =>
      rw [loops_setLoop, if_pos rfl] at after
      cases after
      exact ⟨rfl, .began⟩
  | stopped =>
      rw [loops_setLoop, if_pos rfl] at after
      cases after
      exact ⟨rfl, .aborted⟩
  | overran =>
      rw [loops_setLoop, if_pos rfl] at after
      cases after
      exact ⟨rfl, .aborted⟩
  | finished ended =>
      rw [loops_endRun, if_pos rfl] at after
      cases afterRun_eq after
      exact ⟨rfl, .finished ended⟩
  | reaped ended =>
      rw [loops_endRun, if_pos rfl] at after
      cases afterRun_eq after
      exact ⟨rfl, .reaped ended⟩

theorem course_of_change (change : Change scheduler event next reply) {loop : Nat}
    {standing beside : Loop} (found : scheduler.loops.lookup loop = some standing)
    (after : next.loops.lookup loop = some beside) :
    beside.task = standing.task ∧
      ((∃ now body closingFirst task, event = .pollLoop loop now body closingFirst ∧
        scheduler.tasks[standing.task]? = some task ∧
        Moves scheduler task.timing now body standing.stage beside.stage) ∨
      beside.stage = standing.stage) := by
  rcases moves_or_stays change found with
    ⟨now, body, closingFirst, task, polled, there, change⟩ | same
  · obtain ⟨sameTask, moves⟩ := change.moves found after
    exact ⟨sameTask, .inl ⟨now, body, closingFirst, task, polled, there, moves⟩⟩
  · cases same.symm.trans after
    exact ⟨rfl, .inr rfl⟩

theorem starts_of_change (change : Change scheduler event next reply) {loop : Nat}
    (absent : scheduler.loops.lookup loop = none) {standing : Loop}
    (after : next.loops.lookup loop = some standing) :
    reply = .accepted ∧
      ((∃ name timing, event = .schedule loop name timing ∧
          standing = ⟨scheduler.tasks.length, .announcing timing.initialDelay⟩) ∨
        ∃ task, event = .resubmit loop standing.task ∧
          scheduler.tasks[standing.task]? = some task ∧
          standing.stage = .announcing task.timing.initialDelay) := by
  have still : ¬ next.loops.lookup loop = scheduler.loops.lookup loop := by
    simp [absent, after]
  cases change with
  | refused | turnedAway | unfit | ended | spawned | jobEnded | closed | closedBefore
  | droppedShutdown => exact absurd rfl still
  | polledJob _ change => cases change <;> exact absurd rfl still
  | polledShutdown _ change => cases change <;> exact absurd rfl still
  | polledLoop found _ _ change =>
      refine absurd (change.others ?_) still
      rintro rfl
      exact Option.some_ne_none _ (found.symm.trans absent)
  | @scheduled started name timing =>
      by_cases own : loop = started
      · subst own
        exact ⟨rfl, .inl ⟨name, timing, rfl, by simpa using after.symm⟩⟩
      · simp [own] at still
  | @resubmitted started index task there =>
      by_cases own : loop = started
      · subst own
        have placed : Loop.mk index (.announcing task.timing.initialDelay) = standing := by
          simpa using after
        subst placed
        exact ⟨rfl, .inr ⟨task, rfl, there, rfl⟩⟩
      · simp [own] at still

end Apart

/-! ## What happens to a task -/

def ended (outcome : RunOutcome) (task : Task) : Task :=
  match outcome with
  | .succeeded =>
    { task with
      state := .succeeded
      stats := { task.stats with succeeded := task.stats.succeeded + 1 } }
  | .timedOut =>
    { task with
      state := .timedOut
      stats := { task.stats with timedOut := task.stats.timedOut + 1 } }
  | .failed reason =>
    { task with
      state := .failed
      stats := { task.stats with failed := task.stats.failed + 1 }
      lastError := some reason }
  | .closed => task

theorem tasks_endRun (scheduler : Scheduler) (loop : Nat) (task : Task) (index : Nat)
    (outcome : RunOutcome) :
    (scheduler.endRun loop task index outcome).tasks =
      scheduler.tasks.modify index (ended outcome) := by
  cases outcome with
  | closed => exact (List.modify_id index scheduler.tasks).symm
  | succeeded => rfl
  | timedOut => rfl
  | failed reason => rfl

structure Edits (edit : Task → Task) : Prop where
  timing : ∀ task, (edit task).timing = task.timing
  runner : ∀ task, (edit task).runner = task.runner

theorem edits_ended (outcome : RunOutcome) : Edits (ended outcome) := by
  constructor <;> intro task <;> cases outcome <;> rfl

theorem fails_or_ends (scheduler : Scheduler) (loop index : Nat) (task shown : Task)
    (outcome : RunOutcome) (failed : (ended outcome shown).state = .failed) :
    shown.state = .failed ∨
      (scheduler.endRun loop task index outcome).loops.lookup loop = none := by
  cases outcome with
  | succeeded => cases failed
  | timedOut => cases failed
  | failed reason => exact .inr (by simp [afterRun])
  | closed => exact .inl failed

theorem LoopChange.edits {scheduler next : Scheduler} {reply : Reply} {loop index now body : Nat}
    {task : Task} {stage : LoopStage}
    (change : LoopChange scheduler loop index task now body stage next reply) :
    ∃ edit, Edits edit ∧ next.tasks = scheduler.tasks.modify index edit ∧
      ∀ shown, (edit shown).state = .failed →
        shown.state = .failed ∨ next.loops.lookup loop = none := by
  have unedited : scheduler.tasks = scheduler.tasks.modify index id :=
    (List.modify_id index scheduler.tasks).symm
  cases change with
  | waited | exited | woke | asked | stopped | overran =>
      exact ⟨id, ⟨fun _ => rfl, fun _ => rfl⟩, unedited, fun _ failed => .inl failed⟩
  | announced =>
      refine ⟨fun t => { t with
        state := .scheduled
        stats := { t.stats with scheduled := t.stats.scheduled + 1 } }, ?_, rfl, ?_⟩
      · exact ⟨fun _ => rfl, fun _ => rfl⟩
      · intro _ failed
        cases failed
  | began =>
      refine ⟨fun t => { t with state := .running }, ?_, rfl, ?_⟩
      · exact ⟨fun _ => rfl, fun _ => rfl⟩
      · intro _ failed
        cases failed
  | quit =>
      exact ⟨_, edits_ended .closed, tasks_endRun .., fun shown =>
        fails_or_ends scheduler loop index task shown .closed⟩
  | @finished watched _ how =>
      exact ⟨_, edits_ended how.outcome, tasks_endRun .., fun shown =>
        fails_or_ends (scheduler.forgetBody watched) loop index task shown how.outcome⟩
  | @reaped watched cause =>
      exact ⟨_, edits_ended cause.outcome, tasks_endRun .., fun shown =>
        fails_or_ends (scheduler.forgetBody watched) loop index task shown cause.outcome⟩

theorem timings_modify (edit : Task → Task) (keeps : ∀ task, (edit task).timing = task.timing)
    (tasks : List Task) (index : Nat) :
    (tasks.modify index edit).map Task.timing = tasks.map Task.timing := by
  apply List.ext_getElem?
  intro i
  simp only [List.getElem?_map, List.getElem?_modify]
  cases tasks[i]? with
  | none => rfl
  | some task => by_cases own : index = i <;> simp [own, keeps]

theorem timings_of_change {scheduler next : Scheduler} {event : Event} {reply : Reply}
    (change : Change scheduler event next reply) :
    scheduler.tasks.map Task.timing <+: next.tasks.map Task.timing := by
  cases change with
  | refused | turnedAway | unfit | ended | spawned | jobEnded | closed | closedBefore
  | droppedShutdown => exact List.prefix_rfl
  | polledJob _ change => cases change <;> exact List.prefix_rfl
  | polledShutdown _ change =>
      cases change with
      | waited | drained | returned => exact List.prefix_rfl
      | @joined index =>
          have kept := timings_modify (fun t => { t with state := .closed }) (fun _ => rfl)
            scheduler.tasks index
          exact kept ▸ List.prefix_rfl
  | scheduled => simp [setLoop]
  | @resubmitted loop index =>
      have kept := timings_modify
        (fun t => { t with state := .scheduled, lastError := none, runner := loop })
        (fun _ => rfl) scheduler.tasks index
      exact kept ▸ List.prefix_rfl
  | polledLoop _ _ _ change =>
      obtain ⟨edit, edits, tasks, -⟩ := change.edits
      have kept : next.tasks.map Task.timing = scheduler.tasks.map Task.timing := by
        rw [tasks, timings_modify edit edits.timing]
      exact kept ▸ List.prefix_rfl

theorem timings_before (life : Life workers) {i n : Nat} (le : i ≤ n) :
    (life.before i).tasks.map Task.timing <+: (life.before n).tasks.map Task.timing := by
  induction n, le using Nat.le_induction with
  | base => exact List.prefix_rfl
  | succ n _ ih => exact ih.trans (timings_of_change (change_at life n))

/-- Every loop drives a task that has not failed, and no later loop was started for this task. -/
def Driven (scheduler : Scheduler) : Prop :=
  ∀ loop standing, scheduler.loops.lookup loop = some standing →
    ∃ task, scheduler.tasks[standing.task]? = some task ∧ task.runner = loop ∧ task.state ≠ .failed

theorem Driven.same_loop {scheduler : Scheduler} (driven : Driven scheduler) {loop other : Nat}
    {standing beside : Loop} (found : scheduler.loops.lookup loop = some standing)
    (there : scheduler.loops.lookup other = some beside) (same : standing.task = beside.task) :
    loop = other := by
  obtain ⟨task, at_task, runs, -⟩ := driven loop standing found
  obtain ⟨task', at_task', runs', -⟩ := driven other beside there
  rw [same] at at_task
  cases at_task.symm.trans at_task'
  exact runs.symm.trans runs'

theorem Driven.edited {scheduler next : Scheduler} (driven : Driven scheduler) (loop : Nat)
    {index : Nat} {edit : Task → Task} (tasks : next.tasks = scheduler.tasks.modify index edit)
    (others : ∀ other, other ≠ loop → next.loops.lookup other = scheduler.loops.lookup other)
    (alone : ∀ other standing, other ≠ loop → scheduler.loops.lookup other = some standing →
      standing.task ≠ index)
    (own : ∀ standing, next.loops.lookup loop = some standing →
      ∃ task, next.tasks[standing.task]? = some task ∧ task.runner = loop ∧
        task.state ≠ .failed) : Driven next := by
  intro other standing found
  by_cases same : other = loop
  · subst same
    exact own standing found
  · have before := (others other same).symm.trans found
    have apart := (alone other standing same before).symm
    obtain ⟨task, there, rest⟩ := driven other standing before
    refine ⟨task, ?_, rest⟩
    rw [tasks, List.getElem?_modify, there]
    simp [apart]

theorem driven_of_change {scheduler next : Scheduler} {event : Event} {reply : Reply}
    (driven : Driven scheduler) (change : Change scheduler event next reply) : Driven next := by
  cases change with
  | refused | turnedAway | unfit | ended | spawned | jobEnded | closed | closedBefore
  | droppedShutdown => exact driven
  | polledJob _ change => cases change <;> exact driven
  | polledShutdown _ change =>
      cases change with
      | waited | drained | returned => exact driven
      | @joined index task there gone =>
          refine driven.edited task.runner rfl (fun _ _ => rfl) ?_ ?_
          · rintro other standing apart found rfl
            obtain ⟨task', there', runs, -⟩ := driven other standing found
            cases there.symm.trans there'
            exact apart runs.symm
          · intro standing found
            exact absurd (found.symm.trans gone) (Option.some_ne_none _)
  | @scheduled loop name timing unused =>
      intro other standing found
      by_cases own : other = loop
      · subst own
        have placed :
            Loop.mk scheduler.tasks.length (.announcing timing.initialDelay) = standing := by
          simpa using found
        subst placed
        exact ⟨Task.new name timing other, by simp [setLoop], rfl, nofun⟩
      · obtain ⟨task, there, rest⟩ := driven other standing (by simpa [own] using found)
        have within := (List.getElem?_eq_some_iff.mp there).1
        exact ⟨task, (List.getElem?_append_left within).trans there, rest⟩
  | @resubmitted loop index task there unused _ failed =>
      refine driven.edited loop rfl (fun other apart => by simp [apart]) ?_ ?_
      · rintro other standing - found rfl
        obtain ⟨task', there', -, unfailed⟩ := driven other standing found
        cases there.symm.trans there'
        exact unfailed failed
      · intro standing found
        have placed : Loop.mk index (.announcing task.timing.initialDelay) = standing := by
          simpa using found
        subst placed
        refine ⟨{ task with state := .scheduled, lastError := none, runner := loop }, ?_, rfl,
          nofun⟩
        exact (tasks_mapTask ..).trans (by simp [there])
  | @polledLoop loop _ _ index _ stage task _ _ found there _ change =>
      obtain ⟨edit, edits, tasks, fails⟩ := change.edits
      refine driven.edited loop tasks (fun other apart => change.others apart) ?_ ?_
      · intro other standing apart beside same
        exact apart (driven.same_loop beside found same)
      · intro standing after
        obtain ⟨sameTask, -⟩ := change.moves found after
        obtain ⟨task', there', runs, unfailed⟩ := driven loop _ found
        refine ⟨edit task', ?_, (edits.runner task').trans runs, ?_⟩
        · rw [tasks, sameTask, List.getElem?_modify_eq, there']
          rfl
        · intro failed
          rcases fails task' failed with before | gone
          · exact unfailed before
          · exact Option.some_ne_none _ (after.symm.trans gone)

theorem driven_before (life : Life workers) (n : Nat) : Driven (life.before n) :=
  life.holds_of_kept Driven (fun _ _ found => absurd found (by simp [new]))
    (fun n driven => driven_of_change driven (change_at life n)) n

/-! ## The course of one loop -/

/-- By event number `i` a loop is started for a task, when the task is accepted or resubmitted. -/
def StartsLoop (life : Life workers) (i loop index : Nat) : Prop :=
  life.reply i = .accepted ∧
    ((∃ name timing, life.event i = .schedule loop name timing ∧
        (life.before i).tasks.length = index) ∨
      life.event i = .resubmit loop index)

/-- The loop that event number `i` started for a task is there when event number `n` comes. -/
structure Drives (life : Life workers) (i loop index n : Nat) : Prop where
  started : StartsLoop life i loop index
  after : i < n
  lasts : ∀ k, i < k → k ≤ n → ∃ stage, (life.before k).loops.lookup loop = some ⟨index, stage⟩

theorem Drives.stage {life : Life workers} {i loop index n : Nat}
    (drives : Drives life i loop index n) :
    ∃ stage, (life.before n).loops.lookup loop = some ⟨index, stage⟩ :=
  drives.lasts n drives.after (Nat.le_refl n)

theorem Drives.earlier {life : Life workers} {i loop index n k : Nat}
    (drives : Drives life i loop index n) (after : i < k) (upTo : k ≤ n) :
    Drives life i loop index k :=
  ⟨drives.started, after, fun l from_i to_k => drives.lasts l from_i (Nat.le_trans to_k upTo)⟩

theorem exists_drives (life : Life workers) {n loop index : Nat} {stage : LoopStage}
    (found : (life.before n).loops.lookup loop = some ⟨index, stage⟩) :
    ∃ i, Drives life i loop index n := by
  induction n generalizing stage with
  | zero => exact absurd found (by simp [Run.before, new])
  | succ n ih =>
      cases there : (life.before n).loops.lookup loop with
      | some standing =>
          have sameTask := (course_of_change (change_at life n) there found).1
          obtain rfl : index = standing.task := sameTask
          obtain ⟨i, started, after, lasts⟩ := ih there
          refine ⟨i, started, Nat.lt_succ_of_lt after, fun k from_i upTo => ?_⟩
          rcases Nat.le_succ_iff.mp upTo with before | rfl
          · exact lasts k from_i before
          · exact ⟨stage, found⟩
      | none =>
          obtain ⟨accepted, starts⟩ := starts_of_change (change_at life n) there found
          refine ⟨n, ⟨accepted, ?_⟩, Nat.lt_succ_self n, fun k from_n upTo => ?_⟩
          · rcases starts with ⟨name, timing, event, standing⟩ | ⟨task, event, -⟩
            · cases standing
              exact .inl ⟨name, timing, event, rfl⟩
            · exact .inr event
          · obtain rfl : k = n + 1 := Nat.le_antisymm upTo from_n
            exact ⟨stage, found⟩

/-- The task of this number has been accepted, with this timing. -/
def HasTiming (scheduler : Scheduler) (index : Nat) (timing : Timing) : Prop :=
  (scheduler.tasks.map Task.timing)[index]? = some timing

theorem hasTiming_of_task {scheduler : Scheduler} {index : Nat} {task : Task}
    (there : scheduler.tasks[index]? = some task) : HasTiming scheduler index task.timing := by
  simp [HasTiming, there]

theorem HasTiming.unique {scheduler : Scheduler} {index : Nat} {timing other : Timing}
    (has : HasTiming scheduler index timing) (hasToo : HasTiming scheduler index other) :
    timing = other :=
  Option.some.inj (has.symm.trans hasToo)

theorem HasTiming.later {life : Life workers} {i n index : Nat} {timing : Timing}
    (has : HasTiming (life.before i) index timing) (le : i ≤ n) :
    HasTiming (life.before n) index timing := by
  obtain ⟨within, value⟩ := List.getElem?_eq_some_iff.mp has
  have kept := List.prefix_iff_getElem?.mp (timings_before life le) index within
  exact kept.trans (congrArg some value)

theorem HasTiming.always {life : Life workers} {i n index : Nat} {timing other : Timing}
    (has : HasTiming (life.before i) index timing)
    (hasToo : HasTiming (life.before n) index other) : timing = other := by
  rcases Nat.le_total i n with le | le
  · exact (has.later le).unique hasToo
  · exact has.unique (hasToo.later le)

/-- By event number `a` a task is accepted with this timing; from then on it is known by its
index. -/
def Accepts (life : Life workers) (a index : Nat) (timing : Timing) : Prop :=
  life.reply a = .accepted ∧ (life.before a).tasks.length = index ∧
    ∃ loop name, life.event a = .schedule loop name timing

theorem Accepts.hasTiming {life : Life workers} {a index : Nat} {timing : Timing}
    (accepts : Accepts life a index timing) : HasTiming (life.before (a + 1)) index timing := by
  obtain ⟨accepted, rfl, loop, name, event⟩ := accepts
  have change := change_at life a
  rw [accepted, event] at change
  generalize life.before (a + 1) = next at change
  cases change with
  | scheduled => simp [HasTiming, setLoop, Task.new]

theorem started_of_change {scheduler next : Scheduler} {event : Event} {loop index : Nat}
    (change : Change scheduler event next .accepted)
    (starts : (∃ name timing, event = .schedule loop name timing ∧ scheduler.tasks.length = index) ∨
      event = .resubmit loop index) :
    scheduler.loops.lookup loop = none ∧ ∃ timing, HasTiming next index timing ∧
      next.loops.lookup loop = some ⟨index, .announcing timing.initialDelay⟩ := by
  rcases starts with ⟨name, timing, rfl, rfl⟩ | rfl
  · cases change with
    | scheduled unused =>
        exact ⟨(unused_iff.mp unused).1, timing, by simp [HasTiming, setLoop, Task.new], by simp⟩
  · cases change with
    | @resubmitted _ _ task there unused =>
        refine ⟨(unused_iff.mp unused).1, task.timing, ?_, by simp⟩
        have edited := tasks_mapTask scheduler index
          (fun t => { t with state := .scheduled, lastError := none, runner := loop }) index
        rw [there, Option.map_some, if_pos rfl] at edited
        have has := hasTiming_of_task edited
        exact has

theorem StartsLoop.spec {life : Life workers} {i loop index : Nat}
    (starts : StartsLoop life i loop index) :
    (life.before i).loops.lookup loop = none ∧
      ∃ timing, HasTiming (life.before (i + 1)) index timing ∧
        (life.before (i + 1)).loops.lookup loop =
          some ⟨index, .announcing timing.initialDelay⟩ := by
  obtain ⟨accepted, event⟩ := starts
  exact started_of_change (accepted ▸ change_at life i) event

/-- At most one loop is there for a task, however often the task is resubmitted. -/
theorem Drives.unique {life : Life workers} {i j loop other index n : Nat}
    (drives : Drives life i loop index n) (beside : Drives life j other index n) :
    i = j ∧ loop = other := by
  obtain ⟨stage, found⟩ := drives.stage
  obtain ⟨stage', there⟩ := beside.stage
  obtain rfl := (driven_before life n).same_loop found there rfl
  have absent_i := drives.started.spec.1
  have absent_j := beside.started.spec.1
  refine ⟨?_, rfl⟩
  rcases Nat.lt_trichotomy i j with earlier | same | later
  · obtain ⟨_, present⟩ := drives.lasts j earlier (Nat.le_of_lt beside.after)
    exact absurd (present.symm.trans absent_j) (Option.some_ne_none _)
  · exact same
  · obtain ⟨_, present⟩ := beside.lasts i later (Nat.le_of_lt drives.after)
    exact absurd (present.symm.trans absent_i) (Option.some_ne_none _)

/-- What holds of the stage of a loop at one moment, and is kept by its polls and by everything
between them, holds of it later on. -/
theorem Drives.kept {life : Life workers} {i loop index k n : Nat} (Holds : Nat → LoopStage → Prop)
    (drives : Drives life i loop index n) (after : i < k) (upTo : k ≤ n)
    (first : ∀ stage, (life.before k).loops.lookup loop = some ⟨index, stage⟩ → Holds k stage)
    (stays : ∀ l stage, k ≤ l → Holds l stage → Holds (l + 1) stage)
    (moves : ∀ l stage later now body closingFirst task, k ≤ l →
      life.event l = .pollLoop loop now body closingFirst →
      (life.before l).tasks[index]? = some task →
      Moves (life.before l) task.timing now body stage later → Holds l stage → Holds (l + 1) later)
    {stage : LoopStage} (found : (life.before n).loops.lookup loop = some ⟨index, stage⟩) :
    Holds n stage := by
  induction n, upTo using Nat.le_induction generalizing stage with
  | base => exact first stage found
  | succ l from_k ih =>
      have before := drives.earlier (Nat.lt_of_lt_of_le after from_k) (Nat.le_succ l)
      obtain ⟨last, there⟩ := before.stage
      have holds := ih before there
      rcases (course_of_change (change_at life l) there found).2 with
        ⟨now, body, closingFirst, task, event, at_task, course⟩ | rfl
      · exact moves l last stage now body closingFirst task from_k event at_task course holds
      · exact stays l _ from_k holds

end Steward.Scheduler
