import Mathlib.Data.List.Perm.Subperm
import Steward.Proofs.Scheduler.Jobs
import Steward.Proofs.Scheduler.Watch
/-!
# The pool and its permits

Every body that lives is watched by one loop, which holds a permit, and every job that works holds
one.  So there are never more of them than permits.  Whoever holds a permit executes a run or works,
or is next to do so, and nobody else keeps one: a run gives back its permit however it ends.  If
nothing can go on and nobody executes or works, all permits are there and all jobs are done.
-/

set_option autoImplicit false

namespace Steward.Scheduler

variable {workers : Nat}

/-! ## Those who hold a permit -/

def liveBodies (scheduler : Scheduler) : List Nat := those (·.isNone) scheduler.bodies

/-- The loops that execute a run: they have a body, or they wait until it is gone. -/
def executing (scheduler : Scheduler) : List Nat :=
  those (·.stage.watched?.isSome) scheduler.loops

def working (scheduler : Scheduler) : List Nat := those (· == .running) scheduler.jobs

/-- The callers to whom a permit has passed and who have not picked it up. -/
def assigned (scheduler : Scheduler) : List Nat :=
  scheduler.permits.holders.filter fun caller =>
    !(scheduler.executing ++ scheduler.working).contains caller

section State

variable {scheduler : Scheduler}

theorem mem_liveBodies_iff (distinct : Distinct scheduler) {body : Nat} :
    body ∈ scheduler.liveBodies ↔ scheduler.bodies.lookup body = some none := by
  rw [liveBodies, mem_those_iff distinct.bodies]
  constructor
  · rintro ⟨how, found, alive⟩
    rw [found, Option.isNone_iff_eq_none.mp alive]
  · intro found
    exact ⟨none, found, rfl⟩

theorem mem_executing_iff (distinct : Distinct scheduler) {loop : Nat} :
    loop ∈ scheduler.executing ↔ ∃ body, watchedBy scheduler loop = some body := by
  rw [executing, mem_those_iff distinct.loops]
  constructor
  · rintro ⟨standing, found, watches⟩
    rw [watchedBy_of_lookup found]
    exact Option.isSome_iff_exists.mp watches
  · rintro ⟨body, watches⟩
    obtain ⟨standing, found, own⟩ := Option.bind_eq_some_iff.mp watches
    exact ⟨standing, found, Option.isSome_iff_exists.mpr ⟨body, own⟩⟩

theorem mem_working_iff (distinct : Distinct scheduler) {job : Nat} :
    job ∈ scheduler.working ↔ scheduler.jobs.lookup job = some .running := by
  rw [working, mem_those_iff distinct.jobs]
  constructor
  · rintro ⟨stage, found, works⟩
    rw [found, eq_of_beq works]
  · intro found
    exact ⟨.running, found, rfl⟩

theorem LoopStage.holding_iff {stage : LoopStage} :
    stage.place = .holding ↔ stage.watched?.isSome = true := by
  cases stage <;> simp [LoopStage.place, LoopStage.watched?]

/-- The places of those who hold a permit are those of executing loops and of working jobs. -/
theorem holding_iff (distinct : Distinct scheduler) (manned : Manned scheduler) {caller : Nat} :
    placeOf scheduler caller = .holding ↔
      caller ∈ scheduler.executing ∨ caller ∈ scheduler.working := by
  rw [mem_executing_iff distinct, mem_working_iff distinct]
  cases loops : scheduler.loops.lookup caller with
  | some standing =>
      rw [placeOf_loop loops, watchedBy_of_lookup loops, manned.no_job loops,
        LoopStage.holding_iff, Option.isSome_iff_exists]
      simp
  | none =>
      have unwatched : watchedBy scheduler caller = none := by
        rw [watchedBy, loops]
        rfl
      cases jobs : scheduler.jobs.lookup caller with
      | some stage =>
          rw [placeOf_job loops jobs, unwatched]
          cases stage <;> simp [JobStage.place]
      | none =>
          rw [placeOf_none loops jobs, unwatched]
          simp

theorem held_subset (distinct : Distinct scheduler) (manned : Manned scheduler) {caller : Nat}
    (held : caller ∈ scheduler.executing ++ scheduler.working) :
    caller ∈ scheduler.permits.holders := by
  have fits := manned.fits caller
  rw [(holding_iff distinct manned).mpr (List.mem_append.mp held)] at fits
  exact fits

theorem nodup_held (distinct : Distinct scheduler) (manned : Manned scheduler) :
    (scheduler.executing ++ scheduler.working).Nodup := by
  refine List.nodup_append.mpr
    ⟨nodup_those distinct.loops _, nodup_those distinct.jobs _, ?_⟩
  rintro caller executes job works rfl
  obtain ⟨body, watches⟩ := (mem_executing_iff distinct).mp executes
  obtain ⟨standing, found, -⟩ := Option.bind_eq_some_iff.mp watches
  have found' := (mem_working_iff distinct).mp works
  cases (manned.no_job found).symm.trans found'

theorem holders_perm (distinct : Distinct scheduler) (manned : Manned scheduler) :
    scheduler.permits.holders.Perm
      (scheduler.executing ++ scheduler.working ++ scheduler.assigned) := by
  have once : scheduler.permits.holders.Nodup := (List.take_sublist ..).nodup manned.once
  have split : scheduler.permits.holders.Perm
      (scheduler.permits.holders.filter (scheduler.executing ++ scheduler.working).contains ++
        scheduler.assigned) := (List.filter_append_perm _ _).symm
  refine split.trans (List.Perm.append_right _ ?_)
  rw [List.perm_ext_iff_of_nodup (once.filter _) (nodup_held distinct manned)]
  intro caller
  rw [List.mem_filter, List.contains_iff_mem]
  exact and_iff_right_of_imp (held_subset distinct manned)

theorem waits_of_assigned (distinct : Distinct scheduler) (manned : Manned scheduler)
    {caller : Nat} (assigned : caller ∈ scheduler.assigned) :
    (∃ index, scheduler.loops.lookup caller = some ⟨index, .acquiring⟩) ∨
      scheduler.jobs.lookup caller = some .queued := by
  obtain ⟨holds, unheld⟩ := List.mem_filter.mp assigned
  have inLine := Permits.mem_line_of_mem_holders holds
  have fits := manned.fits caller
  have free : placeOf scheduler caller ≠ .holding := by
    intro holding
    have held := List.mem_append.mpr ((holding_iff distinct manned).mp holding)
    rw [List.contains_iff_mem.mpr held] at unheld
    cases unheld
  cases loops : scheduler.loops.lookup caller with
  | some standing =>
      obtain ⟨index, stage⟩ := standing
      rw [placeOf_loop loops] at fits free
      cases stage with
      | announcing | sleeping => exact absurd inLine fits
      | acquiring => exact .inl ⟨index, rfl⟩
      | running | reaping => exact absurd rfl free
  | none =>
      cases jobs : scheduler.jobs.lookup caller with
      | some stage =>
          rw [placeOf_job loops jobs] at fits free
          cases stage with
          | spawned => exact absurd inLine fits
          | queued => exact .inr rfl
          | running => exact absurd rfl free
      | none =>
          rw [placeOf_none loops jobs] at fits
          exact absurd inLine fits

theorem length_liveBodies_le (distinct : Distinct scheduler)
    (tended : ∀ body, scheduler.bodies.lookup body = some none →
      ∃ loop, watchedBy scheduler loop = some body) :
    scheduler.liveBodies.length ≤ scheduler.executing.length := by
  have within : scheduler.liveBodies ⊆
      scheduler.executing.map fun loop => (watchedBy scheduler loop).getD 0 := by
    intro body lives
    obtain ⟨loop, watches⟩ := tended body ((mem_liveBodies_iff distinct).mp lives)
    refine List.mem_map.mpr ⟨loop, (mem_executing_iff distinct).mpr ⟨body, watches⟩, ?_⟩
    rw [watches]
    rfl
  have shorter := ((nodup_those distinct.bodies _).subperm within).length_le
  rwa [List.length_map] at shorter

/-! ## Nothing can go on -/

/-- At this moment no loop can go on, and no job that does not work yet. -/
structure Quiescent (scheduler : Scheduler) (now : Nat) : Prop where
  loops : ∀ loop standing, scheduler.loops.lookup loop = some standing →
    ∃ body closingFirst wake,
      (scheduler.step (.pollLoop loop now body closingFirst)).2 = .wait wake
  jobs : ∀ job stage, scheduler.jobs.lookup job = some stage → stage ≠ .running →
    ∃ wake, (scheduler.step (.pollJob job)).2 = .wait wake

theorem Quiescent.pollLoop {now : Nat} (quiescent : Quiescent scheduler now) {loop index : Nat}
    {stage : LoopStage} (found : scheduler.loops.lookup loop = some ⟨index, stage⟩) :
    ∃ task body closingFirst wake,
      (scheduler.pollLoop loop index task now body closingFirst stage).2 = .wait wake := by
  obtain ⟨body, closingFirst, wake, waits⟩ := quiescent.loops loop _ found
  simp only [step, found] at waits
  split at waits
  · cases waits
  · next task there =>
      split at waits
      · cases waits
      · exact ⟨task, body, closingFirst, wake, waits⟩

theorem Quiescent.pollJob {now : Nat} (quiescent : Quiescent scheduler now) {job : Nat}
    {stage : JobStage} (found : scheduler.jobs.lookup job = some stage)
    (idle : stage ≠ .running) : ∃ wake, (scheduler.pollJob job stage).2 = .wait wake := by
  obtain ⟨wake, waits⟩ := quiescent.jobs job stage found idle
  simp only [step, found] at waits
  exact ⟨wake, waits⟩

theorem Quiescent.not_holding_loop {now : Nat} (quiescent : Quiescent scheduler now)
    (opened : scheduler.closing = false) {loop index : Nat}
    (found : scheduler.loops.lookup loop = some ⟨index, .acquiring⟩) :
    loop ∉ scheduler.permits.holders := by
  intro holds
  obtain ⟨task, body, closingFirst, wake, waits⟩ := quiescent.pollLoop found
  have inLine := Permits.mem_line_of_mem_holders holds
  simp [Scheduler.pollLoop, opened, holds, inLine] at waits

theorem Quiescent.not_holding_job {now : Nat} (quiescent : Quiescent scheduler now)
    (opened : scheduler.permits.closed = false) {job : Nat}
    (found : scheduler.jobs.lookup job = some .queued) :
    job ∉ scheduler.permits.holders := by
  intro holds
  obtain ⟨wake, waits⟩ := quiescent.pollJob found nofun
  simp [Scheduler.pollJob, opened, holds] at waits

theorem Quiescent.not_ended {now : Nat} (quiescent : Quiescent scheduler now)
    (opened : scheduler.closing = false) {loop body : Nat} {how : BodyEnd}
    (watches : watchedBy scheduler loop = some body) :
    scheduler.bodies.lookup body ≠ some (some how) := by
  intro ended
  obtain ⟨⟨index, stage⟩, found, own⟩ := Option.bind_eq_some_iff.mp watches
  obtain ⟨task, other, closingFirst, wake, waits⟩ := quiescent.pollLoop found
  cases stage with
  | announcing | sleeping | acquiring => cases own
  | running watched deadline =>
      cases own
      simp [Scheduler.pollLoop, opened, ended] at waits
  | reaping watched cause =>
      cases own
      simp [Scheduler.pollLoop, ended] at waits

theorem Quiescent.line_eq_nil {now : Nat} (quiescent : Quiescent scheduler now)
    (opened : scheduler.closing = false) (gated : Gated scheduler) (distinct : Distinct scheduler)
    (manned : Manned scheduler) (watched : Watched scheduler)
    (some_permit : 0 < scheduler.permits.size) (noBody : scheduler.liveBodies = [])
    (noJob : scheduler.working = []) : scheduler.permits.line = [] := by
  have unclosed : scheduler.permits.closed = false := gated.permits.trans opened
  have noRun : scheduler.executing = [] := by
    refine List.eq_nil_iff_forall_not_mem.mpr fun loop executes => ?_
    obtain ⟨body, watches⟩ := (mem_executing_iff distinct).mp executes
    obtain ⟨how, there⟩ := watched.present loop body watches
    cases how with
    | none =>
        have lives := (mem_liveBodies_iff distinct).mpr there
        rw [noBody] at lives
        cases lives
    | some how => exact quiescent.not_ended opened watches there
  have noneAssigned : scheduler.assigned = [] := by
    refine List.eq_nil_iff_forall_not_mem.mpr fun caller assigned => ?_
    have holds := (List.mem_filter.mp assigned).1
    rcases waits_of_assigned distinct manned assigned with ⟨index, found⟩ | found
    · exact quiescent.not_holding_loop opened found holds
    · exact quiescent.not_holding_job unclosed found holds
  have nobody : scheduler.permits.holders = [] := by
    have shared := holders_perm distinct manned
    rw [noRun, noJob, noneAssigned] at shared
    exact shared.eq_nil
  rcases List.take_eq_nil_iff.mp nobody with none | empty
  · omega
  · exact empty

theorem Quiescent.jobs_eq_nil {now : Nat} (quiescent : Quiescent scheduler now)
    (unclosed : scheduler.permits.closed = false) (distinct : Distinct scheduler)
    (manned : Manned scheduler) (line : scheduler.permits.line = [])
    (noJob : scheduler.working = []) (job : Nat) : scheduler.jobs.lookup job = none := by
  cases found : scheduler.jobs.lookup job with
  | none => rfl
  | some stage =>
      cases stage with
      | spawned =>
          obtain ⟨wake, waits⟩ := quiescent.pollJob found nofun
          simp [Scheduler.pollJob, unclosed] at waits
      | queued =>
          have fits := manned.fits job
          rw [placeOf_job (manned.no_loop found) found] at fits
          have inLine : job ∈ scheduler.permits.line := fits
          rw [line] at inLine
          cases inLine
      | running =>
          have works := (mem_working_iff distinct).mpr found
          rw [noJob] at works
          cases works

/-! ## Permits are conserved -/

/-- Every permit is idle, or in the hands of one caller, who executes a run, works, or is next to do
so. -/
structure Conserved (scheduler : Scheduler) : Prop where
  once : scheduler.permits.holders.Nodup
  holders : scheduler.permits.holders.Perm
    (scheduler.executing ++ scheduler.working ++ scheduler.assigned)
  executes : ∀ loop, loop ∈ scheduler.executing → ∃ body how,
    watchedBy scheduler loop = some body ∧ scheduler.bodies.lookup body = some how
  waits : ∀ caller, caller ∈ scheduler.assigned →
    (∃ index, scheduler.loops.lookup caller = some ⟨index, .acquiring⟩) ∨
      scheduler.jobs.lookup caller = some .queued
  total : scheduler.permits.idle + (scheduler.executing.length + scheduler.working.length +
    scheduler.assigned.length) = scheduler.permits.size

theorem conserved_of_manned (distinct : Distinct scheduler) (manned : Manned scheduler)
    (watched : Watched scheduler) : Conserved scheduler := by
  have shared := holders_perm distinct manned
  constructor
  case once => exact (List.take_sublist ..).nodup manned.once
  case holders => exact shared
  case executes =>
    intro loop executes
    obtain ⟨body, watches⟩ := (mem_executing_iff distinct).mp executes
    obtain ⟨how, there⟩ := watched.present loop body watches
    exact ⟨body, how, watches, there⟩
  case waits => exact fun caller assigned => waits_of_assigned distinct manned assigned
  case total =>
    have parts := shared.length_eq
    rw [List.length_append, List.length_append] at parts
    have whole := scheduler.permits.length_holders_add_idle
    omega

end State

theorem watchedBy_of_alive {life : Life workers} {n body : Nat}
    (lives : (life.before n).bodies.lookup body = some none) :
    ∃ loop, watchedBy (life.before n) loop = some body := by
  obtain ⟨s, index, alive⟩ := (exists_alive_iff life body n).mp lives
  obtain ⟨loop, _, _, _, _, _, tends⟩ := tends_of_alive alive
  obtain ⟨stage, found, watches⟩ := tends.watches
  exact ⟨loop, (watchedBy_of_lookup found).trans watches⟩

theorem length_live_add_working_le (life : Life workers) (n : Nat) :
    (life.before n).liveBodies.length + (life.before n).working.length ≤
      (life.before n).permits.size := by
  have distinct := distinct_before life n
  have live := length_liveBodies_le distinct fun _ lives => watchedBy_of_alive lives
  have total := (conserved_of_manned distinct (manned_before life n) (watched_before life n)).total
  omega

/-- What is promised to the users of a pool.  However a run or a job ends, it gives back its own
permit. -/
structure Pooled (life : Life workers) : Prop where
  size : ∀ n, (life.before n).permits.size = max workers 1
  bounded : ∀ n, (life.before n).liveBodies.length + (life.before n).working.length ≤
    (life.before n).permits.size
  conserved : ∀ n, (life.before n).closing = false → Conserved (life.before n)
  released : ∀ n loop now body closingFirst index outcome,
    life.event n = .pollLoop loop now body closingFirst → life.reply n = .runEnded index outcome →
    (life.before (n + 1)).permits.line = (life.before n).permits.line.erase loop ∧
      loop ∉ (life.before (n + 1)).permits.line
  left : ∀ n job, life.event n = .jobEnded job → life.reply n = .progress →
    (life.before (n + 1)).permits.line = (life.before n).permits.line.erase job ∧
      job ∉ (life.before (n + 1)).permits.line
  once : ∀ i job w w', RunsJob life i job w → RunsJob life i job w' → w = w'
  settled : ∀ n now, (life.before n).closing = false → Quiescent (life.before n) now →
    (life.before n).liveBodies = [] → (life.before n).working = [] →
    (life.before n).permits.idle = (life.before n).permits.size ∧
      ∀ i job, i < n → AcceptsJob life i job →
        (life.before n).jobs.lookup job = none ∧ ∃ w, w < n ∧ RunsJob life i job w

theorem released_of_change {scheduler next : Scheduler} (manned : Manned scheduler)
    {loop now body index : Nat} {closingFirst : Bool} {outcome : RunOutcome}
    (change : Change scheduler (.pollLoop loop now body closingFirst) next
      (.runEnded index outcome)) :
    next.permits.line = scheduler.permits.line.erase loop ∧ loop ∉ next.permits.line := by
  cases change with
  | polledLoop _ _ _ change =>
      cases change with
      | quit | finished | reaped =>
          rw [permits_endRun]
          exact ⟨rfl, manned.once.not_mem_erase⟩

theorem left_of_jobEnded {scheduler next : Scheduler} (manned : Manned scheduler) {job : Nat}
    (change : Change scheduler (.jobEnded job) next .progress) :
    next.permits.line = scheduler.permits.line.erase job ∧ job ∉ next.permits.line := by
  cases change with
  | jobEnded => exact ⟨rfl, manned.once.not_mem_erase⟩

/-- There are never more bodies and working jobs than permits, no permit is lost, and every job that
was accepted works once. -/
theorem pooled (life : Life workers) : Pooled life := by
  constructor
  case size => exact size_before life
  case bounded => exact length_live_add_working_le life
  case conserved =>
    intro n _
    exact conserved_of_manned (distinct_before life n) (manned_before life n)
      (watched_before life n)
  case released =>
    intro n loop now body closingFirst index outcome event reply
    have change := change_at life n
    rw [event, reply] at change
    exact released_of_change (manned_before life n) change
  case left =>
    intro n job event reply
    have change := change_at life n
    rw [event, reply] at change
    exact left_of_jobEnded (manned_before life n) change
  case once => exact fun i job w w' runs again => runs.unique again
  case settled =>
    intro n now opened quiescent noBody noJob
    have gated := gated_before life n
    have distinct := distinct_before life n
    have manned := manned_before life n
    have some_permit : 0 < (life.before n).permits.size := by
      rw [size_before]
      omega
    have line := quiescent.line_eq_nil opened gated distinct manned (watched_before life n)
      some_permit noBody noJob
    have noneLeft := quiescent.jobs_eq_nil (gated.permits.trans opened) distinct manned line noJob
    constructor
    · rw [Permits.idle, line]
      rfl
    · intro i job after accepts
      refine ⟨noneLeft job, ?_⟩
      rcases accepts.runs_or_has after opened with ran | ⟨has, -⟩
      · exact ran
      · exact absurd (noneLeft job) (has.lasts n has.after (Nat.le_refl n))

def doneOnce : Life 1 :=
  .ofList [.schedule 1 "patrol" ⟨.zero, .ofMillis 5, .ofMillis 10⟩, .pollLoop 1 0 9 false,
    .pollLoop 1 0 9 false, .pollLoop 1 0 9 false, .pollLoop 1 0 2 false, .spawnJob 3, .pollJob 3,
    .bodyEnded 2 .panicked, .pollLoop 1 0 9 false, .pollJob 3, .jobEnded 3] (.pollJob 0)

theorem quiescent_doneOnce : Quiescent (doneOnce.before 11) 0 := by
  constructor
  · intro loop standing found
    cases found
  · intro job stage found
    cases found

theorem pooled_doneOnce :
    (doneOnce.before 11).permits.idle = 1 ∧ ∃ w, w < 11 ∧ RunsJob doneOnce 5 3 w := by
  have settled := (pooled doneOnce).settled 11 0 rfl quiescent_doneOnce rfl rfl
  exact ⟨settled.1, (settled.2 5 3 (by decide) ⟨rfl, rfl⟩).2⟩

end Steward.Scheduler
