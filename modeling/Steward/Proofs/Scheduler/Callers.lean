import Steward.Proofs.Scheduler.Closing
/-!
# Who stands in line for a permit

A loop stands in line from asking for a permit to the end of its run, and a job from asking to its
own end.  Nobody else does, and nobody stands there twice.  A loop with a body and a job that works
hold a permit, since the callers in front of the line keep their places when others come and go.
-/

set_option autoImplicit false

namespace Steward.Scheduler

variable {workers : Nat}

/-! ## Places -/

inductive Place where
  | outside
  | asking
  | waiting
  | holding
  deriving DecidableEq

def LoopStage.place : LoopStage → Place
  | .announcing _ | .sleeping _ => .outside
  | .acquiring => .asking
  | .running _ _ | .reaping _ _ => .holding

def JobStage.place : JobStage → Place
  | .spawned => .outside
  | .queued => .waiting
  | .running => .holding

def placeOf (scheduler : Scheduler) (caller : Nat) : Place :=
  match scheduler.loops.lookup caller, scheduler.jobs.lookup caller with
  | some standing, _ => standing.stage.place
  | none, some stage => stage.place
  | none, none => .outside

def Place.Fits (permits : Permits) (caller : Nat) : Place → Prop
  | .outside => caller ∉ permits.line
  | .asking => True
  | .waiting => caller ∈ permits.line
  | .holding => caller ∈ permits.holders

theorem Place.Fits.ask {permits : Permits} {caller other : Nat} {place : Place}
    (fits : place.Fits permits other) (apart : other ≠ caller) :
    place.Fits (permits.ask caller) other := by
  cases place with
  | outside => simpa [Place.Fits, Permits.ask, apart] using fits
  | asking => trivial
  | waiting => exact List.mem_append_left _ fits
  | holding => exact Permits.mem_holders_ask fits

theorem Place.Fits.leave {permits : Permits} {caller other : Nat} {place : Place}
    (fits : place.Fits permits other) (apart : other ≠ caller) :
    place.Fits (permits.leave caller) other := by
  cases place with
  | outside => exact fun member => fits (List.mem_of_mem_erase member)
  | asking => trivial
  | waiting => exact (List.mem_erase_of_ne apart).mpr fits
  | holding => exact Permits.mem_holders_leave apart fits

section Step

variable {scheduler next : Scheduler} {event : Event} {reply : Reply}

theorem placeOf_congr {caller : Nat}
    (loops : next.loops.lookup caller = scheduler.loops.lookup caller)
    (jobs : next.jobs.lookup caller = scheduler.jobs.lookup caller) :
    placeOf next caller = placeOf scheduler caller := by
  simp only [placeOf, loops, jobs]

theorem placeOf_loop {loop : Nat} {standing : Loop}
    (found : scheduler.loops.lookup loop = some standing) :
    placeOf scheduler loop = standing.stage.place := by
  simp only [placeOf, found]

theorem placeOf_job {job : Nat} {stage : JobStage} (alone : scheduler.loops.lookup job = none)
    (found : scheduler.jobs.lookup job = some stage) : placeOf scheduler job = stage.place := by
  simp only [placeOf, alone, found]

theorem placeOf_none {caller : Nat} (loops : scheduler.loops.lookup caller = none)
    (jobs : scheduler.jobs.lookup caller = none) : placeOf scheduler caller = .outside := by
  simp only [placeOf, loops, jobs]

/-! ## The line and the places fit together -/

/-- Everyone stands in line as its stage says, and no number is that of a loop and of a job. -/
structure Manned (scheduler : Scheduler) : Prop where
  once : scheduler.permits.line.Nodup
  fits : ∀ caller, (placeOf scheduler caller).Fits scheduler.permits caller
  apart : ∀ number,
    scheduler.loops.lookup number = none ∨ scheduler.jobs.lookup number = none

theorem Manned.no_job (manned : Manned scheduler) {loop : Nat} {standing : Loop}
    (found : scheduler.loops.lookup loop = some standing) :
    scheduler.jobs.lookup loop = none := by
  rcases manned.apart loop with absent | absent
  · cases found.symm.trans absent
  · exact absent

theorem Manned.no_loop (manned : Manned scheduler) {job : Nat} {stage : JobStage}
    (found : scheduler.jobs.lookup job = some stage) : scheduler.loops.lookup job = none := by
  rcases manned.apart job with absent | absent
  · exact absent
  · cases found.symm.trans absent

/-- An event that concerns this caller alone. -/
structure Concerns (scheduler next : Scheduler) (caller : Nat) : Prop where
  loops : ∀ other, other ≠ caller → next.loops.lookup other = scheduler.loops.lookup other
  jobs : ∀ other, other ≠ caller → next.jobs.lookup other = scheduler.jobs.lookup other
  own : next.loops.lookup caller = none ∨ next.jobs.lookup caller = none

theorem Concerns.place {caller other : Nat} (concerns : Concerns scheduler next caller)
    (apart : other ≠ caller) : placeOf next other = placeOf scheduler other :=
  placeOf_congr (concerns.loops other apart) (concerns.jobs other apart)

theorem Concerns.apart {caller : Nat} (concerns : Concerns scheduler next caller)
    (manned : Manned scheduler) (number : Nat) :
    next.loops.lookup number = none ∨ next.jobs.lookup number = none := by
  by_cases own : number = caller
  · subst own
    exact concerns.own
  · rw [concerns.loops number own, concerns.jobs number own]
    exact manned.apart number

theorem Manned.kept (manned : Manned scheduler) {caller : Nat}
    (concerns : Concerns scheduler next caller) (permits : next.permits = scheduler.permits)
    {place : Place} (own : placeOf next caller = place)
    (fits : place.Fits scheduler.permits caller) : Manned next := by
  refine ⟨permits ▸ manned.once, fun other => ?_, concerns.apart manned⟩
  rw [permits]
  by_cases same : other = caller
  · subst same
    rw [own]
    exact fits
  · rw [concerns.place same]
    exact manned.fits other

theorem Manned.asked (manned : Manned scheduler) {caller : Nat}
    (concerns : Concerns scheduler next caller)
    (permits : next.permits = scheduler.permits.ask caller)
    (absent : caller ∉ scheduler.permits.line)
    (own : placeOf next caller = .asking ∨ placeOf next caller = .waiting) : Manned next := by
  refine ⟨?_, fun other => ?_, concerns.apart manned⟩
  · rw [permits]
    exact List.nodup_append.mpr ⟨manned.once, List.nodup_singleton caller, by
      intro other member last isLast same
      rw [List.mem_singleton] at isLast
      exact absent (isLast ▸ same ▸ member)⟩
  · rw [permits]
    by_cases same : other = caller
    · subst same
      rcases own with asking | waiting
      · rw [asking]
        trivial
      · rw [waiting]
        exact List.mem_append_right _ (List.mem_singleton_self other)
    · rw [concerns.place same]
      exact (manned.fits other).ask same

theorem Manned.left (manned : Manned scheduler) {caller : Nat}
    (concerns : Concerns scheduler next caller)
    (permits : next.permits = scheduler.permits.leave caller)
    (own : placeOf next caller = .outside) : Manned next := by
  refine ⟨?_, fun other => ?_, concerns.apart manned⟩
  · rw [permits]
    exact manned.once.erase caller
  · rw [permits]
    by_cases same : other = caller
    · subst same
      rw [own]
      exact manned.once.not_mem_erase
    · rw [concerns.place same]
      exact (manned.fits other).leave same

/-! ## Every event keeps them together -/

@[simp] theorem jobs_setJob (scheduler : Scheduler) (job : Nat) (stage : JobStage) (other : Nat) :
    (scheduler.setJob job stage).jobs.lookup other =
      if other = job then some stage else scheduler.jobs.lookup other :=
  lookup_placed scheduler.jobs job other stage

@[simp] theorem jobs_endRun (scheduler : Scheduler) (loop : Nat) (task : Task) (index : Nat)
    (outcome : RunOutcome) :
    (scheduler.endRun loop task index outcome).jobs = scheduler.jobs := by
  cases outcome <;> rfl

theorem jobs_of_loopChange {loop index now body : Nat} {task : Task} {stage : LoopStage}
    (change : LoopChange scheduler loop index task now body stage next reply) :
    next.jobs = scheduler.jobs := by
  cases change with
  | waited | announced | exited | woke | asked | began | stopped | overran => rfl
  | quit | finished | reaped => exact jobs_endRun ..

theorem placeOf_endRun {scheduler : Scheduler} {loop : Nat}
    (noJob : scheduler.jobs.lookup loop = none) (task : Task) (index : Nat)
    (outcome : RunOutcome) :
    placeOf (scheduler.endRun loop task index outcome) loop = .outside := by
  have jobs : (scheduler.endRun loop task index outcome).jobs.lookup loop = none := by
    rw [jobs_endRun]
    exact noJob
  have loops : (scheduler.endRun loop task index outcome).loops.lookup loop =
      afterRun task index outcome := by
    rw [loops_endRun, if_pos rfl]
  cases after : afterRun task index outcome with
  | none => exact placeOf_none (loops.trans after) jobs
  | some standing =>
      rw [placeOf_loop (loops.trans after), afterRun_eq after]
      rfl

theorem manned_of_loopChange (manned : Manned scheduler) {loop index now body : Nat} {task : Task}
    {stage : LoopStage} (found : scheduler.loops.lookup loop = some ⟨index, stage⟩)
    (change : LoopChange scheduler loop index task now body stage next reply) : Manned next := by
  have noJob := manned.no_job found
  have concerns : Concerns scheduler next loop := by
    have jobs := jobs_of_loopChange change
    refine ⟨fun other apart => change.others apart, fun other _ => ?_, .inr ?_⟩
    · rw [jobs]
    · rw [jobs]
      exact noJob
  have fits := manned.fits loop
  rw [placeOf_loop found] at fits
  have at_stage : ∀ (scheduler : Scheduler) (standing : Loop),
      placeOf (scheduler.setLoop loop standing) loop = standing.stage.place :=
    fun scheduler standing => placeOf_loop ((loops_setLoop ..).trans (if_pos rfl))
  cases change with
  | waited => exact manned
  | announced => exact manned.kept concerns rfl (at_stage ..) fits
  | exited =>
      have gone : (scheduler.endLoop loop).loops.lookup loop = none :=
        (loops_endLoop ..).trans (if_pos rfl)
      exact manned.kept concerns rfl (placeOf_none gone noJob) fits
  | woke => exact manned.kept concerns rfl (at_stage ..) trivial
  | asked _ absent => exact manned.asked concerns rfl absent (.inl (placeOf_loop found))
  | began _ holds => exact manned.kept concerns rfl (at_stage ..) holds
  | stopped | overran => exact manned.kept concerns rfl (at_stage ..) fits
  | quit => exact manned.left concerns (permits_endRun ..) (placeOf_endRun noJob ..)
  | finished | reaped =>
      refine manned.left concerns (permits_endRun ..) (placeOf_endRun ?_ ..)
      exact noJob

theorem concerns_forgotten {job : Nat} (noLoop : scheduler.loops.lookup job = none)
    (loops : next.loops = scheduler.loops)
    (jobs : next.jobs = scheduler.jobs.filter (·.1 != job)) : Concerns scheduler next job := by
  refine ⟨fun other _ => by rw [loops], fun other apart => ?_, .inl (by rw [loops, noLoop])⟩
  rw [jobs, lookup_forgotten, if_neg apart]

theorem placeOf_forgotten {job : Nat} (noLoop : scheduler.loops.lookup job = none)
    (loops : next.loops = scheduler.loops)
    (jobs : next.jobs = scheduler.jobs.filter (·.1 != job)) : placeOf next job = .outside := by
  refine placeOf_none (by rw [loops, noLoop]) ?_
  rw [jobs, lookup_forgotten, if_pos rfl]

theorem concerns_setJob {job : Nat} {stage : JobStage}
    (noLoop : scheduler.loops.lookup job = none) (permits : Permits) :
    Concerns scheduler ({ scheduler with permits := permits }.setJob job stage) job :=
  ⟨fun _ _ => rfl, fun _ apart => (jobs_setJob ..).trans (if_neg apart), .inl noLoop⟩

theorem placeOf_setJob {job : Nat} {stage : JobStage}
    (noLoop : scheduler.loops.lookup job = none) (permits : Permits) :
    placeOf ({ scheduler with permits := permits }.setJob job stage) job = stage.place :=
  placeOf_job noLoop ((jobs_setJob ..).trans (if_pos rfl))

theorem manned_of_jobChange (manned : Manned scheduler) {job : Nat} {stage : JobStage}
    (found : scheduler.jobs.lookup job = some stage)
    (change : JobChange scheduler job stage next reply) : Manned next := by
  have noLoop := manned.no_loop found
  have fits := manned.fits job
  rw [placeOf_job noLoop found] at fits
  cases change with
  | refused | waited => exact manned
  | turnedAway =>
      exact manned.kept (concerns_forgotten noLoop rfl rfl) rfl
        (placeOf_forgotten noLoop rfl rfl) fits
  | asked =>
      exact manned.asked (concerns_setJob noLoop _) rfl fits (.inr (placeOf_setJob noLoop _))
  | withdrew =>
      exact manned.left (concerns_forgotten noLoop rfl rfl) rfl (placeOf_forgotten noLoop rfl rfl)
  | began _ holds =>
      exact manned.kept (concerns_setJob noLoop scheduler.permits) rfl
        (placeOf_setJob noLoop scheduler.permits) holds

theorem Manned.unused (manned : Manned scheduler) {number : Nat}
    (unused : scheduler.uses number = false) : number ∉ scheduler.permits.line := by
  obtain ⟨loops, -, jobs, -⟩ := unused_iff.mp unused
  have fits := manned.fits number
  rwa [placeOf_none loops jobs] at fits

theorem Manned.started (manned : Manned scheduler) {loop index : Nat} {delay : Duration}
    (unused : scheduler.uses loop = false)
    (permits : next.permits = scheduler.permits) (jobs : next.jobs = scheduler.jobs)
    (loops : ∀ other, next.loops.lookup other =
      if other = loop then some ⟨index, .announcing delay⟩ else scheduler.loops.lookup other) :
    Manned next := by
  obtain ⟨-, -, noJob, -⟩ := unused_iff.mp unused
  have concerns : Concerns scheduler next loop := by
    refine ⟨fun other apart => ?_, fun other _ => by rw [jobs], .inr (by rw [jobs, noJob])⟩
    rw [loops, if_neg apart]
  have own : next.loops.lookup loop = some ⟨index, .announcing delay⟩ := by
    rw [loops, if_pos rfl]
  exact manned.kept concerns permits (placeOf_loop own) (manned.unused unused)

theorem manned_of_change (manned : Manned scheduler) (change : Change scheduler event next reply) :
    Manned next := by
  cases change with
  | refused | turnedAway | unfit | ended | closed | closedBefore | droppedShutdown =>
      exact ⟨manned.once, manned.fits, manned.apart⟩
  | polledShutdown _ change => cases change <;> exact ⟨manned.once, manned.fits, manned.apart⟩
  | polledLoop found _ _ change => exact manned_of_loopChange manned found change
  | polledJob found change => exact manned_of_jobChange manned found change
  | scheduled unused => exact manned.started unused rfl rfl (loops_setLoop _ _ _)
  | resubmitted _ unused => exact manned.started unused rfl rfl (loops_setLoop _ _ _)
  | spawned unused =>
      obtain ⟨noLoop, -⟩ := unused_iff.mp unused
      exact manned.kept (concerns_setJob noLoop scheduler.permits) rfl
        (placeOf_setJob noLoop scheduler.permits) (manned.unused unused)
  | jobEnded found =>
      have noLoop := manned.no_loop found
      exact manned.left (concerns_forgotten noLoop rfl rfl) rfl (placeOf_forgotten noLoop rfl rfl)

theorem size_of_change (change : Change scheduler event next reply) :
    next.permits.size = scheduler.permits.size := by
  cases change with
  | refused | turnedAway | unfit | scheduled | resubmitted | ended | spawned | jobEnded | closed
  | closedBefore | droppedShutdown => rfl
  | polledShutdown _ change => cases change <;> rfl
  | polledJob _ change => cases change <;> rfl
  | polledLoop _ _ _ change =>
      cases change with
      | waited | announced | exited | woke | asked | began | stopped | overran => rfl
      | quit | finished | reaped =>
          rw [permits_endRun]
          rfl

end Step

theorem size_before (life : Life workers) (n : Nat) :
    (life.before n).permits.size = max workers 1 :=
  life.holds_of_kept (·.permits.size = max workers 1) rfl
    (fun n size => (size_of_change (change_at life n)).trans size) n

theorem manned_before (life : Life workers) (n : Nat) : Manned (life.before n) := by
  refine life.holds_of_kept Manned ⟨List.nodup_nil, fun caller => ?_, fun _ => .inl rfl⟩
    (fun n manned => manned_of_change manned (change_at life n)) n
  exact List.not_mem_nil

end Steward.Scheduler
