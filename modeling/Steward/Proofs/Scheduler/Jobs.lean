import Steward.Proofs.Scheduler.Callers
/-!
# Jobs in the life of a scheduler

A job that is accepted asks for a permit, waits, works and is gone.  It begins to work at most once.
As long as the scheduler is open, nothing but its own end takes away a job, so a job that is gone
has worked.
-/

set_option autoImplicit false

namespace Steward.Scheduler

variable {workers : Nat}

section Step

variable {scheduler next : Scheduler} {event : Event} {reply : Reply}

/-- What an event does to the job of this number. -/
inductive JobMoves (scheduler : Scheduler) (job : Nat) :
    Event → Reply → Option JobStage → Option JobStage → Prop where
  | stayed {event : Event} {reply : Reply} {stage : Option JobStage}
      (unasked : event = .spawnJob job → reply ≠ .accepted)
      (idle : event = .pollJob job → reply ≠ .work) :
      JobMoves scheduler job event reply stage stage
  | accepted : JobMoves scheduler job (.spawnJob job) .accepted none (some .spawned)
  | asked : JobMoves scheduler job (.pollJob job) .progress (some .spawned) (some .queued)
  | began (opened : scheduler.permits.closed = false) :
      JobMoves scheduler job (.pollJob job) .work (some .queued) (some .running)
  | turnedAway {stage : JobStage} (closed : scheduler.permits.closed = true) :
      JobMoves scheduler job (.pollJob job) .exited (some stage) none
  | ended {stage : JobStage} (begun : stage = .running ∨ scheduler.permits.closed = true) :
      JobMoves scheduler job (.jobEnded job) .progress (some stage) none

theorem moves_of_jobChange {job : Nat} {stage : JobStage}
    (found : scheduler.jobs.lookup job = some stage)
    (change : JobChange scheduler job stage next reply) :
    JobMoves scheduler job (.pollJob job) reply (some stage) (next.jobs.lookup job) := by
  have gone : (scheduler.jobs.filter (·.1 != job)).lookup job = none :=
    (lookup_forgotten ..).trans (if_pos rfl)
  cases change with
  | refused | waited =>
      rw [found]
      exact .stayed nofun nofun
  | turnedAway closed =>
      rw [gone]
      exact .turnedAway closed
  | withdrew closed =>
      rw [gone]
      exact .turnedAway closed
  | asked =>
      rw [jobs_setJob, if_pos rfl]
      exact .asked
  | began opened =>
      rw [jobs_setJob, if_pos rfl]
      exact .began opened

theorem jobs_of_jobChange {job other : Nat} {stage : JobStage}
    (change : JobChange scheduler job stage next reply) (apart : other ≠ job) :
    next.jobs.lookup other = scheduler.jobs.lookup other := by
  cases change with
  | refused | waited => rfl
  | turnedAway | withdrew => exact (lookup_forgotten ..).trans (if_neg apart)
  | asked | began => exact (jobs_setJob ..).trans (if_neg apart)

theorem job_moves (change : Change scheduler event next reply) (job : Nat) :
    JobMoves scheduler job event reply (scheduler.jobs.lookup job) (next.jobs.lookup job) := by
  cases change with
  | refused => exact .stayed (fun _ => nofun) (fun _ => nofun)
  | turnedAway => exact .stayed (fun _ => nofun) (fun _ => nofun)
  | scheduled | resubmitted | unfit | ended | closed | closedBefore | droppedShutdown =>
      exact .stayed nofun nofun
  | polledShutdown _ change => cases change <;> exact .stayed nofun nofun
  | polledLoop _ _ _ change =>
      rw [jobs_of_loopChange change]
      exact .stayed nofun nofun
  | @polledJob polled _ _ _ found change =>
      by_cases own : job = polled
      · subst own
        rw [found]
        exact moves_of_jobChange found change
      · rw [jobs_of_jobChange change own]
        refine .stayed nofun ?_
        rintro ⟨⟩
        exact absurd rfl own
  | @spawned spawned unused =>
      rw [jobs_setJob]
      by_cases own : job = spawned
      · subst own
        rw [(unused_iff.mp unused).2.2.1, if_pos rfl]
        exact .accepted
      · rw [if_neg own]
        refine .stayed ?_ nofun
        rintro ⟨⟩
        exact absurd rfl own
  | @jobEnded ended _ found begun =>
      rw [lookup_forgotten]
      by_cases own : job = ended
      · subst own
        rw [found, if_pos rfl]
        exact .ended begun
      · rw [if_neg own]
        exact .stayed nofun nofun

end Step

/-! ## From accepting a job to its end -/

def AcceptsJob (life : Life workers) (i job : Nat) : Prop :=
  life.event i = .spawnJob job ∧ life.reply i = .accepted

def BeginsJob (life : Life workers) (w job : Nat) : Prop :=
  life.event w = .pollJob job ∧ life.reply w = .work

/-- The job that event number `i` accepted is there when event number `n` comes. -/
structure HasJob (life : Life workers) (i job n : Nat) : Prop where
  accepted : AcceptsJob life i job
  after : i < n
  lasts : ∀ k, i < k → k ≤ n → (life.before k).jobs.lookup job ≠ none

/-- The job that event number `i` accepted begins to work by event number `w`. -/
structure RunsJob (life : Life workers) (i job w : Nat) : Prop where
  has : HasJob life i job w
  begins : BeginsJob life w job

theorem moves_at (life : Life workers) (n job : Nat) :
    JobMoves (life.before n) job (life.event n) (life.reply n)
      ((life.before n).jobs.lookup job) ((life.before (n + 1)).jobs.lookup job) :=
  job_moves (change_at life n) job

theorem AcceptsJob.spawned {life : Life workers} {i job : Nat} (accepts : AcceptsJob life i job) :
    (life.before (i + 1)).jobs.lookup job = some .spawned := by
  obtain ⟨event, reply⟩ := accepts
  have moves := moves_at life i job
  rw [event, reply] at moves
  generalize (life.before i).jobs.lookup job = before at moves
  generalize (life.before (i + 1)).jobs.lookup job = after at moves ⊢
  cases moves with
  | stayed unasked => exact absurd rfl (unasked rfl)
  | accepted => rfl

theorem BeginsJob.works {life : Life workers} {w job : Nat} (begins : BeginsJob life w job) :
    (life.before w).jobs.lookup job = some .queued ∧
      (life.before (w + 1)).jobs.lookup job = some .running ∧
      (life.before w).permits.closed = false := by
  obtain ⟨event, reply⟩ := begins
  have moves := moves_at life w job
  rw [event, reply] at moves
  generalize (life.before w).jobs.lookup job = before at moves ⊢
  generalize (life.before (w + 1)).jobs.lookup job = after at moves ⊢
  cases moves with
  | stayed _ idle => exact absurd rfl (idle rfl)
  | began opened => exact ⟨rfl, rfl, opened⟩

theorem HasJob.succ {life : Life workers} {i job n : Nat} (has : HasJob life i job n)
    (there : (life.before (n + 1)).jobs.lookup job ≠ none) : HasJob life i job (n + 1) := by
  refine ⟨has.accepted, Nat.lt_succ_of_lt has.after, fun k from_i upTo => ?_⟩
  rcases Nat.le_succ_iff.mp upTo with before | rfl
  · exact has.lasts k from_i before
  · exact there

theorem AcceptsJob.has {life : Life workers} {i job : Nat} (accepts : AcceptsJob life i job) :
    HasJob life i job (i + 1) := by
  refine ⟨accepts, Nat.lt_succ_self i, fun k from_i upTo => ?_⟩
  obtain rfl : k = i + 1 := Nat.le_antisymm upTo from_i
  rw [accepts.spawned]
  nofun

theorem HasJob.works_on {life : Life workers} {i job k n : Nat} (has : HasJob life i job n)
    (after : i < k) (upTo : k ≤ n) (works : (life.before k).jobs.lookup job = some .running) :
    (life.before n).jobs.lookup job = some .running := by
  induction n, upTo using Nat.le_induction with
  | base => exact works
  | succ n from_k ih =>
      have earlier : HasJob life i job n :=
        ⟨has.accepted, Nat.lt_of_lt_of_le after from_k,
          fun l from_i to_n => has.lasts l from_i (Nat.le_succ_of_le to_n)⟩
      have moves := moves_at life n job
      rw [ih earlier] at moves
      have present := has.lasts (n + 1) has.after (Nat.le_refl (n + 1))
      generalize life.event n = event at moves
      generalize life.reply n = reply at moves
      generalize (life.before (n + 1)).jobs.lookup job = later at moves present ⊢
      cases moves with
      | stayed => rfl
      | turnedAway | ended => exact absurd rfl present

theorem RunsJob.unique {life : Life workers} {i job w w' : Nat} (runs : RunsJob life i job w)
    (again : RunsJob life i job w') : w = w' := by
  have no_later : ∀ {w w' : Nat}, RunsJob life i job w → RunsJob life i job w' → ¬ w < w' := by
    intro w w' runs again later
    have works := again.has.works_on (Nat.lt_succ_of_lt runs.has.after) later runs.begins.works.2.1
    have waits := again.begins.works.1
    cases works.symm.trans waits
  rcases Nat.lt_trichotomy w w' with earlier | same | later
  · exact absurd earlier (no_later runs again)
  · exact same
  · exact absurd later (no_later again runs)

/-- As long as the scheduler is open, a job that was accepted is there until it works. -/
theorem AcceptsJob.runs_or_has {life : Life workers} {i job n : Nat}
    (accepts : AcceptsJob life i job) (after : i < n) (opened : (life.before n).closing = false) :
    (∃ w, w < n ∧ RunsJob life i job w) ∨ HasJob life i job n ∧
      (life.before n).jobs.lookup job ≠ some .running := by
  induction n, after using Nat.le_induction with
  | base =>
      refine .inr ⟨accepts.has, ?_⟩
      rw [accepts.spawned]
      nofun
  | succ n after ih =>
      have openedBefore : (life.before n).closing = false := by
        refine Bool.eq_false_iff.mpr fun closing => ?_
        have closes :=
          (closing_of_change (gated_before life n) (change_at life n)).mpr (.inl closing)
        rw [opened] at closes
        cases closes
      have unclosed : (life.before n).permits.closed = false :=
        (gated_before life n).permits.trans openedBefore
      rcases ih openedBefore with ⟨w, below, runs⟩ | ⟨has, waits⟩
      · exact .inl ⟨w, Nat.lt_succ_of_lt below, runs⟩
      · have moves := moves_at life n job
        have present := has.lasts n has.after (Nat.le_refl n)
        generalize asked : life.event n = event at moves
        generalize replied : life.reply n = reply at moves
        generalize (life.before n).jobs.lookup job = before at moves present waits
        generalize now : (life.before (n + 1)).jobs.lookup job = later at moves
        cases moves with
        | stayed => exact .inr ⟨has.succ (now ▸ present), waits⟩
        | accepted => exact absurd rfl present
        | asked => exact .inr ⟨has.succ (now ▸ nofun), nofun⟩
        | began => exact .inl ⟨n, Nat.lt_succ_self n, has, asked, replied⟩
        | turnedAway closed => cases closed.symm.trans unclosed
        | ended begun =>
            rcases begun with rfl | closed
            · exact absurd rfl waits
            · cases closed.symm.trans unclosed

end Steward.Scheduler
