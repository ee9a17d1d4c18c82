import Steward.Proofs.Cache.Sharing
/-!
# Background jobs and their marker

A cache remembers for which epoch a background job was started, so that readers that do not wait
start one job for each invalidation.  The marker is exact as long as no accepted job is dropped
before it begins, which happens only when no more jobs are run at all: there is one live job for the
epoch that is marked, and a live job for the present epoch is marked.  So a reader that finds a
stale value starts a job exactly if none is live for the present epoch, however earlier jobs have
ended.
-/

set_option autoImplicit false

namespace Steward.Cache

variable {V E : Type} {ttl : Option Duration}

/-! ## Live jobs -/

def Role.epoch? : Role → Option Nat
  | .reader _ => none
  | .job epoch => some epoch

def Stage.job? : Stage → Option Nat
  | .spawned epoch => some epoch
  | .missed _ => none
  | .queued role | .computing role _ _ => role.epoch?

def jobEpoch? (cache : Cache V E) (job : Nat) : Option Nat := (cache.stage? job).bind Stage.job?

def Live (cache : Cache V E) (job epoch : Nat) : Prop := cache.jobEpoch? job = some epoch

theorem jobEpoch?_of_stage {cache : Cache V E} {job : Nat} {stage : Stage}
    (found : cache.stage? job = some stage) : cache.jobEpoch? job = stage.job? := by
  rw [jobEpoch?, found, Option.bind_some]

theorem jobEpoch?_of_absent {cache : Cache V E} {job : Nat} (absent : cache.stage? job = none) :
    cache.jobEpoch? job = none := by
  rw [jobEpoch?, absent, Option.bind_none]

@[simp] theorem pending_clearPending (cache : Cache V E) (epoch : Nat) :
    (cache.clearPending epoch).pending =
      if cache.pending = some epoch then none else cache.pending := by
  unfold clearPending
  split <;> simp_all

theorem pending_retire (cache : Cache V E) (call : Nat) (role : Role) :
    (cache.retire call role).pending =
      if role.epoch? ≠ none ∧ cache.pending = role.epoch? then none else cache.pending := by
  cases role with
  | reader seen => simp [retire, Role.epoch?, forget]
  | job epoch => simp [retire, Role.epoch?, forget]

@[simp] theorem pending_apply (cache : Cache V E) (epoch now : Nat) (result : Except E V) :
    (cache.apply epoch now result).pending = cache.pending := by
  cases result <;> rfl

/-- An accepted job is dropped by this event before it begins. -/
def Loses (cache : Cache V E) (event : Event V E) : Prop :=
  ∃ job epoch, event = .drop job ∧ cache.stage? job = some (.spawned epoch)

/-- What an event does to the jobs, the marker and the epoch. -/
inductive Marking (cache next : Cache V E) : Event V E → Reply V E → Prop where
  | nothing {event : Event V E} {reply : Reply V E}
      (jobs : ∀ other, next.jobEpoch? other = cache.jobEpoch? other)
      (pending : next.pending = cache.pending) (epoch : next.epoch = cache.epoch) :
      Marking cache next event reply
  | invalidated (jobs : ∀ other, next.jobEpoch? other = cache.jobEpoch? other)
      (pending : next.pending = cache.pending) (epoch : next.epoch = cache.epoch + 1) :
      Marking cache next .invalidate .done
  | started {job now : Nat} (absent : cache.jobEpoch? job = none)
      (unasked : cache.pending ≠ some cache.epoch)
      (jobs : ∀ other, next.jobEpoch? other =
        if other = job then some cache.epoch else cache.jobEpoch? other)
      (pending : next.pending = some cache.epoch) (epoch : next.epoch = cache.epoch) :
      Marking cache next (.getNow job now) (.shown cache.value true)
  | ended {event : Event V E} {reply : Reply V E} {job since : Nat}
      (live : cache.jobEpoch? job = some since)
      (jobs : ∀ other, next.jobEpoch? other =
        if other = job then none else cache.jobEpoch? other)
      (pending : next.pending = if cache.pending = some since then none else cache.pending)
      (epoch : next.epoch = cache.epoch) : Marking cache next event reply

namespace Marking

variable {cache next : Cache V E} {event : Event V E} {reply : Reply V E} {call : Nat}

theorem jobs_of_stages {stage : Option Stage}
    (stages : ∀ other, next.stage? other = if other = call then stage else cache.stage? other)
    (other : Nat) : next.jobEpoch? other =
      if other = call then stage.bind Stage.job? else cache.jobEpoch? other := by
  unfold jobEpoch?
  rw [stages]
  split <;> rfl

theorem move {stage : Option Stage}
    (stages : ∀ other, next.stage? other = if other = call then stage else cache.stage? other)
    (same : stage.bind Stage.job? = cache.jobEpoch? call) (pending : next.pending = cache.pending)
    (epoch : next.epoch = cache.epoch) : Marking cache next event reply := by
  refine .nothing ?_ pending epoch
  intro other
  rw [jobs_of_stages stages]
  split
  · next own => rw [own, same]
  · rfl

theorem leave {stage : Stage} (found : cache.stage? call = some stage)
    (stages : ∀ other, next.stage? other = if other = call then none else cache.stage? other)
    (pending : next.pending =
      if stage.job? ≠ none ∧ cache.pending = stage.job? then none else cache.pending)
    (epoch : next.epoch = cache.epoch) : Marking cache next event reply := by
  have before := jobEpoch?_of_stage found
  cases kind : stage.job? with
  | none =>
      rw [kind] at before pending
      refine move stages before.symm ?_ epoch
      simpa using pending
  | some since =>
      rw [kind] at before pending
      refine .ended before (jobs_of_stages stages) ?_ epoch
      simpa using pending

end Marking

theorem marking_of_change {cache next : Cache V E} {event : Event V E} {reply : Reply V E}
    (change : Change cache event next reply) (kept : ¬ Loses cache event) :
    Marking cache next event reply := by
  cases change with
  | refused => exact .nothing (fun _ => rfl) rfl rfl
  | waited => exact .nothing (fun _ => rfl) rfl rfl
  | found => exact .nothing (fun _ => rfl) rfl rfl
  | shown => exact .nothing (fun _ => rfl) rfl rfl
  | invalidated => exact .invalidated (fun _ => rfl) rfl rfl
  | missed absent =>
      exact .move (stage?_place _ _ _) (jobEpoch?_of_absent absent).symm rfl rfl
  | joined stage => exact .move (stage?_queue _ _ _) (jobEpoch?_of_stage stage).symm rfl rfl
  | begun stage => exact .move (stage?_queue _ _ _) (jobEpoch?_of_stage stage).symm rfl rfl
  | started stage => exact .move (stage?_place _ _ _) (jobEpoch?_of_stage stage).symm rfl rfl
  | spawned absent stale unasked =>
      exact .started (jobEpoch?_of_absent absent) unasked
        (Marking.jobs_of_stages (stage?_place _ _ _)) rfl rfl
  | @declined job epoch stage =>
      have stages : ∀ other, ((cache.forget job).clearPending epoch).stage? other =
          if other = job then none else cache.stage? other := by
        intro other
        rw [stage?_clearPending, stage?_forget]
      refine .leave stage stages ?_ ((Alike.forget _ _).trans (.clearPending _ _)).epoch
      simp [Stage.job?, forget]
  | shared stage =>
      exact .leave stage (stage?_retire _ _ _) (pending_retire _ _ _) (Alike.retire _ _ _).epoch
  | spared stage =>
      exact .leave stage (stage?_retire _ _ _) (pending_retire _ _ _) (Alike.retire _ _ _).epoch
  | @completed call ticket epoch now role result stage =>
      have stages : ∀ other, ((cache.apply epoch now result).retire call role).stage? other =
          if other = call then none else cache.stage? other := by
        intro other
        rw [stage?_retire, stage?_apply]
      refine .leave stage stages ?_ ?_
      · rw [pending_retire, pending_apply]
        rfl
      · rw [(Alike.retire _ _ _).epoch]
        cases result <;> rfl
  | withdrew found outside =>
      rcases outside with ⟨epoch, rfl⟩ | ⟨seen, rfl⟩
      · exact absurd ⟨_, epoch, rfl, found⟩ kept
      · exact .move (stage?_forget _ _) (jobEpoch?_of_stage found).symm rfl rfl
  | abandoned found inLine =>
      refine .leave found (stage?_retire _ _ _) ?_ (Alike.retire _ _ _).epoch
      rw [pending_retire]
      rcases inLine with rfl | ⟨ticket, epoch, rfl⟩ <;> rfl

/-! ## The marker is exact -/

/-- The marker tells exactly for which epoch a job is live. -/
structure Exact (cache : Cache V E) : Prop where
  once : ∀ epoch job other, Live cache job epoch → Live cache other epoch → other = job
  live_of_pending : ∀ epoch, cache.pending = some epoch → ∃ job, Live cache job epoch
  pending_of_live : ∀ job, Live cache job cache.epoch → cache.pending = some cache.epoch
  epoch_le : ∀ epoch job, Live cache job epoch → epoch ≤ cache.epoch

theorem exact_of_started {cache next : Cache V E} {job : Nat} (marks : Exact cache)
    (absent : cache.jobEpoch? job = none) (unasked : cache.pending ≠ some cache.epoch)
    (jobs : ∀ other, next.jobEpoch? other =
      if other = job then some cache.epoch else cache.jobEpoch? other)
    (pending : next.pending = some cache.epoch) (epoch : next.epoch = cache.epoch) :
    Exact next := by
  have none_live : ∀ other, ¬ Live cache other cache.epoch := by
    intro other live
    exact unasked (marks.pending_of_live other live)
  have live_iff : ∀ other since, Live next other since ↔
      other = job ∧ since = cache.epoch ∨ Live cache other since := by
    intro other since
    unfold Live
    rw [jobs]
    by_cases own : other = job
    · subst own
      simp [absent, eq_comm]
    · simp [own]
  refine ⟨?_, ?_, ?_, ?_⟩
  · intro since first second firstLive secondLive
    rcases (live_iff first since).mp firstLive with ⟨rfl, rfl⟩ | firstBefore
    · rcases (live_iff second _).mp secondLive with ⟨rfl, _⟩ | secondBefore
      · rfl
      · exact absurd secondBefore (none_live second)
    · rcases (live_iff second since).mp secondLive with ⟨rfl, rfl⟩ | secondBefore
      · exact absurd firstBefore (none_live first)
      · exact marks.once since first second firstBefore secondBefore
  · intro since marked
    rw [pending, Option.some.injEq] at marked
    exact ⟨job, (live_iff job since).mpr (.inl ⟨rfl, marked.symm⟩)⟩
  · intro other live
    rw [pending, epoch]
  · intro since other live
    rw [epoch]
    rcases (live_iff other since).mp live with ⟨_, rfl⟩ | before
    · exact Nat.le_refl _
    · exact marks.epoch_le since other before

theorem exact_of_ended {cache next : Cache V E} {job since : Nat} (marks : Exact cache)
    (live : cache.jobEpoch? job = some since)
    (jobs : ∀ other, next.jobEpoch? other = if other = job then none else cache.jobEpoch? other)
    (pending : next.pending = if cache.pending = some since then none else cache.pending)
    (epoch : next.epoch = cache.epoch) : Exact next := by
  have live_iff : ∀ other number, Live next other number ↔
      other ≠ job ∧ Live cache other number := by
    intro other number
    unfold Live
    rw [jobs]
    by_cases own : other = job
    · simp [own]
    · simp [own]
  refine ⟨?_, ?_, ?_, ?_⟩
  · intro number first second firstLive secondLive
    exact marks.once number first second ((live_iff first number).mp firstLive).2
      ((live_iff second number).mp secondLive).2
  · intro number marked
    rw [pending] at marked
    split at marked
    · cases marked
    · next unmarked =>
        obtain ⟨other, otherLive⟩ := marks.live_of_pending number marked
        refine ⟨other, (live_iff other number).mpr ⟨?_, otherLive⟩⟩
        rintro rfl
        have same : some number = some since := Eq.trans (Eq.symm otherLive) live
        exact unmarked (marked.trans same)
  · intro other otherLive
    rw [epoch] at otherLive ⊢
    obtain ⟨differs, before⟩ := (live_iff other cache.epoch).mp otherLive
    have marked := marks.pending_of_live other before
    rw [pending, if_neg ?_]
    · exact marked
    · intro also
      -- Then the job that ends would be for the present epoch as well.
      have same : since = cache.epoch := Option.some.inj (also.symm.trans marked)
      rw [same] at live
      exact differs (marks.once cache.epoch job other live before)
  · intro number other otherLive
    rw [epoch]
    exact marks.epoch_le number other ((live_iff other number).mp otherLive).2

theorem exact_of_marking {cache next : Cache V E} {event : Event V E} {reply : Reply V E}
    (marks : Exact cache) (marking : Marking cache next event reply) : Exact next := by
  cases marking with
  | nothing jobs pending epoch =>
      have same : ∀ other since, Live next other since ↔ Live cache other since := by
        intro other since
        rw [Live, jobs, Live]
      refine ⟨?_, ?_, ?_, ?_⟩
      · simpa only [same] using marks.once
      · simpa only [same, pending] using marks.live_of_pending
      · simpa only [same, pending, epoch] using marks.pending_of_live
      · simpa only [same, epoch] using marks.epoch_le
  | invalidated jobs pending epoch =>
      have same : ∀ other since, Live next other since ↔ Live cache other since := by
        intro other since
        rw [Live, jobs, Live]
      refine ⟨?_, ?_, ?_, ?_⟩
      · simpa only [same] using marks.once
      · simpa only [same, pending] using marks.live_of_pending
      · intro job live
        rw [same, epoch] at live
        have older := marks.epoch_le _ job live
        omega
      · intro since job live
        have older := marks.epoch_le since job ((same job since).mp live)
        omega
  | started absent unasked jobs pending epoch =>
      exact exact_of_started marks absent unasked jobs pending epoch
  | ended live jobs pending epoch => exact exact_of_ended marks live jobs pending epoch

theorem exact_new (ttl : Option Duration) : Exact (Cache.new ttl : Cache V E) := by
  refine ⟨?_, ?_, ?_, ?_⟩
  · intro epoch job other live
    cases live
  · intro epoch pending
    cases pending
  · intro job live
    cases live
  · intro epoch job live
    cases live

/-- Before event number `n` no accepted job has been dropped before it began. -/
def Serves (life : Life V E ttl) (n : Nat) : Prop :=
  ∀ k < n, ¬ Loses (life.before k) (life.event k)

theorem exact_before (life : Life V E ttl) {n : Nat} (serves : Serves life n) :
    Exact (life.before n) := by
  induction n with
  | zero => exact exact_new ttl
  | succ n ih =>
      have before := ih fun k below => serves k (Nat.lt_succ_of_lt below)
      have kept := serves n (Nat.lt_succ_self n)
      exact exact_of_marking before (marking_of_change (change_at life n) kept)

section Reader

variable {cache : Cache V E} {job now : Nat}

theorem step_getNow_fresh (absent : cache.stage? job = none) (fresh : cache.isStale now = false) :
    cache.step (.getNow job now) = (cache, .shown cache.value false) := by
  simp [step, absent, fresh]

theorem step_getNow_marked (absent : cache.stage? job = none)
    (marked : cache.pending = some cache.epoch) :
    cache.step (.getNow job now) = (cache, .shown cache.value false) := by
  simp [step, absent, marked]

theorem step_getNow_stale (absent : cache.stage? job = none) (stale : cache.isStale now = true)
    (unasked : cache.pending ≠ some cache.epoch) :
    cache.step (.getNow job now) =
      ({ cache with pending := some cache.epoch }.place job (.spawned cache.epoch),
        .shown cache.value true) := by
  simp [step, absent, stale, unasked]

/-- A reader that finds a stale value starts a job exactly if none is live for the present epoch. -/
theorem starts_job_iff (marks : Exact cache) (absent : cache.stage? job = none)
    (stale : cache.isStale now = true) :
    (cache.step (.getNow job now)).2 = .shown cache.value true ↔
      ∀ other, ¬ Live cache other cache.epoch := by
  by_cases marked : cache.pending = some cache.epoch
  · obtain ⟨other, live⟩ := marks.live_of_pending cache.epoch marked
    rw [step_getNow_marked absent marked]
    exact iff_of_false nofun fun free => free other live
  · rw [step_getNow_stale absent stale marked]
    refine iff_of_true rfl ?_
    intro other live
    exact marked (marks.pending_of_live other live)

theorem live_of_started (absent : cache.stage? job = none)
    (starts : (cache.step (.getNow job now)).2 = .shown cache.value true) :
    Live (cache.step (.getNow job now)).1 job cache.epoch := by
  have stale : cache.isStale now = true := by
    by_contra fresh
    rw [step_getNow_fresh absent (Bool.not_eq_true _ ▸ fresh)] at starts
    cases starts
  have unasked : cache.pending ≠ some cache.epoch := by
    intro marked
    rw [step_getNow_marked absent marked] at starts
    cases starts
  rw [step_getNow_stale absent stale unasked]
  exact jobEpoch?_of_stage (stage?_place_self _ _ _)

end Reader

/-! ## The end of a job -/

theorem free_of_ended {life : Life V E ttl} {n job : Nat} (marks : Exact (life.before n))
    (live : Live (life.before n) job (life.before n).epoch)
    (ended : (life.before (n + 1)).stage? job = none)
    (kept : ¬ Loses (life.before n) (life.event n)) (other : Nat) :
    ¬ Live (life.before (n + 1)) other (life.before (n + 1)).epoch := by
  have gone := jobEpoch?_of_absent ended
  have marking := marking_of_change (change_at life n) kept
  generalize life.event n = event, life.reply n = reply at marking
  intro otherLive
  unfold Live at live otherLive
  cases marking with
  | nothing jobs =>
      rw [jobs, live] at gone
      cases gone
  | invalidated jobs =>
      rw [jobs, live] at gone
      cases gone
  | started absent unasked jobs =>
      rw [jobs] at gone
      split at gone
      · cases gone
      · rw [live] at gone
        cases gone
  | ended _ jobs pending epoch =>
      rw [epoch, jobs] at otherLive
      split at otherLive
      · cases otherLive
      · next differs =>
          cases marks.once _ job other live otherLive
          rw [jobs, if_neg differs, live] at gone
          cases gone

theorem stale_of_computes {life : Life V E ttl} {n job since ticket : Nat}
    (live : Live (life.before n) job since) (computes : Computes life job n ticket) :
    ∃ now, life.event n = .enter job now ∧ (life.before n).gate.holder? = some job ∧
      (life.before n).isStale now = true := by
  obtain ⟨now, role, event, waits, inside, needed, _⟩ := queued_of_computes computes
  have kind := (jobEpoch?_of_stage waits).symm.trans live
  cases role with
  | reader seen => cases kind
  | job epoch => exact ⟨now, event, inside, needed⟩

/-- What the marker of a cache tells before event number `n`: a job is live for the epoch that is
marked, and a reader that finds a stale value starts one exactly if none is live for the present
epoch.  However a job ends, the next such reader starts another. -/
structure ExactMarker (life : Life V E ttl) (n : Nat) : Prop where
  once : ∀ epoch job other, Live (life.before n) job epoch → Live (life.before n) other epoch →
    other = job
  marked : ∀ epoch, (life.before n).pending = some epoch →
    ∃ job, Live (life.before n) job epoch ∧
      ∀ other, Live (life.before n) other epoch → other = job
  marks : ∀ job, Live (life.before n) job (life.before n).epoch →
    (life.before n).pending = some (life.before n).epoch
  stale : ∀ job now, life.event n = .getNow job now → (life.before n).stage? job = none →
    (life.before n).isStale now = true →
    (life.reply n = .shown (life.before n).value true ↔
      ∀ other, ¬ Live (life.before n) other (life.before n).epoch)
  fresh : ∀ job now, life.event n = .getNow job now → (life.before n).stage? job = none →
    (life.before n).isStale now = false →
    life.reply n = .shown (life.before n).value false ∧ life.before (n + 1) = life.before n
  started : ∀ job now, life.event n = .getNow job now → (life.before n).stage? job = none →
    life.reply n = .shown (life.before n).value true →
    Live (life.before (n + 1)) job (life.before n).epoch
  restarts : ∀ job, Live (life.before n) job (life.before n).epoch →
    (life.before (n + 1)).stage? job = none → ¬ Loses (life.before n) (life.event n) →
    ∀ new now, (life.before (n + 1)).stage? new = none →
      (life.before (n + 1)).isStale now = true →
      ((life.before (n + 1)).step (.getNow new now)).2 = .shown (life.before (n + 1)).value true
  computes : ∀ job since ticket, Live (life.before n) job since → Computes life job n ticket →
    ∃ now, life.event n = .enter job now ∧ (life.before n).gate.holder? = some job ∧
      (life.before n).isStale now = true
  computesOnce : ∀ job now i k ticket number, life.event i = .getNow job now → i ≤ k → i ≤ n →
    Lasts life job i k → Lasts life job i n → Computes life job k ticket →
    Computes life job n number → k = n

/-- As long as no accepted job has been dropped before it began, the marker is exact. -/
theorem marker_exact (life : Life V E ttl) (n : Nat) (serves : Serves life n) :
    ExactMarker life n := by
  have marks := exact_before life serves
  constructor
  case once => exact marks.once
  case marked =>
    intro epoch marked
    obtain ⟨job, live⟩ := marks.live_of_pending epoch marked
    exact ⟨job, live, fun other also => marks.once epoch job other live also⟩
  case marks => exact marks.pending_of_live
  case stale =>
    intro job now event absent stale
    rw [Run.reply, event]
    exact starts_job_iff marks absent stale
  case fresh =>
    intro job now event absent fresh
    rw [Run.reply, Run.before_succ, event, step_getNow_fresh absent fresh]
    exact ⟨rfl, rfl⟩
  case started =>
    intro job now event absent
    rw [Run.reply, Run.before_succ, event]
    exact live_of_started absent
  case restarts =>
    intro job live ended kept new now absent stale
    have next : Exact (life.before (n + 1)) :=
      exact_of_marking marks (marking_of_change (change_at life n) kept)
    exact (starts_job_iff next absent stale).mpr (free_of_ended marks live ended kept)
  case computes =>
    intro job since ticket live computes
    exact stale_of_computes live computes
  case computesOnce =>
    intro job now i k ticket number _ from_i also_from_i lasts alsoLasts computes also
    exact computes_once lasts alsoLasts from_i also_from_i computes also

def crashedOnce : Life Nat String none :=
  .ofList [.getNow 1 0, .begin 1, .enter 1 0, .drop 1, .getNow 2 5] (.decline 0)

theorem marker_exact_crashedOnce :
    ((crashedOnce.before 3).pending = some 0 ∧
      ∃ job, Live (crashedOnce.before 3) job 0 ∧
        ∀ other, Live (crashedOnce.before 3) other 0 → other = job) ∧
      ((crashedOnce.before 4).step (.getNow 2 5)).2 = .shown none true := by
  have serves : Serves crashedOnce 3 := by
    rintro k below ⟨job, epoch, drops, _⟩
    have early : k = 0 ∨ k = 1 ∨ k = 2 := by omega
    rcases early with rfl | rfl | rfl <;> cases drops
  have kept : ¬ Loses (crashedOnce.before 3) (crashedOnce.event 3) := by
    rintro ⟨job, epoch, drops, stage⟩
    cases drops
    cases stage
  have exactly := marker_exact crashedOnce 3 serves
  exact ⟨⟨rfl, exactly.marked 0 rfl⟩, exactly.restarts 1 rfl rfl kept 2 5 rfl rfl⟩

end Steward.Cache
