import Steward.Cache
import Steward.Proofs.Run
/-!
# What an event does to a cache

`Change` lists everything that one event can do to a cache, with the conditions under which it does
so and the reply that is given.  `change_step` says that the list is complete.
-/

set_option autoImplicit false

namespace Steward.Cache

variable {V E : Type}

@[simp] theorem stage?_place (cache : Cache V E) (call : Nat) (stage : Stage) (other : Nat) :
    (cache.place call stage).stage? other =
      if other = call then some stage else cache.stage? other :=
  lookup_placed cache.calls call other stage

@[simp] theorem stage?_forget (cache : Cache V E) (call other : Nat) :
    (cache.forget call).stage? other = if other = call then none else cache.stage? other :=
  lookup_forgotten cache.calls call other

@[simp] theorem stage?_queue (cache : Cache V E) (call : Nat) (role : Role) (other : Nat) :
    (cache.queue call role).stage? other =
      if other = call then some (.queued role) else cache.stage? other :=
  lookup_placed cache.calls call other (.queued role)

@[simp] theorem stage?_clearPending (cache : Cache V E) (epoch other : Nat) :
    (cache.clearPending epoch).stage? other = cache.stage? other := by
  unfold clearPending
  split <;> rfl

@[simp] theorem stage?_retire (cache : Cache V E) (call : Nat) (role : Role) (other : Nat) :
    (cache.retire call role).stage? other =
      if other = call then none else cache.stage? other := by
  cases role with
  | reader seen => exact lookup_forgotten cache.calls call other
  | job epoch =>
      simp only [retire, stage?_clearPending]
      exact lookup_forgotten cache.calls call other

theorem stage?_place_self (cache : Cache V E) (call : Nat) (stage : Stage) :
    (cache.place call stage).stage? call = some stage :=
  (stage?_place cache call stage call).trans (if_pos rfl)

theorem stage?_queue_self (cache : Cache V E) (call : Nat) (role : Role) :
    (cache.queue call role).stage? call = some (.queued role) :=
  (stage?_queue cache call role call).trans (if_pos rfl)

/-! ## What stays as it is -/

/-- The value and all that is known of it, and what has been counted, are the same in both. -/
structure Alike (cache next : Cache V E) : Prop where
  ttl : next.ttl = cache.ttl
  value : next.value = cache.value
  loadedAt : next.loadedAt = cache.loadedAt
  loadedEpoch : next.loadedEpoch = cache.loadedEpoch
  epoch : next.epoch = cache.epoch
  started : next.started = cache.started
  completed : next.completed = cache.completed
  lastFailure : next.lastFailure = cache.lastFailure

namespace Alike

theorem refl (cache : Cache V E) : Alike cache cache := ⟨rfl, rfl, rfl, rfl, rfl, rfl, rfl, rfl⟩

theorem place (cache : Cache V E) (call : Nat) (stage : Stage) :
    Alike cache (cache.place call stage) := ⟨rfl, rfl, rfl, rfl, rfl, rfl, rfl, rfl⟩

theorem forget (cache : Cache V E) (call : Nat) : Alike cache (cache.forget call) :=
  ⟨rfl, rfl, rfl, rfl, rfl, rfl, rfl, rfl⟩

theorem queue (cache : Cache V E) (call : Nat) (role : Role) :
    Alike cache (cache.queue call role) := ⟨rfl, rfl, rfl, rfl, rfl, rfl, rfl, rfl⟩

theorem clearPending (cache : Cache V E) (epoch : Nat) :
    Alike cache (cache.clearPending epoch) := by
  unfold Cache.clearPending
  split
  · exact ⟨rfl, rfl, rfl, rfl, rfl, rfl, rfl, rfl⟩
  · exact refl cache

theorem trans {cache middle next : Cache V E} (first : Alike cache middle)
    (second : Alike middle next) : Alike cache next :=
  ⟨second.ttl.trans first.ttl, second.value.trans first.value,
    second.loadedAt.trans first.loadedAt, second.loadedEpoch.trans first.loadedEpoch,
    second.epoch.trans first.epoch, second.started.trans first.started,
    second.completed.trans first.completed, second.lastFailure.trans first.lastFailure⟩

theorem retire (cache : Cache V E) (call : Nat) (role : Role) :
    Alike cache (cache.retire call role) := by
  have left : Alike cache ({ cache with gate := cache.gate.leave call }.forget call) :=
    ⟨rfl, rfl, rfl, rfl, rfl, rfl, rfl, rfl⟩
  cases role with
  | reader seen => exact left
  | job epoch => exact left.trans (clearPending _ epoch)

end Alike

def Event.call? : Event V E → Option Nat
  | .get call _ | .join call | .getNow call _ | .decline call | .begin call | .enter call _
  | .loaded call _ _ | .drop call => some call
  | .invalidate => none

def Needed (cache : Cache V E) (now : Nat) : Role → Prop
  | .reader seen => cache.known now seen = none
  | .job _ => cache.isStale now = true

/-- Everything an event can do to a cache. -/
inductive Change (cache : Cache V E) : Event V E → Cache V E → Reply V E → Prop where
  | refused {event : Event V E} : Change cache event cache .refused
  | waited {call now : Nat} {role : Role} (stage : cache.stage? call = some (.queued role))
      (behind : cache.gate.holder? ≠ some call) : Change cache (.enter call now) cache .wait
  | found {call now : Nat} {value : V} (absent : cache.stage? call = none)
      (fresh : cache.fresh now = some value) :
      Change cache (.get call now) cache (.served (.ok value))
  | missed {call now : Nat} (absent : cache.stage? call = none)
      (stale : cache.fresh now = none) :
      Change cache (.get call now) (cache.place call (.missed cache.completed)) .join
  | joined {call seen : Nat} (stage : cache.stage? call = some (.missed seen)) :
      Change cache (.join call) (cache.queue call (.reader seen)) .wait
  | shown {job now : Nat} (absent : cache.stage? job = none)
      (idle : cache.isStale now = false ∨ cache.pending = some cache.epoch) :
      Change cache (.getNow job now) cache (.shown cache.value false)
  | spawned {job now : Nat} (absent : cache.stage? job = none)
      (stale : cache.isStale now = true) (unasked : cache.pending ≠ some cache.epoch) :
      Change cache (.getNow job now)
        ({ cache with pending := some cache.epoch }.place job (.spawned cache.epoch))
        (.shown cache.value true)
  | declined {job epoch : Nat} (stage : cache.stage? job = some (.spawned epoch)) :
      Change cache (.decline job) ((cache.forget job).clearPending epoch) .done
  | begun {job epoch : Nat} (stage : cache.stage? job = some (.spawned epoch)) :
      Change cache (.begin job) (cache.queue job (.job epoch)) .wait
  | shared {call seen now : Nat} {result : Except E V}
      (stage : cache.stage? call = some (.queued (.reader seen)))
      (inside : cache.gate.holder? = some call) (known : cache.known now seen = some result) :
      Change cache (.enter call now) (cache.retire call (.reader seen)) (.served result)
  | spared {job epoch now : Nat} (stage : cache.stage? job = some (.queued (.job epoch)))
      (inside : cache.gate.holder? = some job) (current : cache.isStale now = false) :
      Change cache (.enter job now) (cache.retire job (.job epoch)) .done
  | started {call now : Nat} {role : Role} (stage : cache.stage? call = some (.queued role))
      (inside : cache.gate.holder? = some call) (needed : Needed cache now role) :
      Change cache (.enter call now)
        ({ cache with started := cache.started + 1 }.place call
          (.computing role (cache.started + 1) cache.epoch)) (.load (cache.started + 1))
  | completed {call ticket epoch now : Nat} {role : Role} {result : Except E V}
      (stage : cache.stage? call = some (.computing role ticket epoch)) :
      Change cache (.loaded call result now) ((cache.apply epoch now result).retire call role)
        (.completed result role.isReader)
  | withdrew {call : Nat} {stage : Stage} (found : cache.stage? call = some stage)
      (outside : (∃ epoch, stage = .spawned epoch) ∨ ∃ seen, stage = .missed seen) :
      Change cache (.drop call) (cache.forget call) .done
  | abandoned {call : Nat} {role : Role} {stage : Stage} (found : cache.stage? call = some stage)
      (inLine : stage = .queued role ∨ ∃ ticket epoch, stage = .computing role ticket epoch) :
      Change cache (.drop call) (cache.retire call role) .done
  | invalidated : Change cache .invalidate { cache with epoch := cache.epoch + 1 } .done

/-! ## The list is complete -/

theorem change_decide {cache : Cache V E} {call now : Nat} {role : Role}
    (stage : cache.stage? call = some (.queued role))
    (inside : cache.gate.holder? = some call) :
    Change cache (.enter call now) (cache.decide call now role).1
      (cache.decide call now role).2 := by
  cases role with
  | reader seen =>
      simp only [decide]
      cases known : cache.known now seen with
      | some result => exact .shared stage inside known
      | none => exact .started stage inside known
  | job epoch =>
      simp only [decide]
      split
      · next stale => exact .started stage inside stale
      · next current => exact .spared stage inside (Bool.not_eq_true _ ▸ current)

theorem change_drop {cache : Cache V E} {call : Nat} {stage : Stage}
    (found : cache.stage? call = some stage) :
    Change cache (.drop call) (cache.step (.drop call)).1 (cache.step (.drop call)).2 := by
  simp only [step, found]
  cases stage with
  | spawned epoch => exact .withdrew found (.inl ⟨epoch, rfl⟩)
  | missed seen => exact .withdrew found (.inr ⟨seen, rfl⟩)
  | queued role => exact .abandoned found (.inl rfl)
  | computing role ticket epoch => exact .abandoned found (.inr ⟨ticket, epoch, rfl⟩)

theorem change_step (cache : Cache V E) (event : Event V E) :
    Change cache event (cache.step event).1 (cache.step event).2 := by
  cases event with
  | get call now =>
      simp only [step]
      split
      · exact .refused
      · next absent =>
          split
          · next value fresh => exact .found absent fresh
          · next stale => exact .missed absent stale
  | join call =>
      simp only [step]
      split
      · next stage => exact .joined stage
      · exact .refused
  | getNow job now =>
      simp only [step]
      split
      · exact .refused
      · next absent =>
          split
          · next idle => exact .shown absent (by simpa using idle)
          · next wanted =>
              simp only [Bool.or_eq_true, Bool.not_eq_true', decide_eq_true_eq, not_or,
                Bool.not_eq_false] at wanted
              exact .spawned absent wanted.1 wanted.2
  | decline job =>
      simp only [step]
      split
      · next stage => exact .declined stage
      · exact .refused
  | begin job =>
      simp only [step]
      split
      · next stage => exact .begun stage
      · exact .refused
  | enter call now =>
      simp only [step]
      split
      · next role stage =>
          split
          · next inside => exact change_decide stage inside
          · next behind => exact .waited stage behind
      · exact .refused
  | loaded call result now =>
      simp only [step]
      split
      · next stage => exact .completed stage
      · exact .refused
  | drop call =>
      cases found : cache.stage? call with
      | some stage => exact change_drop found
      | none =>
          simp only [step, found]
          exact .refused
  | invalidate => exact .invalidated

/-- What an event does to a cache apart from the calls, the line and what is pending. -/
inductive Effect (cache next : Cache V E) : Event V E → Reply V E → Prop where
  | nothing {event : Event V E} {reply : Reply V E} (alike : Alike cache next)
      (idle : ∀ ticket, reply ≠ .load ticket) : Effect cache next event reply
  | started {call now : Nat} (alike : Alike { cache with started := cache.started + 1 } next) :
      Effect cache next (.enter call now) (.load (cache.started + 1))
  | completed {call ticket epoch now : Nat} {role : Role} {result : Except E V}
      (stage : cache.stage? call = some (.computing role ticket epoch))
      (alike : Alike (cache.apply epoch now result) next) :
      Effect cache next (.loaded call result now) (.completed result role.isReader)
  | invalidated (alike : Alike { cache with epoch := cache.epoch + 1 } next) :
      Effect cache next .invalidate .done

theorem effect_of_change {cache next : Cache V E} {event : Event V E} {reply : Reply V E}
    (change : Change cache event next reply) : Effect cache next event reply := by
  cases change with
  | refused => exact .nothing (.refl _) nofun
  | waited => exact .nothing (.refl _) nofun
  | found => exact .nothing (.refl _) nofun
  | missed => exact .nothing (.place _ _ _) nofun
  | joined => exact .nothing (.queue _ _ _) nofun
  | shown => exact .nothing (.refl _) nofun
  | spawned => exact .nothing ⟨rfl, rfl, rfl, rfl, rfl, rfl, rfl, rfl⟩ nofun
  | declined => exact .nothing ((Alike.forget _ _).trans (.clearPending _ _)) nofun
  | begun => exact .nothing (.queue _ _ _) nofun
  | shared => exact .nothing (.retire _ _ _) nofun
  | spared => exact .nothing (.retire _ _ _) nofun
  | started => exact .started (.place _ _ _)
  | completed stage => exact .completed stage (.retire _ _ _)
  | withdrew => exact .nothing (.forget _ _) nofun
  | abandoned => exact .nothing (.retire _ _ _) nofun
  | invalidated => exact .invalidated (.refl _)

theorem step_enter {cache : Cache V E} {call now seen : Nat} {result : Except E V}
    (stage : cache.stage? call = some (.queued (.reader seen)))
    (inside : cache.gate.holder? = some call) (known : cache.known now seen = some result) :
    cache.step (.enter call now) = (cache.retire call (.reader seen), .served result) := by
  simp only [step, stage, inside, if_true, decide, known]

end Steward.Cache
