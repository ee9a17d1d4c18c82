import Steward.Moment
import Steward.Turnstile
/-!
# Cached values

A cache holds the last value that a loader gave, and counts invalidations.  A value is stale once
it has reached a given age, or if the loader was started before the last invalidation.  A reader
either waits, or takes what is there.  Waiting readers pass a turnstile one at a time, and one that
waited while a computation was completed takes over its outcome.  A reader that does not wait has
a background job started for a stale value, at most one for each invalidation.

Each event tells what a reader or a job does, or what the loader gave; the reply says what is next.
-/

set_option autoImplicit false

namespace Steward

namespace Cache

variable {V E : Type}

/-- Who computes, or waits to.  A reader knows how many computations had been completed when it
came, and a job for how many invalidations it was started. -/
inductive Role where
  | reader (seen : Nat)
  | job (epoch : Nat)
  deriving DecidableEq, Repr

def Role.isReader : Role → Bool
  | .reader _ => true
  | .job _ => false

/-- A job has been `spawned` and has not begun, or a reader has `missed` a fresh value and has not
queued.  A computation has a number, and knows after how many invalidations it was started. -/
inductive Stage where
  | spawned (epoch : Nat)
  | missed (seen : Nat)
  | queued (role : Role)
  | computing (role : Role) (ticket epoch : Nat)
  deriving DecidableEq, Repr

/-- A reader that waits comes by `get`, and by `getNow` one that does not, with the number of a
background job in case one is needed.  To `drop` a call is also what a crash of its loader does. -/
inductive Event (V E : Type) where
  | get (call : Nat) (now : Nat)
  | join (call : Nat)
  | getNow (job : Nat) (now : Nat)
  | decline (job : Nat)
  | begin (job : Nat)
  | enter (call : Nat) (now : Nat)
  | loaded (call : Nat) (result : Except E V) (now : Nat)
  | drop (call : Nat)
  | invalidate

/-- A value is `shown` with whether a background job is to be started.  A reader is `served`
without a computation of its own; of one that is `completed` it is told whether a reader ran it. -/
inductive Reply (V E : Type) where
  | shown (value : Option V) (start : Bool)
  | join
  | wait
  | load (ticket : Nat)
  | served (result : Except E V)
  | completed (result : Except E V) (reader : Bool)
  | done
  | refused

def Reply.news? : Reply V E → Option V
  | .completed (.ok value) _ => some value
  | _ => none

end Cache

/-- `loadedEpoch` and `pending` count the invalidations before the computation of the value began,
and before a background job was started. -/
structure Cache (V E : Type) where
  ttl : Option Duration
  value : Option V
  loadedAt : Option Nat
  loadedEpoch : Nat
  epoch : Nat
  started : Nat
  completed : Nat
  lastFailure : Option E
  pending : Option Nat
  gate : Turnstile
  calls : List (Nat × Cache.Stage)

namespace Cache

variable {V E : Type}

def new (ttl : Option Duration) : Cache V E where
  ttl := ttl
  value := none
  loadedAt := none
  loadedEpoch := 0
  epoch := 0
  started := 0
  completed := 0
  lastFailure := none
  pending := none
  gate := .empty
  calls := []

def stage? (cache : Cache V E) (call : Nat) : Option Stage := cache.calls.lookup call

def place (cache : Cache V E) (call : Nat) (stage : Stage) : Cache V E :=
  { cache with calls := (call, stage) :: cache.calls.filter (·.1 != call) }

def forget (cache : Cache V E) (call : Nat) : Cache V E :=
  { cache with calls := cache.calls.filter (·.1 != call) }

def queue (cache : Cache V E) (call : Nat) (role : Role) : Cache V E :=
  { cache with gate := cache.gate.enter call }.place call (.queued role)

def isStale (cache : Cache V E) (now : Nat) : Bool :=
  match cache.value, cache.loadedAt with
  | some _, some loadedAt =>
    cache.loadedEpoch != cache.epoch
      || cache.ttl.any fun ttl => ttl ≤ Moment.since now loadedAt
  | _, _ => true

def fresh (cache : Cache V E) (now : Nat) : Option V :=
  if cache.isStale now then none else cache.value

def clearPending (cache : Cache V E) (epoch : Nat) : Cache V E :=
  if cache.pending = some epoch then { cache with pending := none } else cache

/-- Lets the next caller in and ends the call; a job is no longer pending then. -/
def retire (cache : Cache V E) (call : Nat) (role : Role) : Cache V E :=
  let cache := { cache with gate := cache.gate.leave call }.forget call
  match role with
  | .reader _ => cache
  | .job epoch => cache.clearPending epoch

def beginComputation (cache : Cache V E) (call : Nat) (role : Role) : Cache V E × Reply V E :=
  ({ cache with started := cache.started + 1 }.place call
    (.computing role (cache.started + 1) cache.epoch), .load (cache.started + 1))

/-- What a reader that has just come inside is given without a computation of its own. -/
def known (cache : Cache V E) (now seen : Nat) : Option (Except E V) :=
  let shared : Option (Except E V) :=
    if cache.completed = seen then none
    else
      match cache.lastFailure with
      | some error => some (.error error)
      | none => cache.value.map .ok
  shared.or ((cache.fresh now).map .ok)

def decide (cache : Cache V E) (call : Nat) (now : Nat) (role : Role) : Cache V E × Reply V E :=
  match role with
  | .reader seen =>
    match cache.known now seen with
    | some result => (cache.retire call role, .served result)
    | none => cache.beginComputation call role
  | .job _ =>
    if cache.isStale now then cache.beginComputation call role
    else (cache.retire call role, .done)

/-- Takes in the outcome of a computation.  A failure leaves the value that was there. -/
def apply (cache : Cache V E) (epoch : Nat) (now : Nat) : Except E V → Cache V E
  | .ok value =>
    { cache with
      completed := cache.completed + 1
      value := some value
      loadedAt := some now
      loadedEpoch := epoch
      lastFailure := none }
  | .error error =>
    { cache with completed := cache.completed + 1, lastFailure := some error }

def step (cache : Cache V E) : Event V E → Cache V E × Reply V E
  | .get call now =>
    match cache.stage? call with
    | some _ => (cache, .refused)
    | none =>
      match cache.fresh now with
      | some value => (cache, .served (.ok value))
      | none => (cache.place call (.missed cache.completed), .join)
  | .join call =>
    match cache.stage? call with
    | some (.missed seen) => (cache.queue call (.reader seen), .wait)
    | _ => (cache, .refused)
  | .getNow job now =>
    match cache.stage? job with
    | some _ => (cache, .refused)
    | none =>
      if !cache.isStale now || cache.pending = some cache.epoch then
        (cache, .shown cache.value false)
      else
        ({ cache with pending := some cache.epoch }.place job (.spawned cache.epoch),
          .shown cache.value true)
  | .decline job =>
    match cache.stage? job with
    | some (.spawned epoch) => ((cache.forget job).clearPending epoch, .done)
    | _ => (cache, .refused)
  | .begin job =>
    match cache.stage? job with
    | some (.spawned epoch) => (cache.queue job (.job epoch), .wait)
    | _ => (cache, .refused)
  | .enter call now =>
    match cache.stage? call with
    | some (.queued role) =>
      if cache.gate.holder? = some call then cache.decide call now role else (cache, .wait)
    | _ => (cache, .refused)
  | .loaded call result now =>
    match cache.stage? call with
    | some (.computing role _ epoch) =>
      ((cache.apply epoch now result).retire call role,
        .completed result role.isReader)
    | _ => (cache, .refused)
  | .drop call =>
    match cache.stage? call with
    -- Neither stands in line.  What was pending for a job that never began stays so.
    | some (.spawned _) | some (.missed _) => (cache.forget call, .done)
    | some (.queued role) => (cache.retire call role, .done)
    | some (.computing role _ _) => (cache.retire call role, .done)
    | none => (cache, .refused)
  | .invalidate => ({ cache with epoch := cache.epoch + 1 }, .done)

end Cache

end Steward
