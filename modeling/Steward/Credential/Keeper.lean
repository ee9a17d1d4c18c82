import Steward.Credential.Window
import Steward.Failure
import Steward.Turnstile
/-!
# Keeping a credential current

A keeper holds at most one credential for an account and hands it out to any number of callers.
Whatever replaces the credential is a transition, and transitions pass one at a time through a
turnstile.  A caller that finds a usable credential does not queue.  A caller that queued while a
transition was completed takes over the outcome of that transition, its failure included.

The keeper never acts on its own.  Each event tells it what a caller does or what an answer says,
and the reply says what the caller has to do next.  So an order of events is an interleaving of
calls.

An event stands for what a call does between two points at which it may be suspended or given up.
Where a call waits for nothing but access to the current credential, it has a stage of its own only
between a save and what follows from it.  At the other such points, where it looks at the current
credential, takes over a stored one or lets a refused one go, a call that is given up leaves the
keeper as if it had been given up right before the event.
-/

set_option autoImplicit false

namespace Steward

/-- A credential object.  Objects are told apart by number, not by what they carry. -/
structure Held where
  number : Nat
  credential : Credential
  deriving DecidableEq

/-- What is known of the credential from outside.  It nears its expiry inside the refresh window,
and also when it has expired and was not refreshed yet. -/
inductive CredentialState where
  | unauthenticated
  | authenticating
  | valid
  | nearingExpiry
  | refreshing
  deriving DecidableEq, Inhabited, Repr

def CredentialState.label : CredentialState → String
  | .unauthenticated => "unauthenticated"
  | .authenticating => "authenticating"
  | .valid => "valid"
  | .nearingExpiry => "nearing_expiry"
  | .refreshing => "refreshing"

namespace Keeper

/-- Which request the running transition has begun last. -/
inductive Phase where
  | idle
  | authenticating
  | refreshing
  deriving DecidableEq, Inhabited, Repr

/-- What a caller wants: a usable credential, when so many transitions had been completed as it
came, or another object than the one it rejects. -/
inductive Purpose where
  | usable (seen : Nat)
  | replacement (rejected : Nat)
  deriving DecidableEq, Repr

def Purpose.isForced : Purpose → Bool
  | .usable _ => false
  | .replacement _ => true

inductive Stage where
  | arrived (seen : Nat)
  | missed (seen : Nat)
  | queued (purpose : Purpose)
  | loading (forced : Bool)
  | restored (forced : Bool)
  | refreshing (held : Held) (forced : Bool)
  | loggingIn
  | saving (fresh : Credential)
  | installing (fresh : Credential)
  | leaving (result : Option (Except AuthError Held))

/-- Calls for a usable credential look at the current one before they queue; calls for the
replacement of a rejected object queue at once.  `resume` and `install` go on with a transition
once the secret store has been read or written. -/
inductive Event where
  | arrive (call : Nat)
  | look (call : Nat) (now : Instant)
  | join (call : Nat)
  | reject (call : Nat) (rejected : Nat)
  | enter (call : Nat) (now : Instant)
  | loaded (call : Nat) (stored : Except AuthError (Option Credential))
  | resume (call : Nat) (now : Instant)
  | answered (call : Nat) (answer : Except AuthError Credential) (now : Instant)
  | saved (call : Nat) (result : Except AuthError Unit)
  | install (call : Nat)
  | drop (call : Nat)
  | leave (call : Nat)

def Event.call : Event → Nat
  | .arrive call | .look call _ | .join call | .reject call _ | .enter call _ | .loaded call _
  | .resume call _ | .answered call _ _ | .saved call _ | .install call | .drop call
  | .leave call => call

/-- What the caller has to do next. -/
inductive Reply where
  | look
  | join
  | wait
  | load
  | resume
  | refresh (held : Held)
  | login
  | save (fresh : Credential)
  | install
  | leave
  | finished (result : Except AuthError Held)
  | dropped
  | refused

end Keeper

/-- Credential objects are numbered from one in the order in which they were made, and `restored`
is set once the secret store has been asked. -/
structure Keeper where
  window : RefreshWindow
  current : Option Held
  phase : Keeper.Phase
  completed : Nat
  lastFailure : Option AuthError
  restored : Bool
  made : Nat
  gate : Turnstile
  calls : List (Nat × Keeper.Stage)

namespace Keeper

def new (window : RefreshWindow) : Keeper where
  window := window
  current := none
  phase := .idle
  completed := 0
  lastFailure := none
  restored := false
  made := 0
  gate := .empty
  calls := []

def stage? (keeper : Keeper) (call : Nat) : Option Stage := keeper.calls.lookup call

def place (keeper : Keeper) (call : Nat) (stage : Stage) : Keeper :=
  { keeper with calls := (call, stage) :: keeper.calls.filter (·.1 != call) }

def forget (keeper : Keeper) (call : Nat) : Keeper :=
  { keeper with calls := keeper.calls.filter (·.1 != call) }

def usable (keeper : Keeper) (now : Instant) : Option Held :=
  keeper.current.filter fun held => !keeper.window.needsRefresh held.credential now

/-- What is told of a keeper that was found in this phase, with this credential looked at after it:
while a request is under way, the credential does not matter. -/
def told (window : RefreshWindow) (current : Option Held) (now : Instant) :
    Phase → CredentialState
  | .authenticating => .authenticating
  | .refreshing => .refreshing
  | .idle =>
    match current with
    | none => .unauthenticated
    | some held =>
      if window.needsRefresh held.credential now then .nearingExpiry else .valid

def state (keeper : Keeper) (now : Instant) : CredentialState :=
  told keeper.window keeper.current now keeper.phase

def expiresAt (keeper : Keeper) : Option Instant :=
  keeper.current.map (·.credential.expiresAt)

/-- Makes a new object of `credential` the current one. -/
def install (keeper : Keeper) (credential : Credential) : Keeper :=
  { keeper with
    current := some ⟨keeper.made + 1, credential⟩
    made := keeper.made + 1 }

def share (keeper : Keeper) (call : Nat) (result : Except AuthError Held) : Keeper × Reply :=
  (keeper.place call (.leaving (some result)), .leave)

def complete (keeper : Keeper) (call : Nat) (result : Except AuthError Held) : Keeper × Reply :=
  ({ keeper with
      phase := .idle
      lastFailure := match result with
        | .ok _ => none
        | .error error => some error
      completed := keeper.completed + 1 }.place call (.leaving (some result)), .leave)

def beginLogin (keeper : Keeper) (call : Nat) : Keeper × Reply :=
  ({ keeper with phase := .authenticating }.place call .loggingIn, .login)

def renew (keeper : Keeper) (call : Nat) (forced : Bool) : Keeper × Reply :=
  match keeper.current with
  | none => keeper.beginLogin call
  | some held =>
    ({ keeper with phase := .refreshing }.place call (.refreshing held forced), .refresh held)

/-- Begins the transition of `call`.  The first one of all asks the secret store. -/
def beginTransition (keeper : Keeper) (call : Nat) (forced : Bool) : Keeper × Reply :=
  if keeper.restored then keeper.renew call forced
  else ({ keeper with restored := true }.place call (.loading forced), .load)

/-- What a call that has just come inside is given without a transition of its own, if anything. -/
def known (keeper : Keeper) (now : Instant) : Purpose → Option (Except AuthError Held)
  | .usable seen =>
    let shared : Option (Except AuthError Held) :=
      if keeper.completed = seen then none
      else
        match keeper.lastFailure with
        | some error => some (.error error)
        | none => keeper.current.map .ok
    shared.or ((keeper.usable now).map .ok)
  | .replacement rejected => (keeper.current.filter (·.number != rejected)).map .ok

def decide (keeper : Keeper) (call : Nat) (now : Instant) (purpose : Purpose) : Keeper × Reply :=
  match keeper.known now purpose with
  | some result => keeper.share call result
  | none => keeper.beginTransition call purpose.isForced

/-- The secret store has answered.  Expired credentials are taken over too, since they may still
be refreshed. -/
def restore (keeper : Keeper) (call : Nat) (forced : Bool) :
    Except AuthError (Option Credential) → Keeper × Reply
  | .ok (some credential) => ((keeper.install credential).place call (.restored forced), .resume)
  | _ => (keeper.place call (.restored forced), .resume)

/-- The transition goes on after the secret store was asked.  A credential that was found there
may be all that is wanted. -/
def afterRestore (keeper : Keeper) (call : Nat) (forced : Bool) (now : Instant) :
    Keeper × Reply :=
  match if forced then none else keeper.usable now with
  | some held => keeper.complete call (.ok held)
  | none => keeper.renew call forced

/-- The refresh of `held` has been answered.  After a failure that may pass, a credential that is
still valid is kept, unless it was rejected. -/
def afterRefresh (keeper : Keeper) (call : Nat) (held : Held) (forced : Bool) (now : Instant) :
    Except AuthError Credential → Keeper × Reply
  | .ok fresh => (keeper.place call (.saving fresh), .save fresh)
  | .error error =>
    if error.classification.isRetryable && !forced && !held.credential.isExpired now then
      keeper.complete call (.ok held)
    else { keeper with current := none }.beginLogin call

def afterLogin (keeper : Keeper) (call : Nat) : Except AuthError Credential → Keeper × Reply
  | .ok fresh => (keeper.place call (.saving fresh), .save fresh)
  | .error error => keeper.complete call (.error error)

/-- The secret store was written, or that failed: the credential in memory counts. -/
def afterSave (keeper : Keeper) (call : Nat) (fresh : Credential) :
    Except AuthError Unit → Keeper × Reply
  | .ok _ | .error _ => (keeper.place call (.installing fresh), .install)

def takeOver (keeper : Keeper) (call : Nat) (fresh : Credential) : Keeper × Reply :=
  let keeper := keeper.install fresh
  keeper.complete call (.ok ⟨keeper.made, fresh⟩)

def abandon (keeper : Keeper) (call : Nat) : Stage → Keeper × Reply
  | .arrived _ | .missed _ => (keeper.forget call, .dropped)
  | .queued _ => ({ keeper with gate := keeper.gate.leave call }.forget call, .dropped)
  | .leaving _ => (keeper.place call (.leaving none), .leave)
  | _ => ({ keeper with phase := .idle }.place call (.leaving none), .leave)

def step (keeper : Keeper) : Event → Keeper × Reply
  | .arrive call =>
    match keeper.stage? call with
    | none => (keeper.place call (.arrived keeper.completed), .look)
    | some _ => (keeper, .refused)
  | .look call now =>
    match keeper.stage? call with
    | some (.arrived seen) =>
      match keeper.usable now with
      | some held => (keeper.forget call, .finished (.ok held))
      | none => (keeper.place call (.missed seen), .join)
    | _ => (keeper, .refused)
  | .join call =>
    match keeper.stage? call with
    | some (.missed seen) =>
      ({ keeper with gate := keeper.gate.enter call }.place call (.queued (.usable seen)), .wait)
    | _ => (keeper, .refused)
  | .reject call rejected =>
    match keeper.stage? call with
    | none =>
      ({ keeper with gate := keeper.gate.enter call }.place call
        (.queued (.replacement rejected)), .wait)
    | some _ => (keeper, .refused)
  | .enter call now =>
    match keeper.stage? call with
    | some (.queued purpose) =>
      if keeper.gate.holder? = some call then keeper.decide call now purpose else (keeper, .wait)
    | _ => (keeper, .refused)
  | .loaded call stored =>
    match keeper.stage? call with
    | some (.loading forced) => keeper.restore call forced stored
    | _ => (keeper, .refused)
  | .resume call now =>
    match keeper.stage? call with
    | some (.restored forced) => keeper.afterRestore call forced now
    | _ => (keeper, .refused)
  | .answered call answer now =>
    match keeper.stage? call with
    | some (.refreshing held forced) => keeper.afterRefresh call held forced now answer
    | some .loggingIn => keeper.afterLogin call answer
    | _ => (keeper, .refused)
  | .saved call result =>
    match keeper.stage? call with
    | some (.saving fresh) => keeper.afterSave call fresh result
    | _ => (keeper, .refused)
  | .install call =>
    match keeper.stage? call with
    | some (.installing fresh) => keeper.takeOver call fresh
    | _ => (keeper, .refused)
  | .drop call =>
    match keeper.stage? call with
    | some stage => keeper.abandon call stage
    | none => (keeper, .refused)
  | .leave call =>
    match keeper.stage? call with
    | some (.leaving result) =>
      ({ keeper with gate := keeper.gate.leave call }.forget call,
        match result with
        | some result => .finished result
        | none => .dropped)
    | _ => (keeper, .refused)

end Keeper

end Steward
