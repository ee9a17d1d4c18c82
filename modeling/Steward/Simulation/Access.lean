import Steward.Simulation.Steps
/-!
# Routines that obtain credentials
-/

set_option autoImplicit false

namespace Steward.Simulation

def updateAccess (change : Access → Access) : Run Unit :=
  update fun world => { world with access := change world.access }

/-- A request to the keeper goes on: that of a body of the crew, that of a call of the service, or
one of its own. -/
def keepOn (self : Nat) (event : Keeper.Event) : Step := do
  if ← isMember self then
    match ← stepCrew self 0 (.keeper event) with
    | .keeper reply => return .go (.keep reply)
    | reply => return .answer (.crew reply)
  else
    match ← stepSyncs self (.desk (.keeper event (← clock))) with
    | .desk (.keeper reply) => return .go (.keep reply)
    | .desk reply => return .answer (.desk reply)
    | _ => return .crash

def askTokens (request : TokenRequest) : Step := do
  let access := (← world).access
  match request with
  | .login =>
    let number := access.logins + 1
    updateAccess fun access => { access with logins := number }
    note ("login " ++ access.username ++ " " ++ access.password.expose ++ " " ++ access.scope)
    return .go (.asking request number (answerTo access.login plainGrant number))
  | .refresh held =>
    let number := access.refreshes + 1
    updateAccess fun access => { access with refreshes := number }
    note ("refresh " ++ held.credential.refresh.expose ++ " " ++ held.credential.scope)
    return .go (.asking request number (answerTo access.refresh plainGrant number))

/-- The credential that a grant comes to. -/
def granted (grant : Grant) (kind scope : String) (number : Nat) (now : Instant) : Credential :=
  let tag := kind ++ "_" ++ toString number
  .issue (grant.access.getD ("at_" ++ tag)) (grant.refresh.getD ("rt_" ++ tag))
    (grant.scope.getD scope) ((grant.issuedAt.map UInt64.ofNat).getD now)
    (.ofMillis grant.lifetime)

def TokenRequest.kind : TokenRequest → String
  | .login => "login"
  | .refresh _ => "refresh"

def pollKeep (self : Nat) (reply : Keeper.Reply) : Step := do
  match reply with
  | .look => keepOn self (.look self (← today))
  | .join => keepOn self (.join self)
  | .wait =>
    if (← world).access.keeper.gate.holder? = some self then keepOn self (.enter self (← today))
    else return .pending (.keep reply) none
  | .load =>
    note "load"
    let access := (← world).access
    let stored := match access.loadError with
      | some error => .error error
      | none => .ok access.stored
    keepOn self (.loaded self stored)
  | .resume => keepOn self (.resume self (← today))
  | .refresh held => askTokens (.refresh held)
  | .login => askTokens .login
  | .save fresh =>
    note ("save " ++ fresh.access.expose)
    match (← world).access.saveError with
    | some error => keepOn self (.saved self (.error error))
    | none =>
      updateAccess fun access => { access with stored := some fresh }
      keepOn self (.saved self (.ok ()))
  | .install => keepOn self (.install self)
  | .leave => keepOn self (.leave self)
  | .finished result => return .answer (.credential result)
  | .dropped => return .answer .done
  | .refused => return .answer .done

def pollAsking (self : Nat) (request : TokenRequest) (number : Nat)
    (answer : Scripted (Except AuthError Grant)) : Option Answer → Step
  | none => do
    return .call (.asking request number answer) (.sleeping (answer.moment (← clock)))
  | some _ => do
    if answer.crashes then return .crash
    let now ← today
    record (.transition request.kind answer.outcome.isOk)
    let access := (← world).access
    let scope := match request with
      | .login => access.scope
      | .refresh held => held.credential.scope
    let result := answer.outcome.map fun grant => granted grant request.kind scope number now
    keepOn self (.answered self result now)

/-- Gives up the request to the keeper, with the call of the service or the walk that it is for. -/
def giveUp (self : Nat) : Run Unit := do
  let access := (← world).access
  let now ← clock
  let give : Keeper.Event → Run Unit := fun event => do
    if ← isMember self then discard (stepCrew self 0 (.keeper event))
    else discard (stepSyncs self (.desk (.keeper event now)))
  if (access.walk? self).isSome then discard (stepSyncs self (.abandon self))
  else if (access.desk.call? self).isSome then discard (stepSyncs self (.desk (.abandon self)))
  else give (.drop self)
  give (.leave self)

/-- The number under which callers know an object. -/
def handOut (held : Held) : Run Unit :=
  updateAccess fun access =>
    if access.handed.contains held.number then access
    else { access with handed := access.handed ++ [held.number] }

end Steward.Simulation
