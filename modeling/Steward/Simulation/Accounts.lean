import Steward.Simulation.Access
import Steward.Simulation.Sources
import Steward.Simulation.Tasks
/-!
# Routines that work on the account
-/

set_option autoImplicit false

namespace Steward.Simulation

/-- A page of as many transactions as there are; they are numbered across the pages. -/
def servedPage (accounts : Accounts) (page size : Nat) : Page Transaction where
  items := (List.range (min size (accounts.transactions - page * size))).map fun place =>
    ⟨UInt64.ofNat (page * size + place), -200, "", ""⟩
  total := if accounts.hidesTotal then none else some accounts.transactions

def takeFailure (operation : Operation) :
    List Ordered → Option RemoteError × List Ordered
  | [] => (none, [])
  | failure :: rest =>
    if failure.operation.all (· == operation.name) then
      (some failure.error,
        if failure.times ≤ 1 then rest else { failure with times := failure.times - 1 } :: rest)
    else
      let (error, others) := takeFailure operation rest
      (error, failure :: others)

def Accounts.serve (accounts : Accounts) : Operation → Item
  | .balance => .balance accounts.balance
  | .restrictions => .restrictions accounts.restrictions
  | .transactions page size => .page (servedPage accounts page size)

def Operation.request : Operation → String
  | .transactions page size => "transactions " ++ toString page ++ "x" ++ toString size
  | operation => operation.name

def pollRemote (operation : Operation) (held : Held) : Option Answer → Step
  | none => do
    note (operation.request ++ " " ++ held.credential.access.expose)
    sleepUnder (.remote operation held) (← world).accounts.latency
  | some _ => do
    let accounts := (← world).accounts
    let (error, failures) := takeFailure operation accounts.failures
    update fun world => { world with accounts := { world.accounts with failures := failures } }
    match error with
    | some error => return .answer (.remote (.error error))
    | none => return .answer (.remote (.ok (accounts.serve operation)))

def Item.answer : Item → Syncs.Answer Item
  | .page served => .page served
  | item => .other item

def Item.ofAnswer : Syncs.Answer Item → Item
  | .page served => .page served
  | .other item => item

def afterDesk (operation : Operation) : Desk.Reply (Syncs.Answer Item) → Step
  | .obtain => return .call (.calling operation) .obtain
  | .run held => return .call (.calling operation) (.remote operation held)
  | .replace refused => return .call (.calling operation) (.replace refused.number)
  | .finished _ result samples => do
    samples.forM record
    return .answer (.item ((result.map Item.ofAnswer).mapError .account))
  | _ => return .crash

def callOn (self : Nat) (operation : Operation) (event : Desk.Event (Syncs.Answer Item)) :
    Step := do
  match ← stepSyncs self (.desk event) with
  | .desk reply => afterDesk operation reply
  | _ => return .crash

/-- A call of the service goes on.  That of a walk has begun with the walk. -/
def pollCalling (self : Nat) (operation : Operation) : Option Answer → Step
  | none => do
    if ((← world).access.desk.call? self).isSome then afterDesk operation .obtain
    else callOn self operation (.begin self operation.name (← clock))
  | some (.desk reply) => afterDesk operation reply
  | some (.remote result) => do
    callOn self operation (.answered self (result.map Item.answer) (← clock))
  | some _ => return .crash

/-! ## Transactions -/

def Item.page? : Except Fault Item → Option (Except AccountError (Page Transaction))
  | .ok (.page served) => some (.ok served)
  | .error (.account error) => some (.error error)
  | _ => none

def pollWalk (stream : Streams.Stream Transaction) (left : Option Nat)
    (seen : List (Except AccountError Transaction)) (answer : Option Answer) : Step := do
  let input : Option (Streams.Input Transaction AccountError) := match answer with
    | none => some .demand
    | some (.item result) => (Item.page? result).map .answer
    | some _ => none
  match input with
  | none => return .crash
  | some input =>
    if !stream.waiting && left = some 0 then return .answer (.walked seen.reverse)
    match stream.step (← world).pageSize input with
    | (stream, .request page size) =>
      return .call (.walk stream left seen) (.calling (.transactions page size))
    | (stream, .yielded result) =>
      return .go (.walk stream (left.map (· - 1)) (result :: seen))
    | (_, .ended) => return .answer (.walked seen.reverse)
    | (_, .refused) => return .crash

def pollSync (self : Nat) : Step := do
  let begun := ((← world).access.walk? self).isSome
  let now ← clock
  match ← stepSyncs self (if begun then .goOn self now else .begin self) with
  | .progress => return .go .sync
  | .call page => return .call .sync (.calling (.transactions page (← world).pageSize))
  | .ended result notice =>
    notice.forM tell
    return .answer (.counted result)
  | _ => return .crash

def balanceShelf : Spot := .balance

def restrictionsShelf : Spot := .restrictions

/-- Has stale parts of the account loaded again, and gives the last failures of the parts. -/
def pollAccount : Run (List AccountError) := do
  discard (peekAndRefresh balanceShelf)
  discard (peekAndRefresh restrictionsShelf)
  return (← world).tenant.failures

def recordPage {α : Type} (begun : Nat) (result : Except AccountError α) : Run Unit := do
  let call : Desk.Call := ⟨Syncs.operation, begun, .obtaining⟩
  (call.samples result (← clock)).forM record

def afterDuty (begun job : Nat) : Crew.Reply → Step
  | .finished _ _ finding => do
    match finding with
    | .synced (.ok count) => tell (.transactionsSynced count)
    | .synced (.error error) => recordPage (α := Unit) begun (.error error)
    | .refreshed (.ok (some change)) => tell (Strategy.notice change)
    | _ => pure ()
    return .answer .done
  | .account (.balance (.cache (.shown _ wanted))) => do
    refreshIf wanted job .balance
    return .go (.duty begun)
  | .account (.restrictions (.cache (.shown _ wanted))) => do
    refreshIf wanted job .restrictions
    return .go (.duty begun)
  | _ => return .go (.duty begun)

def sourceOf (task : Nat) : Run Nat :=
  return ((← world).duties.take task).countP fun
    | .watchStrategy _ => true
    | _ => false

/-- A body asks for what it waits for, or goes on by itself. -/
def pollActivity (self begun : Nat) (member : Crew.Member) : Step := do
  let routine := Routine.duty begun
  match member.activity with
  | .checking => return .call routine .obtain
  | .refreshing => return .call routine (.refresh (← sourceOf member.task))
  | .calling cursor _ session =>
    match session with
    | .obtaining => return .call (.duty (← clock)) .obtain
    | .replacing refused => return .call routine (.replace refused.number)
    | .running held | .rerunning held =>
      return .call routine (.remote (.transactions cursor.next (← world).pageSize) held)
  | .polling _ | .walking .. =>
    let job := (← get).fresh
    afterDuty begun job (← stepCrew self 0 (.goOn self job (← clock)))

def pollDuty (self begun : Nat) : Option Answer → Step
  | some (.crew reply) => afterDuty begun self reply
  | some (.remote (.ok (.page page))) => do
    recordPage begun (.ok page)
    afterDuty begun self (← stepCrew self 0 (.answered self (.ok page)))
  | some (.remote (.error error)) => do
    afterDuty begun self (← stepCrew self 0 (.answered self (.error error)))
  | _ => do
    match ((← world).crew 0).active? self with
    | some member => pollActivity self begun member
    | none => return .crash

def pollBegin (task number : Nat) : Step := do
  match (← world).works[task]? with
  | some (.scripted script) =>
    let name := (((← world).scheduler.tasks[task]?).map (·.name)).getD ""
    startRunning (name ++ " " ++ toString number) (answerTo script (.after 0 (.ok ())) number)
  | some (.refreshSource source) => return .go (.refreshing source)
  | some .duty => return .go (.duty (← clock))
  | none => return .crash

def pollAuthenticate (attempt begun : Nat) : Option Answer → Step
  | some (.credential result) => do
    let world ← world
    let now ← clock
    match world.backoff.afterAttempt (fun error => error.classification.isRetryable) attempt
        (Moment.since now begun) result with
    | .stop result => return .answer (.credential result)
    | .retry wait attempt =>
      return .call (.retrying attempt begun) (.sleeping (some (Moment.after now wait)))
  | _ => return .call (.authenticate attempt begun) .obtain

def pollRetrying (attempt begun : Nat) : Option Answer → Step
  | none => return .pending (.retrying attempt begun) none
  | some _ => return .go (.authenticate attempt begun)

end Steward.Simulation
