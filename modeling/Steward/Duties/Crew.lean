import Steward.Credential.Keeper
import Steward.Duties
import Steward.Paging
import Steward.Scheduler
import Steward.Session
import Steward.Tenant
/-!
# The recurring tasks at work

A crew is the scheduler with the bodies that its loops have started, each at the work of its task,
and the parts of the service that they share: the keeper of the credential, the account, and the
source of the strategy.  Bodies and all other callers of these parts are interleaved in any way, and
the services outside answer what they like.  A call of a body goes under the number of the body.

A body works in steps, and each ends where it waits for something or reads what is shared.  It is
assumed that an abort comes between two steps: an aborted body takes no further step and is gone
some time later.  A failure that nothing can be done about is reported through a channel that
holds one reason.
-/

set_option autoImplicit false

namespace Steward

namespace Crew

open Duties

inductive PollStage where
  | balance
  | restrictions
  | balanceFailure
  | restrictionsFailure (balance : Option AccountError)

/-- A walk has passed `count` transactions so far, and `calling` calls for its next page. -/
inductive Activity where
  | checking
  | polling (stage : PollStage)
  | walking (cursor : Cursor Transaction) (count : Nat)
  | calling (cursor : Cursor Transaction) (count : Nat) (session : Session.Stage)
  | refreshing

def Activity.first : Duty → Activity
  | .checkCredential => .checking
  | .pollAccount => .polling .balance
  | .syncTransactions => .walking .start 0
  | .watchStrategy _ => .refreshing

def Activity.wantsUsable : Activity → Bool
  | .checking | .calling _ _ .obtaining => true
  | _ => false

def Activity.refused? : Activity → Option Nat
  | .calling _ _ (.replacing held) => some held.number
  | _ => none

def Activity.admits (activity : Activity) : Keeper.Event → Bool
  | .arrive _ => activity.wantsUsable
  | .reject _ rejected => activity.refused? = some rejected
  | _ => true

/-- What the work of a body has come to. -/
inductive Finding where
  | credential (result : Except AuthError Held)
  | failures (balance restrictions : Option AccountError)
  | synced (result : Except AccountError Nat)
  | refreshed (result : Except FileError (Option (Source.Change String)))

def Finding.verdict : Finding → Verdict
  | .credential result => afterCredentialCheck result
  | .failures balance restrictions => afterPoll (balance.toList ++ restrictions.toList)
  | .synced result => afterSync result
  | .refreshed _ => .fine

structure Member where
  task : Nat
  activity : Activity

/-- Everything but the ends of bodies may happen to the scheduler.  `keeper` and `account` are also
events of callers that are no bodies, `goOn` brings the number of a background job in case one is
needed, and `take` empties the channel. -/
inductive Event where
  | scheduler (event : Scheduler.Event)
  | keeper (event : Keeper.Event)
  | account (event : Tenant.Event)
  | strategy (event : Source.Event String FileError)
  | answered (body : Nat) (answer : Except RemoteError (Page Transaction))
  | goOn (body : Nat) (job now : Nat)
  | gone (body : Nat)
  | take

inductive Reply where
  | scheduler (reply : Scheduler.Reply)
  | keeper (reply : Keeper.Reply)
  | account (reply : Tenant.Reply)
  | strategy (reply : Source.Reply String FileError)
  | progress
  | finished (task body : Nat) (finding : Finding)
  | taken (reason : ExitReason)
  | refused

end Crew

structure Crew where
  duties : List Duties.Duty
  scheduler : Scheduler
  members : List (Nat × Crew.Member)
  keeper : Keeper
  account : Tenant
  strategy : Source String
  fatal : Option ExitReason

namespace Crew

open Duties

def enlist (scheduler : Scheduler) : List Assignment → Scheduler
  | [] => scheduler
  | assignment :: rest =>
    enlist (scheduler.step (.schedule scheduler.tasks.length assignment.name assignment.timing)).1
      rest

/-- All duties are scheduled, and the keeper is as the first login has left it. -/
def start (config : Config) (keeper : Keeper) : Crew where
  duties := (assignments config).map (·.duty)
  scheduler := enlist (.new config.scheduler.workers) (assignments config)
  members := []
  keeper := keeper
  account := .new (some (.ofSeconds config.polling.balanceTtlSecs))
    (some (.ofSeconds config.polling.restrictionsTtlSecs))
  strategy := .new
  fatal := none

/-! ## Bodies -/

def member? (crew : Crew) (body : Nat) : Option Member := crew.members.lookup body

def isAborted (crew : Crew) (body : Nat) : Bool :=
  crew.scheduler.loops.any fun (_, loop) =>
    match loop.stage with
    | .reaping watched _ => watched = body
    | _ => false

def active? (crew : Crew) (body : Nat) : Option Member :=
  if crew.isAborted body then none else crew.member? body

def place (crew : Crew) (body : Nat) (member : Member) : Crew :=
  { crew with members := (body, member) :: crew.members.filter (·.1 != body) }

def begin (crew : Crew) (task body : Nat) : Crew :=
  match crew.duties[task]? with
  | some duty => crew.place body ⟨task, .first duty⟩
  | none => crew

/-- The body is not at work any more, and the scheduler learns how it has ended. -/
def leave (crew : Crew) (body : Nat) (how : Scheduler.BodyEnd) : Crew :=
  { crew with
    scheduler := (crew.scheduler.step (.bodyEnded body how)).1
    members := crew.members.filter (·.1 != body) }

def finish (crew : Crew) (task body : Nat) (finding : Finding) : Crew × Reply :=
  ({ crew.leave body (.done finding.verdict.result) with
      fatal := crew.fatal.or finding.verdict.fatal }, .finished task body finding)

def proceed (crew : Crew) (task body : Nat) (cursor : Cursor Transaction) (count : Nat)
    (session : Session.Stage) (input : Session.Input (Page Transaction)) : Crew × Reply :=
  match Session.step session input with
  | (_, .finished (.ok page)) =>
    (crew.place body ⟨task, .walking (cursor.supply page) count⟩, .progress)
  | (_, .finished (.error error)) => crew.finish task body (.synced (.error error))
  | (_, .refused) => (crew, .progress)
  | (session, _) => (crew.place body ⟨task, .calling cursor count session⟩, .progress)

def obtained (crew : Crew) (body : Nat) (result : Except AuthError Held) : Crew × Reply :=
  match crew.active? body with
  | some ⟨task, .checking⟩ => crew.finish task body (.credential result)
  | some ⟨task, .calling cursor count session⟩ =>
    crew.proceed task body cursor count session (.credential result)
  | _ => (crew, .keeper (.finished result))

def poll (crew : Crew) (task body job now : Nat) : PollStage → Crew × Reply
  | .balance =>
    let (account, reply) := crew.account.step (.balance (.cache (.getNow job now)))
    ({ crew with account := account }.place body ⟨task, .polling .restrictions⟩, .account reply)
  | .restrictions =>
    let (account, reply) := crew.account.step (.restrictions (.cache (.getNow job now)))
    ({ crew with account := account }.place body ⟨task, .polling .balanceFailure⟩, .account reply)
  | .balanceFailure =>
    let failure := crew.account.balance.cache.lastFailure
    (crew.place body ⟨task, .polling (.restrictionsFailure failure)⟩, .progress)
  | .restrictionsFailure balance =>
    crew.finish task body (.failures balance crew.account.restrictions.cache.lastFailure)

def walk (crew : Crew) (task body : Nat) (cursor : Cursor Transaction) (count : Nat) :
    Crew × Reply :=
  match cursor.pull with
  | .ended => crew.finish task body (.synced (.ok count))
  | .item _ cursor => (crew.place body ⟨task, .walking cursor (count + 1)⟩, .progress)
  | .fetch _ => (crew.place body ⟨task, .calling cursor count .obtaining⟩, .progress)

/-- Bodies end by their work only, and no task is added. -/
def isReserved : Scheduler.Event → Bool
  | .schedule .. | .bodyEnded .. => true
  | _ => false

def step (crew : Crew) : Event → Crew × Reply
  | .scheduler event =>
    if isReserved event then (crew, .refused)
    else
      let (scheduler, reply) := crew.scheduler.step event
      let crew := { crew with scheduler := scheduler }
      match reply with
      | .startBody task body => (crew.begin task body, .scheduler reply)
      | _ => (crew, .scheduler reply)
  | .keeper event =>
    if (crew.member? event.call).any (!·.activity.admits event) then (crew, .refused)
    else
      let (keeper, reply) := crew.keeper.step event
      let crew := { crew with keeper := keeper }
      match reply with
      | .finished result => crew.obtained event.call result
      | reply => (crew, .keeper reply)
  | .account event =>
    let (account, reply) := crew.account.step event
    ({ crew with account := account }, .account reply)
  | .strategy event =>
    let (strategy, reply) := crew.strategy.step event
    let crew := { crew with strategy := strategy }
    match reply, crew.active? event.call with
    | .finished result, some ⟨task, .refreshing⟩ => crew.finish task event.call (.refreshed result)
    | reply, _ => (crew, .strategy reply)
  | .answered body answer =>
    match crew.active? body with
    | some ⟨task, .calling cursor count session⟩ =>
      crew.proceed task body cursor count session (.result answer)
    | _ => (crew, .refused)
  | .goOn body job now =>
    match crew.active? body with
    | some ⟨task, .polling stage⟩ => crew.poll task body job now stage
    | some ⟨task, .walking cursor count⟩ => crew.walk task body cursor count
    | _ => (crew, .refused)
  | .gone body =>
    if crew.isAborted body && (crew.member? body).isSome then
      (crew.leave body .cancelled, .progress)
    else (crew, .refused)
  | .take =>
    match crew.fatal with
    | some reason => ({ crew with fatal := none }, .taken reason)
    | none => (crew, .refused)

end Crew

end Steward
