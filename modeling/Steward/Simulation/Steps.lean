import Steward.Simulation.World
/-!
# Events of what routines share

The parts of the service are those of a crew, and whatever happens to them happens by its steps.
Calls of the service and walks have the keeper in common with it.  Whoever can go on by an event is
woken.
-/

set_option autoImplicit false

namespace Steward.Simulation

/-- The crew of this world, with the source of that number for its strategy. -/
def World.crew (world : World) (source : Nat) : Crew where
  duties := world.duties
  scheduler := world.scheduler
  members := world.members
  keeper := world.access.keeper
  account := world.tenant
  strategy := ((world.watched[source]?).map (·.source)).getD .new
  fatal := world.fatal

def World.withCrew (world : World) (source : Nat) (crew : Crew) : World :=
  { world with
    duties := crew.duties
    scheduler := crew.scheduler
    members := crew.members
    access := { world.access with desk := { world.access.desk with keeper := crew.keeper } }
    tenant := crew.account
    watched := world.watched.modify source fun watched => { watched with source := crew.strategy }
    fatal := crew.fatal }

/-- Wakes the caller who has come inside a turnstile. -/
def wakeHolder (self : Nat) (before after : Turnstile) : Run Unit := do
  match after.holder? with
  | some holder => if before.holder? ≠ some holder ∧ holder ≠ self then wake holder
  | none => pure ()

def newHolders (before after : Scheduler) : List Nat :=
  after.permits.holders.filter fun caller => !before.permits.holders.contains caller

def onlookersOf (onlookers : List (Nat × Nat)) (before after : Scheduler) : List Nat :=
  onlookers.filterMap fun (task, onlooker) =>
    if (before.tasks[task]?).map (·.state) = (after.tasks[task]?).map (·.state) then none
    else some onlooker

def watchersOf (before after : Scheduler) : List Nat :=
  let ended := after.bodies.filterMap fun (body, how) =>
    if how.isSome && (before.bodies.lookup body).any (·.isNone) then some body else none
  after.loops.filterMap fun (loop, at_) =>
    match at_.stage with
    | .running body _ | .reaping body _ => if ended.contains body then some loop else none
    | _ => none

def closersOf (before after : Scheduler) : List Nat :=
  if after.jobs.length < before.jobs.length || after.loops.length < before.loops.length then
    after.closers.map (·.1)
  else []

def informed (before after : Scheduler) : List Nat :=
  if !before.closing && after.closing then
    (after.loops.map (·.1)).reverse ++ after.permits.line.drop after.permits.size
  else []

def wakeWorkers (self : Nat) (onlookers : List (Nat × Nat)) (before after : Scheduler) :
    Run Unit :=
  let woken := informed before after ++ newHolders before after
    ++ onlookersOf onlookers before after ++ watchersOf before after ++ closersOf before after
  woken.forM fun id => if id = self then pure () else wake id

/-! ## Events -/

def setCrew (self source : Nat) (crew : Crew) : Run Unit := do
  let before := (← world).crew source
  update (·.withCrew source crew)
  wakeHolder self before.keeper.gate crew.keeper.gate
  wakeHolder self before.account.balance.cache.gate crew.account.balance.cache.gate
  wakeHolder self before.account.restrictions.cache.gate crew.account.restrictions.cache.gate
  wakeHolder self before.strategy.gate crew.strategy.gate
  wakeWorkers self (← world).onlookers before.scheduler crew.scheduler

def stepCrew (self source : Nat) (event : Crew.Event) : Run Crew.Reply := do
  let (crew, reply) := ((← world).crew source).step event
  setCrew self source crew
  return reply

/-- Lets an event happen to the scheduler.  A crew admits neither tasks beside its own nor the ends
of bodies that are not its members. -/
def stepScheduler (self : Nat) (event : Scheduler.Event) : Run Scheduler.Reply := do
  match ← stepCrew self 0 (.scheduler event) with
  | .scheduler reply => return reply
  | _ =>
    let crew := (← world).crew 0
    let (scheduler, reply) := crew.scheduler.step event
    setCrew self 0 { crew with scheduler := scheduler }
    return reply

def stepSyncs (self : Nat) (event : Syncs.Event Item) : Run (Syncs.Reply Item) := do
  let before := (← world).access
  let (syncs, reply) := before.toSyncs.step event
  update fun world => { world with access := { world.access with toSyncs := syncs } }
  wakeHolder self before.keeper.gate syncs.desk.keeper.gate
  return reply

def isMember (self : Nat) : Run Bool := return (((← world).crew 0).member? self).isSome

end Steward.Simulation
