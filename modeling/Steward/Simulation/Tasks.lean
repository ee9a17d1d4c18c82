import Steward.Simulation.Caches
/-!
# Routines that run tasks and background jobs

Each loop, body, job and shutdown is a fiber, known to the scheduler by the number of the fiber.
-/

set_option autoImplicit false

namespace Steward.Simulation

/-! ## Loops and bodies -/

def startBody (task : Nat) : Run Unit := do
  let number := ((← world).runs[task]?).getD 0 + 1
  update fun world => { world with runs := world.runs.set task number }
  discard (spawn [.begin task number, .body])

def pollLoop (self : Nat) : Step := do
  let body := (← get).fresh
  let reply ← stepScheduler self (.pollLoop self (← clock) body true)
  ((← world).scheduler.recorded reply).forM record
  match reply with
  | .wait alarm => return .pending .loop alarm
  | .startBody task _ =>
    startBody task
    return .go .loop
  | .abortBody body =>
    abort body
    return .go .loop
  | .runEnded .. | .progress => return .go .loop
  | _ => return .answer .done

def startRunning (name : String) (answer : Scripted (Except String Unit)) : Step := do
  note (name ++ " start")
  return .go (.running name answer)

def pollRunning (name : String) (answer : Scripted (Except String Unit)) :
    Option Answer → Step
  | none => do return .call (.running name answer) (.sleeping (answer.moment (← clock)))
  | some _ => do
    if answer.crashes then return .crash
    note (name ++ " end")
    return .answer (.ran answer.outcome)

def dropRunning (name : String) : Run Unit := note (name ++ " dropped")

/-- The scheduler learns of a body of the crew from the crew. -/
def pollBody (self : Nat) : Option Answer → Step
  | none => return .pending .body none
  | some (.ran result) => do
    discard (stepScheduler self (.bodyEnded self (.done result)))
    return .answer .done
  | some _ => return .answer .done

def dropBody (self : Nat) (why : Drop) : Run Unit := do
  match ← isMember self, why with
  | true, .aborted => discard (stepCrew self 0 (.gone self))
  | true, .crashed => setCrew self 0 (((← world).crew 0).leave self .panicked)
  | false, .aborted => discard (stepScheduler self (.bodyEnded self .cancelled))
  | false, .crashed => discard (stepScheduler self (.bodyEnded self .panicked))

/-- A refresh that fails leaves the value that was there, and the run succeeds. -/
def pollRefreshing (source : Nat) : Option Answer → Step
  | none => return .call (.refreshing source) (.refresh source)
  | some _ => return .answer (.ran (.ok ()))

/-! ## Jobs -/

def pollWorker (self : Nat) (job : Job) : Step := do
  match ← stepScheduler self (.pollJob self) with
  | .wait _ => return .pending (.worker job) none
  | .progress => return .go (.worker job)
  | .work =>
    match job with
    | .refreshCache cache => return .call .working (.background cache)
    | .scripted number answer =>
      let name := "job " ++ toString number
      note (name ++ " start")
      return .call .working (.running name answer)
  | _ =>
    match job with
    | .refreshCache cache => dropCaching self cache
    | .scripted .. => pure ()
    return .answer .done

def pollWorking (self : Nat) : Option Answer → Step
  | none => return .pending .working none
  | some _ => do
    discard (stepScheduler self (.jobEnded self))
    return .answer .done

def dropWorker (self : Nat) : Job → Run Unit
  | .refreshCache cache => do
    dropCaching self cache
    discard (stepScheduler self (.jobEnded self))
  | .scripted .. => discard (stepScheduler self (.jobEnded self))

def dropWorking (self : Nat) : Run Unit := discard (stepScheduler self (.jobEnded self))

def submit (job : Job) : Run Scheduler.Reply := do
  let id := (← get).fresh
  match ← stepScheduler id (.spawnJob id) with
  | .accepted =>
    discard (spawn [.worker job])
    return .accepted
  | reply => return reply

def runJob (answer : Scripted (Except String Unit)) : Run Scheduler.Reply := do
  let number := (← world).jobs + 1
  update fun world => { world with jobs := number }
  submit (.scripted number answer)

/-- Starts the background job `job` for a cache, if one is wanted. -/
def refreshIf (wanted : Bool) (job : Nat) (spot : Spot) : Run Unit := do
  if wanted then
    if (← world).pooled then
      match ← submit (.refreshCache spot) with
      | .accepted => pure ()
      | _ => discard (stepCache job spot (.decline job))
    else discard (spawn [.background spot])

def peekAndRefresh (spot : Spot) : Run (Option Item) := do
  let job := (← get).fresh
  let now ← clock
  match ← stepCache job spot (.getNow job now) with
  | .shown value wanted =>
    refreshIf wanted job spot
    return value
  | _ => return none

def schedule (name : String) (timing : Timing) (work : Work) : Run Scheduler.Reply := do
  let loop := (← get).fresh
  match ← stepScheduler loop (.schedule loop name timing) with
  | .accepted =>
    discard (spawn [.loop])
    update fun world =>
      { world with works := world.works ++ [work], runs := world.runs ++ [0] }
    return .accepted
  | reply => return reply

def resubmit (task : Nat) : Run Scheduler.Reply := do
  let loop := (← get).fresh
  match ← stepScheduler loop (.resubmit loop task) with
  | .accepted =>
    discard (spawn [.loop])
    return .accepted
  | reply => return reply

def pollShutdown (self : Nat) : Step := do
  match ← stepScheduler self (.shutdown self) with
  | .abortJobs jobs =>
    jobs.reverse.forM abort
    return .go .closing
  | _ => return .answer .done

def pollClosing (self : Nat) : Step := do
  match ← stepScheduler self (.pollShutdown self) with
  | .wait _ => return .pending .closing none
  | .progress => return .go .closing
  | _ => return .answer .done

def dropClosing (self : Nat) : Run Unit := discard (stepScheduler self (.dropShutdown self))

def forgetOnlooker (self : Nat) : Run Unit :=
  update fun world => { world with onlookers := world.onlookers.filter (·.2 != self) }

def pollAwaitState (self task : Nat) (state : TaskState) (limit : Nat) : Step := do
  forgetOnlooker self
  let reached := ((← world).scheduler.tasks[task]?).any (·.state == state)
  if reached || limit ≤ (← clock) then return .answer (.reached reached)
  update fun world => { world with onlookers := world.onlookers ++ [(task, self)] }
  return .pending (.awaitState task state limit) (some limit)

end Steward.Simulation
