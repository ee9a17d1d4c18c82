import Steward.Health.Inquiry
import Steward.Simulation.Play
/-!
# The service under one configuration

The parts are set up as the configuration says, and driven by hand: the first login, the recurring
tasks, the end, and requests for the health report.
-/

set_option autoImplicit false

namespace Steward.Simulation

def World.ofConfig (config : Config) (access : Access) (accounts : Accounts) (files : Files)
    (wall : Nat) : World :=
  { World.empty config.scheduler.workers with
    wall := wall
    access := access
    tenant := .new (some (.ofSeconds config.polling.balanceTtlSecs))
      (some (.ofSeconds config.polling.restrictionsTtlSecs))
    pooled := true
    files := files
    accounts := accounts
    backoff := .of (.ofSeconds config.startup.retryInitialSecs)
      (.ofSeconds config.startup.retryBudgetSecs)
    pageSize := Steward.pageSize config.polling.pageSize
    service := .authenticating }

def handle (event : ServiceEvent) : Run ServiceAction := do
  let (state, action) := (← world).service.handle event
  update fun world => { world with service := state }
  return action

def afterLogin (result : Except AuthError Held) : Run Unit := do
  let action ← handle (match result with
    | .ok _ => .authenticated
    | .error error => .authenticationFailed (.ofClassification error.classification))
  record (.authenticated (action == .startTasks))

/-- Schedules duties up to the first one that is refused, and watches a strategy file from then on.
-/
def startTasks : List Duties.Assignment → Run (Except String Unit)
  | [] => return .ok ()
  | assignment :: rest => do
    match ← schedule assignment.name assignment.timing .duty with
    | .failed error => return .error (assignment.complaint ++ ": " ++ error.message)
    | _ =>
      update fun world => { world with duties := world.duties ++ [assignment.duty] }
      match assignment.duty with
      | .watchStrategy path =>
        let watched : Watched := ⟨Strategy.sourceName path, .new, .file path, []⟩
        update fun world => { world with watched := world.watched ++ [watched] }
      | _ => pure ()
      startTasks rest

def takeFatal : Run (Option ExitReason) := do
  match ← stepCrew (← get).fresh 0 .take with
  | .taken reason =>
    discard (handle (.fatal reason))
    return some reason
  | _ => return none

def authenticate (play : Play) : TurnEnd × Play :=
  let (ended, play) := play.take (.call (.authenticate 0 play.scene.now))
  match ended with
  | .answered (.credential result) =>
    (ended, { play with scene := (play.scene.act (afterLogin result)).2 })
  | _ => (ended, play)

def terminate (reason : ExitReason) (play : Play) : Play :=
  let scene := (play.scene.act (tell (.terminating reason))).2
  let (_, play) := { play with scene := scene }.take (.call .shutdown)
  { play with scene := (play.scene.act (record (.authenticated false))).2 }

def orderFailure (failure : Ordered) : Run Unit :=
  if failure.times = 0 then pure ()
  else
    update fun world =>
      { world with
        accounts := { world.accounts with failures := world.accounts.failures ++ [failure] } }

/-- Writes a file.  No two files that were written have the same time. -/
def writeFile (path : String) (octets : Utf8.Octets) : Run Bool := do
  let world ← world
  let moment : Int := ((world.wall + (← clock)) * 1000000 + world.edits + 1 : Nat)
  match world.files.write path octets moment with
  | .ok files =>
    setWorld { world with files := files, edits := world.edits + 1 }
    return true
  | .error _ => return false

def removeFile (path : String) : Run Bool := do
  let world ← world
  match world.files.remove path with
  | .ok files =>
    setWorld { world with files := files }
    return true
  | .error _ => return false

def cachedBalance (world : World) : Option Balance := world.tenant.cachedBalance

/-- What a request is told that nothing comes in between of. -/
def health (config : Config) (scene : Scene) : Health :=
  let now := UInt64.ofNat (scene.world.wall + scene.now)
  (Inquiry.atOnce 0).health config (fun _ => scene.world.crew 0) now now scene.now

/-- The lines that show all samples; sums are brought up to date by it. -/
def showSamples : Run (List String) := do
  update fun world => { world with registry := world.registry.settle }
  return (← world).registry.sortedLines

def serve (config : Config) (collected : Bool) (method target : String) :
    Run Health.Response := do
  let request := Health.Request.of method target
  let lines ← match request with
    | .page .metrics _ => if collected then showSamples else pure []
    | _ => pure []
  return (health config (← get)).respond lines request

end Steward.Simulation
