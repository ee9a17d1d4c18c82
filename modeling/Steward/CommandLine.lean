import Steward.Config.Load
import Steward.Credential.Store
import Steward.Endpoint.Accounts
import Steward.Endpoint.Tokens
import Steward.Log.Filter
import Steward.Simulation.Tenant
/-!
# The program from its start to its end

What the program logs and how it exits, if no server can be reached: it loads its configuration,
obtains its first credential, loads the account, runs, and shuts down at a signal.  Only a stored
credential that is still usable lets it run then.
-/

set_option autoImplicit false

namespace Steward.CommandLine

inductive Signal where
  | interrupt
  | terminate
  deriving DecidableEq, Repr

def Signal.name : Signal → String
  | .interrupt => "SIGINT"
  | .terminate => "SIGTERM"

/-- Everything that the program finds when it starts: the wall clock shows milliseconds since 1970,
`process` tells it from others, and the signal comes as soon as that message is logged. -/
structure Surroundings where
  arguments : List String
  environment : List (String × Utf8.Octets)
  files : Files
  wall : Nat
  process : String
  signal : Option (String × Signal)

structure Line where
  level : Log.Level
  message : String
  deriving DecidableEq, Repr

def target : String := "tenant_daemon"

def Line.json (line : Line) : Json :=
  .record [("level", .string line.level.label),
    ("fields", .record [("message", .string line.message)]), ("target", .string target)]

structure Course where
  lines : List Line
  exit : Option ExitReason

def Course.behind (course : Course) (level : Log.Level) (message : String) : Course :=
  { course with lines := ⟨level, message⟩ :: course.lines }

def configArgument? : List String → Option String
  | [] => none
  | [_] => none
  | flag :: path :: rest => if flag = "--config" then some path else configArgument? (path :: rest)

namespace Surroundings

def setting? (surroundings : Surroundings) (name : String) : Option Utf8.Octets :=
  surroundings.environment.lookup name

def filter? (surroundings : Surroundings) (name : String) : Option Log.Filter := do
  Log.Filter.ofText? (← Utf8.decode? (← surroundings.setting? name))

def filter (surroundings : Surroundings) : Log.Filter :=
  ((surroundings.filter? "LOG_LEVEL").or (surroundings.filter? "RUST_LOG")).getD (.upTo .info)

def configPath (surroundings : Surroundings) : String :=
  Config.resolvePath (configArgument? surroundings.arguments)
    (surroundings.setting? "CONFIG_PATH")

end Surroundings

def signalAfter (surroundings : Surroundings) (level : Log.Level) (message : String) :
    Option Signal :=
  match surroundings.signal with
  | some (awaited, signal) =>
    if awaited = message ∧ surroundings.filter.lets target level then some signal else none
  | none => none

/-! ## Courses -/

def exit (reason : ExitReason) : Course := ⟨[⟨.info, "exiting"⟩], some reason⟩

def fail : Course := (exit .failure).behind .error "daemon failed"

def shutDown (signal : Signal) (course : Course) : Course :=
  course.behind .info ("received " ++ signal.name ++ ", shutting down")

def afterStart (surroundings : Surroundings) : Course :=
  let course : Course :=
    match signalAfter surroundings .info "running" with
    | none => ⟨[], none⟩
    | some signal =>
      let (state, _) := ServiceState.running.handle .shutdownSignal
      let (_, action) := state.handle .drained
      shutDown signal ((exit action.exitReason).behind .info "shutdown complete")
  course.behind .info "running"

def isOwnAddress : Net.SocketAddress → Bool
  | .four octets _ => octets.head? = some 127 ∨ octets = [0, 0, 0, 0]
  | .six groups _ _ => groups = [0, 0, 0, 0, 0, 0, 0, 0] ∨ groups = [0, 0, 0, 0, 0, 0, 0, 1]

def serveHealth (config : Config) (surroundings : Surroundings) : Course :=
  match config.health with
  | none => afterStart surroundings
  | some health =>
    if isOwnAddress health.listenAddress then
      (afterStart surroundings).behind .info "serving /health and /metrics"
    else fail

def startTasks (config : Config) (surroundings : Surroundings) : Course :=
  match config.strategy with
  | none => serveHealth config surroundings
  | some _ => (serveHealth config surroundings).behind .info "watching strategy file"

def loadAccount (config : Config) (surroundings : Surroundings) : Course :=
  (startTasks config surroundings).behind .warn "initial account load failed, polling will retry"

/-- The scene of the first login: every request for a token is dropped. -/
def loginScene (config : Config) (surroundings : Surroundings) (stored : Option Credential) :
    Simulation.Scene :=
  let endpoint : TokenEndpoint :=
    ⟨config.remote.effectiveTokenUrl, config.remote.clientId, .conceal "web"⟩
  let failure := fun (result : Except AuthError Credential) =>
    match result with
    | .error error =>
      [Simulation.Scripted.after 0 (.error error : Except AuthError Simulation.Grant)]
    | .ok _ => []
  let access := { Simulation.World.unusedAccess config.refresh.window with
    username := config.account.username
    password := config.account.password
    scope := config.account.scope
    login := failure
      (endpoint.login config.account.username config.account.password config.account.scope
        .dropped 0)
    refresh := (stored.map fun held => failure (endpoint.refresh held .dropped 0)).getD []
    stored := stored }
  .start (.ofConfig config access ⟨⟨0, 0, ""⟩, ⟨false, 0, 0⟩, 0, false, 0, []⟩
    surroundings.files surroundings.wall)

/-- Whether the first login ends without waiting, and what it comes to. -/
def firstLogin (config : Config) (surroundings : Surroundings) (stored : Option Credential) :
    Bool × Except AuthError Held :=
  let (call, scene) := (loginScene config surroundings stored).call (.authenticate 0 0)
  let atOnce := (scene.ended? call).isSome
  match (scene.join call).ended? call with
  | some (.answered (.credential result)) => (atOnce, result)
  | _ => (atOnce, .error (.transport "no answer"))

def authenticate (config : Config) (surroundings : Surroundings) (stored : Option Credential) :
    Course :=
  let (atOnce, result) := firstLogin config surroundings stored
  match signalAfter surroundings .info "configuration loaded", atOnce with
  | some signal, false =>
    let (_, action) := ServiceState.authenticating.handle .shutdownSignal
    shutDown signal ((exit action.exitReason).behind .info
      "shutdown requested before authentication completed")
  | _, _ =>
    match result with
    | .ok _ => (loadAccount config surroundings).behind .info "authenticated"
    | .error error =>
      let (_, action) := ServiceState.authenticating.handle
        (.authenticationFailed (.ofClassification error.classification))
      (exit action.exitReason).behind .error "initial authentication failed"

def operate (config : Config) (surroundings : Surroundings) : Course :=
  match (Vault.openAt surroundings.files (surroundings.wall * 1000000) surroundings.process
      config.account.secretsPath config.account.username).2 with
  | .error _ => fail
  | .ok vault => authenticate config surroundings vault.load

def course (surroundings : Surroundings) : Course :=
  let rest :=
    match Config.load surroundings.files surroundings.configPath
        (surroundings.setting? "TENANT_PASSWORD") with
    | .ok config => (operate config surroundings).behind .info "configuration loaded"
    | .error _ =>
      let (_, action) := ServiceState.initializing.handle .configInvalid
      ((exit action.exitReason).behind .info "stopped").behind .error
        "failed to load configuration"
  (rest.behind .info "loading configuration").behind .info "starting tenant-daemon"

/-! ## What a run touches -/

def config? (surroundings : Surroundings) : Option Config :=
  (surroundings.files.readText surroundings.configPath).toOption.bind fun text =>
    (Config.read text).toOption

def pathsNamed (surroundings : Surroundings) : List String :=
  match config? surroundings with
  | none => []
  | some config => config.account.passwordFile.toList ++ [config.account.secretsPath]

def coldStart (surroundings : Surroundings) : List Vault.Step :=
  match Config.load surroundings.files surroundings.configPath
      (surroundings.setting? "TENANT_PASSWORD") with
  | .error _ => []
  | .ok config =>
    if surroundings.files.holds config.account.secretsPath then []
    else (Vault.steps? surroundings.process config.account.secretsPath []).getD []

def run (surroundings : Surroundings) : Course :=
  let course := course surroundings
  { course with
    lines := course.lines.filter fun line => surroundings.filter.lets target line.level }

end Steward.CommandLine
