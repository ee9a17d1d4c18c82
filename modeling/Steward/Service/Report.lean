import Steward.Json.Fields
import Steward.Service
/-!
# The life of the service in documents

States, events and actions by their names, with the reason that some of them carry.
-/

set_option autoImplicit false

namespace Steward

def ExitReason.ofJson (json : Json) : Json.Read ExitReason := do
  Json.need "reason" (ExitReason.ofLabel? (← json.textOf "reason"))

namespace ServiceState

def ofJson (json : Json) : Json.Read ServiceState := do
  match ← json.textOf "state" with
  | "Initializing" => return .initializing
  | "Authenticating" => return .authenticating
  | "Running" => return .running
  | "Draining" => return .draining (← ExitReason.ofJson json)
  | "Stopped" => return .stopped (json.intOr "exit_code" 0)
  | state => .error ("state " ++ state)

def json : ServiceState → Json
  | .initializing => .record [("state", .ofText "Initializing")]
  | .authenticating => .record [("state", .ofText "Authenticating")]
  | .running => .record [("state", .ofText "Running")]
  | .draining reason =>
    .record [("state", .ofText "Draining"), ("reason", .ofText reason.label)]
  | .stopped code => .record [("state", .ofText "Stopped"), ("exit_code", .ofInt code)]

end ServiceState

def ServiceEvent.ofJson (json : Json) : Json.Read ServiceEvent := do
  match ← json.textOf "event" with
  | "ConfigLoaded" => return .configLoaded
  | "ConfigInvalid" => return .configInvalid
  | "Authenticated" => return .authenticated
  | "ShutdownSignal" => return .shutdownSignal
  | "Drained" => return .drained
  | "AuthenticationFailed" => return .authenticationFailed (← ExitReason.ofJson json)
  | "Fatal" => return .fatal (← ExitReason.ofJson json)
  | event => .error ("event " ++ event)

def ServiceAction.json : ServiceAction → Json
  | .authenticate => .record [("action", .ofText "Authenticate")]
  | .startTasks => .record [("action", .ofText "StartTasks")]
  | .none => .record [("action", .ofText "None")]
  | .drain reason => .record [("action", .ofText "Drain"), ("reason", .ofText reason.label)]
  | .exit reason => .record [("action", .ofText "Exit"), ("reason", .ofText reason.label)]

end Steward
