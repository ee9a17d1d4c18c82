import Steward.Config
import Steward.Json.Fields
/-!
# The configuration as a document

All settings with the values that they have, the password included.
-/

set_option autoImplicit false

namespace Steward

def Duration.json (duration : Duration) : Json :=
  .array [.ofNat duration.seconds, .ofNat duration.fraction]

def Duration.ofJson (json : Json) : Json.Read Duration := do
  match json.items? with
  | some [seconds, nanos] =>
    return .ofParts (← Json.need "seconds" seconds.natural?) (← Json.need "nanos" nanos.natural?)
  | _ => .error "no duration"

def RefreshWindow.ofJson (json : Option Json) : Json.Read RefreshWindow := do
  match json with
  | none => return default
  | some json =>
    match json.given? "fixed" with
    | some length => return .fixed (← Duration.ofJson length)
    | none =>
      return .derived (← Duration.ofJson (← json.field "margin"))
        (← Duration.ofJson (← json.field "floor")) (← Duration.ofJson (← json.field "ceiling"))

def RefreshWindow.json : RefreshWindow → Json
  | .fixed length => .record [("fixed", length.json)]
  | .derived margin floor ceiling =>
    .record [("margin", margin.json), ("floor", floor.json), ("ceiling", ceiling.json)]

def RemoteConfig.json (remote : RemoteConfig) : Json :=
  .record [("base_url", .ofText remote.baseUrl),
    ("token_url", .ofOption .ofText remote.tokenUrl),
    ("effective_token_url", .ofText remote.effectiveTokenUrl),
    ("timeout_secs", .ofNat remote.timeoutSecs), ("client_id", .ofText remote.clientId)]

def AccountConfig.json (account : AccountConfig) : Json :=
  .record [("username", .ofText account.username),
    ("display_name", .ofOption .ofText account.displayName), ("scope", .ofText account.scope),
    ("dry_run", .boolean account.dryRun), ("password", .ofText account.password.expose),
    ("password_file", .ofOption .ofText account.passwordFile),
    ("secrets_path", .ofText account.secretsPath)]

def StartupConfig.json (startup : StartupConfig) : Json :=
  .record [("retry_initial_secs", .ofNat startup.retryInitialSecs),
    ("retry_budget_secs", .ofNat startup.retryBudgetSecs)]

def RefreshConfig.json (refresh : RefreshConfig) : Json :=
  .record [("fixed_window_secs", .ofOption .ofNat refresh.fixedWindowSecs),
    ("margin_secs", .ofNat refresh.marginSecs), ("floor_secs", .ofNat refresh.floorSecs),
    ("ceiling_secs", .ofNat refresh.ceilingSecs),
    ("check_interval_secs", .ofNat refresh.checkIntervalSecs),
    ("window", refresh.window.json)]

def SchedulerConfig.json (scheduler : SchedulerConfig) : Json :=
  .record [("workers", .ofNat scheduler.workers),
    ("task_timeout_secs", .ofNat scheduler.taskTimeoutSecs)]

def PollingConfig.json (polling : PollingConfig) : Json :=
  .record [("balance_interval_secs", .ofNat polling.balanceIntervalSecs),
    ("balance_ttl_secs", .ofNat polling.balanceTtlSecs),
    ("restrictions_ttl_secs", .ofNat polling.restrictionsTtlSecs),
    ("transactions_interval_secs", .ofNat polling.transactionsIntervalSecs),
    ("page_size", .ofNat polling.pageSize)]

def StrategyConfig.json (strategy : StrategyConfig) : Json :=
  .record [("path", .ofText strategy.path),
    ("check_interval_secs", .ofNat strategy.checkIntervalSecs)]

def HealthConfig.json (health : HealthConfig) : Json :=
  .record [("listen_addr", .ofText health.listenAddress.shown),
    ("max_connections", .ofNat health.maxConnections)]

def Config.json (config : Config) : Json :=
  .record [("remote", config.remote.json), ("account", config.account.json),
    ("startup", config.startup.json), ("refresh", config.refresh.json),
    ("scheduler", config.scheduler.json), ("polling", config.polling.json),
    ("strategy", .ofOption StrategyConfig.json config.strategy),
    ("health", .ofOption HealthConfig.json config.health)]

end Steward
