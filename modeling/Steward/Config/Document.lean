import Steward.Config
import Steward.Toml
/-!
# Configurations as documents

The fields of each section and what stands in for those that are left out.
-/

set_option autoImplicit false

namespace Steward

open Record

def RemoteConfig.ofToml? (document : Toml) : Option RemoteConfig :=
  match fields? ["base_url", "token_url", "timeout_secs", "client_id"] document with
  | some [baseUrl, tokenUrl, timeout, clientId] => do
    let baseUrl ← required Toml.text? baseUrl
    let tokenUrl ← optional Toml.text? tokenUrl
    let timeout ← defaulted 30 Toml.word? timeout
    let clientId ← defaulted "web" Toml.text? clientId
    return ⟨baseUrl, tokenUrl, timeout, clientId⟩
  | _ => none

/-- A password in the document is ignored: it is never taken from there. -/
def AccountConfig.ofToml? (document : Toml) : Option AccountConfig :=
  match fields? ["username", "display_name", "scope", "dry_run", "password_file", "secrets_path"]
      document with
  | some [username, displayName, scope, dryRun, passwordFile, secretsPath] => do
    let username ← required Toml.text? username
    let displayName ← optional Toml.text? displayName
    let scope ← defaulted "SCOPE_APP_WEB" Toml.text? scope
    let dryRun ← defaulted false Toml.boolean? dryRun
    let passwordFile ← optional Toml.text? passwordFile
    let secretsPath ← defaulted "tenant-secrets.json" Toml.text? secretsPath
    return ⟨username, displayName, scope, dryRun, .conceal "", passwordFile, secretsPath⟩
  | _ => none

def StartupConfig.ofToml? (document : Toml) : Option StartupConfig :=
  match fields? ["retry_initial_secs", "retry_budget_secs"] document with
  | some [initial, budget] => do
    let initial ← defaulted 1 Toml.word? initial
    let budget ← defaulted 300 Toml.word? budget
    return ⟨initial, budget⟩
  | _ => none

def RefreshConfig.ofToml? (document : Toml) : Option RefreshConfig :=
  match fields? ["fixed_window_secs", "margin_secs", "floor_secs", "ceiling_secs",
      "check_interval_secs"] document with
  | some [fixed, margin, floor, ceiling, checkInterval] => do
    let fixed ← optional Toml.word? fixed
    let margin ← defaulted 60 Toml.word? margin
    let floor ← defaulted 60 Toml.word? floor
    let ceiling ← defaulted 240 Toml.word? ceiling
    let checkInterval ← defaulted 30 Toml.word? checkInterval
    return ⟨fixed, margin, floor, ceiling, checkInterval⟩
  | _ => none

def SchedulerConfig.ofToml? (document : Toml) : Option SchedulerConfig :=
  match fields? ["workers", "task_timeout_secs"] document with
  | some [workers, timeout] => do
    let workers ← defaulted 4 Toml.word? workers
    let timeout ← defaulted 120 Toml.word? timeout
    return ⟨workers, timeout⟩
  | _ => none

def PollingConfig.ofToml? (document : Toml) : Option PollingConfig :=
  match fields? ["balance_interval_secs", "balance_ttl_secs", "restrictions_ttl_secs",
      "transactions_interval_secs", "page_size"] document with
  | some [balanceInterval, balanceTtl, restrictionsTtl, transactionsInterval, pageSize] => do
    let balanceInterval ← defaulted 60 Toml.word? balanceInterval
    let balanceTtl ← defaulted 300 Toml.word? balanceTtl
    let restrictionsTtl ← defaulted 3600 Toml.word? restrictionsTtl
    let transactionsInterval ← defaulted 3600 Toml.word? transactionsInterval
    let pageSize ← defaulted 50 Toml.halfWord? pageSize
    return ⟨balanceInterval, balanceTtl, restrictionsTtl, transactionsInterval, pageSize⟩
  | _ => none

def StrategyConfig.ofToml? (document : Toml) : Option StrategyConfig :=
  match fields? ["path", "check_interval_secs"] document with
  | some [path, checkInterval] => do
    let path ← required Toml.text? path
    let checkInterval ← defaulted 30 Toml.word? checkInterval
    return ⟨path, checkInterval⟩
  | _ => none

def HealthConfig.ofToml? (document : Toml) : Option HealthConfig :=
  match fields? ["listen_addr", "max_connections"] document with
  | some [listenAddress, maxConnections] => do
    let listenAddress ← required Toml.text? listenAddress
    let listenAddress ← Net.SocketAddress.ofText? listenAddress
    let maxConnections ← defaulted 64 Toml.word? maxConnections
    return ⟨listenAddress, maxConnections⟩
  | _ => none

/-- A section that is left out is as good as one in which everything is left out. -/
def Config.empty : Toml := .table []

def Config.ofToml? (document : Toml) : Option Config :=
  match fields? ["remote", "account", "startup", "refresh", "scheduler", "polling", "strategy",
      "health"] document with
  | some [remote, account, startup, refresh, scheduler, polling, strategy, health] => do
    let remote ← required RemoteConfig.ofToml? remote
    let account ← required AccountConfig.ofToml? account
    let startup ← StartupConfig.ofToml? (startup.getD empty)
    let refresh ← RefreshConfig.ofToml? (refresh.getD empty)
    let scheduler ← SchedulerConfig.ofToml? (scheduler.getD empty)
    let polling ← PollingConfig.ofToml? (polling.getD empty)
    let strategy ← optional StrategyConfig.ofToml? strategy
    let health ← optional HealthConfig.ofToml? health
    return ⟨remote, account, startup, refresh, scheduler, polling, strategy, health⟩
  | _ => none

end Steward
