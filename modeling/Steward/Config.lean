import Steward.Credential.Window
import Steward.Net.SocketAddress
import Steward.Text.Blank
/-!
# The configuration

What can be set, and what follows from it.
-/

set_option autoImplicit false

namespace Steward

structure RemoteConfig where
  baseUrl : String
  tokenUrl : Option String
  timeoutSecs : Nat
  clientId : String
  deriving DecidableEq

structure AccountConfig where
  username : String
  displayName : Option String
  scope : String
  /-- Only observe; never act on the account. -/
  dryRun : Bool
  password : Secret
  passwordFile : Option String
  secretsPath : String
  deriving DecidableEq

structure StartupConfig where
  retryInitialSecs : Nat
  retryBudgetSecs : Nat
  deriving DecidableEq

structure RefreshConfig where
  fixedWindowSecs : Option Nat
  marginSecs : Nat
  floorSecs : Nat
  ceilingSecs : Nat
  checkIntervalSecs : Nat
  deriving DecidableEq

structure SchedulerConfig where
  workers : Nat
  taskTimeoutSecs : Nat
  deriving DecidableEq

structure PollingConfig where
  balanceIntervalSecs : Nat
  balanceTtlSecs : Nat
  restrictionsTtlSecs : Nat
  transactionsIntervalSecs : Nat
  pageSize : Nat
  deriving DecidableEq

structure StrategyConfig where
  path : String
  checkIntervalSecs : Nat
  deriving DecidableEq

structure HealthConfig where
  listenAddress : Net.SocketAddress
  maxConnections : Nat
  deriving DecidableEq

structure Config where
  remote : RemoteConfig
  account : AccountConfig
  startup : StartupConfig
  refresh : RefreshConfig
  scheduler : SchedulerConfig
  polling : PollingConfig
  strategy : Option StrategyConfig
  health : Option HealthConfig
  deriving DecidableEq

def tokenPath : String := "/oauth/token"

/-- The name that is shown, unless another is set, is the user name. -/
def AccountConfig.shownName (account : AccountConfig) : String :=
  account.displayName.getD account.username

def RemoteConfig.effectiveTokenUrl (remote : RemoteConfig) : String :=
  match remote.tokenUrl with
  | some url => url
  | none => Text.dropTrailingSlashes remote.baseUrl ++ tokenPath

def RefreshConfig.window (refresh : RefreshConfig) : RefreshWindow :=
  match refresh.fixedWindowSecs with
  | some seconds => .fixed (.ofSeconds seconds)
  | none =>
    .derived (.ofSeconds refresh.marginSecs) (.ofSeconds refresh.floorSecs)
      (.ofSeconds refresh.ceilingSecs)

end Steward
