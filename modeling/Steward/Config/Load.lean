import Steward.Config.Document
import Steward.Failure
import Steward.Files
import Steward.Toml.Reader
/-!
# Loading the configuration

The file is read, then taken as a document, then checked, and only then the password is looked
for: in the environment first, then in the file that the configuration names.  Of several faults
the first one found is reported.
-/

set_option autoImplicit false

namespace Steward

namespace Config

/-! ## Checks -/

abbrev Check := Except SetupError Unit

def hasHttpScheme (url : String) : Bool :=
  "http://".toList.isPrefixOf url.toList || "https://".toList.isPrefixOf url.toList

def requireHttp (field url : String) : Check :=
  if hasHttpScheme url then .ok ()
  else
    .error (.configuration (field ++ " must start with http:// or https://, got: " ++ url))

def requirePositive (field : String) (value : Nat) : Check :=
  if value = 0 then .error (.configuration (field ++ " must be greater than 0")) else .ok ()

def requireName (username : String) : Check :=
  if Text.isBlankText username then
    .error (.configuration "account.username must not be empty")
  else .ok ()

def requireOrder (floor ceiling : Nat) : Check :=
  if ceiling < floor then
    .error (.configuration ("refresh.floor_secs (" ++ toString floor
      ++ ") must not exceed refresh.ceiling_secs (" ++ toString ceiling ++ ")"))
  else .ok ()

def checks (config : Config) : List Check :=
  [requireHttp "remote.base_url" config.remote.baseUrl]
  ++ (config.remote.tokenUrl.map (requireHttp "remote.token_url")).toList
  ++ [requirePositive "remote.timeout_secs" config.remote.timeoutSecs,
    requireName config.account.username,
    requirePositive "refresh.check_interval_secs" config.refresh.checkIntervalSecs,
    requireOrder config.refresh.floorSecs config.refresh.ceilingSecs,
    requirePositive "scheduler.workers" config.scheduler.workers,
    requirePositive "scheduler.task_timeout_secs" config.scheduler.taskTimeoutSecs,
    requirePositive "polling.balance_interval_secs" config.polling.balanceIntervalSecs,
    requirePositive "polling.transactions_interval_secs" config.polling.transactionsIntervalSecs,
    requirePositive "polling.page_size" config.polling.pageSize]
  ++ (config.strategy.map fun strategy =>
      requirePositive "strategy.check_interval_secs" strategy.checkIntervalSecs).toList
  ++ (config.health.map fun health =>
      requirePositive "health.max_connections" health.maxConnections).toList

def firstFault : List Check → Check
  | [] => .ok ()
  | .ok () :: rest => firstFault rest
  | .error error :: _ => .error error

def validate (config : Config) : Check := firstFault config.checks

theorem firstFault_eq_ok_iff {checks : List Check} :
    firstFault checks = .ok () ↔ ∀ check ∈ checks, check = .ok () := by
  induction checks with
  | nil => simp [firstFault]
  | cons check rest ih =>
      cases check with
      | error error => simp [firstFault]
      | ok => simp [firstFault, ih]

theorem requireOrder_eq_ok_iff {floor ceiling : Nat} :
    requireOrder floor ceiling = .ok () ↔ floor ≤ ceiling := by
  rw [requireOrder]
  split
  · simp only [reduceCtorEq, false_iff]
    omega
  · simp only [true_iff]
    omega

theorem floor_le_ceiling_of_validate {config : Config} (accepted : config.validate = .ok ()) :
    config.refresh.floorSecs ≤ config.refresh.ceilingSecs :=
  requireOrder_eq_ok_iff.mp (firstFault_eq_ok_iff.mp accepted _ (by simp [checks]))

/-! ## The password -/

/-- The password in the environment counts as it is, if it is text.  Otherwise blanks around the
contents of the password file do not count. -/
def password (config : Config) (files : Files) (environment : Option Utf8.Octets) :
    Except SetupError String :=
  match environment.bind Utf8.decode? with
  | some password => .ok password
  | none =>
    match config.account.passwordFile with
    | none => .ok ""
    | some path =>
      match files.readText path with
      | .ok text => .ok (Text.trim text)
      | .error error =>
        .error (.configuration ("failed to read password_file " ++ path ++ ": " ++ error.message))

def withPassword (config : Config) (password : String) : Config :=
  { config with account := { config.account with password := .conceal password } }

/-! ## Loading -/

def read (text : String) : Except SetupError Config :=
  match (Toml.parse? text).bind Config.ofToml? with
  | none => .error .malformed
  | some config =>
    match config.validate with
    | .error error => .error error
    | .ok () => .ok config

def complete (config : Config) (files : Files) (environment : Option Utf8.Octets) :
    Except SetupError Config :=
  match config.password files environment with
  | .error error => .error error
  | .ok password =>
    if password.isEmpty then
      .error (.missingSecret "set TENANT_PASSWORD or account.password_file")
    else .ok (config.withPassword password)

def load (files : Files) (path : String) (environment : Option Utf8.Octets) :
    Except SetupError Config :=
  match files.readText path with
  | .error error => .error (.io error.message)
  | .ok text =>
    match read text with
    | .error error => .error error
    | .ok config => config.complete files environment

def defaultPath : String := "tenant-daemon.toml"

/-- The path on the command line counts before the one in the environment. -/
def resolvePath (argument : Option String) (environment : Option Utf8.Octets) : String :=
  match argument with
  | some path => path
  | none => (environment.bind Utf8.decode?).getD defaultPath

end Config

end Steward
