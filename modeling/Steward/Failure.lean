/-!
# Failures and what they call for

Every failure of a remote operation has a classification, which alone decides how it is handled:
wait and try again, log in again, or give up.
-/

set_option autoImplicit false

namespace Steward

/-- Timeouts, lost connections and faults of a server are transient; a service that is down on
purpose is unavailable. -/
inductive Classification where
  | transient
  | authentication
  | unavailable
  | permanent
  deriving DecidableEq, Inhabited, Repr

namespace Classification

def label : Classification → String
  | .transient => "transient"
  | .authentication => "authentication"
  | .unavailable => "unavailable"
  | .permanent => "permanent"

def ofLabel? (text : String) : Option Classification :=
  [transient, authentication, unavailable, permanent].find? (·.label == text)

def isRetryable : Classification → Bool
  | .transient | .unavailable => true
  | .authentication | .permanent => false

end Classification

structure RemoteError where
  classification : Classification
  detail : String
  deriving DecidableEq, Inhabited, Repr

def RemoteError.message (error : RemoteError) : String :=
  error.classification.label ++ " remote failure: " ++ error.detail

inductive AuthError where
  | transport (detail : String)
  | invalidCredentials (detail : String)
  | unavailable (detail : String)
  | tokenExchange (detail : String)
  | credentialParse (detail : String)
  | io (detail : String)
  deriving DecidableEq, Inhabited, Repr

namespace AuthError

def detail : AuthError → String
  | .transport detail | .invalidCredentials detail | .unavailable detail | .tokenExchange detail
  | .credentialParse detail | .io detail => detail

def message : AuthError → String
  | .transport detail => "HTTP request failed: " ++ detail
  | .invalidCredentials detail => "invalid credentials: " ++ detail
  | .unavailable detail => "authentication service unavailable: " ++ detail
  | .tokenExchange detail => "token exchange failed: " ++ detail
  | .credentialParse detail => "credential parse error: " ++ detail
  | .io detail => "I/O error: " ++ detail

def classification : AuthError → Classification
  | .transport _ => .transient
  | .invalidCredentials _ => .authentication
  | .unavailable _ => .unavailable
  | .tokenExchange _ | .credentialParse _ | .io _ => .permanent

/-- The failure of the token endpoint, with the classification that the response had. -/
def ofRemote (error : RemoteError) : AuthError :=
  match error.classification with
  | .transient => .transport error.detail
  | .authentication => .invalidCredentials error.detail
  | .unavailable => .unavailable error.detail
  | .permanent => .tokenExchange error.detail

theorem classification_ofRemote (error : RemoteError) :
    (ofRemote error).classification = error.classification := by
  cases error with
  | mk classification detail => cases classification <;> rfl

end AuthError

inductive AccountError where
  | auth (cause : AuthError)
  | remote (cause : RemoteError)
  deriving DecidableEq, Inhabited, Repr

namespace AccountError

def message : AccountError → String
  | .auth cause => "authentication failed: " ++ cause.message
  | .remote cause => cause.message

def classification : AccountError → Classification
  | .auth cause => cause.classification
  | .remote cause => cause.classification

end AccountError

inductive ExitReason where
  | ok
  | config
  | authenticationFailed
  | remoteUnavailable
  | failure
  deriving DecidableEq, Inhabited, Repr

namespace ExitReason

def code : ExitReason → Nat
  | .ok => 0
  | .config => 1
  | .authenticationFailed => 2
  | .remoteUnavailable => 3
  | .failure => 4

def label : ExitReason → String
  | .ok => "ok"
  | .config => "config"
  | .authenticationFailed => "authentication_failed"
  | .remoteUnavailable => "remote_unavailable"
  | .failure => "failure"

def ofLabel? (text : String) : Option ExitReason :=
  [ok, config, authenticationFailed, remoteUnavailable, failure].find? (·.label == text)

/-- The reason given for a failure that nothing can be done about. -/
def ofClassification : Classification → ExitReason
  | .authentication => .authenticationFailed
  | .unavailable => .remoteUnavailable
  | .transient | .permanent => .failure

end ExitReason

inductive SetupError where
  | configuration (detail : String)
  | missingSecret (detail : String)
  | io (detail : String)
  | malformed
  deriving DecidableEq, Inhabited, Repr

def SetupError.message : SetupError → String
  | .configuration detail => "Configuration error: " ++ detail
  | .missingSecret detail => "Missing secret: " ++ detail
  | .io detail => "I/O error: " ++ detail
  | .malformed => "TOML parse error"

inductive ScheduleError where
  | closed
  | invalidState (detail : String)
  deriving DecidableEq, Inhabited, Repr

def ScheduleError.message : ScheduleError → String
  | .closed => "scheduler is shut down"
  | .invalidState detail => "invalid task state: " ++ detail

end Steward
