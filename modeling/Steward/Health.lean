import Steward.Account
import Steward.Credential.Keeper
import Steward.Json
import Steward.Scheduler.Task
/-!
# The health report

What the service tells of itself: it is healthy while its credential is not missing and no
recurring task has failed.
-/

set_option autoImplicit false

namespace Steward

structure Health where
  username : String
  displayName : String
  dryRun : Bool
  credential : CredentialState
  /-- The moment at which the credential expires. -/
  expiresAt : Option Instant
  now : Instant
  balance : Option Balance
  workers : Nat
  idleWorkers : Nat
  tasks : List Task
  /-- Milliseconds since the start. -/
  uptime : Nat

namespace Health

def isHealthy (health : Health) : Bool :=
  health.credential != .unauthenticated && health.tasks.all fun task => task.state != .failed

def status (health : Health) : Nat := if health.isHealthy then 200 else 503

def expiresIn (health : Health) : Option Nat :=
  health.expiresAt.map fun moment => (moment.toNat - health.now.toNat) / 1000

def taskJson (task : Task) : Json :=
  .record [("name", .ofText task.name), ("state", .ofText task.state.label),
    ("interval_secs", .ofNat task.timing.interval.seconds),
    ("scheduled", .ofNat task.stats.scheduled), ("succeeded", .ofNat task.stats.succeeded),
    ("failed", .ofNat task.stats.failed), ("timed_out", .ofNat task.stats.timedOut),
    ("last_error", .ofOption .ofText task.lastError)]

def json (health : Health) : Json :=
  .record [("status", .ofText (if health.isHealthy then "healthy" else "degraded")),
    ("username", .ofText health.username), ("display_name", .ofText health.displayName),
    ("dry_run", .boolean health.dryRun), ("credential", .ofText health.credential.label),
    ("credential_expires_in_secs", .ofOption .ofNat health.expiresIn),
    ("balance", .ofOption (fun balance => .ofInt balance.available.toInt) health.balance),
    ("workers", .ofNat health.workers), ("idle_workers", .ofNat health.idleWorkers),
    ("tasks", .array (health.tasks.map taskJson)),
    ("uptime_seconds", .ofNat (health.uptime / 1000))]

/-! ## Requests -/

inductive Page where
  | health
  | metrics
  deriving DecidableEq, Repr

inductive Request where
  | page (page : Page) (withBody : Bool)
  | wrongMethod
  | unknown
  deriving DecidableEq, Repr

/-- What is left of a target without scheme and authority, if it begins with them. -/
def afterAuthority (target : List Char) : List Char :=
  match target.dropWhile Char.isAlphanum with
  | ':' :: '/' :: '/' :: rest => rest.dropWhile fun c => c != '/' && c != '?' && c != '#'
  | _ => target

def pathOf (target : List Char) : List Char :=
  (afterAuthority target).takeWhile fun c => c != '?' && c != '#'

def page? (path : String) : Option Page :=
  if path = "/health" then some .health
  else if path = "/metrics" then some .metrics
  else none

def Request.of (method target : String) : Request :=
  match page? (String.ofList (pathOf target.toList)) with
  | none => .unknown
  | some asked =>
    if method = "GET" then .page asked true
    else if method = "HEAD" then .page asked false
    else .wrongMethod

inductive Content where
  | report (json : Json)
  | lines (lines : List String)
  | nothing

structure Response where
  status : Nat
  contentType : Option String
  content : Content

def reportType : String := "application/json"

def linesType : String := "text/plain; version=0.0.4; charset=utf-8"

def respond (health : Health) (lines : List String) : Request → Response
  | .page .health withBody =>
    ⟨health.status, some reportType, if withBody then .report health.json else .nothing⟩
  | .page .metrics withBody => ⟨200, some linesType, .lines (if withBody then lines else [])⟩
  | .wrongMethod => ⟨405, none, .nothing⟩
  | .unknown => ⟨404, none, .nothing⟩

end Health

end Steward
