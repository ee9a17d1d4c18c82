import Steward.Account
import Steward.Failure
import Steward.Json
/-!
# Notices

A notice tells listeners that something about the account or the service has changed.  Listeners
hear of it in the order in which they were registered.
-/

set_option autoImplicit false

namespace Steward

inductive Notice where
  | balanceChanged (previous : Option Balance) (current : Balance)
  | restrictionsChanged (restrictions : Restrictions)
  | transactionsSynced (count : Nat)
  | strategyChanged (length : Nat)
  | strategyRemoved
  | terminating (reason : ExitReason)
  deriving DecidableEq

namespace Notice

def name : Notice → String
  | .balanceChanged .. => "balance_changed"
  | .restrictionsChanged _ => "restrictions_changed"
  | .transactionsSynced _ => "transactions_synced"
  | .strategyChanged _ => "strategy_changed"
  | .strategyRemoved => "strategy_removed"
  | .terminating _ => "daemon_terminating"

def members (notice : Notice) : List (String × Json) :=
  ("name", .ofText notice.name) :: match notice with
    | .balanceChanged previous current =>
      [("previous", .ofOption Balance.json previous), ("current", current.json)]
    | .restrictionsChanged restrictions => [("restrictions", restrictions.json)]
    | .transactionsSynced count => [("count", .ofNat count)]
    | .strategyChanged length => [("len", .ofNat length)]
    | .strategyRemoved => []
    | .terminating reason =>
      [("reason", .ofText reason.label), ("exit_code", .ofNat reason.code)]

def logged : Notice → String × List (String × Json)
  | .balanceChanged previous current =>
    ("balance changed",
      (previous.map fun balance =>
        ("previous_available", Json.ofInt balance.available.toInt)).toList
      ++ [("available", .ofInt current.available.toInt),
        ("blocked", .ofInt current.blocked.toInt), ("currency", .ofText current.currency)])
  | .restrictionsChanged restrictions =>
    ("restrictions changed",
      [("investing_allowed", .boolean restrictions.investingAllowed),
        ("minimum_amount", .ofInt restrictions.minimumAmount.toInt),
        ("maximum_amount", .ofInt restrictions.maximumAmount.toInt)])
  | .transactionsSynced count => ("transactions synced", [("count", .ofNat count)])
  | .strategyChanged length => ("strategy changed", [("len", .ofNat length)])
  | .strategyRemoved => ("strategy removed", [])
  | .terminating reason =>
    ("daemon terminating",
      [("reason", .ofText reason.label), ("exit_code", .ofNat reason.code)])

def logLine (notice : Notice) : Json :=
  .record ([("level", .ofText "INFO"), ("message", .ofText notice.logged.1),
    ("event", .ofText notice.name)] ++ notice.logged.2)

end Notice

inductive Listener where
  | recorder (number : Nat)
  | log
  deriving DecidableEq, Repr

/-- What recorders and the log got from a notice, in the order of registration. -/
def Notice.heard (listeners : List Listener) (notice : Notice) :
    List (Nat × Notice) × List Json :=
  (listeners.filterMap fun listener =>
      match listener with
      | .recorder number => some (number, notice)
      | .log => none,
    listeners.filterMap fun listener =>
      match listener with
      | .recorder _ => none
      | .log => some notice.logLine)

/-- The listeners of notices, with all that they got so far. -/
structure Audience where
  listeners : List Listener
  heard : List (Nat × Notice)
  log : List Json
  fired : List Notice

namespace Audience

def empty : Audience := ⟨[], [], [], []⟩

def isRecorder : Listener → Bool
  | .recorder _ => true
  | .log => false

def addRecorder (audience : Audience) : Audience :=
  { audience with
    listeners := audience.listeners ++ [.recorder (audience.listeners.countP isRecorder + 1)] }

def addLog (audience : Audience) : Audience :=
  { audience with listeners := audience.listeners ++ [.log] }

def fire (audience : Audience) (notice : Notice) : Audience :=
  let (heard, log) := notice.heard audience.listeners
  { audience with
    heard := audience.heard ++ heard
    log := audience.log ++ log
    fired := audience.fired ++ [notice] }

end Audience

structure Announcer (α : Type) where
  last : Option α
  deriving DecidableEq

def Announcer.observe {α : Type} [DecidableEq α] (announcer : Announcer α) (value : α) :
    Announcer α × Option (Option α × α) :=
  if announcer.last = some value then (announcer, none)
  else (⟨some value⟩, some (announcer.last, value))

end Steward
