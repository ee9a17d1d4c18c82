import Steward.Config
import Steward.Failure
import Steward.Scheduler.Task
import Steward.Strategy
/-!
# The recurring tasks of the service

The credential is kept usable, the account is polled, its transactions are walked, and the strategy
file is watched if there is one.  Only a failure that nothing can be done about makes a run fail.
Anything that may pass is left to the next run.
-/

set_option autoImplicit false

namespace Steward.Duties

inductive Duty where
  | checkCredential
  | pollAccount
  | syncTransactions
  | watchStrategy (path : String)
  deriving DecidableEq, Repr

structure Assignment where
  duty : Duty
  name : String
  timing : Timing
  complaint : String

/-- All duties, in the order in which they are scheduled.  The credential is checked for the first
time after one interval, since the service has just logged in; all else begins at once. -/
def assignments (config : Config) : List Assignment :=
  let timeout := Duration.ofSeconds config.scheduler.taskTimeoutSecs
  let check := Duration.ofSeconds config.refresh.checkIntervalSecs
  [⟨.checkCredential, "credential-refresh", ⟨check, check, timeout⟩,
      "failed to schedule credential refresh"⟩,
    ⟨.pollAccount, "account-poll",
      .every (.ofSeconds config.polling.balanceIntervalSecs) timeout,
      "failed to schedule account poll"⟩,
    ⟨.syncTransactions, "transaction-sync",
      .every (.ofSeconds config.polling.transactionsIntervalSecs) timeout,
      "failed to schedule transaction sync"⟩]
  ++ (config.strategy.map fun strategy =>
    ⟨.watchStrategy strategy.path, Source.taskName (Strategy.sourceName strategy.path),
      .every (.ofSeconds strategy.checkIntervalSecs) timeout,
      "failed to schedule strategy watch"⟩).toList

structure Verdict where
  result : Except String Unit
  /-- The reason for which the whole service should end. -/
  fatal : Option ExitReason

def Verdict.fine : Verdict := ⟨.ok (), none⟩

def afterCredentialCheck {α : Type} : Except AuthError α → Verdict
  | .ok _ => .fine
  | .error error =>
    match error.classification with
    | .authentication | .permanent =>
      ⟨.error error.message, some (.ofClassification error.classification)⟩
    | .transient | .unavailable => .fine

/-- The failure that a poll of the account reports, from the last failures of its parts. -/
def pollFailure (failures : List AccountError) : Option AccountError :=
  failures.find? (·.classification == .permanent)

def afterPoll (failures : List AccountError) : Verdict :=
  match pollFailure failures with
  | none => .fine
  | some error => ⟨.error error.message, none⟩

def afterSync {α : Type} : Except AccountError α → Verdict
  | .ok _ => .fine
  | .error error =>
    if error.classification = .permanent then ⟨.error error.message, none⟩ else .fine

end Steward.Duties
