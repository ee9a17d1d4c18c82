import Steward.Duties.Crew
import Steward.Health
/-!
# A request for the health report at work

A request reads one thing after the other, while everybody else goes on: the phase of the keeper,
its credential unless a request for another one is under way, when the credential expires, how many
tasks there are, each of them, and the rest.
-/

set_option autoImplicit false

namespace Steward

/-- The moments at which a request reads what it tells of. -/
structure Inquiry where
  phase : Nat
  credential : Nat
  expiry : Nat
  count : Nat
  /-- When the task of this number is read. -/
  task : Nat → Nat
  balance : Nat
  permits : Nat
  credential_after : phase ≤ credential
  expiry_after : credential ≤ expiry
  count_after : expiry ≤ count
  task_after : ∀ index, count ≤ task index
  balance_after : ∀ index, task index ≤ balance
  permits_after : balance ≤ permits

namespace Inquiry

/-- All is read at once. -/
def atOnce (moment : Nat) : Inquiry where
  phase := moment
  credential := moment
  expiry := moment
  count := moment
  task := fun _ => moment
  balance := moment
  permits := moment
  credential_after := Nat.le_refl moment
  expiry_after := Nat.le_refl moment
  count_after := Nat.le_refl moment
  task_after := fun _ => Nat.le_refl moment
  balance_after := fun _ => Nat.le_refl moment
  permits_after := Nat.le_refl moment

/-- What is told of a crew that stands like this from moment to moment.  The clock is read with the
credential and once more with its expiry. -/
def health (inquiry : Inquiry) (config : Config) (crews : Nat → Crew) (seen now : Instant)
    (uptime : Nat) : Health :=
  let found := (crews inquiry.phase).keeper
  { username := config.account.username
    displayName := config.account.shownName
    dryRun := config.account.dryRun
    credential :=
      Keeper.told found.window (crews inquiry.credential).keeper.current seen found.phase
    expiresAt := (crews inquiry.expiry).keeper.expiresAt
    now := now
    balance := (crews inquiry.balance).account.cachedBalance
    workers := (crews inquiry.permits).scheduler.permits.size
    idleWorkers := (crews inquiry.permits).scheduler.permits.idle
    tasks := (List.range (crews inquiry.count).scheduler.tasks.length).filterMap fun index =>
      (crews (inquiry.task index)).scheduler.tasks[index]?
    uptime := uptime }

end Inquiry

end Steward
