import Steward.Backoff
import Steward.Duties.Crew
import Steward.Exposition
import Steward.Files
import Steward.Paging.Streams
import Steward.Service
import Steward.Session.Syncs
import Steward.Simulation.Engine
/-!
# What routines share

A world holds the parts of the service with what stands around them: endpoints, loaders and
sources that answer by script, a secret store, files, and a record of everything that happened.
-/

set_option autoImplicit false

namespace Steward.Simulation

/-! ## Scripts -/

/-- Whoever waits for an answer that crashes goes down with it. -/
structure Scripted (α : Type) where
  delay : Nat
  hangs : Bool
  crashes : Bool
  outcome : α

def Scripted.moment {α : Type} (answer : Scripted α) (now : Nat) : Option Nat :=
  if answer.hangs then none else some (now + answer.delay)

def Scripted.after {α : Type} (delay : Nat) (outcome : α) : Scripted α :=
  ⟨delay, false, false, outcome⟩

/-- The answer to question number `number`, counted from one.  The last answer is repeated; an
empty script gives the plain one. -/
def answerTo {α : Type} (script : List (Scripted α)) (plain : Scripted α) (number : Nat) :
    Scripted α :=
  ((script[number - 1]?).or script.getLast?).getD plain

structure Grant where
  access : Option String
  refresh : Option String
  scope : Option String
  issuedAt : Option Nat
  lifetime : Nat
  deriving Inhabited

def usualLifetime : Nat := 300000

def usualTokenDelay : Nat := 50

def plainGrant : Scripted (Except AuthError Grant) :=
  .after usualTokenDelay (.ok ⟨none, none, none, none, usualLifetime⟩)

abbrev TokenScript := List (Scripted (Except AuthError Grant))

/-- The keeper and the calls that share it, with the account, the token endpoint and the store. -/
structure Access extends Syncs where
  username : String
  password : Secret
  scope : String
  login : TokenScript
  refresh : TokenScript
  logins : Nat
  refreshes : Nat
  stored : Option Credential
  loadError : Option AuthError
  saveError : Option AuthError
  handed : List Nat

def Access.keeper (access : Access) : Keeper := access.desk.keeper

def Access.shown (access : Access) : String :=
  "Account \x7b username: " ++ Text.quoted access.username ++ ", password: "
    ++ access.password.shown ++ ", scope: " ++ Text.quoted access.scope ++ " \x7d"

inductive TokenRequest where
  | login
  | refresh (held : Held)

inductive Item where
  | document (json : Json)
  | balance (balance : Balance)
  | restrictions (restrictions : Restrictions)
  | page (page : Page Transaction)

inductive Fault where
  | text (message : String)
  | account (error : AccountError)

inductive Operation where
  | balance
  | restrictions
  | transactions (page size : Nat)
  deriving DecidableEq

def Operation.name : Operation → String
  | .balance => "balance"
  | .restrictions => "restrictions"
  | .transactions .. => "transactions"

abbrev LoadScript := List (Scripted (Except String (Option Json)))

/-- Without a value of its own, an answer of a loader is the number of the computation. -/
structure Loader where
  scripted ::
  script : LoadScript

inductive Follower where
  | nobody
  | journal

structure Shelf where
  name : String
  cache : Cache Item Fault
  loader : Loader
  loads : Nat
  follower : Follower

inductive Spot where
  | shelf (index : Nat)
  | balance
  | restrictions

instance : Coe Nat Spot := ⟨.shelf⟩

/-- A source that stands as it was last set. -/
structure Stand where
  file : Option (String × String)
  probeError : Option String
  loadError : Option String
  loadCrashes : Bool
  probeDelay : Nat
  loadDelay : Nat

inductive Origin where
  | stand (stand : Stand)
  | file (path : String)

inductive Watcher where
  | journal (number : Nat)
  | nobody
  deriving DecidableEq

structure Watched where
  name : String
  source : Source String
  origin : Origin
  watchers : List Watcher

abbrev RunScript := List (Scripted (Except String Unit))

inductive Work where
  | scripted (script : RunScript)
  | refreshSource (source : Nat)
  | duty

inductive Job where
  | refreshCache (cache : Spot)
  | scripted (number : Nat) (answer : Scripted (Except String Unit))

/-- A failure that waits for so many calls, of any operation or of one. -/
structure Ordered where
  error : RemoteError
  times : Nat
  operation : Option String

structure Accounts where
  balance : Balance
  restrictions : Restrictions
  transactions : Nat
  hidesTotal : Bool
  latency : Nat
  failures : List Ordered

/-! ## Routines -/

/-- What a fiber has on its stack: `root` is the bottom of a call from outside, `body` that of a
body of a task, and `worker` a background job that has no permit yet.  The call of a body at its
duty for a page began at the moment it carries. -/
inductive Routine where
  | root
  | sleeping (wake : Option Nat)
  -- Credentials
  | obtain
  | replace (rejected : Nat)
  | keep (reply : Keeper.Reply)
  | asking (request : TokenRequest) (number : Nat) (answer : Scripted (Except AuthError Grant))
  -- Caches
  | read (cache : Spot)
  | background (cache : Spot)
  | caching (cache : Spot) (reply : Cache.Reply Item Fault)
  | computing (cache : Spot)
  | load (cache : Spot)
  | loading (number : Nat) (answer : Scripted (Except String (Option Json)))
  -- Sources
  | refresh (source : Nat)
  | watching (source : Nat) (reply : Source.Reply String String)
  | probing (source : Nat) (delay : Nat)
  | fetching (source : Nat) (fingerprint : String) (delay : Nat)
  -- Tasks
  | loop
  | body
  | begin (task : Nat) (number : Nat)
  | running (name : String) (answer : Scripted (Except String Unit))
  | refreshing (source : Nat)
  | duty (begun : Nat)
  | worker (job : Job)
  | working
  | shutdown
  | closing
  | awaitState (task : Nat) (state : TaskState) (limit : Nat)
  -- The account
  | calling (operation : Operation)
  | remote (operation : Operation) (held : Held)
  | walk (stream : Streams.Stream Transaction) (left : Option Nat)
      (seen : List (Except AccountError Transaction))
  | sync
  | authenticate (attempt begun : Nat)
  | retrying (attempt begun : Nat)

inductive Answer where
  | done
  | credential (result : Except AuthError Held)
  | item (result : Except Fault Item)
  | remote (result : Except RemoteError Item)
  | refreshed (result : Except String (Option (Source.Change String)))
  | ran (result : Except String Unit)
  | reached (value : Bool)
  | walked (results : List (Except AccountError Transaction))
  | counted (result : Except AccountError Nat)
  | desk (reply : Desk.Reply (Syncs.Answer Item))
  | crew (reply : Crew.Reply)

inductive CallEnd where
  | answered (answer : Answer)
  | crashed
  | aborted

/-- The wall clock showed `wall` milliseconds since 1970 at the first moment, and `onlookers` wait
for a task to change its state.  The channel for fatal failures holds one reason. -/
structure World where
  wall : Nat
  journal : List (Nat × String)
  notices : List (Nat × Notice)
  samples : List Sample
  registry : Registry
  access : Access
  tenant : Tenant
  shelves : List Shelf
  pooled : Bool
  scheduler : Scheduler
  duties : List Duties.Duty
  members : List (Nat × Crew.Member)
  works : List Work
  runs : List Nat
  jobs : Nat
  onlookers : List (Nat × Nat)
  watched : List Watched
  files : Files
  edits : Nat
  accounts : Accounts
  backoff : Backoff
  pageSize : Nat
  service : ServiceState
  fatal : Option ExitReason
  ends : List (Nat × CallEnd)

abbrev Run := Act World Routine

abbrev Step := Run (Move Routine Answer)

def update (change : World → World) : Run Unit := do setWorld (change (← world))

def note (text : String) : Run Unit := do
  let now ← clock
  update fun world => { world with journal := (now, text) :: world.journal }

def record (sample : Sample) : Run Unit :=
  update fun world =>
    { world with
      samples := sample :: world.samples
      registry := world.registry.record sample }

def tell (notice : Notice) : Run Unit := do
  record (.notice notice.name)
  let now ← clock
  update fun world => { world with notices := (now, notice) :: world.notices }

def today : Run Instant := return UInt64.ofNat ((← world).wall + (← clock))

/-- Sleeps for the milliseconds given, under `routine`. -/
def sleepUnder (routine : Routine) (delay : Nat) : Step := do
  return .call routine (.sleeping (some ((← clock) + delay)))

def pollSleeping (wake : Option Nat) : Step := do
  match wake with
  | none => return .pending (.sleeping none) none
  | some moment =>
    if moment ≤ (← clock) then return .answer .done
    else return .pending (.sleeping (some moment)) (some moment)

end Steward.Simulation
