import Steward.Simulation.Accounts
/-!
# Scenes

A scene is an engine with a world.  Calls are made from outside, one after the other or at the
same time, and everything that can go on is given its turns before the next one.
-/

set_option autoImplicit false

namespace Steward.Simulation

def conclude (self : Nat) (result : CallEnd) : Run Unit := do
  match result with
  | .answered (.credential (.ok held)) => handOut held
  | _ => pure ()
  update fun world => { world with ends := (self, result) :: world.ends }

def pollRoot (self : Nat) : Option Answer → Step
  | some value => do
    conclude self (.answered value)
    return .answer .done
  | none => return .pending .root none

def dropRoot (self : Nat) : Drop → Run Unit
  | .crashed => conclude self .crashed
  | .aborted => conclude self .aborted

def poll (self : Nat) (routine : Routine) (answer : Option Answer) : Step :=
  match routine with
  | .root => pollRoot self answer
  | .sleeping wake => pollSleeping wake
  | .obtain => keepOn self (.arrive self)
  | .replace rejected => keepOn self (.reject self rejected)
  | .keep reply => pollKeep self reply
  | .asking request number scripted => pollAsking self request number scripted answer
  | .read cache => do
    let now ← clock
    cacheOn self cache (.get self now)
  | .background cache => cacheOn self cache (.begin self)
  | .caching cache reply => pollCaching self cache reply
  | .computing cache => pollComputing self cache answer
  | .load cache => pollLoad cache
  | .loading number scripted => pollLoading number scripted answer
  | .refresh source => watchOn self source (.refresh self)
  | .watching source reply => pollWatching self source reply
  | .probing source delay => pollProbing self source delay answer
  | .fetching source fingerprint delay => pollFetching self source fingerprint delay answer
  | .loop => pollLoop self
  | .body => pollBody self answer
  | .begin task number => pollBegin task number
  | .running name scripted => pollRunning name scripted answer
  | .refreshing source => pollRefreshing source answer
  | .duty begun => pollDuty self begun answer
  | .worker job => pollWorker self job
  | .working => pollWorking self answer
  | .shutdown => pollShutdown self
  | .closing => pollClosing self
  | .awaitState task state limit => pollAwaitState self task state limit
  | .calling operation => pollCalling self operation answer
  | .remote operation held => pollRemote operation held answer
  | .walk stream left seen => pollWalk stream left seen answer
  | .sync => pollSync self
  | .authenticate attempt begun => pollAuthenticate attempt begun answer
  | .retrying attempt begun => pollRetrying attempt begun answer

/-- What is undone when a routine is dropped. -/
def tidy (self : Nat) (routine : Routine) (why : Drop) : Run Unit :=
  match routine with
  | .root => dropRoot self why
  | .keep _ => giveUp self
  | .asking .. => giveUp self
  | .calling _ => giveUp self
  | .sync => giveUp self
  | .background cache => dropCaching self cache
  | .caching cache _ => dropCaching self cache
  | .computing cache => dropCaching self cache
  | .watching source _ => dropWatching self source
  | .probing source _ => dropWatching self source
  | .fetching source _ _ => dropWatching self source
  | .body => dropBody self why
  | .running name _ => dropRunning name
  | .worker job => dropWorker self job
  | .working => dropWorking self
  | .closing => dropClosing self
  | .awaitState .. => forgetOnlooker self
  | _ => pure ()

def behaviour : Behaviour World Routine Answer := ⟨poll, tidy⟩

abbrev Scene := Engine World Routine

namespace Scene

/-- More turns than any scene takes. -/
def turns : Nat := 1000000000000

/-- The milliseconds after which a call from outside is given up. -/
def patience : Nat := 3600000

def settle (scene : Scene) : Scene := Engine.settle behaviour turns scene

def act {α : Type} (scene : Scene) (run : Run α) : α × Scene :=
  let (value, scene) := StateT.run run scene
  (value, settle scene)

def sleep (scene : Scene) (length : Nat) : Scene :=
  settle (Engine.advance behaviour (scene.now + length) turns scene)

def call (scene : Scene) (routine : Routine) : Nat × Scene := scene.act (spawn [routine, .root])

def ended? (scene : Scene) (call : Nat) : Option CallEnd := scene.world.ends.lookup call

def join (scene : Scene) (call : Nat) : Scene :=
  settle (Engine.await behaviour call (scene.now + patience) turns scene)

def abort (scene : Scene) (call : Nat) : Scene := settle (Engine.abort scene call)

def takeJournal (scene : Scene) : List (Nat × String) × Scene :=
  (scene.world.journal, { scene with world := { scene.world with journal := [] } })

def takeNotices (scene : Scene) : List (Nat × Notice) × Scene :=
  (scene.world.notices, { scene with world := { scene.world with notices := [] } })

end Scene

namespace World

/-- An account without a credential, with a token endpoint that grants whatever is asked for. -/
def unusedAccess (window : RefreshWindow) : Access where
  toSyncs := .start window
  username := ""
  password := .conceal ""
  scope := ""
  login := []
  refresh := []
  logins := 0
  refreshes := 0
  stored := none
  loadError := none
  saveError := none
  handed := []

def empty (workers : Nat) : World where
  wall := 0
  journal := []
  notices := []
  samples := []
  registry := .empty
  access := unusedAccess default
  tenant := .new none none
  shelves := []
  pooled := false
  scheduler := .new workers
  duties := []
  members := []
  works := []
  runs := []
  jobs := 0
  onlookers := []
  watched := []
  files := .empty
  edits := 0
  accounts := ⟨⟨0, 0, ""⟩, ⟨false, 0, 0⟩, 0, false, 0, []⟩
  backoff := .of .zero .zero
  pageSize := Steward.pageSize 0
  service := .initializing
  fatal := none
  ends := []

end World

end Steward.Simulation
