import Steward.Simulation.Steps
/-!
# Routines that watch sources
-/

set_option autoImplicit false

namespace Steward

/-- A reply in terms of other errors. -/
def Source.Reply.mapError {V E E' : Type} (failure : E → E') : Source.Reply V E → Source.Reply V E'
  | .wait => .wait
  | .probe => .probe
  | .load fingerprint => .load fingerprint
  | .finished result => .finished (result.mapError failure)
  | .dropped => .dropped
  | .refused => .refused

namespace Simulation

def updateWatched (index : Nat) (change : Watched → Watched) : Run Unit :=
  update fun world => { world with watched := world.watched.modify index change }

def World.origin? (world : World) (index : Nat) : Option Origin :=
  (world.watched[index]?).map (·.origin)

/-- Lets an event happen to a source that stands by itself. -/
def stepStand (self index : Nat) (event : Source.Event String String) :
    Run (Source.Reply String String) := do
  match (← world).watched[index]? with
  | none => return .refused
  | some watched =>
    let (source, reply) := watched.source.step event
    updateWatched index fun watched => { watched with source := source }
    wakeHolder self watched.source.gate source.gate
    return reply

def watchStand (self index : Nat) (event : Source.Event String String) : Step := do
  return .go (.watching index (← stepStand self index event))

/-- A refresh of the strategy of the crew goes on. -/
def watchFile (self index : Nat) (event : Source.Event String FileError) : Step := do
  match ← stepCrew self index (.strategy event) with
  | .strategy reply => return .go (.watching index (reply.mapError FileError.message))
  | reply => return .answer (.crew reply)

/-- A refresh of a source goes on. -/
def watchOn (self index : Nat) (event : ∀ {E : Type}, Source.Event String E) : Step := do
  match (← world).origin? index with
  | some (.file _) => watchFile self index event
  | _ => watchStand self index event

/-- What the journal says of a change that a listener heard. -/
def heardText (listener : Nat) (change : Source.Change String) : String :=
  "listener " ++ toString listener ++ match change with
    | .set value => " set " ++ value
    | .changed old new => " changed " ++ old ++ " -> " ++ new
    | .unset old => " unset " ++ old

def tellWatcher (change : Source.Change String) : Watcher → Run Unit
  | .journal number => note (heardText number change)
  | .nobody => pure ()

def Stand.probe (stand : Stand) : Except String (Option String) :=
  match stand.probeError with
  | some error => .error error
  | none => .ok (stand.file.map (·.1))

def Stand.fetch (stand : Stand) (fingerprint : String) : Except String String :=
  match stand.loadError, stand.file with
  | some error, _ => .error error
  | none, some (_, contents) => .ok contents
  | none, none => .error (fingerprint ++ " vanished")

def pollWatching (self index : Nat) (reply : Source.Reply String String) : Step := do
  match (← world).watched[index]? with
  | none => return .answer .done
  | some watched =>
    match reply, watched.origin with
    | .wait, _ =>
      if watched.source.gate.holder? = some self then watchOn self index (.enter self)
      else return .pending (.watching index reply) none
    | .probe, .stand stand => return .go (.probing index stand.probeDelay)
    | .probe, .file path =>
      let files := (← world).files
      watchFile self index (.probed self (Strategy.probe files path))
    | .load fingerprint, .stand stand =>
      note ("load " ++ fingerprint)
      return .go (.fetching index fingerprint stand.loadDelay)
    | .load _, .file path =>
      let files := (← world).files
      watchFile self index (.loaded self (Strategy.load files path))
    | .finished result, _ =>
      match result with
      | .ok (some change) => watched.watchers.forM (tellWatcher change)
      | _ => pure ()
      return .answer (.refreshed result)
    | .dropped, _ => return .answer .done
    | .refused, _ => return .answer .done

def pollProbing (self index delay : Nat) : Option Answer → Step
  | none => sleepUnder (.probing index delay) delay
  | some _ => do
    match (← world).origin? index with
    | some (.stand stand) => watchStand self index (.probed self stand.probe)
    | _ => return .crash

def pollFetching (self index : Nat) (fingerprint : String) (delay : Nat) : Option Answer → Step
  | none => sleepUnder (.fetching index fingerprint delay) delay
  | some _ => do
    match (← world).origin? index with
    | some (.stand stand) =>
      if stand.loadCrashes then return .crash
      else watchStand self index (.loaded self (stand.fetch fingerprint))
    | _ => return .crash

def dropWatching (self index : Nat) : Run Unit := do
  match (← world).origin? index with
  | some (.file _) => discard (stepCrew self index (.strategy (.drop self)))
  | _ => discard (stepStand self index (.drop self))

end Simulation

end Steward
