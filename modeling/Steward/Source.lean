import Steward.Turnstile
/-!
# Watched sources

A source is watched through its fingerprint, which is cheap to take.  A refresh takes the
fingerprint and loads the contents only if it differs from the one stored with the value.  Every
difference in the value is a change, of which listeners are told.  A refresh that fails changes
nothing, so the next one tries again.  Refreshes pass a turnstile one at a time.
-/

set_option autoImplicit false

namespace Steward

namespace Source

inductive Change (V : Type) where
  | set (value : V)
  | changed (old new : V)
  | unset (old : V)
  deriving DecidableEq, Repr

def Change.label {V : Type} : Option (Change V) → String
  | none => "Unchanged"
  | some (.set _) => "Set"
  | some (.changed ..) => "Changed"
  | some (.unset _) => "Unset"

def taskName (source : String) : String := "refresh:" ++ source

inductive Stage where
  | queued
  | probing
  | loading (fingerprint : String)
  deriving DecidableEq, Repr

inductive Event (V E : Type) where
  | refresh (call : Nat)
  | enter (call : Nat)
  | probed (call : Nat) (fingerprint : Except E (Option String))
  | loaded (call : Nat) (contents : Except E V)
  | drop (call : Nat)

def Event.call {V E : Type} : Event V E → Nat
  | .refresh call | .enter call | .probed call _ | .loaded call _ | .drop call => call

inductive Reply (V E : Type) where
  | wait
  | probe
  | load (fingerprint : String)
  | finished (result : Except E (Option (Change V)))
  | dropped
  | refused

end Source

structure Source (V : Type) where
  fingerprint : Option String
  value : Option V
  gate : Turnstile
  calls : List (Nat × Source.Stage)

namespace Source

variable {V E : Type}

def new : Source V := ⟨none, none, .empty, []⟩

def stage? (source : Source V) (call : Nat) : Option Stage := source.calls.lookup call

def place (source : Source V) (call : Nat) (stage : Stage) : Source V :=
  { source with calls := (call, stage) :: source.calls.filter (·.1 != call) }

def retire (source : Source V) (call : Nat) : Source V :=
  { source with
    gate := source.gate.leave call
    calls := source.calls.filter (·.1 != call) }

def remove (source : Source V) : Source V × Option (Change V) :=
  ({ source with fingerprint := none, value := none }, source.value.map .unset)

def replace [DecidableEq V] (source : Source V) (fingerprint : String) (new : V) :
    Source V × Option (Change V) :=
  ({ source with fingerprint := some fingerprint, value := some new },
    match source.value with
    | none => some (.set new)
    | some old => if old = new then none else some (.changed old new))

def step [DecidableEq V] (source : Source V) : Event V E → Source V × Reply V E
  | .refresh call =>
    match source.stage? call with
    | some _ => (source, .refused)
    | none => ({ source with gate := source.gate.enter call }.place call .queued, .wait)
  | .enter call =>
    match source.stage? call with
    | some .queued =>
      if source.gate.holder? = some call then (source.place call .probing, .probe)
      else (source, .wait)
    | _ => (source, .refused)
  | .probed call fingerprint =>
    match source.stage? call with
    | some .probing =>
      match fingerprint with
      | .error error => (source.retire call, .finished (.error error))
      | .ok none =>
        let (source, change) := source.remove
        (source.retire call, .finished (.ok change))
      | .ok (some fingerprint) =>
        if source.fingerprint = some fingerprint then
          (source.retire call, .finished (.ok none))
        else (source.place call (.loading fingerprint), .load fingerprint)
    | _ => (source, .refused)
  | .loaded call contents =>
    match source.stage? call with
    | some (.loading fingerprint) =>
      match contents with
      | .error error => (source.retire call, .finished (.error error))
      | .ok new =>
        let (source, change) := source.replace fingerprint new
        (source.retire call, .finished (.ok change))
    | _ => (source, .refused)
  | .drop call =>
    match source.stage? call with
    | some _ => (source.retire call, .dropped)
    | none => (source, .refused)

end Source

end Steward
