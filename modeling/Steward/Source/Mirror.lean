import Steward.Source
/-!
# A source and its original

Others write the original of a watched source anew, and take it away, at any time.  A refresh reads
a fingerprint at one moment and contents at a later one, and goes on with either some time after it
was read.  Each reading may fail, and there are no contents to be read of what is gone.
-/

set_option autoImplicit false

namespace Steward

namespace Mirror

structure Version (V : Type) where
  fingerprint : String
  contents : V
  deriving DecidableEq, Repr

/-- What a refresh has read. -/
inductive Reading (V E : Type) where
  | fingerprint (found : Except E (Option String))
  | contents (found : Except E V)

/-- A refresh reads what it has to read next, unless that fails, and receives it some time after. -/
inductive Event (V E : Type) where
  | write (version : Version V)
  | remove
  | refresh (call : Nat)
  | enter (call : Nat)
  | read (call : Nat) (failure : Option E)
  | receive (call : Nat)
  | drop (call : Nat)

inductive Reply (V E : Type) where
  | altered
  | read
  | source (reply : Source.Reply V E)
  | refused

end Mirror

structure Mirror (V E : Type) where
  original : Option (Mirror.Version V)
  source : Source V
  readings : List (Nat × Mirror.Reading V E)

namespace Mirror

variable {V E : Type}

def new : Mirror V E := ⟨none, .new, []⟩

def contents? (mirror : Mirror V E) : Option V := mirror.original.map (·.contents)

def fingerprint? (mirror : Mirror V E) : Option String := mirror.original.map (·.fingerprint)

def stage? (mirror : Mirror V E) (call : Nat) : Option Source.Stage := mirror.source.stage? call

def reading? (mirror : Mirror V E) (call : Nat) : Option (Reading V E) :=
  mirror.readings.lookup call

def keep (mirror : Mirror V E) (call : Nat) (reading : Reading V E) : Mirror V E :=
  { mirror with readings := (call, reading) :: mirror.readings.filter (·.1 != call) }

def forget (mirror : Mirror V E) (call : Nat) : Mirror V E :=
  { mirror with readings := mirror.readings.filter (·.1 != call) }

def glance (mirror : Mirror V E) : Source.Stage → Option E → Option (Reading V E)
  | .queued, _ => none
  | .probing, some error => some (.fingerprint (.error error))
  | .probing, none => some (.fingerprint (.ok mirror.fingerprint?))
  | .loading _, some error => some (.contents (.error error))
  | .loading _, none => mirror.contents?.map fun contents => .contents (.ok contents)

/-- What the source is told when a refresh goes on with this reading. -/
def Reading.event (call : Nat) : Reading V E → Source.Event V E
  | .fingerprint found => .probed call found
  | .contents found => .loaded call found

def pass [DecidableEq V] (mirror : Mirror V E) (event : Source.Event V E) :
    Mirror V E × Reply V E :=
  ({ mirror with source := (mirror.source.step event).1 }, .source (mirror.source.step event).2)

def step [DecidableEq V] (mirror : Mirror V E) : Event V E → Mirror V E × Reply V E
  | .write version => ({ mirror with original := some version }, .altered)
  | .remove => ({ mirror with original := none }, .altered)
  | .refresh call => mirror.pass (.refresh call)
  | .enter call => mirror.pass (.enter call)
  | .read call failure =>
    match mirror.reading? call, mirror.stage? call with
    | none, some stage =>
      match mirror.glance stage failure with
      | some reading => (mirror.keep call reading, .read)
      | none => (mirror, .refused)
    | _, _ => (mirror, .refused)
  | .receive call =>
    match mirror.reading? call with
    | some reading => (mirror.forget call).pass (reading.event call)
    | none => (mirror, .refused)
  | .drop call => (mirror.forget call).pass (.drop call)

end Mirror

end Steward
