import Steward.Duration
/-!
# Samples

What happens is recorded as samples of named series.  A series is a name with labels, in the order
in which the labels are declared.
-/

set_option autoImplicit false

namespace Steward

structure Series where
  name : String
  labels : List (String × String)
  deriving DecidableEq, Inhabited

def Series.shown (series : Series) : String :=
  let labels := (series.labels.mergeSort fun a b => a.1 ≤ b.1).map fun (label, value) =>
    label ++ "=" ++ value
  if labels.isEmpty then series.name
  else series.name ++ "\x7b" ++ String.intercalate "," labels ++ "\x7d"

inductive Sample where
  | count (series : Series)
  | observe (series : Series) (seconds : Float)
  | level (series : Series) (value : Nat)

namespace Sample

def outcomeLabel (succeeded : Bool) : String := if succeeded then "success" else "failure"

/-- A refresh or login was answered. -/
def transition (kind : String) (succeeded : Bool) : Sample :=
  .count ⟨"auth_transitions_total", [("kind", kind), ("outcome", outcomeLabel succeeded)]⟩

def taskRun (task outcome : String) : Sample :=
  .count ⟨"scheduler_task_runs_total", [("task", task), ("outcome", outcome)]⟩

def computation (cache : String) (succeeded : Bool) : Sample :=
  .count ⟨"cache_computations_total", [("cache", cache), ("outcome", outcomeLabel succeeded)]⟩

def notice (name : String) : Sample := .count ⟨"tenant_events_total", [("event", name)]⟩

def authenticated (value : Bool) : Sample :=
  .level ⟨"tenant_authenticated", []⟩ (if value then 1 else 0)

/-- A call of the service has ended. -/
def remoteCall (operation outcome : String) (seconds : Float) : List Sample :=
  [.count ⟨"tenant_remote_calls_total", [("operation", operation), ("outcome", outcome)]⟩,
    .observe ⟨"tenant_remote_call_duration_seconds", [("operation", operation)]⟩ seconds]

def series : Sample → Series
  | .count series => series
  | .observe series _ => series
  | .level series _ => series

/-- How a series stands after one more sample: a level replaces it, all else counts. -/
def tally (sample : Sample) (before : Nat) : Nat :=
  match sample with
  | .level _ value => value
  | _ => before + 1

end Sample

/-- Every series of the samples with how it stands, in the order of its first sample. -/
def tallies (samples : List Sample) : List (Series × Nat) :=
  samples.foldl (fun tallies sample =>
    if tallies.any (·.1 == sample.series) then
      tallies.map fun (series, count) =>
        (series, if series == sample.series then sample.tally count else count)
    else tallies ++ [(sample.series, sample.tally 0)]) []

def Duration.inSeconds (duration : Duration) : Float :=
  Float.ofNat duration.seconds + Float.ofNat duration.fraction / 1000000000

end Steward
