import Steward.Credential.Keeper
/-!
# Calls with a credential

A call of the service is made with a usable credential.  If the service refuses that credential,
the call is made once more with another one, and its second result stands whatever it is.  Any
other result stands at once.
-/

set_option autoImplicit false

namespace Steward.Session

inductive Stage where
  /-- A usable credential is being obtained. -/
  | obtaining
  | running (used : Held)
  /-- The credential was refused and another one is being obtained. -/
  | replacing (refused : Held)
  | rerunning (used : Held)

inductive Input (α : Type) where
  | credential (result : Except AuthError Held)
  | result (result : Except RemoteError α)

inductive Next (α : Type) where
  | obtain
  | run (held : Held)
  | replace (refused : Held)
  | finished (result : Except AccountError α)
  /-- The input does not fit the stage. -/
  | refused

def finish {α : Type} (result : Except RemoteError α) : Next α :=
  .finished (match result with
    | .ok value => .ok value
    | .error error => .error (.remote error))

def step {α : Type} : Stage → Input α → Stage × Next α
  | .obtaining, .credential (.ok held) => (.running held, .run held)
  | .obtaining, .credential (.error error) => (.obtaining, .finished (.error (.auth error)))
  | .running used, .result (.error error) =>
    if error.classification = .authentication then (.replacing used, .replace used)
    else (.running used, finish (.error error))
  | .running used, .result (.ok value) => (.running used, finish (.ok value))
  | .replacing _, .credential (.ok held) => (.rerunning held, .run held)
  | .replacing refused, .credential (.error error) =>
    (.replacing refused, .finished (.error (.auth error)))
  | .rerunning used, .result result => (.rerunning used, finish result)
  | stage, _ => (stage, .refused)

/-- The outcome under which a finished call is counted. -/
def outcome {α : Type} : Except AccountError α → String
  | .ok _ => "success"
  | .error error => error.classification.label

end Steward.Session
