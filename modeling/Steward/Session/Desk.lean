import Steward.Metrics
import Steward.Moment
import Steward.Session
/-!
# The calls of a service

All calls of the service, whatever their operation, share one keeper of the credential with
everybody else who wants one.  A call goes from stage to stage by steps of its requests to the
keeper and by the answers of the service, and all calls are interleaved in any way.  When a call
ends, its outcome and its length are recorded.
-/

set_option autoImplicit false

namespace Steward

/-- What a call at this stage may tell the keeper.  It gives up a request only with itself. -/
def Session.Stage.admits : Session.Stage → Keeper.Event → Bool
  | .obtaining, .arrive _ => true
  | .replacing refused, .reject _ rejected => rejected == refused.number
  | _, .arrive _ | _, .reject _ _ | _, .drop _ => false
  | _, _ => true

namespace Desk

/-- A call of the service, which began at the moment `begun`.  It goes under the same number as its
requests to the keeper. -/
structure Call where
  operation : String
  begun : Nat
  stage : Session.Stage

def Call.samples {α : Type} (call : Call) (result : Except AccountError α) (now : Nat) :
    List Sample :=
  Sample.remoteCall call.operation (Session.outcome result) (Moment.since now call.begun).inSeconds

inductive Event (α : Type) where
  | begin (number : Nat) (operation : String) (now : Nat)
  | keeper (event : Keeper.Event) (now : Nat)
  | answered (number : Nat) (answer : Except RemoteError α) (now : Nat)
  | abandon (number : Nat)

def Event.number {α : Type} : Event α → Nat
  | .begin number _ _ | .answered number _ _ | .abandon number => number
  | .keeper event _ => event.call

inductive Reply (α : Type) where
  | obtain
  | keeper (reply : Keeper.Reply)
  | run (held : Held)
  | replace (refused : Held)
  | finished (operation : String) (result : Except AccountError α) (samples : List Sample)
  | abandoned
  | refused

end Desk

structure Desk where
  keeper : Keeper
  calls : List (Nat × Desk.Call)

namespace Desk

variable {α : Type}

def start (window : RefreshWindow) : Desk := ⟨.new window, []⟩

def call? (desk : Desk) (number : Nat) : Option Call := desk.calls.lookup number

def place (desk : Desk) (number : Nat) (call : Call) : Desk :=
  { desk with calls := (number, call) :: desk.calls.filter (·.1 != number) }

def forget (desk : Desk) (number : Nat) : Desk :=
  { desk with calls := desk.calls.filter (·.1 != number) }

def proceed (desk : Desk) (number : Nat) (call : Call) (input : Session.Input α) (now : Nat) :
    Desk × Reply α :=
  match Session.step call.stage input with
  | (stage, .obtain) => (desk.place number { call with stage := stage }, .obtain)
  | (stage, .run held) => (desk.place number { call with stage := stage }, .run held)
  | (stage, .replace refused) => (desk.place number { call with stage := stage }, .replace refused)
  | (_, .finished result) =>
    (desk.forget number, .finished call.operation result (call.samples result now))
  | (_, .refused) => (desk, .refused)

def step (desk : Desk) : Event α → Desk × Reply α
  | .begin number operation now =>
    match desk.call? number, desk.keeper.stage? number with
    | none, none => (desk.place number ⟨operation, now, .obtaining⟩, .obtain)
    | _, _ => (desk, .refused)
  | .keeper event now =>
    let (keeper, reply) := desk.keeper.step event
    match desk.call? event.call with
    | none => ({ desk with keeper := keeper }, .keeper reply)
    | some call =>
      if call.stage.admits event then
        match reply with
        | .finished result =>
          { desk with keeper := keeper }.proceed event.call call (.credential result) now
        | reply => ({ desk with keeper := keeper }, .keeper reply)
      else (desk, .refused)
  | .answered number answer now =>
    match desk.call? number with
    | some call => desk.proceed number call (.result answer) now
    | none => (desk, .refused)
  | .abandon number =>
    match desk.call? number with
    | some _ =>
      ({ desk with keeper := (desk.keeper.step (.drop number)).1 }.forget number, .abandoned)
    | none => (desk, .refused)

end Desk

end Steward
