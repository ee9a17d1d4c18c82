import Steward.Proofs.Keeper.Bringing
import Steward.Proofs.Session.Step
/-!
# Calls and their requests to the keeper

A call of the service that waits for a credential has at most one request with the keeper, and one
that runs has none.  Whoever has had a credential refused asks the keeper for another one, and will
be given another one.  This holds whatever all the other calls do.
-/

set_option autoImplicit false

namespace Steward.Desk

variable {α : Type}

/-- What a call at this stage has with the keeper. -/
def Placed (keeper : Keeper) (number : Nat) : Session.Stage → Prop
  | .obtaining => ∀ stage, keeper.stage? number = some stage → stage.Brings keeper.made none
  | .running used => used.number ≤ keeper.made ∧ keeper.stage? number = none
  | .replacing refused => refused.number ≤ keeper.made ∧
      ∀ stage, keeper.stage? number = some stage →
        stage.Brings keeper.made (some refused.number)
  | .rerunning _ => keeper.stage? number = none

def refused? : Session.Stage → Option Nat
  | .replacing refused => some refused.number
  | _ => none

structure Seated (desk : Desk) : Prop where
  consistent : Keeper.Consistent desk.keeper
  placed : ∀ number call, desk.call? number = some call → Placed desk.keeper number call.stage

section Placed

variable {keeper next : Keeper} {event : Keeper.Event} {reply : Keeper.Reply} {number : Nat}
  {stage : Session.Stage}

theorem placed_of_other (change : Keeper.Change keeper event next reply)
    (other : event.call ≠ number) (placed : Placed keeper number stage) :
    Placed next number stage := by
  have same := Keeper.stage?_of_other change other
  have grown := Keeper.made_of_change change
  cases stage with
  | obtaining =>
      intro stage found
      exact (placed stage (same.symm.trans found)).grown grown
  | running used => exact ⟨Nat.le_trans placed.1 grown, same.trans placed.2⟩
  | replacing refused =>
      refine ⟨Nat.le_trans placed.1 grown, fun stage found => ?_⟩
      exact (placed.2 stage (same.symm.trans found)).grown grown
  | rerunning used => exact same.trans placed

theorem brings_of_placed (placed : Placed keeper number stage) {inside : Keeper.Stage}
    (found : keeper.stage? number = some inside) :
    inside.Brings keeper.made (refused? stage) := by
  cases stage with
  | obtaining => exact placed inside found
  | running used => cases placed.2.symm.trans found
  | replacing refused => exact placed.2 inside found
  | rerunning used => cases placed.symm.trans found

theorem rejected_of_placed (placed : Placed keeper number stage) {rejected : Nat}
    (same : refused? stage = some rejected) : rejected ≤ keeper.made := by
  cases stage with
  | replacing refused =>
      cases same
      exact placed.1
  | _ => cases same

theorem undropped_of_admits (admitted : stage.admits event = true) (call : Nat) :
    event ≠ .drop call := by
  rintro rfl
  cases stage <;> cases admitted

theorem absent_of_busy (placed : Placed keeper number stage) (busy : ¬ stage.IsWaiting) :
    keeper.stage? number = none := by
  cases stage with
  | obtaining => exact absurd (.inl rfl) busy
  | running used => exact placed.2
  | replacing refused => exact absurd (.inr ⟨refused, rfl⟩) busy
  | rerunning used => exact placed

/-- A call that begins a request with the keeper asks for what it should. -/
theorem brings_of_begins (admitted : stage.admits event = true)
    (change : Keeper.Change keeper event next reply) (absent : keeper.stage? event.call = none)
    {inside : Keeper.Stage} (found : next.stage? event.call = some inside) :
    stage.IsWaiting ∧ inside.Brings next.made (refused? stage) := by
  rcases Keeper.begins_of_change change absent found with ⟨arrives, rfl⟩ | ⟨rejected, rejects, rfl⟩
  · rw [arrives] at admitted
    cases stage with
    | obtaining => exact ⟨.inl rfl, Keeper.brings_of_outside nofun rfl⟩
    | _ => cases admitted
  · rw [rejects] at admitted
    cases stage with
    | replacing refused =>
        have own : rejected = refused.number := eq_of_beq admitted
        refine ⟨.inr ⟨refused, rfl⟩, Keeper.brings_of_outside ?_ rfl⟩
        rintro number ⟨⟩
        exact congrArg _ own
    | _ => cases admitted

/-- A call that goes on with the keeper keeps what it has with it. -/
theorem placed_of_own (consistent : Keeper.Consistent keeper)
    (change : Keeper.Change keeper event next reply) (admitted : stage.admits event = true)
    (placed : Placed keeper event.call stage) : Placed next event.call stage := by
  have grown := Keeper.made_of_change change
  have brings : ∀ inside, next.stage? event.call = some inside →
      inside.Brings next.made (refused? stage) := by
    intro inside found
    cases before : keeper.stage? event.call with
    | none => exact (brings_of_begins admitted change before found).2
    | some last =>
        exact Keeper.brings_of_change consistent change rfl (undropped_of_admits admitted)
          (fun number same => rejected_of_placed placed same) before
          (brings_of_placed placed before) found
  have stays : ¬ stage.IsWaiting → next.stage? event.call = none := by
    intro busy
    cases found : next.stage? event.call with
    | none => rfl
    | some inside =>
        exact absurd (brings_of_begins admitted change (absent_of_busy placed busy) found).1 busy
  cases stage with
  | obtaining => exact brings
  | replacing refused => exact ⟨Nat.le_trans placed.1 grown, brings⟩
  | running used =>
      exact ⟨Nat.le_trans placed.1 grown, stays (Session.Stage.busy_running used)⟩
  | rerunning used => exact stays (Session.Stage.busy_rerunning used)

end Placed

section Step

variable {desk next : Desk} {event : Event α} {reply : Reply α}

/-- A call that is given a credential is given one that exists and was not refused to it. -/
theorem acceptable_of_given (seated : Seated desk) {event : Keeper.Event} {keeper : Keeper}
    {call : Call} {result : Except AuthError Held} (found : desk.call? event.call = some call)
    (change : Keeper.Change desk.keeper event keeper (.finished result)) :
    Keeper.Acceptable desk.keeper.made (refused? call.stage) result :=
  Keeper.acceptable_of_finished seated.consistent change fun _ inside =>
    brings_of_placed (seated.placed _ call found) inside

theorem placed_of_obtained (seated : Seated desk) {event : Keeper.Event} {keeper : Keeper}
    {call : Call} {held : Held} {stage : Session.Stage}
    (found : desk.call? event.call = some call)
    (change : Keeper.Change desk.keeper event keeper (.finished (.ok held)))
    (runs : call.stage.RunsWith held stage) : Placed keeper event.call stage := by
  obtain ⟨-, absent, made⟩ := Keeper.ended_of_finished change
  have upTo := (acceptable_of_given seated found change held rfl).1
  generalize call.stage = before at runs
  cases runs with
  | first => exact ⟨Nat.le_trans upTo (Nat.le_of_eq made.symm), absent⟩
  | again => exact absent

theorem seated_of_step (seated : Seated desk) (step : Step desk event next reply) :
    Seated next := by
  have others : ∀ {happens : Keeper.Event} {keeper : Keeper} {told : Keeper.Reply},
      Keeper.Change desk.keeper happens keeper told → ∀ number call, number ≠ happens.call →
        desk.call? number = some call → Placed keeper number call.stage :=
    fun change number call differs found =>
      placed_of_other change differs.symm (seated.placed number call found)
  cases step with
  | refused => exact seated
  | @begun number now operation absent unknown =>
      refine ⟨seated.consistent, holds_of_moved (call?_place _ _ _) ?_ fun other call _ =>
        seated.placed other call⟩
      rintro call ⟨⟩ stage found
      cases unknown.symm.trans found
  | foreign absent change =>
      refine ⟨Keeper.consistent_change seated.consistent change, fun number call found => ?_⟩
      refine others change number call ?_ found
      rintro rfl
      cases absent.symm.trans found
  | @went happens now own keeper told found admitted change unfinished =>
      refine ⟨Keeper.consistent_change seated.consistent change, fun number call there => ?_⟩
      by_cases same : number = happens.call
      · subst same
        cases found.symm.trans there
        exact placed_of_own seated.consistent change admitted (seated.placed _ own found)
      · exact others change number call same there
  | obtained found change runs =>
      refine ⟨Keeper.consistent_change seated.consistent change,
        holds_of_moved (call?_place _ _ _) ?_ (others change)⟩
      rintro call ⟨⟩
      exact placed_of_obtained seated found change runs
  | unobtained found change waits =>
      exact ⟨Keeper.consistent_change seated.consistent change,
        holds_of_moved (call?_forget _ _) nofun (others change)⟩
  | stray found change busy =>
      obtain ⟨⟨stage, there⟩, -, -⟩ := Keeper.ended_of_finished change
      have absent := absent_of_busy (seated.placed _ _ found) busy
      cases absent.symm.trans there
  | rejected found stage rejection =>
      refine ⟨seated.consistent, holds_of_moved (call?_place _ _ _) ?_ fun other call _ =>
        seated.placed other call⟩
      rintro call ⟨⟩
      have placed := seated.placed _ _ found
      rw [stage] at placed
      refine ⟨placed.1, fun inside there => ?_⟩
      cases placed.2.symm.trans there
  | settled found settles =>
      exact ⟨seated.consistent, holds_of_moved (call?_forget _ _) nofun fun other call _ =>
        seated.placed other call⟩
  | abandoned found change =>
      exact ⟨Keeper.consistent_change seated.consistent change,
        holds_of_moved (call?_forget _ _) nofun (others change)⟩

theorem seated_start (window : RefreshWindow) : Seated (start window) :=
  ⟨Keeper.consistent_new window, nofun⟩

end Step

end Steward.Desk
