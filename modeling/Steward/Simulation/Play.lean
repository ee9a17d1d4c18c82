import Steward.Simulation.Scene
/-!
# Plays

A play goes through its turns from outside: time passes, calls are begun, waited for or dropped.
A call that is waited for in vain is given up.
-/

set_option autoImplicit false

namespace Steward.Simulation

structure Play where
  scene : Scene
  calls : List Nat

inductive Turn where
  | sleep (length : Nat)
  /-- A call is begun in the background. -/
  | begin (routine : Routine)
  /-- The background call of that place is waited for. -/
  | join (place : Nat)
  | abort (place : Nat)
  /-- A call is made and waited for. -/
  | call (routine : Routine)

inductive TurnEnd where
  | passed
  | begun (place : Nat)
  | answered (answer : Answer)
  | crashed
  | givenUp
  | aborted (unanswered : Bool)
  | noCall

namespace Play

def start (world : World) : Play := ⟨.start world, []⟩

def endOf (scene : Scene) (call : Nat) : TurnEnd :=
  match scene.ended? call with
  | some (.answered answer) => .answered answer
  | some .crashed => .crashed
  | _ => .givenUp

def take (play : Play) : Turn → TurnEnd × Play
  | .sleep length => (.passed, { play with scene := play.scene.sleep length })
  | .begin routine =>
    let (call, scene) := play.scene.call routine
    (.begun play.calls.length, ⟨scene, play.calls ++ [call]⟩)
  | .join place =>
    match play.calls[place]? with
    | none => (.noCall, play)
    | some call =>
      let scene := play.scene.join call
      (endOf scene call, { play with scene := scene })
  | .abort place =>
    match play.calls[place]? with
    | none => (.noCall, play)
    | some call =>
      let answered := (play.scene.ended? call).any fun
        | .answered _ => true
        | _ => false
      (.aborted (!answered), { play with scene := play.scene.abort call })
  | .call routine =>
    let (call, scene) := play.scene.call routine
    let scene := scene.join call
    (endOf scene call, { play with scene := scene })

/-- Does something in between, and tells what came of it. -/
def act {α β : Type} (play : Play) (run : Run α) (tell : α → β) : β × Play :=
  let (value, scene) := play.scene.act run
  (tell value, { play with scene := scene })

end Play

end Steward.Simulation
