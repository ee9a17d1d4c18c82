import Steward.Cache
/-!
# Running many routines on one clock

An engine runs fibers, one at a time, on a clock that moves only when none of them can go on.  A
fiber is a stack of routines, the innermost first: a routine that calls another one is polled
again with the answer.  Fibers that can go on wait in one line; spawning and waking put a fiber at
its end.  An alarm wakes its fiber when its moment has come, and alarms for the same moment go off
in the order in which they were set.

A fiber that crashes or is aborted drops its routines, innermost first, and each may tidy up.
-/

set_option autoImplicit false

namespace Steward.Simulation

/-- A fiber that is pending waits until it is woken, by an alarm or by someone else; after a call
the answer of `callee` goes to `routine`. -/
inductive Move (R A : Type) where
  | pending (routine : R) (alarm : Option Nat)
  | go (routine : R)
  | call (routine callee : R)
  | answer (value : A)
  | crash

structure Alarm where
  moment : Nat
  turn : Nat

structure Fiber (R : Type) where
  id : Nat
  stack : List R
  queued : Bool
  aborted : Bool
  alarm : Option Alarm

structure Engine (S R : Type) where
  now : Nat
  world : S
  fibers : List (Fiber R)
  ready : List Nat
  fresh : Nat
  alarms : Nat

inductive Drop where
  | crashed
  | aborted
  deriving DecidableEq

abbrev Act (S R : Type) := StateM (Engine S R)

/-- What routines do: `poll` is given the answer of the routine that was called last, if it has
just come. -/
structure Behaviour (S R A : Type) where
  poll : Nat → R → Option A → Act S R (Move R A)
  tidy : Nat → R → Drop → Act S R Unit

namespace Engine

variable {S R A : Type}

def start (world : S) : Engine S R := ⟨0, world, [], [], 0, 0⟩

def fiber? (engine : Engine S R) (id : Nat) : Option (Fiber R) :=
  engine.fibers.find? (·.id == id)

def put (engine : Engine S R) (fiber : Fiber R) : Engine S R :=
  { engine with
    fibers := engine.fibers.map fun other => if other.id == fiber.id then fiber else other }

def remove (engine : Engine S R) (id : Nat) : Engine S R :=
  { engine with fibers := engine.fibers.filter (·.id != id) }

def wake (engine : Engine S R) (id : Nat) : Engine S R :=
  match engine.fiber? id with
  | none => engine
  | some fiber =>
    if fiber.queued then engine
    else { engine.put { fiber with queued := true } with ready := engine.ready ++ [id] }

def spawn (engine : Engine S R) (stack : List R) : Engine S R :=
  { engine with
    fibers := engine.fibers ++ [⟨engine.fresh, stack, true, false, none⟩]
    ready := engine.ready ++ [engine.fresh]
    fresh := engine.fresh + 1 }

def abort (engine : Engine S R) (id : Nat) : Engine S R :=
  match engine.fiber? id with
  | none => engine
  | some fiber => (engine.put { fiber with aborted := true }).wake id

/-- Sets the alarm of a fiber.  One that is set for the same moment already keeps its turn. -/
def setAlarm (engine : Engine S R) (fiber : Fiber R) (moment : Option Nat) :
    Engine S R × Option Alarm :=
  match moment with
  | none => (engine, none)
  | some moment =>
    match fiber.alarm with
    | some alarm =>
      if alarm.moment = moment then (engine, some alarm)
      else ({ engine with alarms := engine.alarms + 1 }, some ⟨moment, engine.alarms⟩)
    | none => ({ engine with alarms := engine.alarms + 1 }, some ⟨moment, engine.alarms⟩)

def suspend (engine : Engine S R) (id : Nat) (stack : List R) (moment : Option Nat) :
    Engine S R :=
  match engine.fiber? id with
  | none => engine
  | some fiber =>
    let (engine, alarm) := engine.setAlarm fiber moment
    engine.put { fiber with stack := stack, alarm := alarm }

def unwind (behaviour : Behaviour S R A) (id : Nat) (why : Drop) :
    List R → Engine S R → Engine S R
  | [], engine => engine.remove id
  | routine :: rest, engine =>
    unwind behaviour id why rest ((behaviour.tidy id routine why).run engine).2

def proceed (behaviour : Behaviour S R A) (id : Nat) :
    Nat → List R → Option A → Engine S R → Engine S R
  | 0, _, _, engine => engine
  | _, [], _, engine => engine.remove id
  | fuel + 1, routine :: rest, answer, engine =>
    let (move, engine) := (behaviour.poll id routine answer).run engine
    match move with
    | .pending routine alarm => engine.suspend id (routine :: rest) alarm
    | .go routine => proceed behaviour id fuel (routine :: rest) none engine
    | .call routine callee => proceed behaviour id fuel (callee :: routine :: rest) none engine
    | .answer value => proceed behaviour id fuel rest (some value) engine
    | .crash => unwind behaviour id .crashed (routine :: rest) engine

def turn (behaviour : Behaviour S R A) (fuel : Nat) (engine : Engine S R) : Engine S R :=
  match engine.ready with
  | [] => engine
  | id :: ready =>
    let engine := { engine with ready := ready }
    match engine.fiber? id with
    | none => engine
    | some fiber =>
      let engine := engine.put { fiber with queued := false }
      if fiber.aborted then engine.unwind behaviour id .aborted fiber.stack
      else engine.proceed behaviour id fuel fiber.stack none

def settle (behaviour : Behaviour S R A) : Nat → Engine S R → Engine S R
  | 0, engine => engine
  | fuel + 1, engine =>
    if engine.ready.isEmpty then engine
    else settle behaviour fuel (engine.turn behaviour fuel)

def nextAlarm (engine : Engine S R) : Option Nat :=
  engine.fibers.foldl (fun first fiber =>
    match first, fiber.alarm with
    | none, alarm => alarm.map (·.moment)
    | first, none => first
    | some first, some alarm => some (min first alarm.moment)) none

def due (engine : Engine S R) : List Nat :=
  let alarms := engine.fibers.filterMap fun fiber =>
    match fiber.alarm with
    | some alarm => if alarm.moment ≤ engine.now then some (alarm, fiber.id) else none
    | none => none
  (alarms.mergeSort fun a b =>
    a.1.moment < b.1.moment || (a.1.moment == b.1.moment && a.1.turn ≤ b.1.turn)).map (·.2)

def strike (engine : Engine S R) (moment : Nat) : Engine S R :=
  let engine := { engine with now := moment }
  engine.due.foldl (fun engine id =>
    match engine.fiber? id with
    | none => engine
    | some fiber => (engine.put { fiber with alarm := none }).wake id) engine

/-- Runs everything up to `until`, and everything that can go on at that moment. -/
def advance (behaviour : Behaviour S R A) (limit : Nat) : Nat → Engine S R → Engine S R
  | 0, engine => engine
  | fuel + 1, engine =>
    let engine := engine.settle behaviour fuel
    match engine.nextAlarm with
    | some moment =>
      if moment ≤ limit then advance behaviour limit fuel (engine.strike moment)
      else { engine with now := limit }
    | none => { engine with now := limit }

/-- Runs until the fiber `id` has ended.  If it has not when the clock comes to `limit`, it is
aborted. -/
def await (behaviour : Behaviour S R A) (id : Nat) (limit : Nat) :
    Nat → Engine S R → Engine S R
  | 0, engine => engine
  | fuel + 1, engine =>
    let engine := engine.settle behaviour fuel
    if (engine.fiber? id).isNone then engine
    else
      match engine.nextAlarm with
      | some moment =>
        if moment < limit then await behaviour id limit fuel (engine.strike moment)
        else ((engine.strike limit).abort id).settle behaviour fuel
      | none => ((engine.strike limit).abort id).settle behaviour fuel

end Engine

section Actions

variable {S R : Type}

def clock : Act S R Nat := return (← get).now

def world : Act S R S := return (← get).world

def setWorld (world : S) : Act S R Unit := modify fun engine => { engine with world := world }

def wake (id : Nat) : Act S R Unit := modify (·.wake id)

def abort (id : Nat) : Act S R Unit := modify (·.abort id)

def spawn (stack : List R) : Act S R Nat := do
  let id := (← get).fresh
  modify (·.spawn stack)
  return id

end Actions

end Steward.Simulation
