import Steward.Paging
/-!
# Streams of a paged collection

Any number of streams walk one collection, and each has a cursor of its own.  They share the size of
the pages and the service that is asked for them, and nothing else.  A stream that has what is
demanded of it yields it.  Otherwise it asks for one page, and yields what the answer brings.
-/

set_option autoImplicit false

namespace Steward

namespace Streams

variable {α ε : Type}

structure Stream (α : Type) where
  cursor : Cursor α
  waiting : Bool

inductive Input (α ε : Type) where
  | demand
  | answer (answer : Except ε (Page α))

inductive Reply (α ε : Type) where
  | request (page size : Nat)
  | yielded (result : Except ε α)
  | ended
  | refused

def Reply.of : Option (Except ε α) → Reply α ε
  | some result => .yielded result
  | none => .ended

namespace Stream

def start : Stream α := ⟨.start, false⟩

/-- What the stream does, with the size of the pages it asks for. -/
def step (size : Nat) (stream : Stream α) : Input α ε → Stream α × Reply α ε
  | .demand =>
    if stream.waiting then (stream, .refused)
    else
      match stream.cursor.pull with
      | .ended => (stream, .ended)
      | .item value cursor => (⟨cursor, false⟩, .yielded (.ok value))
      | .fetch page => (⟨stream.cursor, true⟩, .request page size)
  | .answer answer =>
    if stream.waiting then
      let step := stream.cursor.receive stream.cursor.next answer
      (⟨step.cursor, false⟩, .of step.result)
    else (stream, .refused)

end Stream

structure Event (α ε : Type) where
  stream : Nat
  input : Input α ε

end Streams

structure Streams (α : Type) where
  size : Nat
  stream : Nat → Streams.Stream α

namespace Streams

variable {α ε : Type}

def new (requested : Nat) : Streams α := ⟨pageSize requested, fun _ => .start⟩

def put (streams : Streams α) (number : Nat) (stream : Stream α) : Streams α :=
  { streams with stream := fun other => if other = number then stream else streams.stream other }

def step (streams : Streams α) (event : Event α ε) : Streams α × Reply α ε :=
  let (stream, reply) := (streams.stream event.stream).step streams.size event.input
  (streams.put event.stream stream, reply)

end Streams

end Steward
