import Steward.Account
import Steward.Notice
import Steward.Paging
import Steward.Session.Desk
/-!
# Walking all transactions

A walk passes all transactions of the account and tells their number.  Each page that it needs is
called for like anything else of the service, so walks are interleaved with all other calls.  The
first page that cannot be had ends the walk.
-/

set_option autoImplicit false

namespace Steward

namespace Syncs

def operation : String := "transactions"

/-- What the operations of the service give. -/
inductive Answer (β : Type) where
  | page (page : Page Transaction)
  | other (value : β)

inductive Stage where
  | walking
  | calling
  | given (result : Except AccountError (Page Transaction))

/-- A walk has passed `count` transactions so far. -/
structure Walk where
  cursor : Cursor Transaction
  count : Nat
  stage : Stage

inductive Event (β : Type) where
  | desk (event : Desk.Event (Answer β))
  | begin (walk : Nat)
  | goOn (walk now : Nat)
  | abandon (walk : Nat)

inductive Reply (β : Type) where
  | desk (reply : Desk.Reply (Answer β))
  | progress
  | call (page : Nat)
  | ended (result : Except AccountError Nat) (notice : Option Notice)
  | abandoned
  | refused

end Syncs

structure Syncs where
  desk : Desk
  walks : List (Nat × Syncs.Walk)

namespace Syncs

variable {β : Type}

def start (window : RefreshWindow) : Syncs := ⟨.start window, []⟩

def walk? (syncs : Syncs) (number : Nat) : Option Walk := syncs.walks.lookup number

def place (syncs : Syncs) (number : Nat) (walk : Walk) : Syncs :=
  { syncs with walks := (number, walk) :: syncs.walks.filter (·.1 != number) }

def forget (syncs : Syncs) (number : Nat) : Syncs :=
  { syncs with walks := syncs.walks.filter (·.1 != number) }

/-- The call of a walk begins and is given up only by the walk itself, and is answered by pages. -/
def isReserved : Desk.Event (Answer β) → Bool
  | .begin .. | .abandon _ | .answered _ (.ok (.other _)) _ => true
  | _ => false

def result? : Desk.Reply (Answer β) → Option (Except AccountError (Page Transaction))
  | .finished _ (.ok (.page page)) _ => some (.ok page)
  | .finished _ (.error error) _ => some (.error error)
  | _ => none

def goOn (syncs : Syncs) (number : Nat) (walk : Walk) (now : Nat) : Syncs × Reply β :=
  match walk.stage with
  | .walking =>
    match walk.cursor.pull with
    | .ended =>
      (syncs.forget number, .ended (.ok walk.count) (some (.transactionsSynced walk.count)))
    | .item _ cursor => (syncs.place number ⟨cursor, walk.count + 1, .walking⟩, .progress)
    | .fetch page =>
      match syncs.desk.step (α := Answer β) (.begin number operation now) with
      | (desk, .obtain) =>
        ({ syncs with desk := desk }.place number ⟨walk.cursor, walk.count, .calling⟩, .call page)
      | _ => (syncs, .refused)
  | .given (.ok page) =>
    (syncs.place number ⟨walk.cursor.supply page, walk.count, .walking⟩, .progress)
  | .given (.error error) => (syncs.forget number, .ended (.error error) none)
  | .calling => (syncs, .refused)

def step (syncs : Syncs) : Event β → Syncs × Reply β
  | .desk event =>
    match syncs.walk? event.number with
    | none => ({ syncs with desk := (syncs.desk.step event).1 }, .desk (syncs.desk.step event).2)
    | some walk =>
      if isReserved event then (syncs, .refused)
      else
        let (desk, reply) := syncs.desk.step event
        let syncs := { syncs with desk := desk }
        match result? reply with
        | some result =>
          (syncs.place event.number ⟨walk.cursor, walk.count, .given result⟩, .desk reply)
        | none => (syncs, .desk reply)
  | .begin number =>
    match syncs.walk? number, syncs.desk.call? number with
    | none, none => (syncs.place number ⟨.start, 0, .walking⟩, .progress)
    | _, _ => (syncs, .refused)
  | .goOn number now =>
    match syncs.walk? number with
    | some walk => syncs.goOn number walk now
    | none => (syncs, .refused)
  | .abandon number =>
    match syncs.walk? number with
    | some _ =>
      ({ syncs with desk := (syncs.desk.step (α := Answer β) (.abandon number)).1 }.forget number,
        .abandoned)
    | none => (syncs, .refused)

end Syncs

end Steward
