/-!
# Walking a paged collection

A collection is served in numbered pages.  A cursor walks it forward, one item at a time, and
asks for a page only when the items of the page before have been taken.  The walk ends at the
first empty page, at the first failure, or when as many items were taken as the first page said
there are in all.
-/

set_option autoImplicit false

namespace Steward

structure Page (α : Type) where
  items : List α
  total : Option Nat
  deriving Inhabited, DecidableEq

/-- A page size of zero would never make progress and counts as one. -/
def pageSize (requested : Nat) : Nat := max requested 1

structure Cursor (α : Type) where
  next : Nat
  total : Option Nat
  pending : List α
  taken : Nat
  finished : Bool
  deriving Inhabited

namespace Cursor

variable {α : Type}

def start : Cursor α := ⟨0, none, [], 0, false⟩

def totalReached (cursor : Cursor α) : Bool :=
  match cursor.total with
  | none => false
  | some total => total ≤ cursor.taken

inductive Pull (α : Type) where
  | ended
  | item (value : α) (cursor : Cursor α)
  | fetch (page : Nat)

def pull (cursor : Cursor α) : Pull α :=
  if cursor.totalReached then .ended
  else
    match cursor.pending with
    | item :: rest => .item item { cursor with pending := rest, taken := cursor.taken + 1 }
    | [] => if cursor.finished then .ended else .fetch cursor.next

/-- Takes in the page that was asked for; an empty page ends the walk. -/
def supply (cursor : Cursor α) (page : Page α) : Cursor α where
  next := cursor.next + 1
  total := if cursor.next = 0 then page.total else cursor.total
  pending := page.items
  taken := cursor.taken
  finished := page.items.isEmpty

/-- The page could not be had: nothing more is walked after its failure was reported. -/
def fail (cursor : Cursor α) : Cursor α := { cursor with finished := true }

/-! ## Whole walks -/

/-- What one demand comes to: the page that had to be asked for, and an item or a failure unless
the walk is over. -/
structure Step (α ε : Type) where
  result : Option (Except ε α)
  cursor : Cursor α
  fetched : Option Nat

def afterSupply {ε : Type} (cursor : Cursor α) (fetched : Nat) : Step α ε :=
  match cursor.pull with
  | .item value cursor => ⟨some (.ok value), cursor, some fetched⟩
  | _ => ⟨none, cursor, some fetched⟩

def receive {ε : Type} (cursor : Cursor α) (fetched : Nat) : Except ε (Page α) → Step α ε
  | .error error => ⟨some (.error error), cursor.fail, some fetched⟩
  | .ok page => (cursor.supply page).afterSupply fetched

def demand {ε : Type} (fetch : Nat → Except ε (Page α)) (cursor : Cursor α) : Step α ε :=
  match cursor.pull with
  | .ended => ⟨none, cursor, none⟩
  | .item value cursor => ⟨some (.ok value), cursor, none⟩
  | .fetch page => cursor.receive page (fetch page)

structure Walk (α ε : Type) where
  results : List (Except ε α)
  ended : Bool
  fetched : List Nat

def walk {ε : Type} (fetch : Nat → Except ε (Page α)) : Nat → Cursor α → Walk α ε
  | 0, _ => ⟨[], false, []⟩
  | demands + 1, cursor =>
    let step := cursor.demand fetch
    match step.result with
    | none => ⟨[], true, step.fetched.toList⟩
    | some result =>
      let rest := walk fetch demands step.cursor
      { rest with
        results := result :: rest.results
        fetched := step.fetched.toList ++ rest.fetched }

end Cursor

end Steward
