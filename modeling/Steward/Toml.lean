import Steward.Record
/-!
# TOML values

A document is a table.  While it is read, each of its tables remembers how it came about, because
that decides what may still be added to it: a table that only stands on the way to another one may
be defined once, a table made by a dotted key grows by dotted keys only, and a table written
between braces does not grow at all.
-/

set_option autoImplicit false

namespace Steward

inductive Toml where
  | text (value : String)
  | integer (value : Int)
  | float
  | boolean (value : Bool)
  | dateTime
  | array (items : List Toml)
  | table (members : List (String × Toml))
  deriving Inhabited

namespace Toml

def text? : Toml → Option String
  | .text value => some value
  | _ => none

def boolean? : Toml → Option Bool
  | .boolean value => some value
  | _ => none

def below? (bound : Nat) : Toml → Option Nat
  | .integer value => if 0 ≤ value ∧ value < bound then some value.toNat else none
  | _ => none

def word? : Toml → Option Nat := below? UInt64.size

def halfWord? : Toml → Option Nat := below? UInt32.size

/-- A date stands for a record that has none of the fields that are looked for. -/
instance : Document Toml where
  named?
    | .table members => some members
    | .dateTime => some []
    | _ => none
  positional?
    | .array items => some items
    | _ => none

/-! ## Tables that grow -/

/-- How a table came about: on the way to a table with a header, with a header of its own, or by a
dotted key. -/
inductive Origin where
  | passed
  | header
  | dotted
  deriving DecidableEq, Repr

inductive Entry where
  | value (value : Toml)
  | table (origin : Origin) (members : List (String × Entry))
  | tables (tables : List (List (String × Entry)))
  deriving Inhabited

namespace Entry

abbrev Members := List (String × Entry)

def set (members : Members) (key : String) (entry : Entry) : Members :=
  if members.any (·.1 == key) then
    members.map fun (other, old) => (other, if other == key then entry else old)
  else members ++ [(key, entry)]

def within (change : Members → Option Members) : List String → Members → Option Members
  | [], members => change members
  | key :: rest, members =>
    match members.lookup key with
    | none => (within change rest []).map fun inner => set members key (.table .passed inner)
    | some (.table origin inner) =>
      (within change rest inner).map fun inner => set members key (.table origin inner)
    | some (.tables (latest :: earlier)) =>
      (within change rest latest).map fun latest => set members key (.tables (latest :: earlier))
    | some _ => none

def define (key : String) (members : Members) : Option Members :=
  match members.lookup key with
  | none => some (set members key (.table .header []))
  | some (.table .passed inner) => some (set members key (.table .header inner))
  | some _ => none

def append (key : String) (members : Members) : Option Members :=
  match members.lookup key with
  | none => some (set members key (.tables [[]]))
  | some (.tables elements) => some (set members key (.tables ([] :: elements)))
  | some _ => none

/-- Puts a value under a dotted key.  `extensible` tells whether keys may be added to the table
that has been reached. -/
def assign (value : Toml) : List String → Bool → Members → Option Members
  | [], _, _ => none
  | [key], extensible, members =>
    if extensible && !members.any (·.1 == key) then some (set members key (.value value)) else none
  | key :: rest, _, members =>
    match members.lookup key with
    | none => (assign value rest true []).map fun inner => set members key (.table .dotted inner)
    | some (.table .dotted inner) =>
      (assign value rest true inner).map fun inner => set members key (.table .dotted inner)
    | some (.table .passed inner) =>
      (assign value rest false inner).map fun inner => set members key (.table .passed inner)
    | some _ => none

mutual

def close : Entry → Toml
  | .value closed => closed
  | .table _ members => .table (closeMembers members)
  | .tables elements => .array (closeTables elements).reverse

def closeMembers : List (String × Entry) → List (String × Toml)
  | [] => []
  | (key, entry) :: rest => (key, close entry) :: closeMembers rest

def closeTables : List (List (String × Entry)) → List Toml
  | [] => []
  | members :: rest => .table (closeMembers members) :: closeTables rest

end

end Entry

end Toml

end Steward
