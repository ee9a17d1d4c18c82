import Steward.Json
/-!
# Records in documents

A document writes a record either by the names of its fields, in any order and with other names
among them, or by position, in the order in which the fields are declared.  A field that is
written twice is refused, and so is a position beyond the last field.  What an absent field means
is for the record to say.
-/

set_option autoImplicit false

namespace Steward

/-- Values of a document format that may write a record. -/
class Document (V : Type) where
  named? : V → Option (List (String × V))
  positional? : V → Option (List V)

instance : Document Json where
  named? := Json.members?
  positional? := Json.items?

namespace Record

variable {V : Type}

/-- The values written for `fields`, `none` for an absent one. -/
def fieldsByName (fields : List String) (members : List (String × V)) :
    Option (List (Option V)) :=
  fields.mapM fun field =>
    match members.filter (·.1 == field) with
    | [] => some none
    | [(_, value)] => some (some value)
    | _ => none

def fieldsByPosition (fields : List String) (values : List V) : Option (List (Option V)) :=
  if fields.length < values.length then none
  else some (values.map some ++ List.replicate (fields.length - values.length) none)

def fields? [Document V] (fields : List String) (document : V) : Option (List (Option V)) :=
  match Document.named? document with
  | some members => fieldsByName fields members
  | none => (Document.positional? document).bind (fieldsByPosition fields)

def required {α : Type} (read : V → Option α) (field : Option V) : Option α := field.bind read

def defaulted {α : Type} (default : α) (read : V → Option α) : Option V → Option α
  | none => some default
  | some value => read value

def optional {α : Type} (read : V → Option α) : Option V → Option (Option α)
  | none => some none
  | some value => (read value).map some

end Record

end Steward
