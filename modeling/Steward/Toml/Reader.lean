import Steward.Toml.Literal
import Steward.Toml.Text
/-!
# Reading TOML

A document is a sequence of lines.  A line holds a header, or a key with a value, or neither, and
may end in a comment.  Values between brackets and braces may go over several lines, with comments
among them, and may end in a comma.
-/

set_option autoImplicit false

namespace Steward.Toml

def deepest : Nat := 80

/-- Drops a comment, if one begins here, up to the end of the line.  A control character in it is
left, and will be refused there. -/
def skipComment : List Char → List Char
  | '#' :: rest => rest.dropWhile fun c => !isControl c
  | chars => chars

def skipLines : Nat → List Char → List Char
  | 0, chars => chars
  | fuel + 1, chars =>
    match skipComment (chars.dropWhile isBlank) with
    | '\n' :: rest => skipLines fuel rest
    | '\r' :: '\n' :: rest => skipLines fuel rest
    | rest => rest

def skip (chars : List Char) : List Char := skipLines (chars.length + 1) chars

def lineEnd (chars : List Char) : Option (List Char) :=
  match skipComment (chars.dropWhile isBlank) with
  | [] => some []
  | '\n' :: rest => some rest
  | '\r' :: '\n' :: rest => some rest
  | _ => none

def isWordCharacter (c : Char) : Bool := isBareKey c || c == '+' || c == '.' || c == ':'

/-- A word that is no text, and what follows it.  A date and a time may be parted by a blank. -/
def word (chars : List Char) : List Char × List Char :=
  let first := chars.takeWhile isWordCharacter
  match date? first, chars.dropWhile isWordCharacter with
  | some [], ' ' :: c :: rest =>
    if Json.isDigit c then
      (first ++ ' ' :: (c :: rest).takeWhile isWordCharacter,
        (c :: rest).dropWhile isWordCharacter)
    else (first, ' ' :: c :: rest)
  | _, rest => (first, rest)

def textValue (read : List Char × List Char) : Toml × List Char :=
  (.text (String.ofList read.1), read.2)

mutual

/-- One value and what follows it.  The fuel bounds the number of nested and successive values;
as many units as there are characters always suffice. -/
def readValue : Nat → Nat → List Char → Option (Toml × List Char)
  | 0, _, _ => none
  | fuel + 1, depth, chars =>
    match chars with
    | '"' :: '"' :: '"' :: rest =>
      (basicLines false (dropFirstLineEnd rest)).map textValue
    | '"' :: rest => (basic rest).map textValue
    | '\'' :: '\'' :: '\'' :: rest =>
      (plainLines (dropFirstLineEnd rest)).map textValue
    | '\'' :: rest => (plain rest).map textValue
    | '[' :: rest =>
      if deepest ≤ depth then none
      else
        match readItems fuel (depth + 1) (skip rest) with
        | none => none
        | some (items, rest) => some (.array items, rest)
    | '\x7b' :: rest =>
      if deepest ≤ depth then none
      else
        match readMembers fuel (depth + 1) [] (skip rest) with
        | none => none
        | some (members, rest) => some (.table (Entry.closeMembers members), rest)
    | chars =>
      let (word, rest) := word chars
      (ofWord? word).map fun value => (value, rest)

def readItems : Nat → Nat → List Char → Option (List Toml × List Char)
  | 0, _, _ => none
  | fuel + 1, depth, chars =>
    match chars with
    | ']' :: rest => some ([], rest)
    | chars =>
      match readValue fuel depth chars with
      | none => none
      | some (item, rest) =>
        match skip rest with
        | ']' :: rest => some ([item], rest)
        | ',' :: rest =>
          match readItems fuel depth (skip rest) with
          | none => none
          | some (items, rest) => some (item :: items, rest)
        | _ => none

def readMembers : Nat → Nat → Entry.Members → List Char → Option (Entry.Members × List Char)
  | 0, _, _, _ => none
  | fuel + 1, depth, members, chars =>
    match chars with
    | '\x7d' :: rest => some (members, rest)
    | chars =>
      match dottedKey (chars.length + 1) chars with
      | some (key, '=' :: rest) =>
        match readValue fuel depth (rest.dropWhile isBlank) with
        | none => none
        | some (value, rest) =>
          match Entry.assign value key true members with
          | none => none
          | some members =>
            match skip rest with
            | '\x7d' :: rest => some (members, rest)
            | ',' :: rest => readMembers fuel depth members (skip rest)
            | _ => none
      | _ => none

end

/-! ## Documents -/

/-- What has been read of a document. -/
structure Draft where
  members : Entry.Members
  header : List String

namespace Draft

def table (draft : Draft) (path : List String) : Option Draft :=
  match path.getLast? with
  | none => none
  | some key =>
    (Entry.within (Entry.define key) path.dropLast draft.members).map fun members => ⟨members, path⟩

def element (draft : Draft) (path : List String) : Option Draft :=
  match path.getLast? with
  | none => none
  | some key =>
    (Entry.within (Entry.append key) path.dropLast draft.members).map fun members => ⟨members, path⟩

def member (draft : Draft) (key : List String) (value : Toml) : Option Draft :=
  (Entry.within (Entry.assign value key true) draft.header draft.members).map fun members =>
    { draft with members := members }

def readLine (draft : Draft) (chars : List Char) : Option (Draft × List Char) :=
  let fuel := chars.length + 1
  match chars.dropWhile isBlank with
  | '[' :: '[' :: rest =>
    match dottedKey fuel rest with
    | some (path, ']' :: ']' :: rest) => do return (← draft.element path, ← lineEnd rest)
    | _ => none
  | '[' :: rest =>
    match dottedKey fuel rest with
    | some (path, ']' :: rest) => do return (← draft.table path, ← lineEnd rest)
    | _ => none
  | chars =>
    match lineEnd chars with
    | some rest => some (draft, rest)
    | none =>
      match dottedKey fuel chars with
      | some (key, '=' :: rest) =>
        match readValue fuel 0 (rest.dropWhile isBlank) with
        | none => none
        | some (value, rest) => do return (← draft.member key value, ← lineEnd rest)
      | _ => none

/-- Takes in line after line.  There are no more lines than characters. -/
def readLines : Nat → Draft → List Char → Option Draft
  | _, draft, [] => some draft
  | 0, _, _ :: _ => none
  | fuel + 1, draft, chars =>
    match draft.readLine chars with
    | none => none
    | some (draft, rest) => readLines fuel draft rest

end Draft

/-- The table that a document writes.  A byte order mark at its very beginning is dropped. -/
def parse? (text : String) : Option Toml :=
  let chars := match text.toList with
    | '\uFEFF' :: rest => rest
    | chars => chars
  (Draft.readLines (chars.length + 1) ⟨[], []⟩ chars).map fun draft =>
    .table (Entry.closeMembers draft.members)

end Steward.Toml
