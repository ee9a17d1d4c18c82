import Steward.Json
/-!
# Writing JSON

The compact form has no blanks.  The indented form puts each item and member on a line of its
own, two spaces deeper than what it belongs to; empty arrays and objects stay on one line.
-/

set_option autoImplicit false

namespace Steward.Json

def quotes (literal : String) : List Char := '"' :: literal.toList ++ ['"']

mutual

def compactChars : Json → List Char
  | .null => ['n', 'u', 'l', 'l']
  | .boolean true => ['t', 'r', 'u', 'e']
  | .boolean false => ['f', 'a', 'l', 's', 'e']
  | .number literal => literal.toList
  | .string literal => quotes literal
  | .array items => '[' :: compactItems items ++ [']']
  | .object members => '\x7b' :: compactMembers members ++ ['\x7d']

def compactItems : List Json → List Char
  | [] => []
  | [item] => compactChars item
  | item :: rest => compactChars item ++ ',' :: compactItems rest

def compactMembers : List (String × Json) → List Char
  | [] => []
  | [(key, value)] => quotes key ++ ':' :: compactChars value
  | (key, value) :: rest => quotes key ++ ':' :: compactChars value ++ ',' :: compactMembers rest

end

def compact (json : Json) : String := String.ofList (compactChars json)

def newLine (depth : Nat) : List Char := '\n' :: List.replicate (2 * depth) ' '

mutual

def indentedChars (depth : Nat) : Json → List Char
  | .array (item :: items) =>
    '[' :: indentedItems (depth + 1) (item :: items) ++ newLine depth ++ [']']
  | .object (member :: members) =>
    '\x7b' :: indentedMembers (depth + 1) (member :: members) ++ newLine depth ++ ['\x7d']
  | .null => ['n', 'u', 'l', 'l']
  | .boolean true => ['t', 'r', 'u', 'e']
  | .boolean false => ['f', 'a', 'l', 's', 'e']
  | .number literal => literal.toList
  | .string literal => quotes literal
  | .array [] => ['[', ']']
  | .object [] => ['\x7b', '\x7d']

def indentedItems (depth : Nat) : List Json → List Char
  | [] => []
  | [item] => newLine depth ++ indentedChars depth item
  | item :: rest => newLine depth ++ indentedChars depth item ++ ',' :: indentedItems depth rest

def indentedMembers (depth : Nat) : List (String × Json) → List Char
  | [] => []
  | [(key, value)] => newLine depth ++ quotes key ++ ':' :: ' ' :: indentedChars depth value
  | (key, value) :: rest =>
    newLine depth ++ quotes key ++ ':' :: ' ' :: indentedChars depth value
      ++ ',' :: indentedMembers depth rest

end

def indented (json : Json) : String := String.ofList (indentedChars 0 json)

end Steward.Json
