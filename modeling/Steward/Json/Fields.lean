import Steward.Json
import Steward.Text.Utf8
/-!
# Reading members of objects

A reader takes what it needs from an object, and tells in words what it missed.
-/

set_option autoImplicit false

namespace Steward.Json

abbrev Read (α : Type) := Except String α

def need {α : Type} (what : String) : Option α → Read α
  | some a => .ok a
  | none => .error what

def field (json : Json) (key : String) : Read Json := need ("missing " ++ key) (json.member? key)

/-- A member that is neither absent nor null. -/
def given? (json : Json) (key : String) : Option Json :=
  match json.member? key with
  | some .null => none
  | other => other

def textOf? (json : Json) (key : String) : Option String := (json.given? key).bind text?

def naturalOf? (json : Json) (key : String) : Option Nat := (json.given? key).bind natural?

def textOf (json : Json) (key : String) : Read String :=
  need ("no text: " ++ key) (json.textOf? key)

def textOr (json : Json) (key default : String) : String := (json.textOf? key).getD default

def natOf (json : Json) (key : String) : Read Nat :=
  need ("no number: " ++ key) (json.naturalOf? key)

def natOr (json : Json) (key : String) (default : Nat) : Nat :=
  (json.naturalOf? key).getD default

def intOr (json : Json) (key : String) (default : Int) : Int :=
  ((json.given? key).bind integer?).getD default

def boolOr (json : Json) (key : String) (default : Bool) : Bool :=
  ((json.given? key).bind boolean?).getD default

def itemsOr (json : Json) (key : String) : List Json :=
  ((json.given? key).bind items?).getD []

def itemsOf (json : Json) (key : String) : Read (List Json) :=
  need ("no list: " ++ key) ((json.given? key).bind items?)

def membersOr (json : Json) (key : String) : List (String × Json) :=
  ((json.given? key).bind members?).getD []

def hexOctets? : List Char → Option Utf8.Octets
  | [] => some []
  | [_] => none
  | high :: low :: rest => do
    return UInt8.ofNat ((← hexDigit? high) * 16 + (← hexDigit? low)) :: (← hexOctets? rest)

def hexOctets (text : String) : Read Utf8.Octets := need "bad octets" (hexOctets? text.toList)

/-- Octets given as text, or in hexadecimal under the same key with an ending. -/
def octets? (json : Json) (key : String) : Read (Option Utf8.Octets) :=
  match json.textOf? key, json.textOf? (key ++ "_hex") with
  | some text, _ => .ok (some (Utf8.encode text))
  | none, some digits => (hexOctets digits).map some
  | none, none => .ok none

end Steward.Json
