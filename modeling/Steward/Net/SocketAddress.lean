import Steward.Json.Reader
/-!
# Socket addresses

An address with a port, as `1.2.3.4:80` or `[2001:db8::1]:80`.  In the longer form one run of zero
groups may be left out, and the last two groups may be written like the shorter form.  An address
is shown with its longest run of zero groups left out.
-/

set_option autoImplicit false

namespace Steward.Net

inductive SocketAddress where
  | four (octets : List Nat) (port : Nat)
  | six (groups : List Nat) (scope port : Nat)
  deriving DecidableEq, Repr

namespace SocketAddress

/-! ## Reading -/

def bounded? (bound : Nat) (digits : List Char) : Option Nat :=
  (Json.decimal? digits).filter (· < bound)

/-- An octet has up to three digits and no superfluous zero. -/
def octet? (chars : List Char) : Option (Nat × List Char) :=
  let digits := chars.takeWhile Json.isDigit
  if 3 < digits.length ∨ (digits.head? = some '0' ∧ digits ≠ ['0']) then none
  else (bounded? 256 digits).map fun octet => (octet, chars.drop digits.length)

def octets? : Nat → List Char → Option (List Nat × List Char)
  | 0, _ => none
  | 1, chars => (octet? chars).map fun (octet, rest) => ([octet], rest)
  | count + 2, chars =>
    match octet? chars with
    | some (octet, '.' :: rest) =>
      (octets? (count + 1) rest).map fun (octets, rest) => (octet :: octets, rest)
    | _ => none

/-- A group has up to four hexadecimal digits; more than four end it. -/
def group? (chars : List Char) : Option (Nat × List Char) :=
  match (chars.takeWhile fun c => (Json.hexDigit? c).isSome).take 5 with
  | [] => none
  | digits =>
    if 4 < digits.length then none
    else
      (digits.foldlM (fun number c => do return number * 16 + (← Json.hexDigit? c)) 0).map
        fun number => (number, chars.drop digits.length)

/-- Groups with colons between them, as many as there are up to the limit, and whether the last two
were written as octets. -/
def groups (first : Bool) : Nat → List Char → List Nat × Bool × List Char
  | 0, chars => ([], false, chars)
  | limit + 1, chars =>
    let rest? := if first then some chars else
      match chars with
      | ':' :: rest => some rest
      | _ => none
    match rest? with
    | none => ([], false, chars)
    | some rest =>
      match if 0 < limit then octets? 4 rest else none with
      | some ([a, b, c, d], rest) => ([a * 256 + b, c * 256 + d], true, rest)
      | _ =>
        match group? rest with
        | none => ([], false, chars)
        | some (group, rest) =>
          let (more, octets, rest) := groups false limit rest
          (group :: more, octets, rest)

def address? (chars : List Char) : Option (List Nat × List Char) :=
  match groups true 8 chars with
  | (head, octets, rest) =>
    if head.length = 8 then some (head, rest)
    else if octets then none
    else
      match rest with
      | ':' :: ':' :: rest =>
        let (tail, _, rest) := groups true (7 - head.length) rest
        some (head ++ List.replicate (8 - head.length - tail.length) 0 ++ tail, rest)
      | _ => none

def port? : List Char → Option Nat
  | ':' :: digits => bounded? 65536 digits
  | _ => none

def scope? : List Char → Option (Nat × List Char)
  | '%' :: rest =>
    (bounded? UInt32.size (rest.takeWhile Json.isDigit)).map fun scope =>
      (scope, rest.dropWhile Json.isDigit)
  | chars => some (0, chars)

def ofText? (text : String) : Option SocketAddress :=
  match text.toList with
  | '[' :: rest => do
    let (groups, rest) ← address? rest
    let (scope, rest) ← scope? rest
    match rest with
    | ']' :: rest => return .six groups scope (← port? rest)
    | _ => none
  | chars => do
    let (octets, rest) ← octets? 4 chars
    return .four octets (← port? rest)

/-! ## Showing -/

def dotted (octets : List Nat) : String := String.intercalate "." (octets.map toString)

def hex (group : Nat) : String := String.ofList (Nat.toDigits 16 group)

def colons (groups : List Nat) : String := String.intercalate ":" (groups.map hex)

def zeros (groups : List Nat) : Nat := (groups.takeWhile (· == 0)).length

/-- Where the first of the longest runs of zeros begins, and its length. -/
def longestZeros : Nat → List Nat → Nat × Nat
  | _, [] => (0, 0)
  | start, group :: rest =>
    let later := longestZeros (start + 1) rest
    let here := zeros (group :: rest)
    if later.2 ≤ here then (start, here) else later

def shownGroups (groups : List Nat) : String :=
  match groups with
  | [0, 0, 0, 0, 0, 0xffff, high, low] =>
    "::ffff:" ++ dotted [high / 256, high % 256, low / 256, low % 256]
  | groups =>
    let (start, length) := longestZeros 0 groups
    if 1 < length then colons (groups.take start) ++ "::" ++ colons (groups.drop (start + length))
    else colons groups

def shown : SocketAddress → String
  | .four octets port => dotted octets ++ ":" ++ toString port
  | .six groups scope port =>
    "[" ++ shownGroups groups ++ (if scope = 0 then "" else "%" ++ toString scope) ++ "]:"
      ++ toString port

end SocketAddress

end Steward.Net
