/-!
# JSON values

A value keeps its number and string literals as they are written, so that nothing is lost before
someone asks what a literal denotes.  A string literal may denote no text at all: that is so when
an escape names half of a surrogate pair.
-/

set_option autoImplicit false

namespace Steward

/-- Literals stand as they are written, those of strings without the quotes, and so do the keys of
objects, in their order. -/
inductive Json where
  | null
  | boolean (value : Bool)
  | number (literal : String)
  | string (literal : String)
  | array (items : List Json)
  | object (members : List (String × Json))
  deriving Inhabited

namespace Json

/-! ## String literals -/

def hexDigit? (c : Char) : Option Nat :=
  if '0' ≤ c ∧ c ≤ '9' then some (c.toNat - 48)
  else if 'a' ≤ c ∧ c ≤ 'f' then some (c.toNat - 87)
  else if 'A' ≤ c ∧ c ≤ 'F' then some (c.toNat - 55)
  else none

def codeUnit? (a b c d : Char) : Option Nat := do
  let a ← hexDigit? a
  let b ← hexDigit? b
  let c ← hexDigit? c
  let d ← hexDigit? d
  return ((a * 16 + b) * 16 + c) * 16 + d

def shortEscape? : Char → Option Char
  | '"' => some '"'
  | '\\' => some '\\'
  | '/' => some '/'
  | 'b' => some '\x08'
  | 'f' => some '\x0c'
  | 'n' => some '\n'
  | 'r' => some '\r'
  | 't' => some '\t'
  | _ => none

/-- The text that a literal denotes, `none` where a surrogate stands alone. -/
def decodeLiteral : List Char → Option (List Char)
  | [] => some []
  | '\\' :: 'u' :: a :: b :: c :: d :: rest =>
    match codeUnit? a b c d with
    | none => none
    | some unit =>
      if 0xD800 ≤ unit ∧ unit ≤ 0xDBFF then
        match rest with
        | '\\' :: 'u' :: a :: b :: c :: d :: rest =>
          match codeUnit? a b c d with
          | none => none
          | some low =>
            if 0xDC00 ≤ low ∧ low ≤ 0xDFFF then
              (decodeLiteral rest).map
                (Char.ofNat (0x10000 + (unit - 0xD800) * 1024 + (low - 0xDC00)) :: ·)
            else none
        | _ => none
      else if 0xDC00 ≤ unit ∧ unit ≤ 0xDFFF then none
      else (decodeLiteral rest).map (Char.ofNat unit :: ·)
  | '\\' :: c :: rest =>
    match shortEscape? c with
    | none => none
    | some c => (decodeLiteral rest).map (c :: ·)
  | c :: rest => (decodeLiteral rest).map (c :: ·)

def lowHex (n : Nat) : Char := Char.ofNat (if n < 10 then n + 48 else n + 87)

/-- How a character is written inside quotes: only quotes, backslashes and control characters
need an escape. -/
def encodeCharacter (c : Char) : List Char :=
  if c == '"' then ['\\', '"']
  else if c == '\\' then ['\\', '\\']
  else if c == '\x08' then ['\\', 'b']
  else if c == '\x0c' then ['\\', 'f']
  else if c == '\n' then ['\\', 'n']
  else if c == '\r' then ['\\', 'r']
  else if c == '\t' then ['\\', 't']
  else if c.toNat < 32 then
    ['\\', 'u', '0', '0', lowHex (c.toNat / 16), lowHex (c.toNat % 16)]
  else [c]

def encodeLiteral (text : List Char) : List Char := text.flatMap encodeCharacter

def ofText (text : String) : Json := .string (String.ofList (encodeLiteral text.toList))

def ofNat (n : Nat) : Json := .number (toString n)

def ofInt (n : Int) : Json := .number (toString n)

def ofOption {α : Type} (encode : α → Json) : Option α → Json
  | none => .null
  | some a => encode a

def record (members : List (String × Json)) : Json :=
  .object (members.map fun (key, value) =>
    (String.ofList (encodeLiteral key.toList), value))

/-! ## Taking values apart -/

def literalText? (literal : String) : Option String :=
  (decodeLiteral literal.toList).map String.ofList

def text? : Json → Option String
  | .string literal => literalText? literal
  | _ => none

def boolean? : Json → Option Bool
  | .boolean value => some value
  | _ => none

def decimal? (digits : List Char) : Option Nat :=
  if digits.isEmpty || !digits.all (fun c => '0' ≤ c ∧ c ≤ '9') then none
  else some (digits.foldl (fun n c => n * 10 + (c.toNat - 48)) 0)

/-- The integer that a literal without fraction and exponent writes.  Minus zero is no integer. -/
def integer? : Json → Option Int
  | .number literal =>
    match literal.toList with
    | '-' :: digits => do
      let n ← decimal? digits
      if n = 0 then none else some (-(n : Int))
    | digits => (decimal? digits).map Int.ofNat
  | _ => none

def natural? (json : Json) : Option Nat := do
  let n ← json.integer?
  if n < 0 then none else some n.toNat

def word? (json : Json) : Option UInt64 := do
  let n ← json.natural?
  if n < UInt64.size then some (UInt64.ofNat n) else none

def int64? (json : Json) : Option Int64 := do
  let n ← json.integer?
  if Int64.minValue.toInt ≤ n ∧ n ≤ Int64.maxValue.toInt then some (Int64.ofInt n) else none

def items? : Json → Option (List Json)
  | .array items => some items
  | _ => none

def members? : Json → Option (List (String × Json))
  | .object members =>
    members.mapM fun (key, value) => (literalText? key).map (·, value)
  | _ => none

def member? (json : Json) (key : String) : Option Json := do
  let members ← json.members?
  (members.reverse.find? (·.1 == key)).map (·.2)

end Json

end Steward
