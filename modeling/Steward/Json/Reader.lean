import Steward.Json
import Steward.Text.Utf8
/-!
# Reading JSON

A text holds one value, with blanks around it and around each mark of punctuation.  Control
characters inside quotes, trailing commas, leading zeros and anything after the value are refused.
-/

set_option autoImplicit false

namespace Steward.Json

def isSpace (c : Char) : Bool := c == ' ' || c == '\n' || c == '\t' || c == '\r'

def skipSpace (chars : List Char) : List Char := chars.dropWhile isSpace

def isDigit (c : Char) : Bool := '0' ≤ c && c ≤ '9'

def readString : List Char → Option (List Char × List Char)
  | '"' :: rest => some ([], rest)
  | '\\' :: 'u' :: a :: b :: c :: d :: rest =>
    match codeUnit? a b c d with
    | none => none
    | some _ =>
      match readString rest with
      | none => none
      | some (literal, rest) => some ('\\' :: 'u' :: a :: b :: c :: d :: literal, rest)
  | '\\' :: c :: rest =>
    match shortEscape? c with
    | none => none
    | some _ =>
      match readString rest with
      | none => none
      | some (literal, rest) => some ('\\' :: c :: literal, rest)
  | c :: rest =>
    if c.toNat < 32 ∨ c = '\\' then none
    else
      match readString rest with
      | none => none
      | some (literal, rest) => some (c :: literal, rest)
  | [] => none

/-- Digits, at least one of them. -/
def readDigits (chars : List Char) : Option (List Char × List Char) :=
  match chars.takeWhile isDigit with
  | [] => none
  | digits => some (digits, chars.dropWhile isDigit)

/-- The digits before the point: zero alone, or digits that do not begin with zero. -/
def readWhole : List Char → Option (List Char × List Char)
  | '0' :: rest => some (['0'], rest)
  | chars => readDigits chars

def readFraction : List Char → Option (List Char × List Char)
  | '.' :: rest => (readDigits rest).map fun (digits, rest) => ('.' :: digits, rest)
  | chars => some ([], chars)

def readSign : List Char → List Char × List Char
  | '+' :: rest => (['+'], rest)
  | '-' :: rest => (['-'], rest)
  | chars => ([], chars)

def readExponent : List Char → Option (List Char × List Char)
  | c :: rest =>
    if c = 'e' ∨ c = 'E' then
      let (sign, rest) := readSign rest
      (readDigits rest).map fun (digits, rest) => (c :: sign ++ digits, rest)
    else some ([], c :: rest)
  | [] => some ([], [])

def readMagnitude (chars : List Char) : Option (List Char × List Char) := do
  let (whole, rest) ← readWhole chars
  let (fraction, rest) ← readFraction rest
  let (exponent, rest) ← readExponent rest
  return (whole ++ fraction ++ exponent, rest)

def readNumber : List Char → Option (List Char × List Char)
  | '-' :: rest => (readMagnitude rest).map fun (literal, rest) => ('-' :: literal, rest)
  | chars => readMagnitude chars

mutual

/-- One value and what follows it.  The fuel bounds the number of nested and successive values;
as many units as there are characters always suffice. -/
def readValue : Nat → List Char → Option (Json × List Char)
  | 0, _ => none
  | fuel + 1, chars =>
    match skipSpace chars with
    | '\x7b' :: rest =>
      match skipSpace rest with
      | '\x7d' :: rest => some (.object [], rest)
      | rest =>
        match readMembers fuel rest with
        | none => none
        | some (members, rest) => some (.object members, rest)
    | '[' :: rest =>
      match skipSpace rest with
      | ']' :: rest => some (.array [], rest)
      | rest =>
        match readItems fuel rest with
        | none => none
        | some (items, rest) => some (.array items, rest)
    | '"' :: rest =>
      match readString rest with
      | none => none
      | some (literal, rest) => some (.string (String.ofList literal), rest)
    | 't' :: 'r' :: 'u' :: 'e' :: rest => some (.boolean true, rest)
    | 'f' :: 'a' :: 'l' :: 's' :: 'e' :: rest => some (.boolean false, rest)
    | 'n' :: 'u' :: 'l' :: 'l' :: rest => some (.null, rest)
    | chars =>
      match readNumber chars with
      | none => none
      | some (literal, rest) => some (.number (String.ofList literal), rest)

def readItems : Nat → List Char → Option (List Json × List Char)
  | 0, _ => none
  | fuel + 1, chars =>
    match readValue fuel chars with
    | none => none
    | some (item, rest) =>
      match skipSpace rest with
      | ']' :: rest => some ([item], rest)
      | ',' :: rest =>
        match readItems fuel rest with
        | none => none
        | some (items, rest) => some (item :: items, rest)
      | _ => none

def readMembers : Nat → List Char → Option (List (String × Json) × List Char)
  | 0, _ => none
  | fuel + 1, chars =>
    match skipSpace chars with
    | '"' :: rest =>
      match readString rest with
      | none => none
      | some (key, rest) =>
        match skipSpace rest with
        | ':' :: rest =>
          match readValue fuel rest with
          | none => none
          | some (value, rest) =>
            match skipSpace rest with
            | '\x7d' :: rest => some ([(String.ofList key, value)], rest)
            | ',' :: rest =>
              match readMembers fuel rest with
              | none => none
              | some (members, rest) => some ((String.ofList key, value) :: members, rest)
            | _ => none
        | _ => none
    | _ => none

end

def parse? (text : String) : Option Json :=
  let chars := text.toList
  match readValue (chars.length + 1) chars with
  | none => none
  | some (json, rest) => if (skipSpace rest).isEmpty then some json else none

/-- Half of a pair of escapes, which writes no character. -/
def halfEscape : List Char := "\\ud800".toList

/-- The value that octets hold.  What is no character may stand in a string, which is then no text,
but nowhere else: it is read like half of a pair of escapes. -/
def ofOctets? (octets : Utf8.Octets) : Option Json :=
  parse? (String.ofList ((Utf8.pieces octets).flatMap fun piece =>
    match piece with
    | some c => [c]
    | none => halfEscape))

end Steward.Json
