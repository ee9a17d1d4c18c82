import Steward.Json
/-!
# Text in TOML

Text stands between single or double quotes, and may go over several lines between triple ones.
Only double quotes know escapes.  No control characters but tabs may stand for themselves, and a
carriage return only before a line feed.
-/

set_option autoImplicit false

namespace Steward.Toml

def isBlank (c : Char) : Bool := c == ' ' || c == '\t'

def isControl (c : Char) : Bool := (c.toNat < 32 && c != '\t') || c.toNat == 127

/-- The character with the number that hexadecimal digits write, surrogates excepted. -/
def character? (digits : List Char) : Option Char := do
  let number ← digits.foldlM (fun number c => do return number * 16 + (← Json.hexDigit? c)) 0
  if number < 0xD800 ∨ (0xDFFF < number ∧ number < 0x110000) then some (Char.ofNat number)
  else none

def shortEscape? : Char → Option Char
  | 'b' => some '\x08'
  | 't' => some '\t'
  | 'n' => some '\n'
  | 'f' => some '\x0c'
  | 'r' => some '\r'
  | 'e' => some '\x1b'
  | '"' => some '"'
  | '\\' => some '\\'
  | _ => none

/-- Puts a character, if there is one, before the text that was read after it. -/
def prepend (first : Option Char) (rest : Option (List Char × List Char)) :
    Option (List Char × List Char) :=
  match first, rest with
  | some c, some (chars, rest) => some (c :: chars, rest)
  | _, _ => none

/-- Text between double quotes, from behind the first quote, and what follows it. -/
def basic : List Char → Option (List Char × List Char)
  | [] => none
  | '"' :: rest => some ([], rest)
  | '\\' :: 'x' :: a :: b :: rest => prepend (character? [a, b]) (basic rest)
  | '\\' :: 'u' :: a :: b :: c :: d :: rest => prepend (character? [a, b, c, d]) (basic rest)
  | '\\' :: 'U' :: a :: b :: c :: d :: e :: f :: g :: h :: rest =>
    prepend (character? [a, b, c, d, e, f, g, h]) (basic rest)
  | '\\' :: c :: rest => prepend (shortEscape? c) (basic rest)
  | c :: rest => if isControl c ∨ c = '\\' then none else prepend (some c) (basic rest)

def plain : List Char → Option (List Char × List Char)
  | [] => none
  | '\'' :: rest => some ([], rest)
  | c :: rest => if isControl c then none else prepend (some c) (plain rest)

def endsLine : List Char → Bool
  | '\n' :: _ => true
  | '\r' :: '\n' :: _ => true
  | c :: rest => isBlank c && endsLine rest
  | [] => false

/-- Text between triple double quotes, from behind the first three.  Up to two quotes may stand
directly before the last three.  After a backslash at the end of a line, blanks and ends of lines
are skipped. -/
def basicLines : Bool → List Char → Option (List Char × List Char)
  | _, [] => none
  | _, '"' :: '"' :: '"' :: '"' :: '"' :: rest => some (['"', '"'], rest)
  | _, '"' :: '"' :: '"' :: '"' :: rest => some (['"'], rest)
  | _, '"' :: '"' :: '"' :: rest => some ([], rest)
  | _, '\\' :: 'x' :: a :: b :: rest => prepend (character? [a, b]) (basicLines false rest)
  | _, '\\' :: 'u' :: a :: b :: c :: d :: rest =>
    prepend (character? [a, b, c, d]) (basicLines false rest)
  | _, '\\' :: 'U' :: a :: b :: c :: d :: e :: f :: g :: h :: rest =>
    prepend (character? [a, b, c, d, e, f, g, h]) (basicLines false rest)
  | _, '\\' :: c :: rest =>
    if endsLine (c :: rest) then basicLines true (c :: rest)
    else prepend (shortEscape? c) (basicLines false rest)
  | skipping, '\r' :: '\n' :: rest =>
    if skipping then basicLines true rest
    else prepend (some '\r') (prepend (some '\n') (basicLines false rest))
  | skipping, c :: rest =>
    if skipping && (isBlank c || c == '\n') then basicLines true rest
    else if (isControl c && c != '\n') || c == '\\' then none
    else prepend (some c) (basicLines false rest)

def plainLines : List Char → Option (List Char × List Char)
  | [] => none
  | '\'' :: '\'' :: '\'' :: '\'' :: '\'' :: rest => some (['\'', '\''], rest)
  | '\'' :: '\'' :: '\'' :: '\'' :: rest => some (['\''], rest)
  | '\'' :: '\'' :: '\'' :: rest => some ([], rest)
  | '\r' :: '\n' :: rest => prepend (some '\r') (prepend (some '\n') (plainLines rest))
  | c :: rest => if isControl c && c != '\n' then none else prepend (some c) (plainLines rest)

def dropFirstLineEnd : List Char → List Char
  | '\n' :: rest => rest
  | '\r' :: '\n' :: rest => rest
  | chars => chars

def isBareKey (c : Char) : Bool :=
  ('a' ≤ c && c ≤ 'z') || ('A' ≤ c && c ≤ 'Z') || ('0' ≤ c && c ≤ '9') || c == '-' || c == '_'

def simpleKey : List Char → Option (String × List Char)
  | '"' :: rest => (basic rest).map fun (chars, rest) => (String.ofList chars, rest)
  | '\'' :: rest => (plain rest).map fun (chars, rest) => (String.ofList chars, rest)
  | chars =>
    match chars.takeWhile isBareKey with
    | [] => none
    | name => some (String.ofList name, chars.dropWhile isBareKey)

/-- The parts of a dotted key, and what follows the blanks behind it.  As much fuel as there are
characters always suffices. -/
def dottedKey : Nat → List Char → Option (List String × List Char)
  | 0, _ => none
  | fuel + 1, chars =>
    match simpleKey (chars.dropWhile isBlank) with
    | none => none
    | some (name, rest) =>
      match rest.dropWhile isBlank with
      | '.' :: rest =>
        match dottedKey fuel rest with
        | none => none
        | some (names, rest) => some (name :: names, rest)
      | rest => some ([name], rest)

end Steward.Toml
