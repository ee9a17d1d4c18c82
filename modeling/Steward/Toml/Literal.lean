import Steward.Json.Reader
import Steward.Toml
/-!
# Numbers and dates in TOML

Digits may be grouped by single underscores between them.  Decimal integers have no superfluous
leading zero.  Dates and times are checked against the calendar and the clock; seconds may be left
out.
-/

set_option autoImplicit false

namespace Steward.Toml

def digitIn? (base : Nat) (c : Char) : Option Nat :=
  (Json.hexDigit? c).filter (· < base)

/-- The value of grouped digits.  `before` is what came so far, unless a digit has to come. -/
def grouped? (base : Nat) : Option Nat → Nat → List Char → Option Nat
  | some value, _, [] => some value
  | none, _, [] => none
  | some value, _, '_' :: rest => grouped? base none value rest
  | none, _, '_' :: _ => none
  | _, value, c :: rest =>
    match digitIn? base c with
    | none => none
    | some digit => grouped? base (some (value * base + digit)) (value * base + digit) rest

def digits? (base : Nat) (chars : List Char) : Option Nat := grouped? base none 0 chars

def decimal? : List Char → Option Nat
  | ['0'] => some 0
  | '0' :: _ => none
  | chars => digits? 10 chars

def signOf : List Char → Int × List Char
  | '+' :: rest => (1, rest)
  | '-' :: rest => (-1, rest)
  | chars => (1, chars)

def integer? (chars : List Char) : Option Int :=
  match chars with
  | '0' :: 'x' :: rest => (digits? 16 rest).map Int.ofNat
  | '0' :: 'o' :: rest => (digits? 8 rest).map Int.ofNat
  | '0' :: 'b' :: rest => (digits? 2 rest).map Int.ofNat
  | chars =>
    let (sign, rest) := signOf chars
    (decimal? rest).map fun value => sign * value

/-- The numbers of at most 128 bits: from `least` on, with a sign, and up to `greatest` without. -/
def least : Int := -170141183460469231731687303715884105728

def greatest : Int := 340282366920938463463374607431768211455

def boundedInteger? (chars : List Char) : Option Int :=
  (integer? chars).filter fun value => least ≤ value && value ≤ greatest

def isExponent (chars : List Char) : Bool := (digits? 10 (signOf chars).2).isSome

def isFraction (chars : List Char) : Bool :=
  let isMark := fun c => c == 'e' || c == 'E'
  let fraction := chars.takeWhile fun c => !isMark c
  (digits? 10 fraction).isSome &&
    match chars.dropWhile fun c => !isMark c with
    | [] => true
    | _ :: exponent => isExponent exponent

def isFloat (chars : List Char) : Bool :=
  let magnitude := (signOf chars).2
  if magnitude = ['i', 'n', 'f'] || magnitude = ['n', 'a', 'n'] then true
  else
    let isMark := fun c => c == '.' || c == 'e' || c == 'E'
    (decimal? (magnitude.takeWhile fun c => !isMark c)).isSome &&
      match magnitude.dropWhile fun c => !isMark c with
      | [] => false
      | '.' :: rest => isFraction rest
      | _ :: exponent => isExponent exponent

/-! ## Dates and times -/

/-- The number that exactly so many digits write, and what follows. -/
def fixed? : Nat → Nat → List Char → Option (Nat × List Char)
  | 0, value, chars => some (value, chars)
  | count + 1, value, c :: rest =>
    match digitIn? 10 c with
    | none => none
    | some digit => fixed? count (value * 10 + digit) rest
  | _ + 1, _, [] => none

def isLeapYear (year : Nat) : Bool := year % 4 == 0 && (year % 100 != 0 || year % 400 == 0)

def daysIn (year month : Nat) : Nat :=
  match month with
  | 1 | 3 | 5 | 7 | 8 | 10 | 12 => 31
  | 4 | 6 | 9 | 11 => 30
  | 2 => if isLeapYear year then 29 else 28
  | _ => 0

def date? (chars : List Char) : Option (List Char) :=
  match fixed? 4 0 chars with
  | some (year, '-' :: rest) =>
    match fixed? 2 0 rest with
    | some (month, '-' :: rest) =>
      match fixed? 2 0 rest with
      | some (day, rest) => if 1 ≤ day ∧ day ≤ daysIn year month then some rest else none
      | none => none
    | _ => none
  | _ => none

def time? (chars : List Char) : Option (List Char) :=
  match fixed? 2 0 chars with
  | some (hour, ':' :: rest) =>
    match fixed? 2 0 rest with
    | some (minute, rest) =>
      if 23 < hour ∨ 59 < minute then none
      else
        match rest with
        | ':' :: rest =>
          match fixed? 2 0 rest with
          | some (second, rest) =>
            if 60 < second then none
            else
              match rest with
              | '.' :: rest =>
                if (rest.takeWhile Json.isDigit).isEmpty then none
                else some (rest.dropWhile Json.isDigit)
              | rest => some rest
          | none => none
        | rest => some rest
    | none => none
  | _ => none

/-- Whether what follows a time of day is a distance from universal time, or nothing. -/
def isOffset : List Char → Bool
  | [] => true
  | ['Z'] => true
  | ['z'] => true
  | c :: rest =>
    (c == '+' || c == '-') &&
      match fixed? 2 0 rest with
      | some (hours, ':' :: rest) =>
        match fixed? 2 0 rest with
        | some (minutes, []) => hours * 60 + minutes ≤ 24 * 60
        | _ => false
      | _ => false

def isDateTime (chars : List Char) : Bool :=
  match date? chars with
  | some [] => true
  | some (c :: rest) =>
    (c == 'T' || c == 't' || c == ' ') && ((time? rest).map isOffset).getD false
  | none =>
    match time? chars with
    | some rest => rest.isEmpty
    | none => false

/-- The value of a word that is no text. -/
def ofWord? (chars : List Char) : Option Toml :=
  if chars = ['t', 'r', 'u', 'e'] then some (.boolean true)
  else if chars = ['f', 'a', 'l', 's', 'e'] then some (.boolean false)
  else
    match boundedInteger? chars with
    | some value => some (.integer value)
    | none =>
      if isFloat chars then some .float
      else if isDateTime chars then some .dateTime
      else none

end Steward.Toml
