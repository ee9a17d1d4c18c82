/-!
# Characters from octets

An octet sequence splits into pieces: a well-formed UTF-8 character, or the longest run of octets
that begins like a character and is cut short by an octet that cannot follow, or a single octet
that begins no character.  A strict reading refuses ill-formed pieces.  A lenient reading puts one
replacement character in the place of each.
-/

set_option autoImplicit false

namespace Steward.Utf8

abbrev Octets := List UInt8

def isContinuation (octet : UInt8) : Bool := 0x80 ≤ octet && octet ≤ 0xBF

/-- Whether `second` may follow the first octet of a three-octet character.  The narrower ranges
keep out overlong forms and surrogates. -/
def isSecondOfThree (first second : UInt8) : Bool :=
  if first == 0xE0 then 0xA0 ≤ second && second ≤ 0xBF
  else if first == 0xED then 0x80 ≤ second && second ≤ 0x9F
  else isContinuation second

/-- Whether `second` may follow the first octet of a four-octet character.  The narrower ranges
keep out overlong forms and numbers above the last character. -/
def isSecondOfFour (first second : UInt8) : Bool :=
  if first == 0xF0 then 0x90 ≤ second && second ≤ 0xBF
  else if first == 0xF4 then 0x80 ≤ second && second ≤ 0x8F
  else isContinuation second

def character (leading : UInt8) (base : Nat) (following : List UInt8) : Char :=
  Char.ofNat (following.foldl (fun number octet => number * 64 + (octet.toNat - 0x80))
    (leading.toNat - base))

/-- The pieces of an octet sequence; an ill-formed piece is `none`. -/
def pieces : Octets → List (Option Char)
  | [] => []
  | a :: rest =>
    if a < 0x80 then some (character a 0 []) :: pieces rest
    else if 0xC2 ≤ a && a ≤ 0xDF then
      match rest with
      | [] => [none]
      | b :: more =>
        if isContinuation b then some (character a 0xC0 [b]) :: pieces more
        else none :: pieces (b :: more)
    else if 0xE0 ≤ a && a ≤ 0xEF then
      match rest with
      | [] => [none]
      | b :: more =>
        if isSecondOfThree a b then
          match more with
          | [] => [none]
          | c :: more =>
            if isContinuation c then some (character a 0xE0 [b, c]) :: pieces more
            else none :: pieces (c :: more)
        else none :: pieces (b :: more)
    else if 0xF0 ≤ a && a ≤ 0xF4 then
      match rest with
      | [] => [none]
      | b :: more =>
        if isSecondOfFour a b then
          match more with
          | [] => [none]
          | c :: more =>
            if isContinuation c then
              match more with
              | [] => [none]
              | d :: more =>
                if isContinuation d then some (character a 0xF0 [b, c, d]) :: pieces more
                else none :: pieces (d :: more)
            else none :: pieces (c :: more)
        else none :: pieces (b :: more)
    else none :: pieces rest
termination_by octets => octets.length

def decode? (octets : Octets) : Option String :=
  ((pieces octets).mapM id).map String.ofList

/-- The text of any sequence, with U+FFFD for each ill-formed piece. -/
def decodeLossy (octets : Octets) : String :=
  String.ofList ((pieces octets).map (·.getD '\uFFFD'))

def encode (text : String) : Octets := text.toUTF8.toList

end Steward.Utf8
