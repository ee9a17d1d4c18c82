import Steward.Json
import Steward.Text.Utf8
/-!
# Percent encoding

An octet that may not stand for itself is written as a percent sign and two hexadecimal digits.
A form writes its fields in this way, with a plus for each space.
-/

set_option autoImplicit false

namespace Steward.Percent

def hexDigit (n : Nat) : Char := if n < 10 then Char.ofNat (48 + n) else Char.ofNat (55 + n)

def triple (octet : UInt8) : List Char :=
  ['%', hexDigit (octet.toNat / 16), hexDigit (octet.toNat % 16)]

/-- A character as it is, if it is plain, or else all its octets in percent encoding. -/
def encodeChar (plain : Char → Bool) (c : Char) : List Char :=
  if plain c then [c] else (Utf8.encode (String.singleton c)).flatMap triple

def encode (plain : Char → Bool) (chars : List Char) : List Char :=
  chars.flatMap (encodeChar plain)

/-- The octets that are written; a percent sign without two digits stands for itself. -/
def decode : List Char → Utf8.Octets
  | [] => []
  | '%' :: high :: low :: rest =>
    match Json.hexDigit? high, Json.hexDigit? low with
    | some high, some low => UInt8.ofNat (high * 16 + low) :: decode rest
    | _, _ => 37 :: decode (high :: low :: rest)
  | c :: rest => Utf8.encode (String.singleton c) ++ decode rest

/-! ## Forms -/

def isFormPlain (c : Char) : Bool := c.isAlphanum || "*-._".toList.contains c

def encodeFormChar (c : Char) : List Char :=
  if c = ' ' then ['+'] else encodeChar isFormPlain c

def encodeForm (text : String) : String := String.ofList (text.toList.flatMap encodeFormChar)

def form (fields : List (String × String)) : String :=
  String.intercalate "&" (fields.map fun (name, value) =>
    encodeForm name ++ "=" ++ encodeForm value)

end Steward.Percent
