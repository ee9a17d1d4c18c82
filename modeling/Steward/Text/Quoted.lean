import Steward.Text.Hidden
/-!
# Quotations

A quotation shows a text between double quotes.  Quotes and backslashes follow a backslash, a few
control characters have letters of their own, and every other hidden character is written as its
number in hexadecimal between braces.
-/

set_option autoImplicit false

namespace Steward.Text

def quotedCharacter (c : Char) : List Char :=
  if c == '"' then ['\\', '"']
  else if c == '\\' then ['\\', '\\']
  else if c == '\n' then ['\\', 'n']
  else if c == '\r' then ['\\', 'r']
  else if c == '\t' then ['\\', 't']
  else if c == '\u0000' then ['\\', '0']
  else if isHidden c then
    ['\\', 'u', '\x7b'] ++ Nat.toDigits 16 c.toNat ++ ['\x7d']
  else [c]

def quoted (text : String) : String :=
  String.ofList ('"' :: text.toList.flatMap quotedCharacter ++ ['"'])

end Steward.Text
