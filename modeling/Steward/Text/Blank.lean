/-!
# Blanks around text

The characters with the Unicode property White_Space, and text without those at its ends.
-/

set_option autoImplicit false

namespace Steward.Text

def isBlank (c : Char) : Bool :=
  let n := c.toNat
  (9 ≤ n && n ≤ 13) || n == 0x20 || n == 0x85 || n == 0xA0 || n == 0x1680
    || (0x2000 ≤ n && n ≤ 0x200A) || n == 0x2028 || n == 0x2029 || n == 0x202F
    || n == 0x205F || n == 0x3000

def stripBoth (drop : Char → Bool) (chars : List Char) : List Char :=
  ((chars.dropWhile drop).reverse.dropWhile drop).reverse

def trim (text : String) : String := String.ofList (stripBoth isBlank text.toList)

def isBlankText (text : String) : Bool := text.toList.all isBlank

def dropTrailingSlashes (text : String) : String :=
  String.ofList (text.toList.reverse.dropWhile (· == '/')).reverse

end Steward.Text
