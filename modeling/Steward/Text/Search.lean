/-!
# Searching text without regard to case

Phrases are searched for in the lower case of a text.  Phrases hold ASCII characters only, so it
is enough to know which characters have a lower case that begins with an ASCII letter: the ASCII
capitals, the kelvin sign, and the capital I with a dot above, whose lower case is the letter i
followed by a combining dot.  Every other character has a lower case outside ASCII, which no
phrase contains, and is left as it is.
-/

set_option autoImplicit false

namespace Steward.Text

def searchable (c : Char) : List Char :=
  if c == '\u212A' then ['k']
  else if c == '\u0130' then ['i', '\u0307']
  else [c.toLower]

/-- Whether `phrase` occurs in `chars` as consecutive characters. -/
def occursIn (phrase chars : List Char) : Bool :=
  match chars with
  | [] => phrase.isEmpty
  | _ :: rest => phrase.isPrefixOf chars || occursIn phrase rest

/-- Whether one of the lower-case ASCII `phrases` occurs in the lower case of `text`. -/
def mentionsAny (phrases : List String) (text : String) : Bool :=
  let lower := text.toList.flatMap searchable
  phrases.any fun phrase => occursIn phrase.toList lower

end Steward.Text
