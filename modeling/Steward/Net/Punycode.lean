/-!
# Host names in ASCII

A label with other characters is written as its ASCII characters followed by digits of base 36.
The digits tell, character by character in the order of their numbers, how many insertions of
smaller characters and at earlier places are passed over before the next one is made.
-/

set_option autoImplicit false

namespace Steward.Net.Punycode

def digit (n : Nat) : Char := if n < 26 then Char.ofNat (97 + n) else Char.ofNat (22 + n)

/-- The lowest value that a digit at the place `weight` has if another digit follows it. -/
def threshold (weight bias : Nat) : Nat := max 1 (min 26 (weight - bias))

theorem threshold_bounds (weight bias : Nat) :
    1 ≤ threshold weight bias ∧ threshold weight bias ≤ 26 := by
  unfold threshold
  omega

def digits (bias number weight : Nat) : List Char :=
  let t := threshold weight bias
  if number < t then [digit number]
  else digit (t + (number - t) % (36 - t)) :: digits bias ((number - t) / (36 - t)) (weight + 36)
termination_by number
decreasing_by
  have bounds := threshold_bounds weight bias
  have : (number - threshold weight bias) / (36 - threshold weight bias)
      ≤ number - threshold weight bias := Nat.div_le_self _ _
  omega

def settled (distance weight : Nat) : Nat :=
  if 455 < distance then settled (distance / 35) (weight + 36)
  else weight + 36 * distance / (distance + 38)
termination_by distance
decreasing_by omega

/-- The bias after a distance was written with so many characters in place. -/
def nextBias (distance placed : Nat) (first : Bool) : Nat :=
  let damped := if first then distance / 700 else distance / 2
  settled (damped + damped / placed) 0

structure Draft where
  /-- The insertions that were passed over since the last one that was made. -/
  distance : Nat
  bias : Nat
  placed : Nat
  first : Bool
  output : List Char

namespace Draft

/-- Goes past one character of the label while `number` is being inserted. -/
def pass (number : Nat) (draft : Draft) (c : Char) : Draft :=
  if c.toNat < number then { draft with distance := draft.distance + 1 }
  else if c.toNat = number then
    { distance := 0
      bias := nextBias draft.distance (draft.placed + 1) draft.first
      placed := draft.placed + 1
      first := false
      output := draft.output ++ digits draft.bias draft.distance 36 }
  else draft

/-- Inserts one character wherever the label has it.  `next` is the first number that no insertion
was passed over for. -/
def insert (label : List Char) (draft : Draft × Nat) (number : Nat) : Draft × Nat :=
  let (draft, next) := draft
  let skipped := { draft with distance := draft.distance + (number - next) * (draft.placed + 1) }
  let passed := label.foldl (pass number) skipped
  ({ passed with distance := passed.distance + 1 }, number + 1)

end Draft

def isAscii (c : Char) : Bool := c.toNat < 128

def encode (label : List Char) : List Char :=
  let plain := label.filter isAscii
  let others := ((label.filter (!isAscii ·)).map Char.toNat).mergeSort.eraseDups
  let start : Draft := ⟨0, 72, plain.length, true, if plain.isEmpty then [] else plain ++ ['-']⟩
  (others.foldl (Draft.insert label) (start, 128)).1.output

def ofLabel (label : List Char) : List Char :=
  if label.all isAscii then label else "xn--".toList ++ encode label

/-- Capitals of the Latin, Greek and Cyrillic letters next to ASCII count as small letters. -/
def small (c : Char) : Char :=
  let n := c.toNat
  if (0xC0 ≤ n && n ≤ 0xDE && n != 0xD7) || (0x391 ≤ n && n ≤ 0x3A9)
      || (0x410 ≤ n && n ≤ 0x42F) then
    Char.ofNat (n + 32)
  else if 0x400 ≤ n && n ≤ 0x40F then Char.ofNat (n + 80)
  else c.toLower

def ofHost (host : List Char) : List Char :=
  List.intercalate ['.'] (((host.map small).splitOn '.').map ofLabel)

end Steward.Net.Punycode
