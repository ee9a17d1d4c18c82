/-!
# Shortest decimals

A binary fraction `mantissa * 2 ^ exponent` stands for all reals that are nearer to it than to its
neighbours.  Of the decimals among them the shortest is chosen, and of the shortest the nearest.
All comparisons are made in whole numbers.
-/

set_option autoImplicit false

namespace Steward.Decimal

/-- A positive binary fraction among its neighbours.  It is narrow if the neighbour below is half
as far away as the one above. -/
structure Binary where
  mantissa : Nat
  exponent : Int
  narrow : Bool
  deriving DecidableEq, Repr

structure Scientific where
  digits : Nat
  exponent : Int
  deriving DecidableEq, Repr

/-- The factors by which `a * 10 ^ e` and `b * 2 ^ f` compare as whole numbers. -/
def scales (e f : Int) : Nat × Nat :=
  (Nat.pow 10 e.toNat * Nat.pow 2 (-f).toNat, Nat.pow 2 f.toNat * Nat.pow 10 (-e).toNat)

namespace Binary

/-- Whether `digits * 10 ^ e` stands for the same binary fraction.  The ends of the interval count
for an even mantissa. -/
def covers (binary : Binary) (e : Int) (digits : Nat) : Bool :=
  let (decimal, quarter) := scales e (binary.exponent - 2)
  let low := (4 * binary.mantissa - if binary.narrow then 1 else 2) * quarter
  let high := (4 * binary.mantissa + 2) * quarter
  let value := digits * decimal
  if binary.mantissa % 2 = 0 then low ≤ value && value ≤ high else low < value && value < high

def onGrid (binary : Binary) (e : Int) : Option Scientific :=
  let (decimal, quarter) := scales e (binary.exponent - 2)
  let value := 4 * binary.mantissa * quarter
  let below := value / decimal
  let above := below + 1
  let nearer := if 2 * (value - below * decimal) ≤ decimal then [below, above] else [above, below]
  (nearer.find? fun digits => digits != 0 && binary.covers e digits).map fun digits => ⟨digits, e⟩

def search (binary : Binary) : Nat → Int → Option Scientific
  | 0, _ => none
  | steps + 1, e =>
    match binary.onGrid e with
    | some decimal => some decimal
    | none => search binary steps (e - 1)

def magnitude (binary : Binary) : Nat :=
  (Nat.toDigits 10 (binary.mantissa * Nat.pow 2 binary.exponent.toNat)).length

/-- As fine a grid as any double can need lies within this many steps. -/
def shortest (binary : Binary) : Option Scientific :=
  binary.search (binary.magnitude + 1100) binary.magnitude

end Binary

def hiddenBit : Nat := Nat.pow 2 52

/-- The fraction that the bits of a positive double write, if it is finite and not zero. -/
def binary? (bits : UInt64) : Option Binary :=
  let field := (bits >>> 52).toNat % 2048
  let fraction := bits.toNat % hiddenBit
  if field = 2047 then none
  else if field = 0 then
    if fraction = 0 then none else some ⟨fraction, -1074, false⟩
  else some ⟨fraction + hiddenBit, (field : Int) - 1075, fraction = 0 && field != 1⟩

def Scientific.positional (decimal : Scientific) : String :=
  let digits := Nat.toDigits 10 decimal.digits
  if 0 ≤ decimal.exponent then
    String.ofList (digits ++ List.replicate decimal.exponent.toNat '0')
  else
    let places := (-decimal.exponent).toNat
    let padded := List.replicate (places + 1 - digits.length) '0' ++ digits
    let whole := padded.length - places
    String.ofList (padded.take whole ++ '.' :: padded.drop whole)

def shown (value : Float) : String :=
  match (binary? value.toBits).bind Binary.shortest with
  | some decimal => decimal.positional
  | none => if value == 0 then "0" else if value.isNaN then "NaN" else "inf"

end Steward.Decimal
