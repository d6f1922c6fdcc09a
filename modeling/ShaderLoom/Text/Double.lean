/-!
# Double precision

Finite binary numbers with 53 bits, the one nearest to a quotient, and their decimal text.

The text of a number has the fewest digits that identify it: among the decimals with so few
digits to which no other number is nearer, it is the one closest to the number.  It is found on
grids of powers of ten, from coarse to fine, in exact arithmetic.

## Main Definitions

* `Double` — sign, significand and binary exponent
* `Double.nearest` — the number nearest to a quotient
* `Double.shortest` — the fewest digits that identify a number
* `Double.render` — its text, without an exponent
-/

namespace ShaderLoom
namespace Text

/-- The integer nearest to a quotient; a tie goes to the even neighbour. -/
def roundQuotient (numerator denominator : Nat) : Nat :=
  let floor := numerator / denominator
  let twice := 2 * (numerator % denominator)
  if twice < denominator then floor
  else if denominator < twice then floor + 1
  else if floor % 2 = 0 then floor
  else floor + 1

/-- A power with an exponent that may be negative, which counts as zero.  The factors `power b
e` and `power b (-e)` on the two sides of a comparison scale it by `b ^ e`. -/
def power (base : Nat) (exponent : Int) : Nat :=
  Nat.pow base exponent.toNat

/-- The number `± significand · 2 ^ exponent`. -/
structure Double where
  negative : Bool
  significand : Nat
  exponent : Int
  deriving DecidableEq, Repr, Inhabited

namespace Double

/-- The significand of a power of two. -/
def leadingBit : Nat := Nat.pow 2 52

/-- The exponent of the smallest numbers. -/
def leastExponent : Int := -1074

/-- The greatest `k` for which `2 ^ k` is at most a quotient. -/
def floorLog (numerator denominator : Nat) : Int :=
  let guess : Int := (numerator.log2 : Int) - (denominator.log2 : Int)
  if denominator * power 2 guess ≤ numerator * power 2 (-guess) then guess else guess - 1

/-- The number nearest to a quotient; a tie goes to the even significand. -/
def nearest (negative : Bool) (numerator denominator : Nat) : Double :=
  if numerator = 0 then { negative, significand := 0, exponent := 0 }
  else
    let scale := floorLog numerator denominator - 52
    let exponent := if scale < leastExponent then leastExponent else scale
    let significand :=
      roundQuotient (numerator * power 2 (-exponent)) (denominator * power 2 exponent)
    if significand = 2 * leadingBit then
      { negative, significand := leadingBit, exponent := exponent + 1 }
    else { negative, significand, exponent }

/-- The size of a number, cut off toward zero. -/
def floor (x : Double) : Nat :=
  x.significand * power 2 x.exponent / power 2 (-x.exponent)

/-! ## Decimal text -/

/-- Whether `x` is the number nearest to `digits · 10 ^ exponent`, sign apart.  The ends of the
interval around `x` are counted in quarters of its last bit; the lower one is closer if `x` is a
power of two. -/
def covers (x : Double) (digits : Nat) (exponent : Int) : Bool :=
  let unit := x.exponent - 2
  let value := digits * power 10 exponent * power 2 (-unit)
  let scale := power 2 unit * power 10 (-exponent)
  let below := if x.significand = leadingBit ∧ leastExponent < x.exponent then 1 else 2
  let low := (4 * x.significand - below) * scale
  let high := (4 * x.significand + 2) * scale
  if x.significand % 2 = 0 then low ≤ value && value ≤ high else low < value && value < high

/-- The closest multiple of a power of ten that identifies a number. -/
def onGrid? (x : Double) (exponent : Int) : Option Nat :=
  let numerator := x.significand * power 2 x.exponent * power 10 (-exponent)
  let denominator := power 10 exponent * power 2 (-x.exponent)
  let lower := numerator / denominator
  [roundQuotient numerator denominator, lower, lower + 1].find? fun digits =>
    x.covers digits exponent

/-- The first grid, from a given one downward, on which a number is identified, with the digits
there; the exact value if there is none among the next `count` grids. -/
def search (x : Double) : (count : Nat) → (exponent : Int) → Nat × Int
  | 0, _ =>
    if x.exponent < 0 then (x.significand * power 5 (-x.exponent), x.exponent)
    else (x.significand * power 2 x.exponent, 0)
  | count + 1, exponent =>
    match x.onGrid? exponent with
    | some digits => (digits, exponent)
    | none => search x count (exponent - 1)

/-- The fewest digits that identify a number, and the power of ten that they count.  The search
starts above the number, by an estimate from its binary logarithm. -/
def shortest (x : Double) : Nat × Int :=
  let bits : Int := (x.significand.log2 : Int) + x.exponent + 1
  x.search 25 (bits * 30103 / 100000 + 1)

/-- The digits of `digits · 10 ^ exponent` with a point, and at least one digit on either
side. -/
def layout (digits : Nat) (exponent : Int) : List Char :=
  let written := Nat.toDigits 10 digits
  if 0 ≤ exponent then written ++ List.replicate exponent.toNat '0' ++ ['.', '0']
  else
    let places := (-exponent).toNat
    let padded := List.replicate (places + 1 - written.length) '0' ++ written
    padded.take (padded.length - places) ++ '.' :: padded.drop (padded.length - places)

/-- The text of a number. -/
def render (x : Double) : String :=
  let size :=
    if x.significand = 0 then ['0', '.', '0']
    else layout x.shortest.1 x.shortest.2
  String.ofList (if x.negative then '-' :: size else size)

end Double
end Text
end ShaderLoom
