import ShaderLoom.Text.Double
import ShaderLoom.Text.Numeral

/-!
# Decimal numbers

Reading a text as an integer.  A text that is not the numeral of an integer may still be a
decimal number with a fraction or an exponent, or one of the words for infinity and for "not a
number".  Such a number is first taken to double precision, to the nearest with ties to even,
and then cut off toward zero; "not a number" counts as zero.  Values outside the range of signed
128-bit words saturate at its ends.

## Main Definitions

* `Decimal` — sign, digits and exponent of a written number
* `readDecimal` — the number that a text writes
* `readInteger` — the integer that a text stands for
-/

namespace ShaderLoom
namespace Text

/-! ## Words -/

/-- The size of the least signed 128-bit word; the greatest is one less. -/
def word128Limit : Nat := Nat.pow 2 127

/-- The nearest integer in the range of signed 128-bit words. -/
def saturate (value : Int) : Int :=
  if value < -word128Limit then -word128Limit
  else if word128Limit ≤ value then word128Limit - 1
  else value

/-- A size with a sign. -/
def signed (negative : Bool) (size : Nat) : Int :=
  if negative then -size else size

/-! ## Decimal numbers -/

/-- The number `± significand · 10 ^ exponent`, where the significand has `digits` digits. -/
structure Decimal where
  negative : Bool
  significand : Nat
  digits : Nat
  exponent : Int
  deriving DecidableEq, Repr, Inhabited

/-- The size of a decimal number in double precision, cut off toward zero.  Numbers that are
certainly out of range or certainly small are not computed. -/
def Decimal.magnitude (number : Decimal) : Nat :=
  if number.significand = 0 then 0
  else if 0 ≤ number.exponent then
    if number.exponent ≤ 39 then
      (Double.nearest false (number.significand * Nat.pow 10 number.exponent.toNat) 1).floor
    else word128Limit
  else
    if (number.digits : Int) < -number.exponent then 0
    else (Double.nearest false number.significand (Nat.pow 10 (-number.exponent).toNat)).floor

/-- The integral part of a decimal number in double precision. -/
def Decimal.truncate (number : Decimal) : Int :=
  saturate (signed number.negative number.magnitude)

/-! ## Reading -/

/-- A sign and the text after it; a text without a sign is positive. -/
def readSign : List Char → Bool × List Char
  | '-' :: rest => (true, rest)
  | '+' :: rest => (false, rest)
  | text => (false, text)

/-- The integer that a numeral with an optional sign writes. -/
def readNumeral (text : List Char) : Option Int :=
  let (negative, digits) := readSign text
  (readDigits decimalDigit? 10 digits).map (signed negative)

/-- The exponent written after the significand; none is written as zero. -/
def readExponent : List Char → Option Int
  | [] => some 0
  | mark :: rest => if mark = 'e' ∨ mark = 'E' then readNumeral rest else none

/-- Whether a character is a decimal digit. -/
def isDigit (c : Char) : Bool :=
  (decimalDigit? c).isSome

/-- The decimal number that a text without a sign writes: digits with at most one point, at
least one digit, and an optional exponent. -/
def readUnsignedDecimal (negative : Bool) (text : List Char) : Option Decimal :=
  let whole := text.takeWhile isDigit
  let afterWhole := text.dropWhile isDigit
  let (fraction, tail) :=
    match afterWhole with
    | '.' :: rest => (rest.takeWhile isDigit, rest.dropWhile isDigit)
    | rest => ([], rest)
  match readDigits decimalDigit? 10 (whole ++ fraction), readExponent tail with
  | some significand, some exponent =>
    some {
      negative
      significand
      digits := whole.length + fraction.length
      exponent := exponent - fraction.length }
  | _, _ => none

/-- The decimal number that a text writes. -/
def readDecimal (text : List Char) : Option Decimal :=
  let (negative, rest) := readSign text
  readUnsignedDecimal negative rest

/-- The integer that a word for infinity or for "not a number" stands for, in any letter
case. -/
def readSpecial (text : List Char) : Option Int :=
  let (negative, rest) := readSign text
  let word := String.ofList (rest.map Char.toLower)
  if word = "inf" ∨ word = "infinity" then some (saturate (signed negative word128Limit))
  else if word = "nan" then some 0
  else none

/-- The integer that a text stands for. -/
def readInteger (text : List Char) : Option Int :=
  match readNumeral text with
  | some n => some (saturate n)
  | none =>
    match readDecimal text with
    | some number => some number.truncate
    | none => readSpecial text

end Text
end ShaderLoom
