/-!
# Numerals

Reading of unsigned words and writing of fixed-width hexadecimal.  A numeral is a non-empty run
of digits of its radix, after at most one plus sign; leading zeros are allowed, and the value
has to fit the word that is read.

## Main Definitions

* `readDecimal32`, `readHex32` — a 32-bit word, if the text is one
* `hexDigits` — the lowercase hexadecimal digits of a number, padded to a width
-/

namespace ShaderLoom
namespace Text

/-- The value of a decimal digit. -/
def decimalDigit? (c : Char) : Option Nat :=
  if '0' ≤ c ∧ c ≤ '9' then some (c.toNat - '0'.toNat) else none

/-- The value of a hexadecimal digit in either case. -/
def hexDigit? (c : Char) : Option Nat :=
  if '0' ≤ c ∧ c ≤ '9' then some (c.toNat - '0'.toNat)
  else if 'a' ≤ c ∧ c ≤ 'f' then some (c.toNat - 'a'.toNat + 10)
  else if 'A' ≤ c ∧ c ≤ 'F' then some (c.toNat - 'A'.toNat + 10)
  else none

/-- The value of a run of digits, most significant first, that continues the value `soFar`. -/
def readDigitsFrom (digit? : Char → Option Nat) (radix : Nat) : Nat → List Char → Option Nat
  | soFar, [] => some soFar
  | soFar, c :: rest =>
    match digit? c with
    | none => none
    | some d => readDigitsFrom digit? radix (soFar * radix + d) rest

/-- The value of a non-empty run of digits. -/
def readDigits (digit? : Char → Option Nat) (radix : Nat) : List Char → Option Nat
  | [] => none
  | c :: rest => readDigitsFrom digit? radix 0 (c :: rest)

/-- A text without one leading plus sign, if it has one. -/
def dropPlus : List Char → List Char
  | '+' :: rest => rest
  | text => text

/-- The 32-bit word written by an unsigned numeral. -/
def readWord32 (digit? : Char → Option Nat) (radix : Nat) (text : List Char) : Option UInt32 :=
  match readDigits digit? radix (dropPlus text) with
  | none => none
  | some n => if n < UInt32.size then some (UInt32.ofNat n) else none

/-- The 32-bit word that a decimal numeral writes. -/
def readDecimal32 (text : List Char) : Option UInt32 :=
  readWord32 decimalDigit? 10 text

/-- The 32-bit word that a hexadecimal numeral writes. -/
def readHex32 (text : List Char) : Option UInt32 :=
  readWord32 hexDigit? 16 text

/-- The lowercase hexadecimal digits of `n`, padded with zeros on the left to `width`. -/
def hexDigits (width : Nat) (n : Nat) : String :=
  let digits := Nat.toDigits 16 n
  String.ofList (List.replicate (width - digits.length) '0' ++ digits)

end Text
end ShaderLoom
