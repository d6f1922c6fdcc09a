import ShaderLoom.Text.Numeral

/-!
# String literals

Texts between quotes, in which a backslash gives the next character another meaning.

A literal is read in two steps.  `Quote.next` follows a text and tells which characters lie
inside a literal; a quote after a backslash does not close it.  `unescape` then gives the text
that the inside of a literal stands for.  A backslash before a character without another meaning
stands for itself.  Characters by number are written as bytes, octal or hexadecimal, or as
16-bit units; a character beyond the units takes two of them in a row, its surrogates.

## Main Definitions

* `Quote`, `Quote.next` — where a position lies relative to literals
* `Escape`, `Escape.read?` — what a backslash and the characters after it stand for
* `unescape` — the text that a literal stands for
-/

namespace ShaderLoom
namespace Text

/-! ## Quotes -/

/-- Where a position of a text lies relative to the literals in it. -/
inductive Quote where
  | outside
  | inside (mark : Char)
  /-- Inside a literal, right after a backslash. -/
  | escaping (mark : Char)
  deriving DecidableEq, Repr, Inhabited

/-- Whether a character opens a literal. -/
def isQuote (c : Char) : Bool :=
  c == '"' || c == '\x27'

/-- The position after one more character. -/
def Quote.next : Quote → Char → Quote
  | outside, c => if isQuote c then inside c else outside
  | inside mark, c =>
    if c = '\\' then escaping mark else if c = mark then outside else inside mark
  | escaping mark, _ => inside mark

/-! ## Escapes -/

/-- What a backslash and the characters after it stand for. -/
inductive Escape where
  | text (value : List Char)
  /-- A 16-bit unit, a character or half of one. -/
  | unit (value : Nat)
  deriving DecidableEq, Repr, Inhabited

/-- The text that a backslash and a single character stand for. -/
def escapedText (c : Char) : List Char :=
  if c = 'n' then ['\n']
  else if c = 't' then ['\t']
  else if c = 'r' then ['\r']
  else if c = 'b' then ['\x08']
  else if c = 'f' then ['\x0c']
  else if isQuote c || c == '\\' || c == '/' then [c]
  else ['\\', c]

/-- The value of an octal digit. -/
def octalDigit? (c : Char) : Option Nat :=
  if '0' ≤ c ∧ c ≤ '7' then some (c.toNat - '0'.toNat) else none

/-- The number that the first `count` characters of a text write in hexadecimal. -/
def readHexAhead (count : Nat) (text : List Char) : Option Nat := do
  guard (count ≤ text.length)
  readDigits hexDigit? 16 (dropPlus (text.take count))

/-- The byte that an octal digit and up to two more at the start of a text write, and how many
more there are. -/
def readOctalAhead (first : Char) (text : List Char) : Option (Nat × Nat) := do
  let more := (text.take 2).takeWhile fun c => (octalDigit? c).isSome
  let byte ← readDigits octalDigit? 8 (first :: more)
  guard (byte < 256)
  return (byte, more.length)

/-- The escape that a backslash and the character `c` begin in front of a text, and how many
characters of the text belong to it. -/
def Escape.read? (c : Char) (text : List Char) : Option (Escape × Nat) :=
  if c = 'u' then (readHexAhead 4 text).map fun value => (unit value, 4)
  else if c = 'x' then (readHexAhead 2 text).map fun byte => (.text [Char.ofNat byte], 2)
  else if (octalDigit? c).isSome then
    (readOctalAhead c text).map fun (byte, taken) => (.text [Char.ofNat byte], taken)
  else some (.text (escapedText c), 0)

/-- Whether a 16-bit unit is the first half of a character. -/
def isHighSurrogate (unit : Nat) : Bool :=
  0xD800 ≤ unit && unit < 0xDC00

/-- Whether a 16-bit unit is the second half of a character. -/
def isLowSurrogate (unit : Nat) : Bool :=
  0xDC00 ≤ unit && unit < 0xE000

/-- The character that two halves make up. -/
def ofSurrogates (high low : Nat) : Char :=
  Char.ofNat (0x10000 + (high - 0xD800) * 0x400 + (low - 0xDC00))

/-- The text that the inside of a literal stands for, without the next `taken` characters, which
belong to an escape, and after the first half of a character if there is one in `pending`.  The
second half has to follow at once. -/
def unescapeFrom : (pending : Option Nat) → (taken : Nat) → List Char → Option (List Char)
  | none, _, [] => some []
  | some _, _, [] => none
  | pending, taken + 1, _ :: rest => unescapeFrom pending taken rest
  | none, 0, ['\\'] => none
  | none, 0, '\\' :: c :: rest => do
    match ← Escape.read? c rest with
    | (.text value, taken) => return value ++ (← unescapeFrom none taken rest)
    | (.unit value, taken) =>
      if isHighSurrogate value then unescapeFrom (some value) taken rest
      else if isLowSurrogate value then none
      else return Char.ofNat value :: (← unescapeFrom none taken rest)
  | none, 0, c :: rest => do
    return c :: (← unescapeFrom none 0 rest)
  | some high, 0, '\\' :: c :: rest => do
    match ← Escape.read? c rest with
    | (.unit low, taken) =>
      guard (isLowSurrogate low)
      return ofSurrogates high low :: (← unescapeFrom none taken rest)
    | (.text _, _) => none
  | some _, 0, _ => none

/-- The text that the inside of a literal stands for, if every number and character in it is
complete. -/
def unescape (text : List Char) : Option (List Char) :=
  unescapeFrom none 0 text

end Text
end ShaderLoom
