/-!
# Blank characters

The characters of the Unicode property `White_Space`, and the operations that look only at
which characters are blank: trimming a text and cutting it into words.

## Main Definitions

* `isBlank` — membership in `White_Space`
* `trimStart`, `trimEnd`, `trim` — a text without its blank margins
* `words` — the maximal runs of characters that are not blank
-/

namespace ShaderLoom
namespace Text

/-- The characters with the Unicode property `White_Space`. -/
def isBlank (c : Char) : Bool :=
  let point := c.toNat
  (0x09 ≤ point && point ≤ 0x0d) || point == 0x20 || point == 0x85 || point == 0xa0 ||
    point == 0x1680 || (0x2000 ≤ point && point ≤ 0x200a) || point == 0x2028 ||
    point == 0x2029 || point == 0x202f || point == 0x205f || point == 0x3000

/-- A text without the blanks it starts with. -/
def trimStart (text : List Char) : List Char :=
  text.dropWhile isBlank

/-- A text without the blanks it ends with. -/
def trimEnd (text : List Char) : List Char :=
  (text.reverse.dropWhile isBlank).reverse

/-- A text without the blanks at either end. -/
def trim (text : List Char) : List Char :=
  trimEnd (trimStart text)

/-- The words of `text`, where `current` holds, newest character first, the word being read. -/
def wordsFrom (current : List Char) : List Char → List (List Char)
  | [] => if current.isEmpty then [] else [current.reverse]
  | c :: rest =>
    if isBlank c then
      if current.isEmpty then wordsFrom [] rest else current.reverse :: wordsFrom [] rest
    else wordsFrom (c :: current) rest

/-- The maximal runs of characters that are not blank, in order. -/
def words (text : List Char) : List (List Char) :=
  wordsFrom [] text

end Text
end ShaderLoom
