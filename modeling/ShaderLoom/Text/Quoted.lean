import ShaderLoom.Text.Invisible
import ShaderLoom.Text.Numeral

/-!
# Quoted texts

Texts in double quotes, in which every character is visible.
-/

namespace ShaderLoom
namespace Text

/-- A character by its number. -/
def quoteByNumber (c : Char) : String :=
  let number := hexDigits 1 c.toNat
  s!"\\u\x7b{number}\x7d"

/-- A character inside a quoted text. -/
def quoteChar (c : Char) : String :=
  if c = '\x00' then "\\0"
  else if c = '\t' then "\\t"
  else if c = '\r' then "\\r"
  else if c = '\n' then "\\n"
  else if c = '"' then "\\\""
  else if c = '\\' then "\\\\"
  else if isInvisible c then quoteByNumber c
  else c.toString

/-- A text in double quotes. -/
def quoted (text : String) : String :=
  let body := String.join (text.toList.map quoteChar)
  s!"\"{body}\""

end Text
end ShaderLoom
