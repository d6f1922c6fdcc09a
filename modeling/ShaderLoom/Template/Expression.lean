import ShaderLoom.Template.Value
import ShaderLoom.Text.Literal

/-!
# Expressions in templates

The expressions inside the tags of templates: names, literals, a comparison, conversion to an
integer and ranges of integers.

An expression is evaluated in a context that gives values to names.  A name without a value is
not an error by itself; using its value is, be it only in a comparison.  A range is a call of a
function by its name, so it fails where the name means something else.

## Main Definitions

* `Expression`, `Expression.evaluate`
* `Expression.depth` — how many levels of nesting an expression takes
* `Token.ofText`, `Expression.ofTokens?` — reading the inside of a tag
-/

namespace ShaderLoom
namespace Template

/-! ## Expressions -/

/-- An expression inside a tag. -/
inductive Expression where
  | name (name : String)
  | text (value : String)
  | number (value : Nat)
  | truth (value : Bool)
  | null
  | equal (left right : Expression)
  | toInteger (operand : Expression)
  | range (operand : Expression)
  deriving DecidableEq, Repr, Inhabited

/-- The value of an expression that is about to be used. -/
def Value.defined : Option Value → Except TemplateFault Value
  | some value => .ok value
  | none => .error .undefinedName

namespace Expression

/-- The value of an expression, or nothing for a name without a value. -/
def evaluate (context : Context) : Expression → Except TemplateFault (Option Value)
  | name n => .ok (context.value? n)
  | text value => .ok (some (.data (.text value)))
  | number value => .ok (some (.data (.integer value)))
  | truth value => .ok (some (.data (.bool value)))
  | null => .ok (some (.data .null))
  | equal left right => do
    let a ← left.evaluate context
    let b ← right.evaluate context
    return some (.data (.bool ((← Value.defined a).equals (← Value.defined b))))
  | toInteger operand => do
    let value ← Value.defined (← operand.evaluate context)
    return some (.data (.integer (← value.toInteger)))
  | range operand => do
    let argument ← operand.evaluate context
    if (context.lookup "range").isSome then .error .invalidOperation
    let value ← Value.defined argument
    return some (.data (.list (← value.range)))

/-- The value of an expression that is used. -/
def force (context : Context) (expression : Expression) : Except TemplateFault Value := do
  Value.defined (← expression.evaluate context)

/-- The levels of nesting that an expression takes: one for an operand, and one more inside the
parentheses of a range. -/
def depth : Expression → Nat
  | name _ => 1
  | text _ => 1
  | number _ => 1
  | truth _ => 1
  | null => 1
  | equal left right => Nat.max left.depth right.depth
  | toInteger operand => operand.depth
  | range operand => operand.depth + 1

end Expression

/-! ## Tokens -/

/-- A token inside a tag. -/
inductive Token where
  | name (name : String)
  | text (value : String)
  | number (value : Nat)
  | equals
  | bar
  | opening
  | closing
  deriving DecidableEq, Repr, Inhabited

/-- The characters that a name starts with. -/
def isNameStart (c : Char) : Bool :=
  c.isAlpha || c == '_'

/-- The characters that a name continues with. -/
def isNamePart (c : Char) : Bool :=
  c.isAlphanum || c == '_'

/-- The characters between tokens. -/
def isSpace (c : Char) : Bool :=
  c == ' ' || c == '\t' || c == '\n' || c == '\r' || c == '\x0c'

/-- The token that is being read, with its characters so far, newest first. -/
inductive Token.Partial where
  | idle
  | name (held : List Char)
  | number (value : Nat)
  | quoted (quote : Text.Quote) (held : List Char)
  | equals

namespace Token

/-- Reading on at a character that starts a token: the token it begins or the one it is. -/
def start (c : Char) : Option (Partial × List Token) :=
  if isSpace c then some (.idle, [])
  else if isNameStart c then some (.name [c], [])
  else if Text.isQuote c then some (.quoted (.inside c) [], [])
  else if c == '|' then some (.idle, [.bar])
  else if c == '(' then some (.idle, [.opening])
  else if c == ')' then some (.idle, [.closing])
  else if c == '=' then some (.equals, [])
  else (Text.decimalDigit? c).map fun d => (.number d, [])

/-- The tokens of the rest of a tag, while a token is being read. -/
def ofTextFrom : Partial → List Char → Option (List Token)
  | .idle, [] => some []
  | .name held, [] => some [.name (String.ofList held.reverse)]
  | .number value, [] => some [.number value]
  | .quoted _ _, [] => none
  | .equals, [] => none
  | .idle, c :: rest => do
    let (reading, tokens) ← start c
    return tokens ++ (← ofTextFrom reading rest)
  | .name held, c :: rest =>
    if isNamePart c then ofTextFrom (.name (c :: held)) rest
    else do
      let (reading, tokens) ← start c
      return .name (String.ofList held.reverse) :: tokens ++ (← ofTextFrom reading rest)
  | .number value, c :: rest =>
    match Text.decimalDigit? c with
    | some d => ofTextFrom (.number (value * 10 + d)) rest
    | none => do
      let (reading, tokens) ← start c
      return .number value :: tokens ++ (← ofTextFrom reading rest)
  | .quoted quote held, c :: rest =>
    match quote.next c with
    | .outside => do
      return .text (String.ofList (← Text.unescape held.reverse)) :: (← ofTextFrom .idle rest)
    | quote => ofTextFrom (.quoted quote (c :: held)) rest
  | .equals, c :: rest =>
    if c = '=' then do
      return .equals :: (← ofTextFrom .idle rest)
    else none

/-- The tokens of the inside of a tag. -/
def ofText (text : List Char) : Option (List Token) :=
  ofTextFrom .idle text

end Token

namespace Expression

/-- The expression that a word is: a constant or a name.  The word for negation is neither. -/
def ofWord? (word : String) : Option Expression :=
  if word = "true" ∨ word = "True" then some (.truth true)
  else if word = "false" ∨ word = "False" then some (.truth false)
  else if word = "none" ∨ word = "None" then some .null
  else if word = "not" then none
  else some (.name word)

/-- The expression that a single token is.  A number has at most 128 bits. -/
def ofToken? : Token → Option Expression
  | .name word => ofWord? word
  | .text value => some (.text value)
  | .number value => if value < Nat.pow 2 128 then some (.number value) else none
  | _ => none

/-- Applies the filters that follow an expression. -/
def applyFilters : Expression → List Token → Option (Expression × List Token)
  | e, .bar :: .name filter :: rest =>
    if filter = "int" then applyFilters (.toInteger e) rest else none
  | _, .bar :: _ => none
  | e, rest => some (e, rest)

/-- Reads an operand: a name, a literal or a range, with its filters. -/
def readOperand : List Token → Option (Expression × List Token)
  | .name function :: .opening :: argument :: rest => do
    guard (function = "range")
    let (operand, rest) ← applyFilters (← ofToken? argument) rest
    match rest with
    | .closing :: rest => applyFilters (.range operand) rest
    | _ => none
  | first :: rest => do applyFilters (← ofToken? first) rest
  | [] => none

/-- The expression that a list of tokens writes. -/
def ofTokens? (tokens : List Token) : Option Expression := do
  let (left, rest) ← readOperand tokens
  match rest with
  | [] => return left
  | .equals :: rest =>
    let (right, rest) ← readOperand rest
    guard rest.isEmpty
    return .equal left right
  | _ => none

end Expression
end Template
end ShaderLoom
