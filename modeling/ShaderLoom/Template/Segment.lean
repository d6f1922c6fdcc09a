import ShaderLoom.Template.Expression
import ShaderLoom.Text.Blank

/-!
# Segments of a template

A template text cut into the parts that matter: literal text, expressions to fill in, and
statements that control the parts around them.

There are three kinds of tags and a line form.  Double braces enclose an expression.  Braces
with dollar signs enclose a statement, braces with hash signs a comment; both take along the
line end after them and, when nothing else stands before them on their line, the indentation.  A
line that starts with two dollar signs, after spaces and tabs only, is a statement as a whole;
it goes on over line ends inside string literals and parentheses.

Lines end at a newline or a carriage return.  A tag takes along a carriage return and then a
newline, a line statement a newline and then a carriage return.  So a tag takes a line end of
both as a whole, and a line statement leaves its newline as text.  Indentation is dropped only
at the start of a template, right after what a tag or statement took along, and after a newline.

## Main Definitions

* `Statement`, `Segment`
* `Segment.scan` — the segments of a text
* `Segment.deepest` — the deepest nesting among segments
-/

namespace ShaderLoom
namespace Template

/-- A control statement. -/
inductive Statement where
  | ifThen (condition : Expression)
  | elseIf (condition : Expression)
  | otherwise
  | endIf
  | forEach (name : String) (source : Expression)
  | endFor
  deriving DecidableEq, Repr, Inhabited

/-- The words that cannot name the item of a loop. -/
def reservedWords : List String :=
  ["true", "True", "false", "False", "none", "None", "loop", "self", "in"]

/-- The statement that a list of tokens writes. -/
def Statement.ofTokens? : List Token → Option Statement
  | [.name keyword] =>
    if keyword = "else" then some .otherwise
    else if keyword = "endif" then some .endIf
    else if keyword = "endfor" then some .endFor
    else none
  | .name keyword :: rest =>
    if keyword = "if" then (Expression.ofTokens? rest).map .ifThen
    else if keyword = "elif" then (Expression.ofTokens? rest).map .elseIf
    else if keyword = "for" then
      match rest with
      | .name x :: .name link :: source =>
        if link = "in" ∧ !reservedWords.contains x then
          (Expression.ofTokens? source).map (.forEach x)
        else none
      | _ => none
    else none
  | _ => none

/-- A part of a template text. -/
inductive Segment where
  | text (value : List Char)
  | emit (expression : Expression)
  | statement (statement : Statement)
  deriving DecidableEq, Repr, Inhabited

/-- What a tag with braces holds. -/
inductive Tag where
  | expression
  | statement
  deriving DecidableEq

/-- Where the scanner is.  Characters are held newest first. -/
inductive Segment.Mode where
  /-- In literal text; `lineBlank` says that only blanks stand before on this line, and
  `afterTag` that a tag that takes its line end along has just ended. -/
  | text (lineBlank afterTag : Bool) (held : List Char)
  /-- Inside a tag, possibly inside a string literal. -/
  | tag (kind : Tag) (quote : Text.Quote) (held : List Char)
  /-- Inside a comment. -/
  | comment
  /-- On a line that is a statement, inside `parens` parentheses and possibly a string
  literal. -/
  | line (parens : Nat) (quote : Text.Quote) (held : List Char)

namespace Segment

/-- The segment for the literal text that is held, if there is any. -/
def flush (held : List Char) : List Segment :=
  if held.isEmpty then [] else [.text held.reverse]

/-- Whether a character ends a line. -/
def isLineEnd (c : Char) : Bool :=
  c == '\n' || c == '\r'

/-- The literal text that is held, without the indentation of a tag that starts its line. -/
def dropIndent (lineBlank : Bool) (held : List Char) : List Char :=
  if lineBlank then
    match held.dropWhile fun c => Text.isBlank c && !isLineEnd c with
    | '\r' :: _ => held
    | rest => rest
  else held

/-- Whether the part of the current line that is held consists of spaces and tabs. -/
def isIndented (held : List Char) : Bool :=
  (held.takeWhile fun c => !isLineEnd c).all fun c => c == ' ' || c == '\t'

/-- Whether only blanks stand before on the line, after one more character. -/
def staysBlank (lineBlank : Bool) (c : Char) : Bool :=
  isLineEnd c || (lineBlank && Text.isBlank c)

/-- The segment that the inside of a tag stands for. -/
def ofTag? (kind : Tag) (held : List Char) : Option Segment := do
  let tokens ← Token.ofText held.reverse
  match kind with
  | .expression => return .emit (← Expression.ofTokens? tokens)
  | .statement => return .statement (← Statement.ofTokens? tokens)

/-- The segment that a line stands for, which may end in blanks. -/
def ofLine? (held : List Char) : Option Segment :=
  ofTag? .statement (held.dropWhile Text.isBlank)

/-- The parentheses that are open after one more character outside string literals. -/
def nextParens (parens : Nat) (quote : Text.Quote) (c : Char) : Nat :=
  if quote = .outside ∧ c = '(' then parens + 1
  else if quote = .outside ∧ c = ')' then parens - 1
  else parens

/-- The segments of the rest of a text. -/
def scanFrom : Mode → List Char → Option (List Segment)
  | .text _ true held, '\r' :: '\n' :: rest => scanFrom (.text true false held) rest
  | .text _ true held, '\r' :: rest => scanFrom (.text true false held) rest
  | .text _ true held, '\n' :: rest => scanFrom (.text true false held) rest
  | .text _ _ held, '\x7b' :: '\x7b' :: rest => do
    return flush held ++ (← scanFrom (.tag .expression .outside []) rest)
  | .text lineBlank _ held, '\x7b' :: '$' :: rest => do
    return flush (dropIndent lineBlank held) ++ (← scanFrom (.tag .statement .outside []) rest)
  | .text lineBlank _ held, '\x7b' :: '#' :: rest => do
    return flush (dropIndent lineBlank held) ++ (← scanFrom .comment rest)
  | .text true _ held, '$' :: '$' :: rest =>
    if isIndented held then do
      return flush (dropIndent true held) ++ (← scanFrom (.line 0 .outside []) rest)
    else scanFrom (.text false false ('$' :: '$' :: held)) rest
  | .text lineBlank _ held, c :: rest =>
    scanFrom (.text (staysBlank lineBlank c) false (c :: held)) rest
  | .text _ _ held, [] => some (flush held)
  | .tag .expression .outside held, '\x7d' :: '\x7d' :: rest => do
    return (← ofTag? .expression held) :: (← scanFrom (.text false false []) rest)
  | .tag .statement .outside held, '$' :: '\x7d' :: rest => do
    return (← ofTag? .statement held) :: (← scanFrom (.text false true []) rest)
  | .tag kind quote held, c :: rest => scanFrom (.tag kind (quote.next c) (c :: held)) rest
  | .tag _ _ _, [] => none
  | .comment, '#' :: '\x7d' :: rest => scanFrom (.text false true []) rest
  | .comment, _ :: rest => scanFrom .comment rest
  | .comment, [] => none
  | .line 0 .outside held, '\n' :: '\r' :: rest => do
    return (← ofLine? held) :: (← scanFrom (.text true false []) rest)
  | .line 0 .outside held, '\n' :: rest => do
    return (← ofLine? held) :: (← scanFrom (.text true false []) rest)
  | .line 0 .outside held, '\r' :: rest => do
    return (← ofLine? held) :: (← scanFrom (.text true false []) rest)
  | .line parens quote held, c :: rest =>
    scanFrom (.line (nextParens parens quote c) (quote.next c) (c :: held)) rest
  | .line _ _ held, [] => do
    return [← ofLine? held]

/-- The segments of a text, if all its tags are complete. -/
def scan (text : List Char) : Option (List Segment) :=
  scanFrom (.text true false []) text

/-- The deepest nesting that segments reach at `depth` open statements.  A statement is a level,
with its expression and its body inside; so is an expression to fill in.  A further condition of
a choice is at the level of the first. -/
def deepest (depth : Nat) : List Segment → Nat
  | [] => depth
  | .text _ :: rest => deepest depth rest
  | .emit expression :: rest => Nat.max (depth + 1 + expression.depth) (deepest depth rest)
  | .statement (.ifThen condition) :: rest =>
    Nat.max (depth + 1 + condition.depth) (deepest (depth + 1) rest)
  | .statement (.elseIf condition) :: rest =>
    Nat.max (depth + condition.depth) (deepest depth rest)
  | .statement .otherwise :: rest => deepest depth rest
  | .statement (.forEach _ source) :: rest =>
    Nat.max (depth + 1 + source.depth) (deepest (depth + 1) rest)
  | .statement .endIf :: rest => deepest (depth - 1) rest
  | .statement .endFor :: rest => deepest (depth - 1) rest

end Segment
end Template
end ShaderLoom
