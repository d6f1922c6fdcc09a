import ShaderLoom.Glsl.Comment
import ShaderLoom.Text.Blank
import ShaderLoom.Text.Cut

/-!
# Declarations of a program text

The attributes and uniforms that a program text declares at global scope, read off the text
without a grammar of the language.  Comments and directive lines are set aside, the rest is cut
into statements at semicolons, and of each statement only what follows its last brace can be a
declaration: a qualifier, possibly a precision, a type and a list of names.

## Main Definitions

* `Qualifier`, `Declaration` — one declared name with its qualifier and type
* `Declaration.inStatement` — the declarations of one statement
* `Declaration.inText` — the declarations of a text, repeats included
-/

namespace ShaderLoom

/-- The qualifiers whose declarations are looked up on a device. -/
inductive Qualifier where
  | uniform
  | attr
  deriving DecidableEq, Repr, Inhabited

/-- The keyword of a qualifier. -/
def Qualifier.word : Qualifier → String
  | uniform => "uniform"
  | attr => "attribute"

/-- A declared name with its qualifier and the word of its type. -/
structure Declaration where
  qualifier : Qualifier
  type : String
  name : String
  deriving DecidableEq, Repr, Inhabited

namespace Declaration

/-- How a declaration is described in messages, without its name. -/
def summary (declaration : Declaration) : String :=
  s!"{declaration.qualifier.word} {declaration.type}"

/-- Whether a line is a directive. -/
def isDirective (line : List Char) : Bool :=
  (Text.trimStart line).head? == some '#'

/-- A text without comments and directive lines. -/
def code (text : List Char) : List Char :=
  let lines := Text.cutAt '\n' (Glsl.stripComments text)
  ['\n'].intercalate (lines.filter fun line => !isDirective line)

/-- Whether a word is a precision qualifier. -/
def isPrecision (word : List Char) : Bool :=
  word == "lowp".toList || word == "mediump".toList || word == "highp".toList

/-- The names in a comma-separated list, without array suffixes and empty entries. -/
def names (list : List Char) : List (List Char) :=
  ((Text.cutAt ',' list).map fun entry => entry.takeWhile (· != '[')).filter fun name =>
    !name.isEmpty

/-- The declarations that the words of a statement make, if they start with one of
`qualifiers`. -/
def ofWords (qualifiers : List Qualifier) : List (List Char) → List Declaration
  | [] => []
  | first :: words =>
    match qualifiers.find? fun qualifier => qualifier.word.toList == first with
    | none => []
    | some qualifier =>
      match words.dropWhile isPrecision with
      | [] => []
      | type :: rest =>
        (names rest.flatten).map fun name =>
          { qualifier, type := String.ofList type, name := String.ofList name }

/-- The declarations that one statement makes. -/
def inStatement (qualifiers : List Qualifier) (statement : List Char) : List Declaration :=
  ofWords qualifiers
    (Text.words (Text.afterLast (fun c => c == '\x7b' || c == '\x7d') statement))

/-- The declarations that a text makes, in order and with repeats. -/
def inText (qualifiers : List Qualifier) (text : String) : List Declaration :=
  (Text.cutAt ';' (code text.toList)).flatMap (inStatement qualifiers)

/-- The declarations of a program: attributes and uniforms of its vertex text, then uniforms of
its fragment text. -/
def inProgram (vertex fragment : String) : List Declaration :=
  inText [.attr, .uniform] vertex ++ inText [.uniform] fragment

end Declaration
end ShaderLoom
