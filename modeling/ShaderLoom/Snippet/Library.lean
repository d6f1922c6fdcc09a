import ShaderLoom.Error
import ShaderLoom.Snippet.Builtin
import ShaderLoom.Template.Basic

/-!
# The snippet library

Named pieces of GLSL that statements call into, and the frame of a stage.  A library holds the
built-in snippets; the host may register further ones, which take precedence.

## Main Definitions

* `Helper` — a snippet with the parameters it is filled in with
* `SnippetLibrary.register`, `SnippetLibrary.template`
* `SnippetLibrary.render`, `SnippetLibrary.renderHelper`
-/

namespace ShaderLoom

/-- A snippet together with the parameters it is filled in with. -/
structure Helper where
  snippet : String
  parameters : List (String × String) := []
  deriving DecidableEq, Repr, Inhabited

/-- The context that the parameters of a helper make up; of two values for a name the later
counts. -/
def Helper.context (helper : Helper) : Template.Context :=
  helper.parameters.reverse.map fun (key, value) => (key, .ofText value)

/-- A collection of snippets: those registered, latest first, on top of the built-in ones. -/
structure SnippetLibrary where
  registered : List (String × Template) := []
  deriving DecidableEq, Repr, Inhabited

namespace SnippetLibrary

/-- Reads a text as the template of a given name. -/
def parse (name source : String) : Except Error Template :=
  match Template.parse source with
  | .ok template => .ok template
  | .error fault => .error (.templateFault name fault)

/-- Registers a snippet, in place of any other of its name. -/
def register (library : SnippetLibrary) (name source : String) :
    Except Error SnippetLibrary := do
  let template ← parse name source
  return { registered := (name, template) :: library.registered }

/-- The template of a given name. -/
def template (library : SnippetLibrary) (name : String) : Except Error Template :=
  match library.registered.lookup name with
  | some template => .ok template
  | none =>
    match Snippet.builtin? name with
    | some source => parse name source
    | none => .error (.unknownSnippet name)

/-- Whether there is a template of a given name. -/
def contains (library : SnippetLibrary) (name : String) : Bool :=
  (library.template name).isOk

/-- Fills in the template of a given name. -/
def render (library : SnippetLibrary) (name : String) (context : Template.Context) :
    Except Error String := do
  let template ← library.template name
  match template.render context with
  | .ok text => return text
  | .error fault => throw (.templateFault name fault)

/-- Fills in a helper. -/
def renderHelper (library : SnippetLibrary) (helper : Helper) : Except Error String :=
  library.render helper.snippet helper.context

end SnippetLibrary
end ShaderLoom
