import ShaderLoom.Digest.Xxh3
import ShaderLoom.Settings
import ShaderLoom.Stage.Lowering
import ShaderLoom.Stage.Schedule

/-!
# Stage sources

The text of a stage, generated from its graph: the statements of the scheduled nodes, the
declarations of the variables that they use, and the helpers that they call, put into the frame
of the snippet library.

Declarations are grouped by storage, and within a group they stand in the order of first use.

## Main Definitions

* `StageSource` — a generated stage
* `Compiler` — a library, a registry of custom kinds and settings
* `Compiler.compile` — the source of a stage graph
* `Compiler.records` — what is reported about a compilation
-/

namespace ShaderLoom

/-- The generated text of a stage, with the parts it was made from. -/
structure StageSource where
  stage : Stage
  name : String
  text : String
  /-- The declarations, global ones first. -/
  declarations : List String := []
  /-- The statements of `main`. -/
  statements : List String := []
  /-- The helpers, each once. -/
  helpers : List String := []
  deriving DecidableEq, Repr, Inhabited

/-- The digest of the text of a stage. -/
def StageSource.digest (source : StageSource) : Digest :=
  Digest.ofText source.text

/-- What is needed to generate stages. -/
structure Compiler where
  library : SnippetLibrary := {}
  registry : Registry := []
  settings : Settings := {}
  deriving Inhabited

namespace Compiler

/-- The scheduled nodes, as they are carried out. -/
def scheduledNodes (graph : StageGraph) : Except Error (List Node) := do
  return (← graph.schedule).filterMap graph.resolvedNode?

/-- The variables that nodes use, in order of first use. -/
def usedVariables (nodes : List Node) : List Variable :=
  (nodes.flatMap fun node => node.reads ++ node.writes).eraseDups

/-- The declarations of the used variables of one storage. -/
def declarationsOf (storage : Storage) (used : List Variable) : List String :=
  (used.filter fun v => v.storage == storage).filterMap Variable.declaration?

/-- The declarations at global scope. -/
def globalDeclarations (used : List Variable) : List String :=
  declarationsOf .attr used ++ declarationsOf .uniform used ++ declarationsOf .varying used

/-- The text of a helper, without blanks at its end. -/
def renderHelper (compiler : Compiler) (helper : Helper) : Except Error String := do
  let text ← compiler.library.renderHelper helper
  return String.ofList (Text.trimEnd text.toList)

/-- The name of the snippet that is the frame of a stage. -/
def frameSnippet : String := "program"

/-- A list of texts as a value of a template. -/
def textList (texts : List String) : Template.Value :=
  .data (.list (texts.map .text))

/-- A text that may be absent as a value of a template. -/
def textOption (text : Option String) : Template.Value :=
  .data (text.elim .null .text)

/-- What the frame of a stage is filled in with. -/
def frameContext (settings : Settings) (name : String)
    (globals helpers locals statements : List String) : Template.Context :=
  [("header", textOption settings.glslVersion),
    ("name", .ofText name),
    ("precision", textOption (settings.precision.map Precision.word)),
    ("globals", textList globals),
    ("helpers", textList helpers),
    ("locals", textList locals),
    ("body", textList statements)]

/-- The source of the stage that carries out the given nodes. -/
def compileNodes (compiler : Compiler) (stage : Stage) (name : String) (nodes : List Node) :
    Except Error StageSource := do
  let lowered ← nodes.mapM (Node.lower compiler.registry)
  let statements := lowered.flatMap Lowered.statements
  let used := usedVariables nodes
  let globals := globalDeclarations used
  let locals := declarationsOf .temporary used
  let helpers ← (lowered.flatMap Lowered.helpers).eraseDups.mapM compiler.renderHelper
  let text ← compiler.library.render frameSnippet
    (frameContext compiler.settings name globals helpers locals statements)
  return { stage, name, text, declarations := globals ++ locals, statements, helpers }

/-- The source of a stage graph. -/
def compile (compiler : Compiler) (graph : StageGraph) : Except Error StageSource := do
  compiler.compileNodes graph.stage graph.name (← scheduledNodes graph)

/-! ## Log -/

/-- A text with every run of newlines shortened to one. -/
def squeezeNewlines : List Char → List Char
  | '\n' :: '\n' :: rest => squeezeNewlines ('\n' :: rest)
  | c :: rest => c :: squeezeNewlines rest
  | [] => []

/-- The record that shows a generated stage. -/
def dumpRecord (source : StageSource) : LogRecord :=
  let body := String.ofList (squeezeNewlines source.text.toList)
  let title := s!"Generated {source.stage.word} shader {source.name}"
  { level := .debug
    message := s!"================= {title} ==================\n{body}" }

/-- The record about a schedule. -/
def scheduleRecord (graph : StageGraph) (order : List NodeId) : LogRecord :=
  let stage := s!"{graph.stage.word} stage `{graph.name}`"
  { level := .trace
    message := s!"scheduled {order.length} of {graph.nodes.length} nodes for {stage}" }

/-- What is reported about a compilation with the given outcome. -/
def records (compiler : Compiler) (graph : StageGraph) (outcome : Except Error StageSource) :
    List LogRecord :=
  match graph.schedule with
  | .error _ => []
  | .ok order =>
    scheduleRecord graph order ::
      match outcome with
      | .ok source => if compiler.settings.dumpSource then [dumpRecord source] else []
      | .error _ => []

end Compiler
end ShaderLoom
