import ShaderLoom.Wiring.Fragment
import ShaderLoom.Wiring.Vertex

/-!
# The stages of a render state

Both stage graphs of a render state.  The fragment graph comes first: the varyings that it reads
are what the vertex stage has to deliver.

## Main Definitions

* `Stages` — the graphs of both stages
* `RenderState.stages` — the graphs of a render state
* `RenderState.stageRecords` — what is reported about building them
-/

namespace ShaderLoom

/-- The graphs of both stages. -/
structure Stages where
  vertex : StageGraph
  fragment : StageGraph
  deriving DecidableEq, Repr, Inhabited

namespace RenderState

/-- Wires the fragment stage of a render state. -/
def wireFragment (state : RenderState) (name : String) : Except Error Unit × StageGraph :=
  (Fragment.main state).on (StageGraph.new .fragment name)

/-- Wires the vertex stage of a render state for the varyings of a fragment stage. -/
def wireVertex (state : RenderState) (name : String) (varyings : List (String × DataType)) :
    Except Error Unit × StageGraph :=
  (Vertex.main state varyings).on (StageGraph.new .vertex name)

/-- The stage graphs of a render state. -/
def stages (state : RenderState) (name : String) : Except Error Stages := do
  state.validate
  let (outcome, fragment) := state.wireFragment name
  outcome
  let (outcome, vertex) := state.wireVertex name fragment.varyings
  outcome
  return { vertex, fragment }

/-- What is reported about building the stage graphs of a render state. -/
def stageRecords (state : RenderState) (name : String) : List LogRecord :=
  match state.validate with
  | .error _ => []
  | .ok _ =>
    let (outcome, fragment) := state.wireFragment name
    fragment.foldRecords 0 ++
      match outcome with
      | .error _ => []
      | .ok _ =>
        let (outcome, vertex) := state.wireVertex name fragment.varyings
        let counts :=
          s!"{vertex.nodes.length} vertex nodes, {fragment.nodes.length} fragment nodes"
        vertex.foldRecords 0 ++
          match outcome with
          | .error _ => []
          | .ok _ =>
            [{ level := .debug
               message := s!"built `{name}`: {counts}, {fragment.varyings.length} varyings" }]

end RenderState
end ShaderLoom
