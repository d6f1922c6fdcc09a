import ShaderLoom.RenderState.Fingerprint
import ShaderLoom.Stage.Source
import ShaderLoom.Wiring.Stages

/-!
# Pairs of stage sources

The sources of both stages of a program, and how they are generated from a render state.

## Main Definitions

* `SourcePair`, `SourcePair.digest` — both sources and the digest of their texts
* `Compiler.compileStages` — the sources of two stage graphs
* `Compiler.generate` — the sources of a render state
-/

namespace ShaderLoom

/-- The sources of both stages of a program. -/
structure SourcePair where
  vertex : StageSource
  fragment : StageSource
  deriving DecidableEq, Repr, Inhabited

namespace SourcePair

/-- Both texts, behind the length of the first: eight bytes, the lowest first.  The length makes
the point where one text ends and the other begins part of the bytes. -/
def bytes (pair : SourcePair) : List UInt8 :=
  let vertex := pair.vertex.text.toUTF8.data.toList
  let fragment := pair.fragment.text.toUTF8.data.toList
  (List.range 8).map (fun i => UInt8.ofNat (vertex.length >>> (8 * i))) ++ vertex ++ fragment

/-- The digest of both texts. -/
def digest (pair : SourcePair) : Digest :=
  Digest.ofBytes ⟨pair.bytes.toArray⟩

end SourcePair

namespace Compiler

/-- The sources of two stage graphs, the vertex stage first. -/
def compileStages (compiler : Compiler) (stages : Stages) : Except Error SourcePair := do
  let vertex ← compiler.compile stages.vertex
  let fragment ← compiler.compile stages.fragment
  return { vertex, fragment }

/-- The sources of a render state. -/
def generate (compiler : Compiler) (state : RenderState) (name : String) :
    Except Error SourcePair := do
  compiler.compileStages (← state.stages name)

/-! ## Log -/

/-- What is reported about compiling two stage graphs. -/
def stagesRecords (compiler : Compiler) (stages : Stages) : List LogRecord :=
  let vertex := compiler.compile stages.vertex
  compiler.records stages.vertex vertex ++
    match vertex with
    | .error _ => []
    | .ok _ => compiler.records stages.fragment (compiler.compile stages.fragment)

/-- What is reported about generating the sources of a render state. -/
def generateRecords (compiler : Compiler) (state : RenderState) (name : String) :
    List LogRecord :=
  state.stageRecords name ++
    match state.stages name with
    | .error _ => []
    | .ok stages => compiler.stagesRecords stages

end Compiler
end ShaderLoom
