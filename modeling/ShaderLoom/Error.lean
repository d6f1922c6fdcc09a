import ShaderLoom.Glsl.Basic
import ShaderLoom.Glsl.Declaration
import ShaderLoom.Gpu.Fault
import ShaderLoom.Template.Fault

/-!
# Errors

One type for everything that can go wrong between a render state and a bound program, with the
cause of each error as data and its wording in one place.
-/

namespace ShaderLoom

/-- The largest number of morph targets: the weights of all targets share one `vec4`. -/
def maxMorphTargets : UInt32 := 4

/-- What can go wrong. -/
inductive Error where
  /-- A name was requested with a type or storage other than the one it has. -/
  | variableConflict (requested existing : Variable)
  /-- A construction that only makes sense for vertices was used in another stage. -/
  | vertexOnly (helper : String)
  /-- A node lacks a slot that its operation needs. -/
  | missingSlot (kind slot : String)
  /-- A render state has more morph targets than there are weights. -/
  | tooManyMorphTargets (count : UInt32)
  /-- The two stages disagree about the type of a varying. -/
  | varyingMismatch (name : String) (fragment vertex : DataType)
  /-- No node writes a variable that the stage has to deliver. -/
  | missingRoot (name : String)
  /-- A node depends on its own output through other nodes. -/
  | cyclicGraph (kind output : String)
  /-- No rule says how to write nodes of a custom kind. -/
  | unregisteredKind (kind : String)
  /-- The library holds no snippet of this name. -/
  | unknownSnippet (name : String)
  /-- A snippet was refused or could not be filled in. -/
  | templateFault (snippet : String) (fault : TemplateFault)
  /-- A program declares one name in two ways. -/
  | declarationConflict (first second : Declaration)
  /-- A program identifier that the cache did not issue. -/
  | invalidProgram (id : Nat)
  /-- The device refused a call. -/
  | deviceFault (fault : DeviceFault)
  deriving DecidableEq, Repr, Inhabited

namespace Error

/-- The wording of an error.  Template faults are reported by name and kind, without a text. -/
def message : Error → String
  | variableConflict requested existing =>
    s!"Variable `{requested.name}` requested as " ++
      s!"{requested.storage.label} {requested.type.word}, but already exists as " ++
      s!"{existing.storage.label} {existing.type.word}"
  | vertexOnly helper =>
    s!"Vertex-only helper `{helper}` called while building the fragment stage"
  | missingSlot kind slot => s!"Node `{kind}` is missing required slot `{slot}`"
  | tooManyMorphTargets count =>
    s!"Morph configuration has {count} targets, at most {maxMorphTargets} are supported"
  | varyingMismatch name fragment vertex =>
    s!"Varying `{name}` is {fragment.word} in the fragment stage but {vertex.word}" ++
      " in the vertex stage"
  | missingRoot name => s!"Missing required root `{name}`: no node writes it"
  | cyclicGraph kind output => s!"Cyclic dependency through node `{kind}` (output `{output}`)"
  | unregisteredKind kind => s!"No lowering registered for custom node kind `{kind}`"
  | unknownSnippet name => s!"Shader snippet not found: {name}"
  | templateFault _ _ => ""
  | declarationConflict first second =>
    s!"Declaration `{second.name}` appears as both `{first.summary}` and `{second.summary}`"
  | invalidProgram id => s!"Invalid program id: {id}"
  | deviceFault fault => s!"GPU driver error: {fault.message}"

end Error
end ShaderLoom
