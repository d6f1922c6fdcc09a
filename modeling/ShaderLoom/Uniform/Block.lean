import ShaderLoom.RenderState.Basic
import ShaderLoom.Uniform.Value
import ShaderLoom.Wiring.Fragment

/-!
# Uniform blocks

Groups of uniforms with their default values.  The uniforms of a feature depend on one small
parameter only (the number of targets, the number of bones, the index of a light), so a block is
built once for each feature and parameter and shared from then on.

## Main Definitions

* `UniformBlock` — the uniforms of a feature, with the key they are shared under
* `RenderState.uniformBlocks` — the blocks that a render state needs
* `UniformTable` — the blocks built so far
* `UniformTable.blocksFor` — the shared blocks for a render state
-/

namespace ShaderLoom

/-- A uniform with its default value. -/
structure UniformDescriptor where
  name : String
  default : UniformValue
  deriving DecidableEq, Repr

/-- The data type of a uniform. -/
def UniformDescriptor.type (descriptor : UniformDescriptor) : DataType :=
  descriptor.default.type

/-- What a block is shared under: a feature and its parameter. -/
structure BlockKey where
  family : String
  variant : Nat
  deriving DecidableEq, Repr, Inhabited

/-- The uniforms of a feature. -/
structure UniformBlock where
  key : BlockKey
  descriptors : List UniformDescriptor
  deriving DecidableEq, Repr

/-! ## The blocks of the features -/

/-- The weights of the morph targets. -/
def Morph.uniformBlock (morph : Morph) : UniformBlock where
  key := { family := "morph", variant := morph.targetCount.toNat }
  descriptors := [{
    name := "uTargetWeights"
    default := .vec4 (Vector.replicate 4 Binary32.zero) }]

/-- The rows of the matrix of a bone that moves nothing. -/
def restingBone : List (Vector Binary32 4) :=
  [#v[.one, .zero, .zero, .zero], #v[.zero, .one, .zero, .zero], #v[.zero, .zero, .one, .zero]]

/-- The palette of the bones. -/
def Skin.uniformBlock (skin : Skin) : UniformBlock where
  key := { family := "skinning", variant := skin.boneCount.toNat }
  descriptors := [{
    name := "uBones"
    default := .vec4Array (List.replicate skin.boneCount.toNat restingBone).flatten }]

namespace LightKind

/-- The feature of the lights of a kind. -/
def family : LightKind → String
  | directional => "light-directional"
  | point => "light-point"
  | spot => "light-spot"
  | hemi => "light-hemi"

/-- The default values of the parameters of a light. -/
def defaults : LightKind → List (String × UniformValue)
  | directional => [("direction", down), ("color", white)]
  | point => [("position", origin), ("color", white)]
  | spot =>
    [("position", origin), ("direction", down), ("color", white),
      ("cosCutoff", .float Binary32.nineTenths)]
  | hemi =>
    [("direction", down), ("skyColor", white),
      ("groundColor", .vec3 (Vector.replicate 3 Binary32.oneFifth))]
where
  down : UniformValue := .vec3 #v[.zero, .minusOne, .zero]
  white : UniformValue := .vec3 (Vector.replicate 3 Binary32.one)
  origin : UniformValue := .vec3 (Vector.replicate 3 Binary32.zero)

end LightKind

/-- The parameters of the light at a given index. -/
def Light.uniformBlock (light : Light) (index : Nat) : UniformBlock where
  key := { family := light.kind.family, variant := index }
  descriptors := light.kind.defaults.map fun (parameter, value) =>
    { name := Fragment.lightUniform index parameter, default := value }

/-- The blocks that a render state needs: morphing, skinning, then the lights. -/
def RenderState.uniformBlocks (state : RenderState) : List UniformBlock :=
  (state.activeMorph.map Morph.uniformBlock).toList ++
  (state.activeSkin.map Skin.uniformBlock).toList ++
  state.activeLights.zipIdx.map fun (light, index) => light.uniformBlock index

/-! ## Sharing -/

/-- The blocks that have been built, in order, each under its own key. -/
structure UniformTable where
  blocks : List UniformBlock := []
  deriving DecidableEq, Repr, Inhabited

namespace UniformTable

/-- The block under a key. -/
def find? (table : UniformTable) (key : BlockKey) : Option UniformBlock :=
  table.blocks.find? fun block => block.key == key

/-- The block that is shared under the key of the given one: an earlier one, or else itself. -/
def getOrInsert (table : UniformTable) (block : UniformBlock) : UniformBlock × UniformTable :=
  match table.find? block.key with
  | some earlier => (earlier, table)
  | none => (block, { blocks := table.blocks ++ [block] })

/-- The shared blocks in place of the given ones. -/
def share (table : UniformTable) : List UniformBlock → List UniformBlock × UniformTable
  | [] => ([], table)
  | block :: rest =>
    let (first, table) := table.getOrInsert block
    let (others, table) := table.share rest
    (first :: others, table)

/-- The shared blocks for a render state. -/
def blocksFor (table : UniformTable) (state : RenderState) : List UniformBlock × UniformTable :=
  table.share state.uniformBlocks

end UniformTable
end ShaderLoom
