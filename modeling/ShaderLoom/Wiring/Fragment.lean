import ShaderLoom.RenderState.Basic
import ShaderLoom.Wiring.Basic

/-!
# Wiring of the fragment stage

The color of a fragment: the color of the material, multiplied by the color of the vertex and by
each texture, then lit by the active lights, each of them shadowed if it casts a shadow and a
technique receives it.

## Main Definitions

* `LightKind.function`, `LightKind.parameters` — how lights are computed
* `Fragment.litColor` — the sum of the lights
* `Fragment.main` — the whole stage
-/

namespace ShaderLoom
namespace LightKind

/-- The function that computes lights of a kind. -/
def function : LightKind → String
  | directional => "computeDirectionalLight"
  | point => "computePointLight"
  | spot => "computeSpotLight"
  | hemi => "computeHemiLight"

/-- The parameters of a light of a kind, after the normal and the position. -/
def parameters : LightKind → List (String × DataType)
  | directional => [("direction", .vec3), ("color", .vec3)]
  | point => [("position", .vec3), ("color", .vec3)]
  | spot => [("position", .vec3), ("direction", .vec3), ("color", .vec3), ("cosCutoff", .float)]
  | hemi => [("direction", .vec3), ("skyColor", .vec3), ("groundColor", .vec3)]

end LightKind

namespace Fragment

open Wire

/-- The name of the uniform for a parameter of a light. -/
def lightUniform (index : Nat) (parameter : String) : String :=
  s!"uLight{index}_{parameter}"

/-- The color of a texture at its coordinates. -/
def textureSample (unit texcoord : UInt32) : Wire Variable := do
  let sampler ← uniform .sampler2D s!"Texture{unit.toNat}"
  let uv ← varying .vec2 s!"vTexCoord{texcoord.toNat}"
  let out ← temporary .vec4 (some s!"textureColor{unit.toNat}")
  node .textureSample [("sampler", .read sampler), ("uv", .read uv)] "color" out

/-- The uniforms of a light, with the slots that they fill. -/
def lightInputs (index : Nat) (kind : LightKind) : Wire (List (String × Operand)) :=
  kind.parameters.mapM fun (parameter, type) => do
    let v ← uniform type (lightUniform index parameter)
    return (parameter, .read v)

/-- The diffuse contribution of a light. -/
def lightContribution (index : Nat) (light : Light) (normal viewVertex : Variable) :
    Wire Variable := do
  let inputs ← lightInputs index light.kind
  let out ← temporary .vec3 (some s!"lightDiffuse{index}")
  let helper : Helper := { snippet := "lighting", parameters := [("kind", light.kind.word)] }
  node (.call light.kind.function (some helper))
    (("normal", .read normal) :: ("viewVertex", .read viewVertex) :: inputs) "result" out

/-- The visibility of a light. -/
def shadowFactor (index : Nat) (technique : ShadowTechnique) : Wire Variable := do
  let modelVertex ← varying .vec4 "vModelVertex"
  let matrix ← uniform .mat4 s!"uShadow{index}_matrix"
  let depthMap ← uniform .sampler2D s!"uShadow{index}_depthMap"
  let texelSize ← uniform .vec2 s!"uShadow{index}_texelSize"
  let bias ← uniform .float s!"uShadow{index}_bias"
  let shadowVertex ← temporary .vec4 (some s!"shadowVertex{index}")
  add {
    operation := .transformPoint false
    inputs := [("matrix", .read matrix), ("vec", .read modelVertex)]
    outputs := [("vec", shadowVertex)] }
  let out ← temporary .float (some s!"shadow{index}")
  let helper : Helper := { snippet := "shadow", parameters := [("technique", technique.word)] }
  node (.call "computeShadow" (some helper))
    [("depthMap", .read depthMap), ("shadowVertex", .read shadowVertex),
      ("texelSize", .read texelSize), ("bias", .read bias)]
    "result" out

/-- The contribution of a light after its shadow. -/
def shadowedContribution (state : RenderState) (normal viewVertex : Variable) (light : Light)
    (index : Nat) : Wire Variable := do
  let diffuse ← lightContribution index light normal viewVertex
  match state.shadow, light.castsShadow with
  | some technique, true =>
    let factor ← shadowFactor index technique
    multiply diffuse factor .vec3 "shadowedDiffuse"
  | _, _ => return diffuse

/-- The code that adds up `count` contributions. -/
def sumCode (count : Nat) : String :=
  let terms := " + ".intercalate ((List.range count).map fun i => s!"%light{i}")
  s!"%out = {terms};"

/-- A color lit by the active lights. -/
def litColor (state : RenderState) (color : Variable) : Wire Variable := do
  let viewNormal ← varying .vec3 "vViewNormal"
  let normal ← normalize viewNormal (some "normal")
  let viewVertex ← varying .vec4 "vViewVertex"
  let contributions ← state.activeLights.zipIdx.mapM fun (light, index) =>
    shadowedContribution state normal viewVertex light index
  let out ← temporary .vec3 (some "diffuse")
  let sum ← node (.inlineCode (sumCode contributions.length))
    (contributions.zipIdx.map fun (v, i) => (s!"light{i}", Operand.read v)) "out" out
  let lit ← temporary .vec4 (some "litColor")
  node (.inlineCode "%out = vec4(%color.rgb * %diffuse, %color.a);")
    [("color", .read color), ("diffuse", .read sum)] "out" lit

/-- The color of the material and the vertex. -/
def baseColor (state : RenderState) : Wire Variable := do
  let color ← uniform .vec4 "uMaterialColor"
  if state.streams.contains Streams.color then
    let vertexColor ← varying .vec4 "vVertexColor"
    multiply color vertexColor .vec4 "vertexColor"
  else return color

/-- A color multiplied by a texture. -/
def texturedColor (color : Variable) (texture : Texture) : Wire Variable := do
  let sample ← textureSample texture.unit texture.texcoord
  multiply color sample .vec4 "texturedColor"

/-- Wires the fragment stage. -/
def main (state : RenderState) : Wire Unit := do
  let base ← baseColor state
  let textured ← state.activeTextures.foldlM texturedColor base
  let color ← if state.activeLights.isEmpty then pure textured else litColor state textured
  match (← get).builtin? StageGraph.fragColorName with
  | none => return ()
  | some out => assign color out

end Fragment
end ShaderLoom
