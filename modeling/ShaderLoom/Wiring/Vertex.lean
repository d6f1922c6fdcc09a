import ShaderLoom.RenderState.Basic
import ShaderLoom.Text.Numeral
import ShaderLoom.Wiring.Basic

/-!
# Wiring of the vertex stage

From the vertex attributes to the clip position and the varyings:

attributes, morphed, then skinned, give values in local space; matrices take these to model
space and view space.  A feature that is not active passes its input on unchanged.  Each
intermediate value is built once, whoever asks for it first.

## Main Definitions

* `Vertex.morphVertex`, `Vertex.skinVertex`, `Vertex.viewVertex` and their relatives for normals
  and tangents — the intermediate values
* `knownVarying?` — the varyings that the vertex stage can deliver
* `Vertex.main` — the whole stage
-/

namespace ShaderLoom

/-- The set of texture coordinates that a varying carries, by its name. -/
def texcoordSet? (name : String) : Option UInt32 :=
  let stem := "vTexCoord".toList
  if stem.isPrefixOf name.toList then Text.readDecimal32 (name.toList.drop stem.length)
  else none

/-- The type of a varying that the vertex stage can deliver. -/
def knownVarying? (name : String) : Option DataType :=
  if name ∈ ["vViewVertex", "vModelVertex", "vViewTangent", "vModelTangent",
      "vVertexColor"] then
    some .vec4
  else if name ∈ ["vViewNormal", "vModelNormal"] then some .vec3
  else (texcoordSet? name).map fun _ => .vec2

namespace Vertex

open Wire

/-! ## Morphing -/

/-- The weights of the morph targets.  Directions use weights that sum to at most one, so that
negative weights cannot turn them around. -/
def targetWeights (stream : String) : Wire Variable := do
  requireVertex "target_weights"
  let weights ← uniform .vec4 "uTargetWeights"
  if stream = "Normal" ∨ stream = "Tangent" then
    shared "nTargetWeights" do
      let out ← temporary .vec4 (some "nTargetWeights")
      let sum := "abs(%wts.x) + abs(%wts.y) + abs(%wts.z) + abs(%wts.w)"
      add {
        operation := .inlineCode s!"%output = %wts / max(1.0, {sum});"
        inputs := [("wts", .read weights)]
        outputs := [("output", out)] }
      return out
  else return weights

/-- The attributes that hold the morph targets of a stream. -/
def morphTargets (stream : String) (type : DataType) (count : Nat) : Wire (List Variable) :=
  (List.range count).mapM fun i => attr type s!"{stream}_{i}"

/-- A stream after morphing. -/
def morphStream (state : RenderState) (stream : String) (type : DataType) (name : String) :
    Wire Variable := do
  let input ← attr type stream
  match state.activeMorph.filter fun morph => morph.hasTarget stream with
  | none => return input
  | some morph =>
    let count := morph.targetCount.toNat
    let weights ← targetWeights stream
    let out ← temporary .vec3 (some name)
    let targets ← morphTargets stream type count
    let slots := targets.zipIdx.map fun (target, i) => (s!"target{i}", Operand.read target)
    node (.morphing count) (("vertex", .read input) :: ("weights", .read weights) :: slots)
      "result" out

def morphVertex (state : RenderState) : Wire Variable := do
  requireVertex "morph_vertex"
  shared "morphVertex" (morphStream state "Vertex" .vec3 "morphVertex")

def morphNormal (state : RenderState) : Wire Variable := do
  requireVertex "morph_normal"
  shared "morphNormal" (morphStream state "Normal" .vec3 "morphNormal")

def morphTangent (state : RenderState) : Wire Variable := do
  requireVertex "morph_tangent"
  shared "morphTangent" (morphStream state "Tangent" .vec4 "morphTangent")

/-! ## Skinning -/

/-- The weighted matrix of the bones, shared by positions, normals and tangents. -/
def boneMatrix (state : RenderState) : Wire Variable := do
  requireVertex "bone_matrix"
  shared "boneMatrix" do
    let boneCount := (state.activeSkin.map Skin.boneCount).getD 0
    let paletteSize := (state.activeSkin.map Skin.paletteSize).getD 0
    let weights ← attr .vec4 "Weights"
    let bones ← attr .vec4 "Bones"
    let palette ← uniformArray .vec4 "uBones" paletteSize.toNat
    let out ← temporary .mat4 (some "boneMatrix")
    add {
      operation := .skinning boneCount.toNat
      inputs := [("weights", .read weights), ("bonesIndex", .read bones),
        ("matrixPalette", .read palette)]
      outputs := [("result", out)] }
    return out

def skinVertex (state : RenderState) : Wire Variable := do
  requireVertex "skin_vertex"
  shared "skinVertex" do
    let input ← morphVertex state
    if state.activeSkin.isNone then return input
    else
      let matrix ← boneMatrix state
      let out ← temporary .vec3 (some "skinVertex")
      node (.transformPoint true) [("matrix", .read matrix), ("vec", .read input)] "vec" out

/-- A direction after skinning. -/
def skinDirection (state : RenderState) (input : Variable) (name : String) : Wire Variable := do
  if state.activeSkin.isNone then return input
  else
    let matrix ← boneMatrix state
    let out ← temporary .vec3 (some name)
    node (.transformDirection true) [("matrix", .read matrix), ("vec", .read input)] "vec" out

def skinNormal (state : RenderState) : Wire Variable := do
  requireVertex "skin_normal"
  shared "skinNormal" do
    let input ← morphNormal state
    skinDirection state input "skinNormal"

def skinTangent (state : RenderState) : Wire Variable := do
  requireVertex "skin_tangent"
  shared "skinTangent" do
    let input ← morphTangent state
    skinDirection state input "skinTangent"

/-! ## Local space -/

/-- A direction of unit length, with the fourth component of another variable. -/
def normalizeWithAlpha (vector alpha : Variable) (name : String) : Wire Variable := do
  let unit ← normalize vector none
  let out ← temporary .vec4 (some name)
  node .setAlpha [("color", .read unit), ("alpha", .read alpha)] "result" out

def localVertex (state : RenderState) : Wire Variable := do
  requireVertex "local_vertex"
  skinVertex state

/-- The normal in local space; one that was changed is brought back to unit length. -/
def localNormal (state : RenderState) : Wire Variable := do
  requireVertex "local_normal"
  shared "localNormal" do
    let normal ← skinNormal state
    let raw ← attr .vec3 "Normal"
    if normal = raw then return normal else normalize normal (some "localNormal")

/-- The tangent in local space; one that was changed is brought back to unit length and keeps
the handedness of the attribute. -/
def localTangent (state : RenderState) : Wire Variable := do
  requireVertex "local_tangent"
  shared "localTangent" do
    let tangent ← skinTangent state
    let raw ← attr .vec4 "Tangent"
    if tangent = raw then return tangent else normalizeWithAlpha tangent raw "localTangent"

/-! ## Model and view space -/

/-- A point taken to another space. -/
def transformPoint (matrixName : String) (vector : Variable) (name : String) :
    Wire Variable := do
  let matrix ← uniform .mat4 matrixName
  let out ← temporary .vec4 (some name)
  node (.transformPoint false) [("matrix", .read matrix), ("vec", .read vector)] "vec" out

/-- A direction taken to another space. -/
def transformDirection (matrixName : String) (vector : Variable) : Wire Variable := do
  let matrix ← uniform .mat4 matrixName
  let out ← temporary .vec3 none
  node (.transformDirection false) [("matrix", .read matrix), ("vec", .read vector)] "vec" out

def viewVertex (state : RenderState) : Wire Variable := do
  requireVertex "view_vertex"
  shared "viewVertex" do
    let vertex ← localVertex state
    transformPoint "uModelViewMatrix" vertex "viewVertex"

def modelVertex (state : RenderState) : Wire Variable := do
  requireVertex "model_vertex"
  shared "modelVertex" do
    let vertex ← localVertex state
    transformPoint "uModelMatrix" vertex "modelVertex"

def viewNormal (state : RenderState) : Wire Variable := do
  requireVertex "view_normal"
  shared "viewNormal" do
    let normal ← localNormal state
    let direction ← transformDirection "uModelViewNormalMatrix" normal
    normalize direction (some "viewNormal")

def modelNormal (state : RenderState) : Wire Variable := do
  requireVertex "model_normal"
  shared "modelNormal" do
    let normal ← localNormal state
    let direction ← transformDirection "uModelNormalMatrix" normal
    normalize direction (some "modelNormal")

def viewTangent (state : RenderState) : Wire Variable := do
  requireVertex "view_tangent"
  shared "viewTangent" do
    let tangent ← localTangent state
    let direction ← transformDirection "uModelViewNormalMatrix" tangent
    let handedness ← attr .vec4 "Tangent"
    normalizeWithAlpha direction handedness "viewTangent"

def modelTangent (state : RenderState) : Wire Variable := do
  requireVertex "model_tangent"
  shared "modelTangent" do
    let tangent ← localTangent state
    let direction ← transformDirection "uModelNormalMatrix" tangent
    let handedness ← attr .vec4 "Tangent"
    normalizeWithAlpha direction handedness "modelTangent"

/-! ## Outputs -/

/-- Wires the size of points. -/
def pointSize (state : RenderState) : Wire Unit := do
  requireVertex "declare_point_size"
  match (← get).builtin? StageGraph.pointSizeName with
  | none => return ()
  | some out =>
    if state.pointSize then
      let size ← uniform .float "uPointSize"
      assign size out
    else
      add {
        operation := .assign
        inputs := [("in", .literal DataType.float.one)]
        outputs := [("out", out)] }

/-- Wires the clip position. -/
def position (state : RenderState) : Wire Unit := do
  requireVertex "declare_vertex_position"
  match (← get).builtin? StageGraph.positionName with
  | none => return ()
  | some out =>
    if state.billboard then
      let vertex ← attr .vec3 "Vertex"
      let modelView ← uniform .mat4 "uModelViewMatrix"
      let projection ← uniform .mat4 "uProjectionMatrix"
      add {
        operation := .billboard
        inputs := [("Vertex", .read vertex), ("ModelViewMatrix", .read modelView),
          ("ProjectionMatrix", .read projection)]
        outputs := [("result", out)] }
    else
      let projection ← uniform .mat4 "uProjectionMatrix"
      let vertex ← viewVertex state
      add {
        operation := .transformPoint false
        inputs := [("matrix", .read projection), ("vec", .read vertex)]
        outputs := [("vec", out)] }

/-- Wires the color of the vertex, or white where the geometry has none. -/
def vertexColor (out : Variable) : Wire Unit := do
  let enabled ← uniform .float "uArrayColorEnabled"
  let color ← attr .vec4 "Color"
  add {
    operation := .inlineCode
      "%vcolor = %venabled == 1.0 ? %acolor : vec4(1.0, 1.0, 1.0, 1.0);"
    inputs := [("venabled", .read enabled), ("acolor", .read color)]
    outputs := [("vcolor", out)] }

/-- Wires the value of a varying; nothing is known about varyings of other names. -/
def varyingValue (state : RenderState) (name : String) (out : Variable) : Wire Unit := do
  if name = "vModelVertex" then assign (← modelVertex state) out
  else if name = "vModelNormal" then assign (← modelNormal state) out
  else if name = "vModelTangent" then assign (← modelTangent state) out
  else if name = "vViewVertex" then assign (← viewVertex state) out
  else if name = "vViewNormal" then assign (← viewNormal state) out
  else if name = "vViewTangent" then assign (← viewTangent state) out
  else if name = "vVertexColor" then vertexColor out
  else
    match texcoordSet? name with
    | none => return ()
    | some set =>
      let texcoord ← attr .vec2 s!"TexCoord{set.toNat}"
      assign texcoord out

/-- Wires a varying that the fragment stage reads. -/
def varying (state : RenderState) (name : String) (type : DataType) : Wire Unit := do
  match knownVarying? name with
  | some expected =>
    if expected ≠ type then throw (.varyingMismatch name type expected)
  | none => pure ()
  let out ← Wire.varying type name
  varyingValue state name out
  root out

/-- Wires the varyings that the fragment stage reads. -/
def varyings (state : RenderState) (requested : List (String × DataType)) : Wire Unit := do
  requireVertex "declare_vertex_varyings"
  requested.forM fun (name, type) => varying state name type

/-- Wires the vertex stage: point size, position, then the varyings. -/
def main (state : RenderState) (requested : List (String × DataType)) : Wire Unit := do
  requireVertex "declare_vertex_main"
  pointSize state
  position state
  varyings state requested

end Vertex
end ShaderLoom
