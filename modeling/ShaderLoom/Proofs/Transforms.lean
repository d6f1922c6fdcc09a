import ShaderLoom.Proofs.Terms
import ShaderLoom.Wiring.Vertex

/-!
# What the vertex stage computes, as terms

From the attributes of a vertex to its values in other spaces, written down without any wiring.
A position, a normal or a tangent is morphed if the active morph names its stream, and then
skinned if there is a skin.  Normals and tangents that were changed by this are brought back to
unit length, and tangents get back the handedness of the attribute.  Matrices take the results
to view space and to model space.

The clip position and the varyings are made of these values.  So are all results that
constructions of the stage share (`Vertex.sharedTerm?`).

## Main definitions

* `Vertex.Quantity`, `Vertex.Space` — what is transformed, and where to
* `Vertex.morphTerm`, `Vertex.skinTerm`, `Vertex.localTerm`, `Vertex.spaceTerm` — the values
* `Vertex.Transform` — the constructions of the stage, and what they should give
* `Vertex.positionTerm`, `Vertex.varyingTerm?` — the outputs of the stage
* `Vertex.sharedTerm?` — what shared results stand for

## Main results

* `Vertex.skinTerm_eq_iff` — only what is neither morphed nor skinned stays as it is
-/

namespace ShaderLoom
namespace Vertex

/-! ## Quantities and spaces -/

/-- What is taken from the attributes of a vertex to other spaces. -/
inductive Quantity where
  | vertex
  | normal
  | tangent

/-- The vertex stream that holds a quantity. -/
def Quantity.stream : Quantity → String
  | vertex => "Vertex"
  | normal => "Normal"
  | tangent => "Tangent"

/-- The type of the attribute; the fourth component of a tangent is its handedness. -/
def Quantity.type : Quantity → DataType
  | vertex => .vec3
  | normal => .vec3
  | tangent => .vec4

/-- The attribute that holds a quantity. -/
def Quantity.raw (quantity : Quantity) : Variable :=
  { name := quantity.stream, type := quantity.type, storage := .attr }

/-- The spaces that matrices lead to. -/
inductive Space where
  | view
  | model

/-- The matrix that takes points to a space. -/
def Space.pointMatrix : Space → String
  | view => "uModelViewMatrix"
  | model => "uModelMatrix"

/-- The matrix that takes directions to a space. -/
def Space.directionMatrix : Space → String
  | view => "uModelViewNormalMatrix"
  | model => "uModelNormalMatrix"

/-! ## Morphing and skinning -/

/-- The number of morph targets of a stream: there are some if the active morph names the
stream. -/
def targetCount? (state : RenderState) (stream : String) : Option Nat :=
  (state.activeMorph.filter fun morph => morph.hasTarget stream).map fun morph =>
    morph.targetCount.toNat

/-- Weights scaled down to sum to at most one. -/
def boundedTerm (weights : Term) : Term :=
  .apply (.inlineCode
      "%output = %wts / max(1.0, abs(%wts.x) + abs(%wts.y) + abs(%wts.z) + abs(%wts.w));")
    [("wts", weights)] "output" .vec4

/-- The weights of the morph targets of a stream; directions use bounded weights. -/
def weightsTerm (stream : String) : Term :=
  if stream = "Normal" ∨ stream = "Tangent" then boundedTerm (.uniform .vec4 "uTargetWeights")
  else .uniform .vec4 "uTargetWeights"

/-- A quantity after morphing. -/
def morphTerm (state : RenderState) (quantity : Quantity) : Term :=
  match targetCount? state quantity.stream with
  | none => .input quantity.raw
  | some count =>
    .apply (.morphing count)
      (("vertex", .input quantity.raw) :: ("weights", weightsTerm quantity.stream) ::
        (List.range count).map fun i =>
          (s!"target{i}", .attr quantity.type s!"{quantity.stream}_{i}"))
      "result" .vec3

/-- The length of the bone palette. -/
def paletteLength (state : RenderState) : Nat :=
  ((state.activeSkin.map Skin.paletteSize).getD 0).toNat

/-- The bone palette. -/
def palette (state : RenderState) : Variable :=
  { name := "uBones", type := .vec4, storage := .uniform,
    arrayLength := some (paletteLength state) }

/-- The weighted matrix of the bones. -/
def boneTerm (state : RenderState) : Term :=
  .apply (.skinning ((state.activeSkin.map Skin.boneCount).getD 0).toNat)
    [("weights", .attr .vec4 "Weights"), ("bonesIndex", .attr .vec4 "Bones"),
      ("matrixPalette", .input (palette state))]
    "result" .mat4

/-- Positions are skinned as points, normals and tangents as directions. -/
def Quantity.skinning : Quantity → Operation
  | vertex => .transformPoint true
  | normal => .transformDirection true
  | tangent => .transformDirection true

/-- A quantity after morphing and skinning. -/
def skinTerm (state : RenderState) (quantity : Quantity) : Term :=
  if state.activeSkin.isSome then
    .apply quantity.skinning
      [("matrix", boneTerm state), ("vec", morphTerm state quantity)] "vec" .vec3
  else morphTerm state quantity

/-- Whether a quantity is morphed or skinned. -/
def isDeformed (state : RenderState) (quantity : Quantity) : Bool :=
  (targetCount? state quantity.stream).isSome || state.activeSkin.isSome

/-- **Only what is neither morphed nor skinned stays as it is.** -/
theorem skinTerm_eq_iff (state : RenderState) (quantity : Quantity) :
    skinTerm state quantity = .input quantity.raw ↔ isDeformed state quantity = false := by
  cases skinned : state.activeSkin.isSome with
  | true => simp [skinTerm, isDeformed, skinned]
  | false =>
      cases counted : targetCount? state quantity.stream with
      | none => simp [skinTerm, isDeformed, morphTerm, skinned, counted]
      | some count => simp [skinTerm, isDeformed, morphTerm, skinned, counted]

/-- What is morphed or skinned has three components. -/
theorem type?_skinTerm {state : RenderState} {quantity : Quantity}
    (deformed : isDeformed state quantity = true) :
    (skinTerm state quantity).type? = some .vec3 := by
  cases skinned : state.activeSkin.isSome with
  | true => simp [skinTerm, skinned, Term.type?]
  | false =>
      cases counted : targetCount? state quantity.stream with
      | none => simp [isDeformed, skinned, counted] at deformed
      | some count => simp [skinTerm, morphTerm, skinned, counted, Term.type?]

/-! ## Spaces -/

/-- A direction of unit length with the handedness of the tangent. -/
def handedTerm (direction : Term) : Term :=
  .apply .setAlpha
    [("color", .normalized direction .vec3), ("alpha", .input Quantity.tangent.raw)]
    "result" .vec4

/-- A quantity in local space. -/
def localTerm (state : RenderState) : Quantity → Term
  | .vertex => skinTerm state .vertex
  | .normal =>
    if isDeformed state .normal then .normalized (skinTerm state .normal) .vec3
    else .input Quantity.normal.raw
  | .tangent =>
    if isDeformed state .tangent then handedTerm (skinTerm state .tangent)
    else .input Quantity.tangent.raw

/-- A direction taken to a space. -/
def directionTerm (space : Space) (direction : Term) : Term :=
  .apply (.transformDirection false)
    [("matrix", .uniform .mat4 space.directionMatrix), ("vec", direction)] "vec" .vec3

/-- A quantity in view space or model space. -/
def spaceTerm (state : RenderState) (space : Space) : Quantity → Term
  | .vertex =>
    .apply (.transformPoint false)
      [("matrix", .uniform .mat4 space.pointMatrix),
        ("vec", localTerm state .vertex)] "vec" .vec4
  | .normal => .normalized (directionTerm space (localTerm state .normal)) .vec3
  | .tangent => handedTerm (directionTerm space (localTerm state .tangent))

/-! ## Constructions -/

/-- The constructions that can be asked for in the vertex stage. -/
inductive Transform where
  | targetWeights (stream : String)
  | morph (quantity : Quantity)
  | boneMatrix
  | skin (quantity : Quantity)
  | inLocal (quantity : Quantity)
  | inSpace (space : Space) (quantity : Quantity)

/-- How a construction is wired. -/
def Transform.wire (state : RenderState) : Transform → Wire Variable
  | targetWeights stream => Vertex.targetWeights stream
  | morph .vertex => morphVertex state
  | morph .normal => morphNormal state
  | morph .tangent => morphTangent state
  | boneMatrix => Vertex.boneMatrix state
  | skin .vertex => skinVertex state
  | skin .normal => skinNormal state
  | skin .tangent => skinTangent state
  | inLocal .vertex => localVertex state
  | inLocal .normal => localNormal state
  | inLocal .tangent => localTangent state
  | inSpace .view .vertex => viewVertex state
  | inSpace .view .normal => viewNormal state
  | inSpace .view .tangent => viewTangent state
  | inSpace .model .vertex => modelVertex state
  | inSpace .model .normal => modelNormal state
  | inSpace .model .tangent => modelTangent state

/-- What a construction should give. -/
def Transform.term (state : RenderState) : Transform → Term
  | targetWeights stream => weightsTerm stream
  | morph quantity => morphTerm state quantity
  | boneMatrix => boneTerm state
  | skin quantity => skinTerm state quantity
  | inLocal quantity => localTerm state quantity
  | inSpace space quantity => spaceTerm state space quantity

/-! ## Outputs -/

/-- The clip position: the projection of the position in view space, or a billboard at the
attribute itself. -/
def positionTerm (state : RenderState) : Term :=
  if state.billboard then
    .apply .billboard
      [("Vertex", .input Quantity.vertex.raw),
        ("ModelViewMatrix", .uniform .mat4 "uModelViewMatrix"),
        ("ProjectionMatrix", .uniform .mat4 "uProjectionMatrix")]
      "result" .vec4
  else
    .apply (.transformPoint false)
      [("matrix", .uniform .mat4 "uProjectionMatrix"), ("vec", spaceTerm state .view .vertex)]
      "vec" .vec4

/-- A copy of a term. -/
def copyTerm (source : Term) (type : DataType) : Term :=
  .apply .assign [("in", source)] "out" type

/-- The size of points. -/
def pointSizeTerm (state : RenderState) : Term :=
  copyTerm (if state.pointSize then .uniform .float "uPointSize" else .literal "1.0") .float

/-- The color of the vertex, or white where the geometry has none. -/
def vertexColorTerm : Term :=
  .apply (.inlineCode "%vcolor = %venabled == 1.0 ? %acolor : vec4(1.0, 1.0, 1.0, 1.0);")
    [("venabled", .uniform .float "uArrayColorEnabled"), ("acolor", .attr .vec4 "Color")]
    "vcolor" .vec4

/-- What a varying carries, by its name. -/
def varyingTerm? (state : RenderState) (name : String) : Option Term :=
  if name = "vViewVertex" then some (copyTerm (spaceTerm state .view .vertex) .vec4)
  else if name = "vViewNormal" then some (copyTerm (spaceTerm state .view .normal) .vec3)
  else if name = "vViewTangent" then some (copyTerm (spaceTerm state .view .tangent) .vec4)
  else if name = "vModelVertex" then some (copyTerm (spaceTerm state .model .vertex) .vec4)
  else if name = "vModelNormal" then some (copyTerm (spaceTerm state .model .normal) .vec3)
  else if name = "vModelTangent" then some (copyTerm (spaceTerm state .model .tangent) .vec4)
  else if name = "vVertexColor" then some vertexColorTerm
  else (texcoordSet? name).map fun set => copyTerm (.attr .vec2 s!"TexCoord{set.toNat}") .vec2

/-- What the results that constructions share stand for. -/
def sharedTerm? (state : RenderState) (key : String) : Option Term :=
  [("nTargetWeights", boundedTerm (.uniform .vec4 "uTargetWeights")),
    ("morphVertex", morphTerm state .vertex), ("morphNormal", morphTerm state .normal),
    ("morphTangent", morphTerm state .tangent), ("boneMatrix", boneTerm state),
    ("skinVertex", skinTerm state .vertex), ("skinNormal", skinTerm state .normal),
    ("skinTangent", skinTerm state .tangent), ("localNormal", localTerm state .normal),
    ("localTangent", localTerm state .tangent), ("viewVertex", spaceTerm state .view .vertex),
    ("viewNormal", spaceTerm state .view .normal),
    ("viewTangent", spaceTerm state .view .tangent),
    ("modelVertex", spaceTerm state .model .vertex),
    ("modelNormal", spaceTerm state .model .normal),
    ("modelTangent", spaceTerm state .model .tangent)].lookup key

end Vertex
end ShaderLoom
