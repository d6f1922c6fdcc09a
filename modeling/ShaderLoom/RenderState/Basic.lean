import ShaderLoom.Error
import ShaderLoom.RenderState.Streams

/-!
# Render states

What a draw call asks of its shaders: skinning, morphing, billboarding, point sizes, lights,
shadows and textures, together with the vertex streams of the geometry.

A feature can be asked for and still have no effect: skinning without bones, morphing without
targets, lights on a geometry without normals, textures without their coordinates.  The *active*
features are those that shape the generated shaders.

## Main Definitions

* `RenderState` — everything that can change the generated shaders
* `RenderState.validate` — the one limit that a render state has to respect
* `RenderState.activeSkin`, `activeMorph`, `activeLights`, `activeTextures` — the active
  features
* `RenderState.effectiveStreams` — the streams that the generated shaders read
-/

namespace ShaderLoom

/-- Skinning with a palette of bones. -/
structure Skin where
  boneCount : UInt32
  deriving DecidableEq, Repr, Inhabited

/-- The length of the bone palette: three rows of a matrix for each bone. -/
def Skin.paletteSize (skin : Skin) : UInt32 :=
  skin.boneCount * 3

/-- Morphing towards a number of targets, for the vertex streams that are named. -/
structure Morph where
  targetCount : UInt32
  targetNames : List String
  deriving DecidableEq, Repr, Inhabited

namespace Morph

/-- Whether a stream has morph targets. -/
def hasTarget (morph : Morph) (stream : String) : Bool :=
  morph.targetNames.contains stream

/-- Adds a name to an ascending list of names, unless it is there. -/
def insertName (name : String) : List String → List String
  | [] => [name]
  | first :: rest =>
    if name < first then name :: first :: rest
    else if name = first then first :: rest
    else first :: insertName name rest

/-- The target names in ascending order, each once. -/
def canonicalNames (morph : Morph) : List String :=
  morph.targetNames.foldr insertName []

end Morph

/-- The kinds of light. -/
inductive LightKind where
  | directional
  | point
  | spot
  | hemi
  deriving DecidableEq, Repr, Inhabited

/-- The name of a kind of light inside generated shaders. -/
def LightKind.word : LightKind → String
  | directional => "directional"
  | point => "point"
  | spot => "spot"
  | hemi => "hemi"

/-- A light source. -/
structure Light where
  kind : LightKind
  castsShadow : Bool
  deriving DecidableEq, Repr, Inhabited

/-- The techniques for shadows. -/
inductive ShadowTechnique where
  | hard
  | pcf
  | esm
  | vsm
  deriving DecidableEq, Repr, Inhabited

/-- The name of a technique inside generated shaders. -/
def ShadowTechnique.word : ShadowTechnique → String
  | hard => "hard"
  | pcf => "pcf"
  | esm => "esm"
  | vsm => "vsm"

/-- A texture: the unit it is bound to and the set of coordinates it is sampled at. -/
structure Texture where
  unit : UInt32
  texcoord : UInt32
  deriving DecidableEq, Repr, Inhabited

/-- What a draw call asks of its shaders. -/
structure RenderState where
  skin : Option Skin := none
  morph : Option Morph := none
  billboard : Bool := false
  pointSize : Bool := false
  streams : Streams := Streams.standard
  lights : List Light := []
  shadow : Option ShadowTechnique := none
  textures : List Texture := []
  deriving DecidableEq, Repr, Inhabited

namespace RenderState

/-- Refuses a render state with more morph targets than there are weights. -/
def validate (state : RenderState) : Except Error Unit :=
  match state.morph with
  | none => .ok ()
  | some morph =>
    if maxMorphTargets < morph.targetCount then .error (.tooManyMorphTargets morph.targetCount)
    else .ok ()

/-- A geometry without positions draws nothing. -/
def isDegenerate (state : RenderState) : Bool :=
  !state.streams.contains Streams.position

/-- The skinning that has an effect. -/
def activeSkin (state : RenderState) : Option Skin :=
  state.skin.filter fun skin => 0 < skin.boneCount

/-- The morphing that has an effect. -/
def activeMorph (state : RenderState) : Option Morph :=
  state.morph.filter fun morph => 0 < morph.targetCount

/-- The lights that have an effect: none without normals. -/
def activeLights (state : RenderState) : List Light :=
  if state.streams.contains Streams.normal then state.lights else []

/-- Whether the coordinates of a texture are there. -/
def hasTexcoord (state : RenderState) (texture : Texture) : Bool :=
  match Streams.texcoord? texture.texcoord with
  | none => false
  | some stream => state.streams.contains stream

/-- The textures that have an effect. -/
def activeTextures (state : RenderState) : List Texture :=
  state.textures.filter state.hasTexcoord

/-- The streams that the generated shaders read. -/
def effectiveStreams (state : RenderState) : Streams :=
  let base := state.streams.inter (Streams.position.union Streams.color)
  let lit := if state.activeLights.isEmpty then base else base.union Streams.normal
  (state.activeTextures.filterMap fun texture => Streams.texcoord? texture.texcoord).foldl
    Streams.union lit

/-- Whether some active light casts a shadow that a technique receives. -/
def receivesShadows (state : RenderState) : Bool :=
  state.shadow.isSome && state.activeLights.any fun light => light.castsShadow

/-- The shadow technique that has an effect. -/
def activeShadow (state : RenderState) : Option ShadowTechnique :=
  if state.receivesShadows then state.shadow else none

end RenderState
end ShaderLoom
