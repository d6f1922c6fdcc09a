import ShaderLoom.Document
import ShaderLoom.RenderState.Basic

/-!
# Persistence of render states

Render states as documents.  Writing names every field.  Reading gives absent fields of the
render state their defaults, while the records inside it have to be complete.
-/

namespace ShaderLoom
namespace Skin

/-- Reads skinning. -/
def ofDocument? (document : Document) : Option Skin := do
  guard (document.isRecord 1)
  let boneCount ← document.requirePart 0 "bone_count" Document.readWord32
  return { boneCount }

/-- Writes skinning. -/
def toDocument (skin : Skin) : Document :=
  .object [("bone_count", .ofWord32 skin.boneCount)]

end Skin

namespace Morph

/-- Reads morphing. -/
def ofDocument? (document : Document) : Option Morph := do
  guard (document.isRecord 2)
  let targetCount ← document.requirePart 0 "target_count" Document.readWord32
  let targetNames ← document.requirePart 1 "target_names" (Document.readList Document.readText)
  return { targetCount, targetNames }

/-- Writes morphing. -/
def toDocument (morph : Morph) : Document :=
  .object [("target_count", .ofWord32 morph.targetCount),
    ("target_names", .ofList .text morph.targetNames)]

end Morph

namespace LightKind

/-- All kinds of light. -/
def all : List LightKind := [directional, point, spot, hemi]

/-- The name of a kind of light in documents. -/
def label : LightKind → String
  | directional => "Directional"
  | point => "Point"
  | spot => "Spot"
  | hemi => "Hemi"

end LightKind

namespace Light

/-- Reads a light. -/
def ofDocument? (document : Document) : Option Light := do
  guard (document.isRecord 2)
  let kind ← document.requirePart 0 "kind" (Document.readMember LightKind.all LightKind.label)
  let castsShadow ← document.requirePart 1 "casts_shadow" Document.readBool
  return { kind, castsShadow }

/-- Writes a light. -/
def toDocument (light : Light) : Document :=
  .object [("kind", .text light.kind.label), ("casts_shadow", .bool light.castsShadow)]

end Light

namespace ShadowTechnique

/-- All techniques. -/
def all : List ShadowTechnique := [hard, pcf, esm, vsm]

/-- The name of a technique in documents. -/
def label : ShadowTechnique → String
  | hard => "Hard"
  | pcf => "Pcf"
  | esm => "Esm"
  | vsm => "Vsm"

/-- Reads a technique. -/
def ofDocument? : Document → Option ShadowTechnique :=
  Document.readMember all label

/-- Writes a technique. -/
def toDocument (technique : ShadowTechnique) : Document :=
  .text technique.label

end ShadowTechnique

namespace Texture

/-- Reads a texture. -/
def ofDocument? (document : Document) : Option Texture := do
  guard (document.isRecord 2)
  let unit ← document.requirePart 0 "unit" Document.readWord32
  let texcoord ← document.requirePart 1 "texcoord" Document.readWord32
  return { unit, texcoord }

/-- Writes a texture. -/
def toDocument (texture : Texture) : Document :=
  .object [("unit", .ofWord32 texture.unit), ("texcoord", .ofWord32 texture.texcoord)]

end Texture

namespace Streams

/-- Reads a set of streams. -/
def ofDocument? : Document → Option Streams
  | .text value => ofText? value
  | _ => none

/-- Writes a set of streams. -/
def toDocument (streams : Streams) : Document :=
  .text streams.text

end Streams

namespace RenderState

/-- Reads a render state. -/
def ofDocument? (document : Document) : Option RenderState := do
  guard (document.isRecord 8)
  let skin ← document.readPart 0 "skinning" none (Document.readOption Skin.ofDocument?)
  let morph ← document.readPart 1 "morph" none (Document.readOption Morph.ofDocument?)
  let billboard ← document.readPart 2 "billboard" false Document.readBool
  let pointSize ← document.readPart 3 "point_size" false Document.readBool
  let streams ← document.readPart 4 "vertex_streams" Streams.standard Streams.ofDocument?
  let lights ← document.readPart 5 "lights" [] (Document.readList Light.ofDocument?)
  let shadow ← document.readPart 6 "shadow" none
      (Document.readOption ShadowTechnique.ofDocument?)
  let textures ← document.readPart 7 "texture_units" [] (Document.readList Texture.ofDocument?)
  return { skin, morph, billboard, pointSize, streams, lights, shadow, textures }

/-- Writes a render state. -/
def toDocument (state : RenderState) : Document :=
  .object [
    ("skinning", .ofOption Skin.toDocument state.skin),
    ("morph", .ofOption Morph.toDocument state.morph),
    ("billboard", .bool state.billboard),
    ("point_size", .bool state.pointSize),
    ("vertex_streams", state.streams.toDocument),
    ("lights", .ofList Light.toDocument state.lights),
    ("shadow", .ofOption ShadowTechnique.toDocument state.shadow),
    ("texture_units", .ofList Texture.toDocument state.textures)]

end RenderState
end ShaderLoom
