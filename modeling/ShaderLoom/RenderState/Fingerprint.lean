import ShaderLoom.Digest.Xxh3
import ShaderLoom.RenderState.Basic

/-!
# Fingerprints

The key under which the shaders of a render state are cached.  It is the digest of a canonical
encoding of the active features: every list is preceded by its length, and the names of morph
targets are put in order and stripped of repeats.

## Main Definitions

* `RenderState.canonicalBytes` — the encoding
* `RenderState.fingerprint` — its digest
* `RenderState.variantName` — a readable name for the generated shaders
-/

namespace ShaderLoom

/-- The key under which the shaders of a render state are cached. -/
abbrev Fingerprint := Digest

/-! ## Encoding of the parts of a render state as bytes -/

namespace Encoding

/-- A truth value as one byte. -/
def flag (value : Bool) : UInt8 :=
  if value then 1 else 0

/-- A word as four bytes, low byte first. -/
def word32 (word : UInt32) : List UInt8 :=
  [word.toUInt8, (word >>> 8).toUInt8, (word >>> 16).toUInt8, (word >>> 24).toUInt8]

/-- A length as four bytes. -/
def length (n : Nat) : List UInt8 :=
  word32 (UInt32.ofNat n)

/-- A list: its length, then its items. -/
def items {α : Type} (encode : α → List UInt8) (values : List α) : List UInt8 :=
  length values.length ++ values.flatMap encode

/-- A text: its length, then its bytes in UTF-8. -/
def text (value : String) : List UInt8 :=
  length value.utf8ByteSize ++ value.toUTF8.data.toList

/-- A value that may be absent, after a byte that says whether it is there. -/
def option {α : Type} (encode : α → List UInt8) : Option α → List UInt8
  | none => [0]
  | some value => 1 :: encode value

/-- The number of bones. -/
def skin (value : Skin) : List UInt8 :=
  word32 value.boneCount

/-- The number of targets and the names in canonical order. -/
def morph (value : Morph) : List UInt8 :=
  word32 value.targetCount ++ items text value.canonicalNames

/-- The number of a kind of light. -/
def lightKind : LightKind → UInt8
  | .directional => 0
  | .point => 1
  | .spot => 2
  | .hemi => 3

/-- The kind of a light and whether it casts a shadow. -/
def light (value : Light) : List UInt8 :=
  [lightKind value.kind, flag value.castsShadow]

/-- The number of a shadow technique; zero stands for no shadows. -/
def shadow : Option ShadowTechnique → UInt8
  | none => 0
  | some .hard => 1
  | some .pcf => 2
  | some .esm => 3
  | some .vsm => 4

/-- The unit of a texture and its set of coordinates. -/
def texture (value : Texture) : List UInt8 :=
  word32 value.unit ++ word32 value.texcoord

end Encoding

namespace RenderState

/-- The canonical encoding of the active features of a render state. -/
def canonicalBytes (state : RenderState) : List UInt8 :=
  Encoding.option Encoding.skin state.activeSkin ++
  Encoding.option Encoding.morph state.activeMorph ++
  [Encoding.flag state.billboard, Encoding.flag state.pointSize] ++
  Encoding.word32 state.effectiveStreams.bits ++
  Encoding.items Encoding.light state.activeLights ++
  [Encoding.shadow state.activeShadow] ++
  Encoding.items Encoding.texture state.activeTextures

/-- The key under which the shaders of a render state are cached. -/
def fingerprint (state : RenderState) : Fingerprint :=
  Digest.ofBytes ⟨state.canonicalBytes.toArray⟩

/-- The parts of the name of a render state, one for each active feature. -/
def variantParts (state : RenderState) : List String :=
  (match state.activeMorph with
    | some morph => [s!"Morph{morph.targetCount}"]
    | none => []) ++
  (match state.activeSkin with
    | some skin => [s!"Skin{skin.boneCount}"]
    | none => []) ++
  (if state.activeLights.isEmpty then [] else [s!"L{state.activeLights.length}"]) ++
  (match state.activeShadow with
    | some technique => [s!"Shadow-{technique.word}"]
    | none => []) ++
  (if state.activeTextures.isEmpty then [] else [s!"T{state.activeTextures.length}"]) ++
  (if state.billboard then ["Billboard"] else []) ++
  (if state.pointSize then ["PointSize"] else [])

/-- A readable name for the shaders of a render state. -/
def variantName (state : RenderState) : String :=
  if state.variantParts.isEmpty then "Base" else "_".intercalate state.variantParts

end RenderState
end ShaderLoom
