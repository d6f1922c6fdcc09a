import ShaderLoom.Document

/-!
# Settings

Choices of the host that shape every generated stage and are not part of a render state.
-/

namespace ShaderLoom

/-- The default precision of floating-point numbers. -/
inductive Precision where
  | low
  | medium
  | high
  deriving DecidableEq, Repr, Inhabited

namespace Precision

/-- The keyword of a precision. -/
def word : Precision → String
  | low => "lowp"
  | medium => "mediump"
  | high => "highp"

/-- The name of a precision in documents. -/
def label : Precision → String
  | low => "Low"
  | medium => "Medium"
  | high => "High"

/-- All precisions. -/
def all : List Precision := [low, medium, high]

end Precision

/-- Choices of the host. -/
structure Settings where
  /-- The first line of every stage. -/
  glslVersion : Option String := some "#version 100"
  /-- The default precision, for dialects that have one. -/
  precision : Option Precision := some .high
  /-- Whether generated stages are logged. -/
  dumpSource : Bool := true
  deriving DecidableEq, Repr, Inhabited

namespace Settings

/-- Reads settings; absent fields have their defaults. -/
def ofDocument? (document : Document) : Option Settings := do
  guard (document.isRecord 3)
  let standard : Settings := {}
  let glslVersion ← document.readPart 0 "glsl_version" standard.glslVersion
    (Document.readOption Document.readText)
  let precision ← document.readPart 1 "precision" standard.precision
    (Document.readOption (Document.readMember Precision.all Precision.label))
  let dumpSource ← document.readPart 2 "dump_source" standard.dumpSource Document.readBool
  return { glslVersion, precision, dumpSource }

/-- Writes settings. -/
def toDocument (settings : Settings) : Document :=
  .object [
    ("glsl_version", .ofOption .text settings.glslVersion),
    ("precision", .ofOption (fun precision => .text precision.label) settings.precision),
    ("dump_source", .bool settings.dumpSource)]

end Settings
end ShaderLoom
