import ShaderLoom.Stage.Source
import ShaderLoom.Text.Quoted

/-!
# Descriptions of compilers

A line that shows how a compiler is set up, for diagnosis.
-/

namespace ShaderLoom

/-- A value that may be absent. -/
def optionSummary {α : Type} (shown : α → String) : Option α → String
  | none => "None"
  | some value =>
    let text := shown value
    s!"Some({text})"

/-- The fields of a record under its name. -/
def recordSummary (name : String) (fields : List (String × String)) : String :=
  let parts := ", ".intercalate (fields.map fun (field, value) => s!"{field}: {value}")
  s!"{name} \x7b {parts} \x7d"

/-- A description of settings. -/
def Settings.summary (settings : Settings) : String :=
  recordSummary "CompilerSettings" [
    ("glsl_version", optionSummary Text.quoted settings.glslVersion),
    ("precision", optionSummary Precision.label settings.precision),
    ("dump_source", if settings.dumpSource then "true" else "false")]

/-- A description of a registry: the kinds in it. -/
def Registry.summary (registry : Registry) : String :=
  let kinds := ", ".intercalate (registry.map fun entry => Text.quoted entry.1)
  recordSummary "NodeRegistry" [("custom", s!"[{kinds}]")]

/-- A description of a compiler; snippets are not shown. -/
def Compiler.summary (compiler : Compiler) : String :=
  recordSummary "GraphCompiler" [
    ("library", "ShaderLibrary \x7b .. \x7d"),
    ("registry", compiler.registry.summary),
    ("settings", compiler.settings.summary)]

end ShaderLoom
