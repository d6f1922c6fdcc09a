/-!
# Faults of templates

The ways in which a template can be refused or can fail while it is filled in.
-/

namespace ShaderLoom

/-- Why a template was refused or failed. -/
inductive TemplateFault where
  /-- The text is not a template. -/
  | malformed
  /-- A name was used that the context does not hold. -/
  | undefinedName
  /-- An operation was applied to a value it is not made for. -/
  | invalidOperation
  deriving DecidableEq, Repr, Inhabited

end ShaderLoom
