import ShaderLoom.Glsl.Basic
import ShaderLoom.Snippet.Library

/-!
# Nodes

A node is one step of a computation on shader variables: an operation, the operands in its named
input slots and the variables in its named output slots.

## Main Definitions

* `Operation` — what a node computes
* `Operand` — what fills an input slot
* `Node` — an operation with its slots
-/

namespace ShaderLoom

/-- What a node computes. -/
inductive Operation where
  /-- A copy, converted to the type of its target. -/
  | assign
  /-- A statement written out, in which a percent sign and a slot name stand for the slot. -/
  | inlineCode (code : String)
  /-- A matrix applied to a point; `inverse` puts the vector on the left. -/
  | transformPoint (inverse : Bool)
  /-- A matrix applied to a direction; `inverse` puts the vector on the left. -/
  | transformDirection (inverse : Bool)
  | normalize
  /-- A color with its fourth component replaced. -/
  | setAlpha
  /-- The weighted matrix of the bones of a vertex. -/
  | skinning (boneCount : Nat)
  /-- A vertex value blended with its morph targets. -/
  | morphing (targetCount : Nat)
  /-- The clip position of a vertex that faces the screen. -/
  | billboard
  | textureSample
  /-- A call of a function, which a snippet may define. -/
  | call (function : String) (helper : Option Helper)
  /-- An operation that the host supplies. -/
  | custom (kind : String)
  deriving DecidableEq, Repr, Inhabited

/-- The name of an operation in messages. -/
def Operation.label : Operation → String
  | assign => "Assign"
  | inlineCode _ => "InlineCode"
  | transformPoint _ => "MatrixMultPosition"
  | transformDirection _ => "MatrixMultDirection"
  | normalize => "Normalize"
  | setAlpha => "SetAlpha"
  | skinning _ => "Skinning"
  | morphing _ => "Morphing"
  | billboard => "Billboard"
  | textureSample => "TextureSample"
  | call _ _ => "Call"
  | custom kind => kind

/-- What fills an input slot: a variable or an expression in GLSL. -/
inductive Operand where
  | read (v : Variable)
  | literal (text : String)
  deriving DecidableEq, Repr, Inhabited

namespace Operand

/-- The text of an operand in a statement. -/
def text : Operand → String
  | read v => v.name
  | literal text => text

/-- The type of an operand, where it is known. -/
def type? : Operand → Option DataType
  | read v => some v.type
  | literal _ => none

/-- The variable of an operand, if it is one. -/
def source? : Operand → Option Variable
  | read v => some v
  | literal _ => none

/-- An operand with its variable replaced. -/
def mapVariable (f : Variable → Variable) : Operand → Operand
  | read v => read (f v)
  | literal text => literal text

end Operand

/-- One step of a computation on shader variables. -/
structure Node where
  operation : Operation
  inputs : List (String × Operand) := []
  outputs : List (String × Variable) := []
  deriving DecidableEq, Repr, Inhabited

namespace Node

/-- The operand in the first input slot of a given name. -/
def input? (node : Node) (slot : String) : Option Operand :=
  node.inputs.lookup slot

/-- The variable in the first output slot of a given name. -/
def output? (node : Node) (slot : String) : Option Variable :=
  node.outputs.lookup slot

/-- The variables that a node reads, slot by slot. -/
def reads (node : Node) : List Variable :=
  node.inputs.filterMap fun entry => entry.2.source?

/-- The variables that a node writes, slot by slot. -/
def writes (node : Node) : List Variable :=
  node.outputs.map Prod.snd

theorem mem_writes {node : Node} {slot : String} {v : Variable}
    (output : (slot, v) ∈ node.outputs) : v ∈ node.writes :=
  List.mem_map.mpr ⟨(slot, v), output, rfl⟩

/-- Whether two nodes compute the same: equal operations on equal inputs. -/
def sameComputation (a b : Node) : Bool :=
  a.operation == b.operation && a.inputs == b.inputs

/-- A node with the variables that it reads replaced. -/
def mapReads (f : Variable → Variable) (node : Node) : Node :=
  { node with inputs := node.inputs.map fun entry => (entry.1, entry.2.mapVariable f) }

@[simp] theorem writes_mapReads (f : Variable → Variable) (node : Node) :
    (node.mapReads f).writes = node.writes :=
  rfl

end Node
end ShaderLoom
