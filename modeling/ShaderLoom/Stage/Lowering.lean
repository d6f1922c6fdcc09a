import ShaderLoom.Stage.Node

/-!
# Statements of nodes

How a node is written in GLSL: the statements that carry it out, and the helpers that the
statements call.

Operands are converted by constructors where their type differs from the type that the operation
works on; the type of a literal is not known, so literals are never converted.

## Main Definitions

* `Lowered` — statements and helpers
* `Operand.convert` — conversion to a type
* `Node.lower` — the statements of a node
-/

namespace ShaderLoom

/-- The statements that carry out a node and the helpers that they call. -/
structure Lowered where
  statements : List String := []
  helpers : List Helper := []
  deriving DecidableEq, Repr, Inhabited

/-- How the host writes nodes of a custom kind. -/
abbrev CustomRule := Node → Except Error Lowered

/-- The custom kinds that the host has registered. -/
abbrev Registry := List (String × CustomRule)

/-- Registers a rule, in place of any other for its kind. -/
def Registry.register (registry : Registry) (kind : String) (rule : CustomRule) : Registry :=
  (kind, rule) :: registry.filter fun entry => entry.1 != kind

/-- An expression of type `source` as an expression of type `target`.  The fourth component is
filled with `fill`. -/
def convert (expression : String) (source : Option DataType) (target : DataType)
    (fill : String) : String :=
  match source with
  | none => expression
  | some type =>
    if type = target then expression
    else
      match type, target with
      | .vec3, .vec4 => s!"vec4({expression}, {fill})"
      | .vec2, .vec4 => s!"vec4({expression}, 0.0, {fill})"
      | .vec2, .vec3 => s!"vec3({expression}, 0.0)"
      | _, _ => s!"{target.word}({expression})"

/-- An operand as an expression of a given type. -/
def Operand.convert (operand : Operand) (target : DataType) (fill : String) : String :=
  ShaderLoom.convert operand.text operand.type? target fill

namespace Lowered

/-- A statement that assigns an expression to a variable. -/
def assignment (target : Variable) (expression : String) : Lowered :=
  { statements := [s!"{target.name} = {expression};"] }

/-- The same statements with one more helper. -/
def withHelper (lowered : Lowered) (helper : Helper) : Lowered :=
  { lowered with helpers := lowered.helpers ++ [helper] }

end Lowered

namespace Node

/-- The error for a slot that is not there. -/
def missing (node : Node) (slot : String) : Error :=
  .missingSlot node.operation.label slot

/-- The operand of an input slot that has to be there. -/
def input (node : Node) (slot : String) : Except Error Operand :=
  match node.input? slot with
  | some operand => .ok operand
  | none => .error (node.missing slot)

/-- The variable of an output slot that has to be there. -/
def output (node : Node) (slot : String) : Except Error Variable :=
  match node.output? slot with
  | some v => .ok v
  | none => .error (node.missing slot)

/-! ## Code with slots -/

/-- The characters of slot names in code. -/
def isSlotPart (c : Char) : Bool :=
  c.isAlphanum || c == '_'

/-- The text of a slot: its input if there is one, else its output.  An empty name is a percent
sign that names no slot. -/
def slotText (node : Node) (slot : List Char) : Except Error (List Char) :=
  if slot.isEmpty then .ok ['%']
  else
    let name := String.ofList slot
    match node.input? name, node.output? name with
    | some operand, _ => .ok operand.text.toList
    | none, some v => .ok v.name.toList
    | none, none => .error (node.missing name)

/-- Replaces the slots in code.  After a percent sign, `reading` holds the characters of the
slot name so far, newest first. -/
def substitute (node : Node) :
    (reading : Option (List Char)) → List Char → Except Error (List Char)
  | none, [] => .ok []
  | none, c :: rest =>
    if c = '%' then node.substitute (some []) rest
    else do
      return c :: (← node.substitute none rest)
  | some slot, [] => node.slotText slot.reverse
  | some slot, c :: rest =>
    if isSlotPart c then node.substitute (some (c :: slot)) rest
    else do
      let text ← node.slotText slot.reverse
      if c = '%' then return text ++ (← node.substitute (some []) rest)
      else return text ++ c :: (← node.substitute none rest)

/-! ## The operations -/

def lowerAssign (node : Node) : Except Error Lowered := do
  let value ← node.input "in"
  let out ← node.output "out"
  return .assignment out (value.convert out.type "1.0")

def lowerInline (node : Node) (code : String) : Except Error Lowered := do
  let text ← node.substitute none code.toList
  return { statements := [String.ofList text] }

/-- A product of a matrix and a vector, in the order that the operation asks for. -/
def product (matrix vector : String) (inverse : Bool) : String :=
  if inverse then s!"{vector} * {matrix}" else s!"{matrix} * {vector}"

def lowerTransformPoint (node : Node) (inverse : Bool) : Except Error Lowered := do
  let matrix ← node.input "matrix"
  let vector ← node.input "vec"
  let out ← node.output "vec"
  if matrix.type? = some .mat3 then
    let result := product matrix.text (vector.convert .vec3 "1.0") inverse
    return .assignment out (convert result (some .vec3) out.type "1.0")
  else
    let point :=
      match vector.type? with
      | some .vec4 => s!"vec4({vector.text}.xyz, 1.0)"
      | some type => convert vector.text (some type) .vec4 "1.0"
      | none => convert vector.text (some .vec3) .vec4 "1.0"
    let result := product matrix.text point inverse
    return .assignment out (convert result (some .vec4) out.type "1.0")

def lowerTransformDirection (node : Node) (inverse : Bool) : Except Error Lowered := do
  let matrix ← node.input "matrix"
  let vector ← node.input "vec"
  let out ← node.output "vec"
  let direction := vector.convert .vec3 "0.0"
  let result :=
    if matrix.type? = some .mat3 then product matrix.text direction inverse
    else
      let product := product matrix.text s!"vec4({direction}, 0.0)" inverse
      s!"vec3({product})"
  return .assignment out (convert result (some .vec3) out.type "0.0")

def lowerNormalize (node : Node) : Except Error Lowered := do
  let vector ← node.input "vec"
  let out ← node.output "result"
  let argument := vector.convert out.type "0.0"
  return .assignment out s!"normalize({argument})"

def lowerSetAlpha (node : Node) : Except Error Lowered := do
  let color ← node.input "color"
  let alpha ← node.input "alpha"
  let out ← node.output "result"
  let component := if alpha.type? = some .vec4 then alpha.text ++ ".w" else alpha.text
  let base := color.convert .vec3 "1.0"
  return .assignment out s!"vec4({base}, {component})"

def lowerSkinning (node : Node) (boneCount : Nat) : Except Error Lowered := do
  let weights ← node.input "weights"
  let bones ← node.input "bonesIndex"
  let palette ← node.input "matrixPalette"
  let out ← node.output "result"
  let helper : Helper := {
    snippet := "skinning"
    parameters := [("palette", palette.text), ("bone_count", toString boneCount)] }
  return (Lowered.assignment out s!"skeletalTransform({weights.text}, {bones.text})").withHelper
    helper

/-- The operands of a number of target slots, from the slot at `index` on. -/
def targetsFrom (node : Node) : (count index : Nat) → Except Error (List Operand)
  | 0, _ => .ok []
  | count + 1, index => do
    let first ← node.input s!"target{index}"
    return first :: (← node.targetsFrom count (index + 1))

def lowerMorphing (node : Node) (targetCount : Nat) : Except Error Lowered := do
  let base ← node.input "vertex"
  let weights ← node.input "weights"
  let out ← node.output "result"
  let targets ← node.targetsFrom targetCount 0
  let arguments := ", ".intercalate
    (base.convert .vec3 "1.0" :: weights.text ::
      targets.map fun target => target.convert .vec3 "1.0")
  let call := s!"morphTransform{targetCount}({arguments})"
  let helper : Helper := {
    snippet := "morphing"
    parameters := [("target_count", toString targetCount)] }
  return (Lowered.assignment out (convert call (some .vec3) out.type "1.0")).withHelper helper

def lowerBillboard (node : Node) : Except Error Lowered := do
  let vertex ← node.input "Vertex"
  let modelView ← node.input "ModelViewMatrix"
  let projection ← node.input "ProjectionMatrix"
  let out ← node.output "result"
  let position := vertex.convert .vec3 "1.0"
  let call := s!"billboard({position}, {modelView.text}, {projection.text})"
  return (Lowered.assignment out call).withHelper { snippet := "billboard" }

def lowerTextureSample (node : Node) : Except Error Lowered := do
  let sampler ← node.input "sampler"
  let uv ← node.input "uv"
  let out ← node.output "color"
  let coordinates := uv.convert .vec2 "1.0"
  let sample := s!"texture2D({sampler.text}, {coordinates})"
  return .assignment out (convert sample (some .vec4) out.type "1.0")

def lowerCall (node : Node) (function : String) (helper : Option Helper) : Lowered :=
  let arguments := ", ".intercalate (node.inputs.map fun entry => entry.2.text)
  let call := s!"{function}({arguments})"
  let statement :=
    match node.outputs with
    | [] => s!"{call};"
    | (_, out) :: _ => s!"{out.name} = {call};"
  { statements := [statement], helpers := helper.toList }

/-- The statements of a node. -/
def lower (registry : Registry) (node : Node) : Except Error Lowered :=
  match node.operation with
  | .assign => node.lowerAssign
  | .inlineCode code => node.lowerInline code
  | .transformPoint inverse => node.lowerTransformPoint inverse
  | .transformDirection inverse => node.lowerTransformDirection inverse
  | .normalize => node.lowerNormalize
  | .setAlpha => node.lowerSetAlpha
  | .skinning boneCount => node.lowerSkinning boneCount
  | .morphing targetCount => node.lowerMorphing targetCount
  | .billboard => node.lowerBillboard
  | .textureSample => node.lowerTextureSample
  | .call function helper => .ok (node.lowerCall function helper)
  | .custom kind =>
    match registry.lookup kind with
    | some rule => rule node
    | none => .error (.unregisteredKind kind)

end Node

/-! ## Fixed rules -/

/-- A rule for a custom kind that always gives the same statements. -/
structure FixedRule where
  statements : List String
  helpers : List Helper := []
  /-- An output slot that the node has to have. -/
  requiredSlot : Option String := none
  /-- Whether a comment that describes the node is added. -/
  describes : Bool := false
  deriving DecidableEq, Repr, Inhabited

/-- A comment that names the slots of a node and what fills them. -/
def Node.describe (node : Node) : String :=
  let inputs :=
    ", ".intercalate (node.inputs.map fun (slot, operand) => s!"{slot}={operand.text}")
  let outputs := ", ".intercalate (node.outputs.map fun (slot, v) => s!"{slot}={v.name}")
  s!"// {node.operation.label}({inputs}) -> ({outputs})"

/-- A fixed rule as a rule for a custom kind. -/
def FixedRule.lower (rule : FixedRule) : CustomRule := fun node =>
  let lowered : Lowered := {
    statements := rule.statements ++ if rule.describes then [node.describe] else []
    helpers := rule.helpers }
  match rule.requiredSlot with
  | none => .ok lowered
  | some slot => (node.output slot).map fun _ => lowered

end ShaderLoom
