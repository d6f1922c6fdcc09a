import ShaderLoom.Document
import ShaderLoom.Template.Fault
import ShaderLoom.Text.Decimal

/-!
# Values in templates

What the names in a template stand for: plain data from the context, and two things that
templates bring along, the functions that they know and the state of the loop around a place.

Only data can be taken apart.  Functions and the state of a loop count as true and are equal to
nothing.

## Main Definitions

* `Value`, `Context`
* `Value.render`, `Value.isTrue`, `Value.items`, `Value.toInteger`, `Value.range`
-/

namespace ShaderLoom
namespace Template

/-- What a name stands for. -/
inductive Value where
  | data (document : Document)
  | function
  /-- The position in a loop and the number of its rounds. -/
  | progress (index rounds : Nat)
  deriving Inhabited

/-- The values of names; the first entry for a name counts. -/
abbrev Context := List (String × Value)

/-- The names of the functions. -/
def functionNames : List String :=
  ["range", "dict", "debug", "namespace"]

/-- What a name stands for in a context.  A context may give the name of a function another
meaning. -/
def Context.value? (context : Context) (name : String) : Option Value :=
  match context.lookup name with
  | some value => some value
  | none => if functionNames.contains name then some .function else none

namespace Value

/-- A text as a value. -/
def ofText (text : String) : Value :=
  data (.text text)

/-- The text that a value leaves in a template. -/
def render : Value → Except TemplateFault String
  | data (.text value) => .ok value
  | data document => .ok document.describe
  | function => .error .invalidOperation
  | progress index rounds => .ok s!"<loop {index}/{rounds}>"

/-- Whether a value counts as true. -/
def isTrue : Value → Bool
  | data .null => false
  | data (.bool value) => value
  | data (.integer value) => value != 0
  | data (.real value) => value.significand != 0
  | data (.text value) => !value.isEmpty
  | data (.list items) => !items.isEmpty
  | data (.object fields) => !fields.isEmpty
  | function => true
  | progress _ _ => true

/-- Whether two values are equal. -/
def equals : Value → Value → Bool
  | data a, data b => a.same b
  | _, _ => false

/-- What a loop over a value runs through: the characters of a text, the items of a list or the
names of an object. -/
def items : Value → Except TemplateFault (List Document)
  | data .null => .ok []
  | data (.text value) => .ok (value.toList.map fun c => .text c.toString)
  | data (.list items) => .ok items
  | data (.object fields) => .ok (fields.map fun (name, _) => .text name)
  | _ => .error .invalidOperation

/-- A value converted to an integer. -/
def toInteger : Value → Except TemplateFault Int
  | data .null => .ok 0
  | data (.bool value) => .ok (if value then 1 else 0)
  | data (.integer value) => .ok value
  | data (.real value) => .ok (Text.saturate (Text.signed value.negative value.floor))
  | data (.text value) =>
    match Text.readInteger value.toList with
    | some n => .ok n
    | none => .error .invalidOperation
  | _ => .error .invalidOperation

/-- The largest number of elements of a range. -/
def maxRange : Nat := 100000

/-- The integers from zero up to a value, which has to be a 64-bit integer of moderate size. -/
def range : Value → Except TemplateFault (List Document)
  | data (.integer value) =>
    if value < Int64.minValue.toInt ∨ maxRange < value then .error .invalidOperation
    else .ok ((List.range value.toNat).map fun (i : Nat) => .integer i)
  | _ => .error .invalidOperation

end Value
end Template
end ShaderLoom
