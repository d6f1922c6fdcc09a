import ShaderLoom.Text.Double
import ShaderLoom.Text.Quoted

/-!
# Documents

The values that configuration files and the contexts of templates are made of, and how records
are read from them.

A record may be written in two ways: as an object with named fields, of which unknown ones are
ignored, or as a list of its fields in order.  A member of an enumeration is its name, or an
object with that name as its only field and no value.

## Main Definitions

* `Document` — a value made of plain data
* `Document.ofNumber` — the number that a decimal stands for
* `Document.describe` — the text of a document
* `Document.part?` — a field of a record in either form
* `Document.readPart`, `Document.requirePart` — reading a field with and without a default
* `Document.readMember` — reading a member of an enumeration
-/

namespace ShaderLoom

/-- A value made of plain data. -/
inductive Document where
  | null
  | bool (value : Bool)
  /-- A number that is written as an integer. -/
  | integer (value : Int)
  /-- A number in any other notation; no configuration holds one. -/
  | real (value : Text.Double)
  | text (value : String)
  | list (items : List Document)
  | object (fields : List (String × Document))
  deriving Inhabited

namespace Document

/-- The number `mantissa / 10 ^ places`.  Without places it is an integer, as long as it fits a
word of 64 bits, signed or not. -/
def ofNumber (mantissa : Int) (places : Nat) : Document :=
  if places = 0 ∧ Int64.minValue.toInt ≤ mantissa ∧ mantissa < UInt64.size then integer mantissa
  else real (.nearest (mantissa < 0) mantissa.natAbs (Nat.pow 10 places))

mutual

/-- The text of a document: words for the constants, texts in quotes, lists in brackets and
objects in braces. -/
def describe : Document → String
  | null => "None"
  | bool value => if value then "True" else "False"
  | integer value => toString value
  | real value => value.render
  | text value => Text.quoted value
  | list items => "[" ++ ", ".intercalate (describeItems items) ++ "]"
  | object fields => "\x7b" ++ ", ".intercalate (describeFields fields) ++ "\x7d"

/-- The texts of the items of a list. -/
def describeItems : List Document → List String
  | [] => []
  | item :: rest => item.describe :: describeItems rest

/-- The texts of the fields of an object. -/
def describeFields : List (String × Document) → List String
  | [] => []
  | (name, value) :: rest => (Text.quoted name ++ ": " ++ value.describe) :: describeFields rest

end

mutual

/-- Whether two documents are the same. -/
def same : Document → Document → Bool
  | null, null => true
  | bool a, bool b => a == b
  | integer a, integer b => a == b
  | real a, real b => a == b
  | text a, text b => a == b
  | list a, list b => sameItems a b
  | object a, object b => sameFields a b
  | _, _ => false

/-- Whether two lists have the same items. -/
def sameItems : List Document → List Document → Bool
  | [], [] => true
  | a :: restA, b :: restB => same a b && sameItems restA restB
  | _, _ => false

/-- Whether two objects have the same fields, in the same order. -/
def sameFields : List (String × Document) → List (String × Document) → Bool
  | [], [] => true
  | (nameA, a) :: restA, (nameB, b) :: restB =>
      nameA == nameB && same a b && sameFields restA restB
  | _, _ => false

end

/-- Whether a document can be a record of at most `size` fields. -/
def isRecord (size : Nat) : Document → Bool
  | object _ => true
  | list items => items.length ≤ size
  | _ => false

/-- The field of a record with a given name, or at a given position of the list form. -/
def part? (position : Nat) (name : String) : Document → Option Document
  | object fields => fields.lookup name
  | list items => items[position]?
  | _ => none

/-- Reads a field that has a default. -/
def readPart {α : Type} (position : Nat) (name : String) (default : α)
    (read : Document → Option α) (document : Document) : Option α :=
  match document.part? position name with
  | none => some default
  | some part => read part

/-- Reads a field that has to be there. -/
def requirePart {α : Type} (position : Nat) (name : String)
    (read : Document → Option α) (document : Document) : Option α :=
  match document.part? position name with
  | none => none
  | some part => read part

/-- Reads a truth value. -/
def readBool : Document → Option Bool
  | bool value => some value
  | _ => none

/-- Reads a 32-bit word. -/
def readWord32 : Document → Option UInt32
  | integer value =>
    if 0 ≤ value ∧ value < UInt32.size then some (UInt32.ofNat value.toNat) else none
  | _ => none

/-- Reads a text. -/
def readText : Document → Option String
  | text value => some value
  | _ => none

/-- Reads a list, item by item. -/
def readList {α : Type} (read : Document → Option α) : Document → Option (List α)
  | list items => items.mapM read
  | _ => none

/-- Reads a value that may be absent. -/
def readOption {α : Type} (read : Document → Option α) : Document → Option (Option α)
  | null => some none
  | document => (read document).map some

/-- Reads a member of the enumeration `members` by its name. -/
def readMember {α : Type} (members : List α) (label : α → String) : Document → Option α
  | text name => members.find? fun member => label member == name
  | object [(name, null)] => members.find? fun member => label member == name
  | _ => none

/-- Writes a 32-bit word. -/
def ofWord32 (word : UInt32) : Document :=
  integer word.toNat

/-- Writes a value that may be absent. -/
def ofOption {α : Type} (write : α → Document) : Option α → Document
  | none => null
  | some value => write value

/-- Writes a list, item by item. -/
def ofList {α : Type} (write : α → Document) (values : List α) : Document :=
  list (values.map write)

end Document
end ShaderLoom
