/-!
# GLSL vocabulary

The data types, storage qualifiers, pipeline stages and variables that generated shaders are
made of.

A variable is a value: two variables are the same when all their fields agree.  Inside one
symbol table names are pairwise distinct, so there a variable is determined by its name.

## Main Definitions

* `DataType`, `Storage`, `Stage` — the closed vocabularies
* `Variable` — a name with its type, storage and array length
* `Variable.declaration?` — the statement that declares it
-/

namespace ShaderLoom

/-- The data types of generated shaders. -/
inductive DataType where
  | bool
  | int
  | float
  | vec2
  | vec3
  | vec4
  | mat3
  | mat4
  | sampler2D
  | samplerCube
  deriving DecidableEq, Repr, Inhabited

namespace DataType

/-- The keyword of a data type. -/
def word : DataType → String
  | bool => "bool"
  | int => "int"
  | float => "float"
  | vec2 => "vec2"
  | vec3 => "vec3"
  | vec4 => "vec4"
  | mat3 => "mat3"
  | mat4 => "mat4"
  | sampler2D => "sampler2D"
  | samplerCube => "samplerCube"

/-- All data types, in their order. -/
def all : List DataType :=
  [bool, int, float, vec2, vec3, vec4, mat3, mat4, sampler2D, samplerCube]

/-- The data type with a given keyword. -/
def ofWord? (word : String) : Option DataType :=
  all.find? fun type => type.word == word

/-- The position of a data type in the order of data types. -/
def rank : DataType → Nat
  | bool => 0
  | int => 1
  | float => 2
  | vec2 => 3
  | vec3 => 4
  | vec4 => 5
  | mat3 => 6
  | mat4 => 7
  | sampler2D => 8
  | samplerCube => 9

/-- The expression for "one" of a data type. -/
def one : DataType → String
  | bool => "true"
  | int => "1"
  | float => "1.0"
  | other => other.word ++ "(1.0)"

end DataType

/-- Where a variable lives.  Declarations of a stage are listed in this order of storages. -/
inductive Storage where
  /-- An input of the vertex stage that differs from vertex to vertex. -/
  | attr
  /-- A value that is constant over a draw call. -/
  | uniform
  /-- A value that the vertex stage hands to the fragment stage. -/
  | varying
  /-- A variable of `main`. -/
  | temporary
  /-- A variable that the language provides. -/
  | builtin
  deriving DecidableEq, Repr, Inhabited

namespace Storage

/-- The position of a storage in the order of declarations. -/
def rank : Storage → Nat
  | attr => 0
  | uniform => 1
  | varying => 2
  | temporary => 3
  | builtin => 4

/-- The name of a storage in messages. -/
def label : Storage → String
  | attr => "Attribute"
  | uniform => "Uniform"
  | varying => "Varying"
  | temporary => "Local"
  | builtin => "BuiltIn"

/-- All storages, in their order. -/
def all : List Storage :=
  [attr, uniform, varying, temporary, builtin]

/-- The storage with a given name. -/
def ofLabel? (label : String) : Option Storage :=
  all.find? fun storage => storage.label == label

/-- The qualifier that opens a declaration at global scope. -/
def qualifier? : Storage → Option String
  | attr => some "attribute"
  | uniform => some "uniform"
  | varying => some "varying"
  | temporary => none
  | builtin => none

/-- Whether variables of this storage are declared outside `main`. -/
def isGlobal (storage : Storage) : Bool :=
  storage.rank < Storage.temporary.rank

end Storage

/-- The programmable stages of the pipeline. -/
inductive Stage where
  | vertex
  | fragment
  deriving DecidableEq, Repr, Inhabited

/-- The name of a stage. -/
def Stage.word : Stage → String
  | vertex => "vertex"
  | fragment => "fragment"

/-- A shader variable. -/
structure Variable where
  name : String
  type : DataType
  storage : Storage
  /-- The number of elements, for arrays. -/
  arrayLength : Option Nat := none
  deriving DecidableEq, Repr, Inhabited

namespace Variable

/-- What follows the name in a declaration. -/
def arraySuffix (v : Variable) : String :=
  match v.arrayLength with
  | none => ""
  | some n => s!"[{n}]"

/-- The statement that declares a variable.  The language itself provides the built-ins. -/
def declaration? (v : Variable) : Option String :=
  match v.storage with
  | .builtin => none
  | storage =>
    let body := s!"{v.type.word} {v.name}{v.arraySuffix};"
    match storage.qualifier? with
    | some qualifier => some s!"{qualifier} {body}"
    | none => some body

end Variable
end ShaderLoom
