import ShaderLoom.Proofs.Dataflow

/-!
# Terms

What a variable is computed from, written out as a tree: inputs and expressions at the leaves,
and operations with the terms in their input slots.  A term forgets how a graph shares results
and what it calls them.

Terms are the values of the free reading of nodes (`Term.free`), under which every node is a
constructor.  So the meaning of a variable under this reading is the term that it unfolds to,
and nothing is identified that some other reading could tell apart.

## Main definitions

* `Term`, `Term.free` — terms and the reading that builds them
* `Term.type?` — the type of a term
* `Term.Uses` — the inputs that a term starts from
-/

namespace ShaderLoom

/-- What a variable is computed from. -/
inductive Term where
  /-- A variable that nothing writes. -/
  | input (v : Variable)
  /-- An expression in GLSL. -/
  | literal (text : String)
  /-- The value that an operation on the terms in its slots puts into an output slot of a
  type. -/
  | apply (operation : Operation) (arguments : List (String × Term)) (slot : String)
    (type : DataType)

namespace Term

/-- The reading under which every node is a constructor. -/
def free : Interpretation Term where
  initial := input
  literal := literal
  apply := apply

/-- The type of what a term stands for; an expression has none of its own. -/
def type? : Term → Option DataType
  | input v => some v.type
  | literal _ => none
  | apply _ _ _ type => some type

/-- A term starts from a variable if the variable is one of its leaves. -/
inductive Uses (v : Variable) : Term → Prop
  | input : Uses v (input v)
  | argument {operation : Operation} {arguments : List (String × Term)} {slot : String}
      {type : DataType} {argument : String × Term} (member : argument ∈ arguments)
      (uses : Uses v argument.2) : Uses v (apply operation arguments slot type)

@[simp] theorem uses_input {u v : Variable} : (input u).Uses v ↔ v = u := by
  constructor
  · rintro ⟨⟩
    rfl
  · rintro rfl
    exact .input

@[simp] theorem not_uses_literal {text : String} {v : Variable} : ¬ (literal text).Uses v := by
  rintro ⟨⟩

@[simp] theorem uses_apply {operation : Operation} {arguments : List (String × Term)}
    {slot : String} {type : DataType} {v : Variable} :
    (apply operation arguments slot type).Uses v ↔ ∃ argument ∈ arguments,
      argument.2.Uses v := by
  constructor
  · rintro (_ | ⟨member, uses⟩)
    exact ⟨_, member, uses⟩
  · rintro ⟨argument, member, uses⟩
    exact .argument member uses

/-- An attribute, as a term. -/
def attr (type : DataType) (name : String) : Term :=
  input { name, type, storage := .attr }

/-- A uniform, as a term. -/
def uniform (type : DataType) (name : String) : Term :=
  input { name, type, storage := .uniform }

/-- A varying, as a term. -/
def varying (type : DataType) (name : String) : Term :=
  input { name, type, storage := .varying }

/-- The product of two terms. -/
def product (a b : Term) (type : DataType) : Term :=
  apply (.inlineCode "%result = %a * %b;") [("a", a), ("b", b)] "result" type

/-- The direction of a term of a type. -/
def normalized (vector : Term) (type : DataType) : Term :=
  apply .normalize [("vec", vector)] "result" type

end Term
end ShaderLoom
