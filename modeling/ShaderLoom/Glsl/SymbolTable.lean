import ShaderLoom.Error

/-!
# Symbol tables

The variables of one stage under construction, in order of creation.  Names are pairwise
distinct.  Inputs and outputs of the stage are requested by name and created at most once;
temporaries are always fresh, with a numbered name when the requested one is taken.

## Main Definitions

* `SymbolTable.find?` — the variable of a given name
* `SymbolTable.declare` — makes sure that a variable is there
* `SymbolTable.fresh` — a new temporary
-/

namespace ShaderLoom

/-- The variables of a stage under construction. -/
structure SymbolTable where
  /-- The variables in order of creation. -/
  symbols : List Variable := []
  /-- The number that the next numbered name starts at. -/
  counter : Nat := 0
  deriving DecidableEq, Repr, Inhabited

namespace SymbolTable

/-- The variable of a given name. -/
def find? (table : SymbolTable) (name : String) : Option Variable :=
  table.symbols.find? fun v => v.name == name

/-- The names that are taken. -/
def names (table : SymbolTable) : List String :=
  table.symbols.map Variable.name

/-- The variables of a given storage, in order of creation. -/
def ofStorage (table : SymbolTable) (storage : Storage) : List Variable :=
  table.symbols.filter fun v => v.storage == storage

/-- Makes sure that a variable is in the table.  A variable of its name that differs from it in
any way is a conflict. -/
def declare (table : SymbolTable) (v : Variable) : Except Error SymbolTable :=
  match table.find? v.name with
  | none => .ok { table with symbols := table.symbols ++ [v] }
  | some existing => if existing = v then .ok table else .error (.variableConflict v existing)

/-- The candidate for a numbered name. -/
def numbered (base : String) (n : Nat) : String :=
  s!"{base}_{n}"

/-- The first numbered name, from `n` on, that is not taken, and the number after it.  With as
many attempts as there are names, one of the candidates is free. -/
def freeName (taken : List String) (base : String) : (attempts n : Nat) → String × Nat
  | 0, n => (numbered base n, n + 1)
  | attempts + 1, n =>
    if numbered base n ∈ taken then freeName taken base attempts (n + 1)
    else (numbered base n, n + 1)

/-- The name for a new temporary and the counter after it: the requested name if it is free,
else a numbered one. -/
def nameFresh (table : SymbolTable) : Option String → String × Nat
  | none => freeName table.names "tmp" table.names.length table.counter
  | some base =>
    if base ∈ table.names then freeName table.names base table.names.length table.counter
    else (base, table.counter)

/-- A new temporary. -/
def fresh (table : SymbolTable) (type : DataType) (name : Option String) :
    Variable × SymbolTable :=
  let (actual, counter) := table.nameFresh name
  let v : Variable := { name := actual, type, storage := .temporary }
  (v, { symbols := table.symbols ++ [v], counter })

end SymbolTable
end ShaderLoom
