import ShaderLoom.Stage.Graph

/-!
# Wiring

Building up a stage graph step by step.  A step may fail, and what it did to the graph until
then stays done.

## Main Definitions

* `Wire` — a step that changes a graph and may fail
* `Wire.attr`, `Wire.uniform`, `Wire.varying`, `Wire.temporary` — variables
* `Wire.node` — adds a node and answers the variable that now holds its result
* `Wire.shared` — carries out a construction once
-/

namespace ShaderLoom

/-- A step of building up a stage graph. -/
abbrev Wire := ExceptT Error (StateM StageGraph)

namespace Wire

/-- Carries out a step on a graph. -/
def on {α : Type} (step : Wire α) (graph : StageGraph) : Except Error α × StageGraph :=
  StateT.run (ExceptT.run step) graph

/-- Makes sure that a variable is in the table of the graph. -/
def declare (v : Variable) : Wire Variable := do
  let graph ← get
  match graph.table.declare v with
  | .ok table =>
    set { graph with table }
    return v
  | .error error => throw error

/-- An attribute. -/
def attr (type : DataType) (name : String) : Wire Variable :=
  declare { name, type, storage := .attr }

/-- A uniform. -/
def uniform (type : DataType) (name : String) : Wire Variable :=
  declare { name, type, storage := .uniform }

/-- A uniform that is an array. -/
def uniformArray (type : DataType) (name : String) (length : Nat) : Wire Variable :=
  declare { name, type, storage := .uniform, arrayLength := some length }

/-- A varying. -/
def varying (type : DataType) (name : String) : Wire Variable :=
  declare { name, type, storage := .varying }

/-- A built-in variable. -/
def builtin (type : DataType) (name : String) : Wire Variable :=
  declare { name, type, storage := .builtin }

/-- A new temporary. -/
def temporary (type : DataType) (name : Option String) : Wire Variable := do
  let graph ← get
  let (v, table) := graph.table.fresh type name
  set { graph with table }
  return v

/-- Adds a node. -/
def add (node : Node) : Wire Unit := do
  let graph ← get
  set (graph.add node).2

/-- The variable that is read in place of another. -/
def resolve (v : Variable) : Wire Variable := do
  return (← get).resolve v

/-- Adds a node with one output and answers the variable that now holds its result. -/
def node (operation : Operation) (inputs : List (String × Operand)) (slot : String)
    (out : Variable) : Wire Variable := do
  add { operation, inputs, outputs := [(slot, out)] }
  resolve out

/-- Copies a variable. -/
def assign (source target : Variable) : Wire Unit :=
  add { operation := .assign, inputs := [("in", .read source)], outputs := [("out", target)] }

/-- The product of two variables in a new temporary. -/
def multiply (a b : Variable) (type : DataType) (name : String) : Wire Variable := do
  let out ← temporary type (some name)
  node (.inlineCode "%result = %a * %b;") [("a", .read a), ("b", .read b)] "result" out

/-- The direction of a vector in a new temporary of its type. -/
def normalize (vector : Variable) (name : Option String) : Wire Variable := do
  let out ← temporary vector.type name
  node .normalize [("vec", .read vector)] "result" out

/-- Carries out a construction the first time it is asked for and shares its result from then
on. -/
def shared (key : String) (build : Wire Variable) : Wire Variable := do
  match (← get).memo? key with
  | some v => return v
  | none =>
    let v ← build
    modify fun graph => graph.setMemo key v
    return v

/-- Refuses to go on outside the vertex stage. -/
def requireVertex (helper : String) : Wire Unit := do
  match (← get).requireVertex helper with
  | .ok () => return ()
  | .error error => throw error

/-- Marks a variable as one that the stage has to deliver. -/
def root (v : Variable) : Wire Unit :=
  modify fun graph => graph.addRoot v

end Wire
end ShaderLoom
