import ShaderLoom.Glsl.SymbolTable
import ShaderLoom.Log
import ShaderLoom.Stage.Node

/-!
# Stage graphs

The variables and nodes of one stage under construction.

A node that computes the same as an earlier one and whose outputs are fresh temporaries is not
added: the request is *folded* into the earlier node, and its outputs become aliases of that
node's outputs.  Readers of an alias are redirected to the variable it stands for.

## Main Definitions

* `StageGraph`, `StageGraph.new` — a graph and the empty graph of a stage
* `StageGraph.resolve` — the variable that an alias stands for
* `StageGraph.add` — adds a node or folds it into an earlier one
* `StageGraph.producers` — the nodes that write a variable
-/

namespace ShaderLoom

/-- The position of a node in order of creation. -/
abbrev NodeId := Nat

/-- The variables and nodes of one stage under construction. -/
structure StageGraph where
  stage : Stage
  name : String
  table : SymbolTable := {}
  /-- The nodes in order of creation. -/
  nodes : List Node := []
  /-- Aliases and the variables they stand for, latest first. -/
  aliases : List (Variable × Variable) := []
  /-- The variables that the stage has to deliver besides its built-in outputs. -/
  roots : List Variable := []
  /-- Intermediate results that are shared, by key, latest first. -/
  memo : List (String × Variable) := []
  /-- The operations of the requests that were folded, oldest first. -/
  folded : List Operation := []
  deriving DecidableEq, Repr, Inhabited

namespace StageGraph

/-! ## Built-in outputs -/

def positionName : String := "gl_Position"
def pointSizeName : String := "gl_PointSize"
def fragColorName : String := "gl_FragColor"

/-- The outputs that the language provides for a stage. -/
def builtins : Stage → List Variable
  | .vertex =>
    [{ name := positionName, type := .vec4, storage := .builtin },
      { name := pointSizeName, type := .float, storage := .builtin }]
  | .fragment => [{ name := fragColorName, type := .vec4, storage := .builtin }]

/-- The graph of a stage without nodes. -/
def new (stage : Stage) (name : String) : StageGraph :=
  { stage, name, table := { symbols := builtins stage } }

/-- The built-in variable of a given name. -/
def builtin? (graph : StageGraph) (name : String) : Option Variable :=
  (graph.table.find? name).filter fun v => v.storage == .builtin

/-- Refuses graphs of other stages than the vertex stage. -/
def requireVertex (graph : StageGraph) (helper : String) : Except Error Unit :=
  if graph.stage = .vertex then .ok () else .error (.vertexOnly helper)

/-! ## Aliases -/

/-- Follows aliases for at most the given number of steps. -/
def follow (aliases : List (Variable × Variable)) : (steps : Nat) → Variable → Variable
  | 0, v => v
  | steps + 1, v =>
    match aliases.lookup v with
    | none => v
    | some target => follow aliases steps target

/-- The variable that is read in place of `v`.  No alias leads back to itself, so as many steps
as there are aliases suffice. -/
def resolve (graph : StageGraph) (v : Variable) : Variable :=
  follow graph.aliases graph.aliases.length v

/-! ## Nodes -/

/-- The nodes that have `v` itself in an output slot, once for each such slot. -/
def writers (graph : StageGraph) (v : Variable) : List NodeId :=
  graph.nodes.zipIdx.flatMap fun (node, id) =>
    (node.writes.filter fun written => written == v).map fun _ => id

/-- The nodes that write the variable that `v` stands for, in order of creation. -/
def producers (graph : StageGraph) (v : Variable) : List NodeId :=
  graph.writers (graph.resolve v)

/-- The node at a given position, as it was added. -/
def node? (graph : StageGraph) (id : NodeId) : Option Node :=
  graph.nodes[id]?

/-- The node at a given position, reading through the aliases made since. -/
def resolvedNode? (graph : StageGraph) (id : NodeId) : Option Node :=
  (graph.node? id).map fun node => node.mapReads graph.resolve

/-- Whether an output of a request can become an alias of an output of an earlier node. -/
def canAlias (graph : StageGraph) (fresh earlier : String × Variable) : Bool :=
  fresh.1 == earlier.1 &&
    (fresh.2 == earlier.2 ||
      (fresh.2.storage == .temporary && fresh.2.type == earlier.2.type &&
        (graph.writers fresh.2).isEmpty))

/-- Whether a request can be folded into an earlier node that computes the same. -/
def canFold (graph : StageGraph) (request earlier : Node) : Bool :=
  request.outputs.length == earlier.outputs.length &&
    (request.outputs.zip earlier.outputs).all fun (fresh, old) => graph.canAlias fresh old

/-- The earlier node that a request is folded into, if any.  Only the first node that computes
the same is considered. -/
def twin? (graph : StageGraph) (request : Node) : Option (Node × NodeId) :=
  (graph.nodes.zipIdx.find? fun (node, _) => node.sameComputation request).filter
    fun (node, _) => graph.canFold request node

/-- The aliases that folding a request into an earlier node gives rise to, latest first. -/
def newAliases (request earlier : Node) : List (Variable × Variable) :=
  ((request.writes.zip earlier.writes).filter fun (fresh, old) => fresh != old).reverse

/-- Adds a node, or folds it into an earlier one; answers the node that stands for the
request. -/
def add (graph : StageGraph) (node : Node) : NodeId × StageGraph :=
  let request := node.mapReads graph.resolve
  match graph.twin? request with
  | some (earlier, id) =>
    (id, { graph with
      aliases := newAliases request earlier ++ graph.aliases
      folded := graph.folded ++ [request.operation] })
  | none => (graph.nodes.length, { graph with nodes := graph.nodes ++ [request] })

/-! ## Roots, varyings and shared results -/

/-- Marks a variable as one that the stage has to deliver. -/
def addRoot (graph : StageGraph) (v : Variable) : StageGraph :=
  let root := graph.resolve v
  if root ∈ graph.roots then graph else { graph with roots := graph.roots ++ [root] }

/-- The varyings of the stage, in order of creation. -/
def varyings (graph : StageGraph) : List (String × DataType) :=
  (graph.table.ofStorage .varying).map fun v => (v.name, v.type)

/-- The shared result under a key. -/
def memo? (graph : StageGraph) (key : String) : Option Variable :=
  graph.memo.lookup key

/-- Puts a shared result under a key. -/
def setMemo (graph : StageGraph) (key : String) (v : Variable) : StageGraph :=
  { graph with memo := (key, v) :: graph.memo }

/-! ## Log -/

/-- The records for the requests that were folded since `before`. -/
def foldRecords (graph : StageGraph) (before : Nat) : List LogRecord :=
  (graph.folded.drop before).map fun operation =>
    { level := .trace, message := s!"coalesced `{operation.label}` node in `{graph.name}`" }

end StageGraph
end ShaderLoom
