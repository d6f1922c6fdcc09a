import ShaderLoom.Stage.Graph

/-!
# Schedules

The order in which the nodes of a graph are carried out: depth first from the roots, every node
after the nodes that write what it reads.  Nodes that no root depends on are left out.

The traversal works on any dependency relation.  It keeps the nodes that are already in order
and the path of nodes that led to the current one; meeting a node of the path again closes a
cycle.

## Main Definitions

* `Schedule.visit` — appends a node, after all it depends on
* `StageGraph.dependencies` — the nodes that a node depends on
* `StageGraph.allRoots` — what a stage has to deliver
* `StageGraph.schedule` — the nodes in the order of execution
-/

namespace ShaderLoom
namespace Schedule

/-- Appends a node to an order, after the nodes it depends on.  A node that is still on the path
is reported.  Paths have no repeats, so their length, bounded by `depth`, never exceeds the
number of nodes. -/
def visit (dependencies : NodeId → List NodeId) :
    (depth : Nat) → (path : List NodeId) → (order : List NodeId) → NodeId →
      Except NodeId (List NodeId)
  | depth, path, order, id =>
    if id ∈ order then .ok order
    else if id ∈ path then .error id
    else
      match depth with
      | 0 => .error id
      | depth + 1 => do
        let before ← (dependencies id).foldlM (visit dependencies depth (id :: path)) order
        return before ++ [id]

end Schedule

namespace StageGraph

/-- The nodes that a node depends on: the producers of what it reads, apart from itself. -/
def dependencies (graph : StageGraph) (id : NodeId) : List NodeId :=
  match graph.node? id with
  | none => []
  | some node => (node.reads.flatMap graph.producers).filter fun producer => producer != id

/-- The built-in outputs that a stage has to deliver. -/
def mandatory : Stage → List String
  | .vertex => [pointSizeName, positionName]
  | .fragment => [fragColorName]

/-- The built-in outputs of a stage, resolved. -/
def mandatoryRoots (graph : StageGraph) : Except Error (List Variable) :=
  (mandatory graph.stage).mapM fun name =>
    match graph.builtin? name with
    | some v => .ok (graph.resolve v)
    | none => .error (.missingRoot name)

/-- Everything that the stage has to deliver, resolved and without repeats: the built-in
outputs, then the registered roots. -/
def allRoots (graph : StageGraph) : Except Error (List Variable) := do
  let first ← graph.mandatoryRoots
  return graph.roots.foldl
    (fun roots root =>
      let root := graph.resolve root
      if root ∈ roots then roots else roots ++ [root])
    first

/-- The error for a node that depends on itself through other nodes. -/
def cycleError (graph : StageGraph) (id : NodeId) : Error :=
  match graph.node? id with
  | none => .cyclicGraph "" ""
  | some node =>
    .cyclicGraph node.operation.label ((node.writes.head?.map Variable.name).getD "")

/-- Appends a node to an order, after the nodes it depends on. -/
def scheduleNode (graph : StageGraph) (order : List NodeId) (id : NodeId) :
    Except Error (List NodeId) :=
  match Schedule.visit graph.dependencies graph.nodes.length [] order id with
  | .ok order => .ok order
  | .error closing => .error (graph.cycleError closing)

/-- Appends the nodes that a root depends on. -/
def scheduleRoot (graph : StageGraph) (order : List NodeId) (root : Variable) :
    Except Error (List NodeId) :=
  match graph.producers root with
  | [] => .error (.missingRoot root.name)
  | producers => producers.foldlM graph.scheduleNode order

/-- The nodes that the roots depend on, in the order of execution. -/
def schedule (graph : StageGraph) : Except Error (List NodeId) := do
  (← graph.allRoots).foldlM graph.scheduleRoot []

end StageGraph
end ShaderLoom
