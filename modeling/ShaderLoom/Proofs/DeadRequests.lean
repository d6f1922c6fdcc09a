import ShaderLoom.Proofs.DeclarationOrder

/-!
# Requests that nothing depends on

A request whose outputs are new temporaries computes something that no root depends on.  It may
become a node, with a new position and new writers, or be folded into an earlier node, which
makes its outputs aliases; and to create the temporaries takes names from the table.  None of
this can be seen in the source of the graph.

The reason is that a graph is compiled by starting from its roots and going back through the
variables that nodes read, and all of these are in the table of the graph before the request
(`StageGraph.Reachable`).  From there, what is added later is out of reach: no node that is
added writes a variable of the old table, and no alias that is added stands for one
(`StageGraph.AddsDead`).  So variables of the old table resolve as before, have the producers
they had, and lead to the same nodes; that there are more nodes, and more aliases, only raises
the bounds on how far the search goes, which are never reached.

## Main definitions

* `StageGraph.withTemporaries` — a graph with new temporaries
* `StageGraph.AddsDead` — what was added is out of reach of the old table

## Main results

* `StageGraph.addsDead_request` — a request that writes no variable of the old table is out of
  reach
* `StageGraph.AddsDead.compile_eq` — what is out of reach leaves the source alone
* `StageGraph.compile_dead_request` — dead requests cannot be seen
-/

namespace ShaderLoom

theorem Node.mapReads_congr {node : Node} {f g : Variable → Variable}
    (same : ∀ v ∈ node.reads, f v = g v) : node.mapReads f = node.mapReads g := by
  have inputs : ∀ entry ∈ node.inputs, (entry.1, entry.2.mapVariable f) =
      (entry.1, entry.2.mapVariable g) := by
    rintro ⟨slot, operand⟩ member
    cases operand with
    | literal text => rfl
    | read v =>
        have reads : v ∈ node.reads := List.mem_filterMap.mpr ⟨_, member, rfl⟩
        dsimp only [Operand.mapVariable]
        rw [same v reads]
  rw [Node.mapReads, Node.mapReads, List.map_congr_left inputs]

namespace StageGraph

/-! ## New temporaries -/

/-- Creates temporaries of the given types and names, in order. -/
def withTemporaries (graph : StageGraph) :
    List (DataType × Option String) → List Variable × StageGraph
  | [] => ([], graph)
  | (type, name) :: rest =>
    let later := { graph with table := (graph.table.fresh type name).2 }.withTemporaries rest
    ((graph.table.fresh type name).1 :: later.1, later.2)

/-- What was added to a graph is out of reach of its variables. -/
structure AddsDead (graph later : StageGraph) : Prop where
  header : later.stage = graph.stage ∧ later.name = graph.name
  roots : later.roots = graph.roots
  symbols : graph.table.symbols <+: later.table.symbols
  /-- Nodes that were added write no variables of the graph. -/
  nodes : ∃ more, later.nodes = graph.nodes ++ more ∧
    ∀ node ∈ more, ∀ v ∈ node.writes, v ∉ graph.table.symbols
  /-- Aliases that were added are no variables of the graph. -/
  aliases : ∃ more, later.aliases = more ++ graph.aliases ∧
    ∀ entry ∈ more, entry.1 ∉ graph.table.symbols

theorem AddsDead.refl (graph : StageGraph) : AddsDead graph graph :=
  ⟨⟨rfl, rfl⟩, rfl, List.prefix_rfl, ⟨[], (List.append_nil _).symm, List.forall_mem_nil _⟩,
    ⟨[], rfl, List.forall_mem_nil _⟩⟩

/-- A new temporary is out of reach. -/
theorem AddsDead.temporary {graph later : StageGraph} (dead : AddsDead graph later)
    (type : DataType) (name : Option String) :
    AddsDead graph { later with table := (later.table.fresh type name).2 } :=
  ⟨dead.header, dead.roots, dead.symbols.trans (List.prefix_append _ _),
    dead.nodes, dead.aliases⟩

/-- Any number of new temporaries are out of reach, and they are no variables of the graph. -/
theorem AddsDead.withTemporaries {graph : StageGraph} :
    ∀ {locals : List (DataType × Option String)} {later : StageGraph}, AddsDead graph later →
      AddsDead graph (later.withTemporaries locals).2 ∧
        ∀ v ∈ (later.withTemporaries locals).1, v ∉ graph.table.symbols := by
  intro locals
  induction locals with
  | nil =>
      intro later dead
      exact ⟨dead, List.forall_mem_nil _⟩
  | cons entry rest ih =>
      intro later dead
      obtain ⟨type, name⟩ := entry
      obtain ⟨last, others⟩ := ih (dead.temporary type name)
      refine ⟨last, List.forall_mem_cons.mpr ⟨fun old => ?_, others⟩⟩
      exact later.table.nameFresh_not_mem name (List.mem_map_of_mem (dead.symbols.subset old))

/-- **A request that writes no variable of the old table is out of reach**, whether it becomes a
node or is folded. -/
theorem addsDead_request {graph later : StageGraph} (dead : AddsDead graph later) {node : Node}
    (unseen : ∀ v ∈ node.writes, v ∉ graph.table.symbols) :
    AddsDead graph (later.add node).2 := by
  obtain ⟨nodes, grown, written⟩ := dead.nodes
  obtain ⟨aliases, joined, sources⟩ := dead.aliases
  rcases add_cases later node with ⟨earlier, id, _, _, _, folds, added⟩ | added
  · rw [added]
    refine ⟨dead.header, dead.roots, dead.symbols, dead.nodes,
      ⟨newAliases (node.mapReads later.resolve) earlier ++ aliases, ?_, ?_⟩⟩
    · rw [List.append_assoc, ← joined]
    · intro entry member
      rcases List.mem_append.mp member with new | old
      · obtain ⟨_, _, _, slot, output, _⟩ := mem_newAliases folds new
        exact unseen entry.1 (Node.mem_writes output)
      · exact sources entry old
  · rw [added]
    refine ⟨dead.header, dead.roots, dead.symbols,
      ⟨nodes ++ [node.mapReads later.resolve], ?_, ?_⟩, dead.aliases⟩
    · rw [← List.append_assoc, ← grown]
    · intro other member
      rcases List.mem_append.mp member with old | new
      · exact written other old
      · rw [List.mem_singleton.mp new]
        exact unseen

/-! ## Variables of the graph -/

namespace Reachable

variable {graph : StageGraph} (reachable : Reachable graph)
include reachable

theorem resolve_mem_symbols {v : Variable} (known : v ∈ graph.table.symbols) :
    graph.resolve v ∈ graph.table.symbols :=
  resolve_mem reachable.laws
    (fun node present => (reachable.nodes_subset_symbols node present).2) known

/-- The target of an alias is a variable of the graph: a node writes it. -/
theorem target_mem_symbols {v target : Variable}
    (found : graph.aliases.lookup v = some target) : target ∈ graph.table.symbols := by
  have written := reachable.laws.written _ (Association.mem_of_lookup found)
  obtain ⟨id, writer⟩ := List.exists_mem_of_ne_nil _ written
  obtain ⟨node, present, writes⟩ := mem_writers.mp writer
  exact (reachable.nodes_subset_symbols node (List.mem_of_getElem? present)).2 writes

/-- Roots are variables of the graph. -/
theorem roots_subset_symbols : graph.roots ⊆ graph.table.symbols := by
  induction reachable with
  | new stage name => exact List.nil_subset _
  | @edit graph reachable change known ih =>
      have grows := (Wire.symbols_edit graph change).subset
      cases change with
      | root v =>
          have resolved := reachable.resolve_mem_symbols (known v List.mem_cons_self)
          unfold StageGraph.edit addRoot
          dsimp only
          split
          · exact ih
          · exact List.append_subset.mpr
              ⟨ih, List.cons_subset.mpr ⟨resolved, List.nil_subset _⟩⟩
      | declare v =>
          refine List.Subset.trans ?_ grows
          dsimp only [StageGraph.edit]
          cases graph.table.declare v <;> exact ih
      | temporary type name => exact List.Subset.trans ih grows
      | request node =>
          rcases add_cases graph node with ⟨_, _, _, _, _, _, added⟩ | added <;>
          · rw [StageGraph.edit, added]
            exact ih
      | share key v => exact ih

theorem builtin?_isSome :
    ∀ output ∈ mandatory graph.stage, (graph.builtin? output).isSome = true := by
  obtain ⟨stage, name, edits, rfl⟩ := reachable.exists_build
  exact builtin?_build stage name edits

end Reachable

/-! ## What can be reached -/

namespace AddsDead

open Schedule

variable {graph later : StageGraph} (dead : AddsDead graph later) (reachable : Reachable graph)
include dead

theorem node?_eq {n : NodeId} (bound : n < graph.nodes.length) :
    later.node? n = graph.node? n := by
  obtain ⟨more, grown, _⟩ := dead.nodes
  rw [node?, node?, grown, List.getElem?_append_left bound]

theorem writers_eq {v : Variable} (known : v ∈ graph.table.symbols) :
    later.writers v = graph.writers v := by
  obtain ⟨more, grown, unseen⟩ := dead.nodes
  have none : (more.zipIdx (0 + graph.nodes.length)).flatMap (fun entry =>
      (entry.1.writes.filter fun written => written == v).map fun _ => entry.2) = [] := by
    rw [List.flatMap_eq_nil_iff]
    intro entry member
    rw [List.map_eq_nil_iff, List.filter_eq_nil_iff]
    intro written writes same
    obtain rfl := beq_iff_eq.mp same
    exact unseen entry.1 (List.fst_mem_of_mem_zipIdx member) written writes known
  rw [writers, grown, List.zipIdx_append, List.flatMap_append]
  exact (congrArg (graph.writers v ++ ·) none).trans (List.append_nil _)

/-- A built-in output is found as before. -/
theorem builtin?_eq {name : String} (present : (graph.builtin? name).isSome = true) :
    later.builtin? name = graph.builtin? name := by
  obtain ⟨more, grown⟩ := dead.symbols
  obtain ⟨v, found⟩ := Option.isSome_iff_exists.mp present
  have listed : graph.table.find? name = some v := (Option.filter_eq_some_iff.mp found).1
  have same : later.table.find? name = graph.table.find? name := by
    rw [listed, SymbolTable.find?, ← grown, List.find?_append]
    change (graph.table.find? name).or _ = _
    rw [listed, Option.some_or]
  rw [builtin?, builtin?, same]

include reachable

/-- Following aliases from a variable of the graph never leaves its variables. -/
theorem follow_eq (steps : Nat) {v : Variable} (known : v ∈ graph.table.symbols) :
    follow later.aliases steps v = follow graph.aliases steps v := by
  obtain ⟨more, joined, sources⟩ := dead.aliases
  have step : ∀ w ∈ graph.table.symbols, later.aliases.lookup w = graph.aliases.lookup w := by
    intro w old
    have none : more.lookup w = none := by
      rw [List.lookup_eq_none_iff]
      intro entry member
      rw [bne_iff_ne]
      rintro rfl
      exact sources entry member old
    rw [joined, List.lookup_append, none, Option.none_or]
  induction steps generalizing v with
  | zero => rfl
  | succ steps ih =>
      rw [follow, follow, step v known]
      cases found : graph.aliases.lookup v with
      | none => rfl
      | some target => exact ih (reachable.target_mem_symbols found)

/-- Variables of the graph resolve as before. -/
theorem resolve_eq {v : Variable} (known : v ∈ graph.table.symbols) :
    later.resolve v = graph.resolve v := by
  obtain ⟨more, joined, _⟩ := dead.aliases
  calc later.resolve v = follow graph.aliases later.aliases.length v :=
        dead.follow_eq reachable _ known
    _ = follow graph.aliases (graph.aliases.length + more.length) v := by
        rw [joined, List.length_append, Nat.add_comm]
    _ = follow graph.aliases more.length (graph.resolve v) := follow_add _ _ _ _
    _ = graph.resolve v := follow_of_lookup_none (reachable.laws.lookup_resolve v) _

theorem producers_eq {v : Variable} (known : v ∈ graph.table.symbols) :
    later.producers v = graph.producers v := by
  rw [producers, producers, dead.resolve_eq reachable known,
    dead.writers_eq (reachable.resolve_mem_symbols known)]

theorem resolvedNode?_eq {n : NodeId} (bound : n < graph.nodes.length) :
    later.resolvedNode? n = graph.resolvedNode? n := by
  rw [resolvedNode?, resolvedNode?, dead.node?_eq bound]
  refine Option.map_congr fun node found => Node.mapReads_congr fun v reads => ?_
  exact dead.resolve_eq reachable
    ((reachable.nodes_subset_symbols node (List.mem_of_getElem? found)).1 reads)

theorem dependencies_eq {n : NodeId} (bound : n < graph.nodes.length) :
    later.dependencies n = graph.dependencies n := by
  rw [dependencies, dependencies, dead.node?_eq bound]
  cases found : graph.node? n with
  | none => rfl
  | some node =>
      have known := (reachable.nodes_subset_symbols node (List.mem_of_getElem? found)).1
      have sources : node.reads.flatMap later.producers = node.reads.flatMap graph.producers :=
        List.flatMap_congr fun v reads => dead.producers_eq reachable (known reads)
      dsimp only
      rw [sources]

/-- A node of the graph is scheduled as before. -/
theorem scheduleNode_eq {order : List NodeId} {id : NodeId} (bound : id < graph.nodes.length) :
    later.scheduleNode order id = graph.scheduleNode order id := by
  have bounded : ∀ n, n < graph.nodes.length → ∀ p ∈ graph.dependencies n,
      p < graph.nodes.length :=
    fun _ _ _ needs => dependencies_lt needs
  have more : graph.nodes.length ≤ later.nodes.length := by
    obtain ⟨_, grown, _⟩ := dead.nodes
    rw [grown, List.length_append]
    exact Nat.le_add_right _ _
  have same : visit later.dependencies later.nodes.length [] order id =
      visit graph.dependencies graph.nodes.length [] order id :=
    visit_congr bounded (fun _ small => dead.dependencies_eq reachable small) bound
      List.nodup_nil (List.forall_mem_nil _) (by rw [List.length_nil, Nat.zero_add])
      (by rw [List.length_nil, Nat.zero_add]; exact more)
  rw [scheduleNode, scheduleNode, same]
  cases visited : visit graph.dependencies graph.nodes.length [] order id with
  | ok order => rfl
  | error closing =>
      -- The node that is reported lies on a cycle, so it is a node of the graph.
      obtain ⟨_, cycle⟩ :=
        visit_error bounded visited bound List.nodup_nil (List.forall_mem_nil _)
        (by rw [List.length_nil, Nat.zero_add]) (List.forall_mem_nil _)
      obtain ⟨node, _, found, _⟩ := (cyclic_iff_onCycle.mp cycle).output
      have inside : closing < graph.nodes.length := (List.getElem?_eq_some_iff.mp found).1
      dsimp only
      rw [cycleError, cycleError, dead.node?_eq inside]

theorem scheduleRoot_eq {order : List NodeId} {root : Variable}
    (known : root ∈ graph.table.symbols) :
    later.scheduleRoot order root = graph.scheduleRoot order root := by
  have folds : (graph.producers root).foldlM later.scheduleNode order =
      (graph.producers root).foldlM graph.scheduleNode order :=
    foldlM_congr fun p source _ => dead.scheduleNode_eq reachable (writers_lt source)
  rw [scheduleRoot, scheduleRoot, dead.producers_eq reachable known]
  split
  · rfl
  · exact folds

theorem requiredRoots_eq : later.requiredRoots = graph.requiredRoots ∧
    ∀ root ∈ graph.requiredRoots, root ∈ graph.table.symbols := by
  have outputs : (mandatory later.stage).filterMap later.builtin? =
      (mandatory graph.stage).filterMap graph.builtin? := by
    rw [dead.header.1]
    exact List.filterMap_congr fun output member =>
      dead.builtin?_eq (reachable.builtin?_isSome output member)
  have known : ∀ v ∈ (mandatory graph.stage).filterMap graph.builtin? ++ graph.roots,
      v ∈ graph.table.symbols := by
    intro v member
    rcases List.mem_append.mp member with builtin | root
    · obtain ⟨output, _, found⟩ := List.mem_filterMap.mp builtin
      exact (SymbolTable.find?_eq_some (Option.filter_eq_some_iff.mp found).1).1
    · exact reachable.roots_subset_symbols root
  constructor
  · rw [requiredRoots, requiredRoots, outputs, dead.roots]
    exact List.map_congr_left fun v member => dead.resolve_eq reachable (known v member)
  · intro root member
    obtain ⟨v, required, rfl⟩ := List.mem_map.mp member
    exact reachable.resolve_mem_symbols (known v required)

theorem schedule_eq : later.schedule = graph.schedule := by
  have present := reachable.builtin?_isSome
  obtain ⟨roots, known⟩ := dead.requiredRoots_eq reachable
  have presentLater : ∀ output ∈ mandatory later.stage,
      (later.builtin? output).isSome = true := by
    intro output member
    rw [dead.header.1] at member
    rw [dead.builtin?_eq (present output member)]
    exact present output member
  rw [schedule_eq_foldlM present, schedule_eq_foldlM presentLater, roots]
  exact foldlM_congr fun root member _ => dead.scheduleRoot_eq reachable (known root member)

/-- **What is out of reach leaves the source alone.** -/
theorem compile_eq (compiler : Compiler) : compiler.compile later = compiler.compile graph := by
  have nodes : Compiler.scheduledNodes later = Compiler.scheduledNodes graph := by
    rw [Compiler.scheduledNodes, Compiler.scheduledNodes, dead.schedule_eq reachable]
    cases scheduled : graph.schedule with
    | error cause => rfl
    | ok order =>
        refine congrArg Except.ok (List.filterMap_congr fun n member => ?_)
        rw [schedule_eq_foldlM reachable.builtin?_isSome] at scheduled
        obtain ⟨root, _, reaches⟩ := (mem_of_foldlM scheduled n).mp member
        exact dead.resolvedNode?_eq reachable reaches.lt
  rw [Compiler.compile, Compiler.compile, nodes, dead.header.1, dead.header.2]

end AddsDead

/-! ## Dead requests -/

/-- **Dead requests cannot be seen.**  Take any graph that can be built, create any temporaries,
and make any request, with whatever operation and inputs, whose outputs are among these.
Compiling the graph after that gives what compiling the graph before that gives: the same error,
or the same source. -/
theorem compile_dead_request {graph : StageGraph} (reachable : graph.Reachable)
    (locals : List (DataType × Option String)) {request : Node}
    (outputs : ∀ v ∈ request.writes, v ∈ (graph.withTemporaries locals).1)
    (compiler : Compiler) :
    compiler.compile ((graph.withTemporaries locals).2.add request).2 =
      compiler.compile graph := by
  obtain ⟨dead, fresh⟩ := (AddsDead.refl graph).withTemporaries
  exact (addsDead_request dead fun v writes => fresh v (outputs v writes)).compile_eq
    reachable compiler

/-- Two temporaries are added to a stage that brings a normal to unit length.  A request for the
same is folded into the first node, and one that copies a temporary to both becomes a node;
neither can be seen. -/
theorem compile_dead_request_twice : twice.Reachable ∧
    (let made := twice.withTemporaries [(.vec3, some "first"), (.vec3, none)]
     let copied : Node :=
       { operation := .assign
         inputs := [("in", .read { name := "first", type := .vec3, storage := .temporary })]
         outputs := made.1.map (Prod.mk "out") }
     made.1.map Variable.name = ["first_0", "tmp_1"] ∧
       (made.2.add (unitNormal "first_0")).1 = 0 ∧ (made.2.add copied).1 = 2 ∧
       ∀ compiler : Compiler,
         compiler.compile (made.2.add (unitNormal "first_0")).2 = compiler.compile twice ∧
         compiler.compile (made.2.add copied).2 = compiler.compile twice) := by
  refine ⟨reachable_twice, ?_⟩
  intro made copied
  refine ⟨by decide +kernel, by decide +kernel, by decide +kernel, fun compiler => ⟨?_, ?_⟩⟩
  · exact compile_dead_request reachable_twice _ (by decide +kernel) compiler
  · exact compile_dead_request reachable_twice _ (by decide +kernel) compiler

end StageGraph
end ShaderLoom
