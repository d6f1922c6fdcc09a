import ShaderLoom.Proofs.FoldSafety

/-!
# Requests that are made again

A request is answered with a node: an earlier one that computes the same, if its outputs can
stand for those of the request, or else a new one.  Whoever makes the same request again, at
once or after any number of other requests, expects the same answer and no trace in the graph.

Of the nodes that compute the same only the first is looked at.  A request that became a node
although another one computes the same, since its outputs cannot be joined, is not found again:
it becomes one more node each time (`StageGraph.repeated_statement`).  A request that is the
first of its computation is always found again.  One that was folded is found again as long as
no node has written the outputs that became aliases; and if these have not been joined to
something else, nothing changes.

## Main definitions

* `StageGraph.Novel` — no node computes what is requested
* `StageGraph.openOutputs` — the outputs that a request leaves to aliases
* `StageGraph.Unchanged` — nodes, aliases and producers are the same

## Main results

* `StageGraph.compile_congr` — what the source of a graph depends on
* `StageGraph.add_again` — when a request that is made again leaves no trace
-/

namespace ShaderLoom
namespace StageGraph

/-! ## The first node of a computation -/

/-- The first node that computes the same as a request. -/
def firstAlike (nodes : List Node) (request : Node) : Option (Node × NodeId) :=
  nodes.zipIdx.find? fun entry => entry.1.sameComputation request

theorem firstAlike_append (nodes more : List Node) (request : Node) :
    firstAlike (nodes ++ more) request = (firstAlike nodes request).or
      ((more.zipIdx nodes.length).find? fun entry => entry.1.sameComputation request) := by
  rw [firstAlike, List.zipIdx_append, List.find?_append, Nat.zero_add]
  rfl

/-- The first node of a computation stays the first. -/
theorem firstAlike_of_grown {nodes more : List Node} (grown : nodes <+: more) {request : Node}
    {entry : Node × NodeId} (found : firstAlike nodes request = some entry) :
    firstAlike more request = some entry := by
  obtain ⟨rest, rfl⟩ := grown
  rw [firstAlike_append, found, Option.some_or]

/-- A request that computes something new becomes the first node of its computation. -/
theorem firstAlike_concat_self {nodes : List Node} {request : Node}
    (new : firstAlike nodes request = none) :
    firstAlike (nodes ++ [request]) request = some (request, nodes.length) := by
  rw [firstAlike_append, new, Option.none_or]
  simp [Node.sameComputation]

theorem firstAlike_eq_none_iff {nodes : List Node} {request : Node} :
    firstAlike nodes request = none ↔ ∀ node ∈ nodes, node.sameComputation request = false := by
  rw [firstAlike, List.find?_eq_none]
  constructor
  · intro none node member
    obtain ⟨id, found⟩ := List.getElem?_of_mem member
    simpa using none (node, id) (List.mk_mem_zipIdx_iff_getElem?.mpr found)
  · intro none entry member
    simpa using none entry.1 (List.fst_mem_of_mem_zipIdx member)

theorem getElem?_of_firstAlike {nodes : List Node} {request earlier : Node} {id : NodeId}
    (found : firstAlike nodes request = some (earlier, id)) : nodes[id]? = some earlier :=
  List.mk_mem_zipIdx_iff_getElem?.mp (List.mem_of_find?_eq_some found)

/-! ## What a request gives -/

/-- A graph with one more node. -/
def stored (graph : StageGraph) (request : Node) : NodeId × StageGraph :=
  (graph.nodes.length, { graph with nodes := graph.nodes ++ [request] })

/-- A graph whose request was folded into an earlier node. -/
def joining (graph : StageGraph) (request earlier : Node) (id : NodeId) : NodeId × StageGraph :=
  (id, { graph with
    aliases := newAliases request earlier ++ graph.aliases
    folded := graph.folded ++ [request.operation] })

section Add

variable {graph : StageGraph} {node request earlier : Node} {id : NodeId}
  (resolved : node.mapReads graph.resolve = request)

include resolved

theorem add_of_new (new : firstAlike graph.nodes request = none) :
    graph.add node = graph.stored request := by
  have twin : graph.twin? request = none := by
    rw [twin?]
    change (firstAlike graph.nodes request).filter _ = none
    rw [new]
    rfl
  simp only [add, resolved, twin, stored]

theorem add_of_alike (first : firstAlike graph.nodes request = some (earlier, id)) :
    graph.add node = if graph.canFold request earlier then graph.joining request earlier id
      else graph.stored request := by
  have twin : graph.twin? request =
      if graph.canFold request earlier then some (earlier, id) else none := by
    rw [twin?]
    change (firstAlike graph.nodes request).filter _ = _
    rw [first, Option.filter_some]
  by_cases folds : graph.canFold request earlier = true
  · simp only [add, resolved, twin, if_pos folds, joining]
  · simp only [add, resolved, twin, if_neg folds, stored]

end Add

/-! ## Folding -/

/-- Whether a request could be folded into a node if nothing had been written. -/
def Matches (request earlier : Node) : Prop :=
  request.outputs.length = earlier.outputs.length ∧
    ∀ pair ∈ request.outputs.zip earlier.outputs, pair.1.1 = pair.2.1 ∧
      (pair.1.2 = pair.2.2 ∨ pair.1.2.storage = .temporary ∧ pair.1.2.type = pair.2.2.type)

section Fold

variable {graph later : StageGraph} {request earlier : Node}

/-- Apart from writers, folding does not depend on the graph. -/
theorem canFold_iff : graph.canFold request earlier = true ↔ Matches request earlier ∧
    ∀ pair ∈ request.outputs.zip earlier.outputs, pair.1.2 ≠ pair.2.2 →
      graph.writers pair.1.2 = [] := by
  simp only [canFold, canAlias, Matches, Bool.and_eq_true, Bool.or_eq_true, beq_iff_eq,
    List.all_eq_true, List.isEmpty_iff]
  constructor
  · rintro ⟨lengths, joins⟩
    refine ⟨⟨lengths, fun pair member => ?_⟩, fun pair member different => ?_⟩
    · obtain ⟨slots, same | ⟨kept, -⟩⟩ := joins pair member
      · exact ⟨slots, .inl same⟩
      · exact ⟨slots, .inr kept⟩
    · obtain ⟨-, same | ⟨-, unwritten⟩⟩ := joins pair member
      · exact absurd same different
      · exact unwritten
  · rintro ⟨⟨lengths, suits⟩, unwritten⟩
    refine ⟨lengths, fun pair member => ⟨(suits pair member).1, ?_⟩⟩
    by_cases same : pair.1.2 = pair.2.2
    · exact .inl same
    · exact .inr ⟨(suits pair member).2.resolve_left same, unwritten pair member same⟩

/-- What could not be folded once cannot be folded later. -/
theorem canFold_of_grown (grown : ∀ v, graph.writers v <+: later.writers v)
    (folds : later.canFold request earlier = true) : graph.canFold request earlier = true := by
  rw [canFold_iff] at folds ⊢
  refine ⟨folds.1, fun pair member different => ?_⟩
  exact List.prefix_nil.mp (folds.2 pair member different ▸ grown pair.1.2)

theorem eq_of_mem_zip_self {α : Type} {items : List α} {pair : α × α}
    (member : pair ∈ items.zip items) : pair.1 = pair.2 := by
  rw [List.zip_eq_zipWith, List.zipWith_self] at member
  obtain ⟨item, _, rfl⟩ := List.mem_map.mp member
  rfl

/-- A node can be folded into itself, without aliases. -/
theorem canFold_self (graph : StageGraph) (request : Node) :
    graph.canFold request request = true := by
  have same : ∀ pair ∈ request.outputs.zip request.outputs, pair.1 = pair.2 :=
    fun _ => eq_of_mem_zip_self
  rw [canFold_iff]
  refine ⟨⟨rfl, fun pair member => ?_⟩, fun pair member different => ?_⟩
  · rw [same pair member]
    exact ⟨rfl, .inl rfl⟩
  · exact absurd (congrArg Prod.snd (same pair member)) different

theorem newAliases_self (request : Node) : newAliases request request = [] := by
  rw [newAliases, List.reverse_eq_nil_iff, List.filter_eq_nil_iff]
  intro pair member
  simp [eq_of_mem_zip_self member]

end Fold

/-! ## The outputs that are left to aliases -/

/-- The outputs of a request that no node writes.  If the request is folded, they become
aliases. -/
def openOutputs (graph : StageGraph) (node : Node) : List Variable :=
  node.writes.filter fun v => (graph.writers v).isEmpty

theorem mem_openOutputs {graph : StageGraph} {node : Node} {v : Variable} :
    v ∈ graph.openOutputs node ↔ v ∈ node.writes ∧ graph.writers v = [] := by
  rw [openOutputs, List.mem_filter, List.isEmpty_iff]

section OpenOutputs

variable {asked : StageGraph} (later : StageGraph) {node request earlier : Node}
  (outputs : request.outputs = node.outputs) (present : earlier ∈ asked.nodes)
  (folds : asked.canFold request earlier = true)

include outputs present folds

/-- The outputs that a folded request leaves to aliases are those that are new aliases. -/
theorem mem_openOutputs_iff {v : Variable} :
    v ∈ asked.openOutputs node ↔ ∃ w, (v, w) ∈ newAliases request earlier := by
  have writes : node.writes = request.writes := congrArg (List.map Prod.snd) outputs.symm
  rw [mem_openOutputs, writes]
  constructor
  · rintro ⟨output, unwritten⟩
    rcases mem_writes_or_mem_newAliases folds output with own | ⟨w, -, member⟩
    · exact absurd own (writers_eq_nil_iff.mp unwritten earlier present)
    · exact ⟨w, member⟩
  · rintro ⟨w, member⟩
    obtain ⟨-, -, unwritten, slot, output, -⟩ := mem_newAliases folds member
    exact ⟨Node.mem_writes output, unwritten⟩

/-- A request that was folded can be folded again as long as these have not been written. -/
theorem canFold_later_iff :
    later.canFold request earlier = true ↔
      ∀ v ∈ asked.openOutputs node, later.writers v = [] := by
  have suits := (canFold_iff.mp folds).1
  have pairs {v w : Variable} : (v, w) ∈ newAliases request earlier ↔
      (v, w) ∈ request.writes.zip earlier.writes ∧ v ≠ w := by
    rw [newAliases, List.mem_reverse, List.mem_filter, bne_iff_ne]
  rw [canFold_iff]
  constructor
  · rintro ⟨-, unwritten⟩ v member
    obtain ⟨w, made⟩ := (mem_openOutputs_iff outputs present folds).mp member
    obtain ⟨paired, different⟩ := pairs.mp made
    rw [Node.writes, Node.writes, List.zip_map, List.mem_map] at paired
    obtain ⟨pair, among, same⟩ := paired
    obtain ⟨rfl, rfl⟩ := Prod.mk.inj same
    exact unwritten pair among different
  · intro untouched
    refine ⟨suits, fun pair member different => untouched _ ?_⟩
    refine (mem_openOutputs_iff outputs present folds).mpr ⟨pair.2.2, pairs.mpr ⟨?_, different⟩⟩
    rw [Node.writes, Node.writes, List.zip_map]
    exact List.mem_map.mpr ⟨pair, member, rfl⟩

end OpenOutputs

/-! ## Growth -/

section Growth

variable (graph : StageGraph) (edits : List Edit)

theorem nodes_prefix_foldl : graph.nodes <+: (edits.foldl edit graph).nodes := by
  induction edits generalizing graph with
  | nil => exact List.prefix_rfl
  | cons change edits ih => exact (nodes_prefix_edit graph change).trans (ih _)

theorem writers_prefix_foldl (v : Variable) :
    graph.writers v <+: (edits.foldl edit graph).writers v := by
  induction edits generalizing graph with
  | nil => exact List.prefix_rfl
  | cons change edits ih => exact (writers_edit graph change v).trans (ih _)

end Growth

/-! ## Graphs that look the same -/

/-- Nodes, aliases and producers are the same. -/
structure Unchanged (before after : StageGraph) : Prop where
  nodes : after.nodes = before.nodes
  aliases : ∀ v, after.aliases.lookup v = before.aliases.lookup v
  producers : ∀ v, after.producers v = before.producers v

/-- Where aliases stand for the same variables, variables resolve in the same way. -/
theorem resolve_congr {graph other : StageGraph} (laws : AliasLaws graph)
    (others : AliasLaws other) (same : ∀ v, other.aliases.lookup v = graph.aliases.lookup v) :
    other.resolve = graph.resolve := by
  funext v
  have kept : ∀ v target, graph.aliases.lookup v = some target →
      other.aliases.lookup v = some target := by
    intro v target found
    rw [same, found]
  have settled : other.aliases.lookup (graph.resolve v) = none := by
    rw [same, laws.lookup_resolve]
  calc other.resolve v = other.resolve (graph.resolve v) :=
        (others.resolve_follow kept _ v).symm
    _ = graph.resolve v := resolve_of_lookup_none settled

theorem unchanged_of_lookup {graph other : StageGraph} (laws : AliasLaws graph)
    (others : AliasLaws other) (nodes : other.nodes = graph.nodes)
    (same : ∀ v, other.aliases.lookup v = graph.aliases.lookup v) : Unchanged graph other := by
  refine ⟨nodes, same, fun v => ?_⟩
  rw [producers, producers, resolve_congr laws others same, writers_congr nodes]

section Congruence

variable {graph other : StageGraph} (nodes : other.nodes = graph.nodes)
  (resolve : other.resolve = graph.resolve)

include nodes resolve

theorem producers_eq_of_resolve : other.producers = graph.producers := by
  funext v
  rw [producers, producers, resolve, writers_congr nodes]

theorem scheduleRoot_congr : other.scheduleRoot = graph.scheduleRoot := by
  have node : other.node? = graph.node? := by
    funext id
    rw [node?, node?, nodes]
  have producers := producers_eq_of_resolve nodes resolve
  have dependencies : other.dependencies = graph.dependencies := by
    funext id
    rw [StageGraph.dependencies, StageGraph.dependencies, node, producers]
  have cycles : other.cycleError = graph.cycleError := by
    funext id
    rw [cycleError, cycleError, node]
  have schedule : other.scheduleNode = graph.scheduleNode := by
    funext order id
    rw [scheduleNode, scheduleNode, dependencies, cycles, nodes]
  funext order root
  rw [scheduleRoot, scheduleRoot, producers, schedule]

/-- **What the source of a graph depends on**: its nodes and roots, and what variables resolve
to. -/
theorem compile_congr (header : other.stage = graph.stage ∧ other.name = graph.name)
    (table : other.table = graph.table) (roots : other.roots = graph.roots)
    (compiler : Compiler) : compiler.compile other = compiler.compile graph := by
  have builtin : other.builtin? = graph.builtin? := by
    funext name
    rw [builtin?, builtin?, table]
  have mandatory : other.mandatoryRoots = graph.mandatoryRoots := by
    rw [mandatoryRoots, mandatoryRoots, header.1, builtin, resolve]
  have all : other.allRoots = graph.allRoots := by
    rw [allRoots, allRoots, mandatory, roots, resolve]
  have order : other.schedule = graph.schedule := by
    rw [schedule, schedule, all, scheduleRoot_congr nodes resolve]
  have resolved : other.resolvedNode? = graph.resolvedNode? := by
    funext id
    rw [resolvedNode?, resolvedNode?, node?, node?, nodes, resolve]
  rw [Compiler.compile, Compiler.compile, Compiler.scheduledNodes,
    Compiler.scheduledNodes, order, resolved, header.1, header.2]

end Congruence

/-! ## Asking again -/

/-- No node computes what is requested. -/
def Novel (graph : StageGraph) (node : Node) : Prop :=
  ∀ earlier ∈ graph.nodes, earlier.sameComputation (node.mapReads graph.resolve) = false

instance (graph : StageGraph) (node : Node) : Decidable (graph.Novel node) :=
  inferInstanceAs (Decidable (∀ earlier ∈ graph.nodes,
    earlier.sameComputation (node.mapReads graph.resolve) = false))

theorem answer_lt (graph : StageGraph) (node : Node) :
    (graph.add node).1 < (graph.add node).2.nodes.length := by
  rcases add_cases graph node with ⟨_, id, found, _, _, _, added⟩ | added
  · rw [added]
    exact (List.getElem?_eq_some_iff.mp found).1
  · rw [added, List.length_append]
    exact Nat.lt_succ_self _

/-- **What can happen to a request that is made again.**  It was the first of its computation
and is folded into its own node; or it was folded into an earlier node, which is tried once
more; or it was kept apart from an earlier node, and it still is. -/
theorem add_again_cases {asked later : StageGraph} {node again request : Node}
    (resolved : node.mapReads asked.resolve = request)
    (same : again.mapReads later.resolve = request) {more : List Edit}
    (continued : more.foldl edit (asked.add node).2 = later) :
    (asked.Novel node ∧ later.add again = later.joining request request (asked.add node).1) ∨
    ¬ asked.Novel node ∧
      ((∃ earlier ∈ asked.nodes, asked.canFold request earlier = true ∧
        (asked.add node).1 < asked.nodes.length ∧
        (asked.add node).2.aliases = newAliases request earlier ++ asked.aliases ∧
        later.add again = if later.canFold request earlier then
          later.joining request earlier (asked.add node).1 else later.stored request) ∨
      asked.nodes.length ≤ (asked.add node).1 ∧ later.add again = later.stored request) := by
  have grown := nodes_prefix_foldl (asked.add node).2 more
  have writers (v : Variable) : asked.writers v <+: later.writers v := by
    rw [← continued]
    exact (writers_add asked node v).trans (writers_prefix_foldl _ more v)
  rw [continued] at grown
  unfold Novel
  rw [resolved, ← firstAlike_eq_none_iff]
  cases first : firstAlike asked.nodes request with
  | none =>
      refine .inl ⟨rfl, ?_⟩
      rw [add_of_new resolved first] at grown ⊢
      have own := firstAlike_of_grown grown (firstAlike_concat_self first)
      rw [add_of_alike same own, if_pos (canFold_self later request)]
      rfl
  | some entry =>
      obtain ⟨earlier, id⟩ := entry
      have found := getElem?_of_firstAlike first
      have added := add_of_alike resolved first
      have known : firstAlike later.nodes request = some (earlier, id) := by
        refine firstAlike_of_grown (List.IsPrefix.trans ?_ grown) first
        exact nodes_prefix_edit asked (.request node)
      refine .inr ⟨Option.some_ne_none _, ?_⟩
      by_cases folds : asked.canFold request earlier = true
      · rw [if_pos folds] at added
        refine .inl ⟨earlier, List.mem_of_getElem? found, folds, ?_, ?_, ?_⟩
        · rw [added]
          exact (List.getElem?_eq_some_iff.mp found).1
        · rw [added]
          rfl
        · rw [added, add_of_alike same known]
          rfl
      · rw [if_neg folds] at added
        have apart : ¬ later.canFold request earlier = true :=
          fun joins => folds (canFold_of_grown writers joins)
        refine .inr ⟨?_, ?_⟩
        · rw [added]
          exact Nat.le_refl _
        · rw [add_of_alike same known, if_neg apart]

/-- Folding a request once more changes no alias if its outputs still stand for the same. -/
theorem lookup_joining_iff {asked : StageGraph} (later : StageGraph)
    {node request earlier : Node} (id : NodeId) (outputs : request.outputs = node.outputs)
    (present : earlier ∈ asked.nodes) (folds : asked.canFold request earlier = true)
    (made : (asked.add node).2.aliases = newAliases request earlier ++ asked.aliases) :
    (∀ v, (later.joining request earlier id).2.aliases.lookup v = later.aliases.lookup v) ↔
      ∀ v ∈ asked.openOutputs node,
        later.aliases.lookup v = (asked.add node).2.aliases.lookup v := by
  have split (v : Variable) : (later.joining request earlier id).2.aliases.lookup v =
      ((newAliases request earlier).lookup v).or (later.aliases.lookup v) :=
    List.lookup_append
  constructor
  · intro same v member
    obtain ⟨w, joined⟩ := (mem_openOutputs_iff outputs present folds).mp member
    rw [← same v, split, made, List.lookup_append]
    cases found : (newAliases request earlier).lookup v with
    | some target => rfl
    | none =>
        have other := List.lookup_eq_none_iff.mp found _ joined
        simp at other
  · intro same v
    rw [split]
    cases found : (newAliases request earlier).lookup v with
    | none => rfl
    | some target =>
        have member := (mem_openOutputs_iff outputs present folds).mpr
          ⟨target, Association.mem_of_lookup found⟩
        rw [same v member, made, List.lookup_append, found]
        rfl

/-- Only nodes and aliases matter when requests are made. -/
theorem compile_add {graph : StageGraph} {node : Node}
    (nodes : (graph.add node).2.nodes = graph.nodes)
    (resolve : (graph.add node).2.resolve = graph.resolve) (compiler : Compiler) :
    compiler.compile (graph.add node).2 = compiler.compile graph := by
  rcases add_cases graph node with ⟨_, _, _, _, _, _, added⟩ | added
  · rw [added] at nodes resolve ⊢
    exact compile_congr nodes resolve ⟨rfl, rfl⟩ rfl rfl compiler
  · rw [added] at nodes resolve ⊢
    exact compile_congr nodes resolve ⟨rfl, rfl⟩ rfl rfl compiler

/-- **When a request that is made again leaves no trace.**  A request is made to some graph, any
edits follow, and it is made again: the same operation on inputs that resolve to the same
variables, with the same outputs.

* It is given the same answer if and only if it was the first of its computation, or it was
  folded and no node has written the outputs that became aliases.
* Otherwise it becomes one more node.
* Besides being given the same answer, it leaves nodes, aliases and producers as they are if and
  only if it was the first of its computation, or these outputs are still written by no node and
  stand for what they stood for.
* If it leaves nodes, aliases and producers as they are, the source of the graph stays the same,
  so no statement is written twice. -/
theorem add_again (stage : Stage) (name : String) (edits : List Edit) (node : Node)
    (more : List Edit) (again : Node) :
    let asked := build stage name edits
    let later := build stage name (edits ++ .request node :: more)
    let answer := (asked.add node).1
    let repeated := later.add again
    again.mapReads later.resolve = node.mapReads asked.resolve →
    (repeated.1 = answer ↔ asked.Novel node ∨
      answer < asked.nodes.length ∧ ∀ v ∈ asked.openOutputs node, later.writers v = []) ∧
    (repeated.1 ≠ answer → repeated = later.stored (node.mapReads asked.resolve)) ∧
    (repeated.1 = answer ∧ Unchanged later repeated.2 ↔ asked.Novel node ∨
      answer < asked.nodes.length ∧ ∀ v ∈ asked.openOutputs node, later.writers v = [] ∧
        later.aliases.lookup v = (asked.add node).2.aliases.lookup v) ∧
    (Unchanged later repeated.2 → ∀ compiler : Compiler,
      compiler.compile repeated.2 = compiler.compile later) := by
  intro asked later answer repeated same
  have continued : more.foldl edit (asked.add node).2 = later := by
    change _ = List.foldl _ _ _
    rw [List.foldl_append]
    rfl
  have laws : AliasLaws later := aliasLaws_build stage name _
  have lawsAfter : AliasLaws repeated.2 := aliasLaws_add laws again
  have known : answer < later.nodes.length := by
    have grown := (nodes_prefix_foldl (asked.add node).2 more).length_le
    rw [continued] at grown
    exact Nat.lt_of_lt_of_le (answer_lt asked node) grown
  have fresh : (later.stored (node.mapReads asked.resolve)).1 ≠ answer := Nat.ne_of_gt known
  have compiles : Unchanged later repeated.2 → ∀ compiler : Compiler,
      compiler.compile repeated.2 = compiler.compile later :=
    fun unchanged =>
      compile_add unchanged.nodes (resolve_congr laws lawsAfter unchanged.aliases)
  rcases add_again_cases rfl same continued with
    ⟨novel, given⟩ | ⟨old, ⟨earlier, present, folds, bound, made, given⟩ | ⟨bound, given⟩⟩
  · -- The request is folded into its own node, without aliases.
    have answered : repeated.1 = answer := by
      rw [show repeated = _ from given]
      rfl
    have unchanged : Unchanged later repeated.2 := by
      refine unchanged_of_lookup laws lawsAfter (congrArg (nodes ∘ Prod.snd) given) fun v => ?_
      rw [show repeated = _ from given, joining, newAliases_self]
      rfl
    exact ⟨iff_of_true answered (.inl novel), fun other => absurd answered other,
      iff_of_true ⟨answered, unchanged⟩ (.inl novel), compiles⟩
  · have outputs : (node.mapReads asked.resolve).outputs = node.outputs := rfl
    have refolds := canFold_later_iff later outputs present folds
    by_cases joins : later.canFold (node.mapReads asked.resolve) earlier = true
    · -- It is folded into the same node once more.
      rw [if_pos joins] at given
      have untouched := refolds.mp joins
      have answered : repeated.1 = answer := by
        rw [show repeated = _ from given]
        rfl
      have unmoved := lookup_joining_iff later answer outputs present folds made
      refine ⟨iff_of_true answered (.inr ⟨bound, untouched⟩),
        fun other => absurd answered other, ?_, compiles⟩
      constructor
      · rintro ⟨-, unchanged⟩
        have kept := unmoved.mp (given ▸ unchanged.aliases)
        exact .inr ⟨bound, fun v member => ⟨untouched v member, kept v member⟩⟩
      · rintro (novel | ⟨-, kept⟩)
        · exact absurd novel old
        · refine ⟨answered, unchanged_of_lookup laws lawsAfter
            (congrArg (nodes ∘ Prod.snd) given) ?_⟩
          rw [show repeated = _ from given]
          exact unmoved.mpr fun v member => (kept v member).2
    · -- Some output has been written since.
      rw [if_neg joins] at given
      have other : repeated.1 ≠ answer := by
        rw [show repeated = _ from given]
        exact fresh
      refine ⟨iff_of_false other ?_, fun _ => given,
        iff_of_false (fun both => other both.1) ?_, compiles⟩
      · rintro (novel | ⟨-, untouched⟩)
        · exact old novel
        · exact joins (refolds.mpr untouched)
      · rintro (novel | ⟨-, kept⟩)
        · exact old novel
        · exact joins (refolds.mpr fun v member => (kept v member).1)
  · -- It is kept apart from the first node of its computation.
    have other : repeated.1 ≠ answer := by
      rw [show repeated = _ from given]
      exact fresh
    have neither {rest : Prop} : ¬ (asked.Novel node ∨ answer < asked.nodes.length ∧ rest) := by
      rintro (novel | ⟨small, -⟩)
      · exact old novel
      · exact absurd small (Nat.not_lt.mpr bound)
    exact ⟨iff_of_false other neither, fun _ => given,
      iff_of_false (fun both => other both.1) neither, compiles⟩

/-! ## Requests on two directions -/

/-- A copy that is asked for under another name of what it copies, and a direction that is
normalized once more: both requests leave no trace, although others came in between. -/
theorem add_again_normalizedPair :
    let more : List Edit := [.request (normalizing (supplied "first") (computed "d")),
      .request (copying (supplied "second") (computed "e"))]
    let asked := build .fragment "demo" normalizedPair
    (let node := copying (computed "a") (computed "c")
     let again := copying (computed "d") (computed "c")
     let later := build .fragment "demo" (normalizedPair ++ .request node :: more)
     again.mapReads later.resolve = node.mapReads asked.resolve ∧ asked.Novel node ∧
       (later.add again).1 = (asked.add node).1 ∧ Unchanged later (later.add again).2) ∧
    (let node := normalizing (supplied "first") (computed "c")
     let later := build .fragment "demo" (normalizedPair ++ .request node :: more)
     node.mapReads later.resolve = node.mapReads asked.resolve ∧ ¬ asked.Novel node ∧
       (later.add node).1 = (asked.add node).1 ∧ Unchanged later (later.add node).2) := by
  intro more asked
  refine ⟨?_, ?_⟩
  · intro node again later
    have same : again.mapReads later.resolve = node.mapReads asked.resolve := by decide
    have novel : asked.Novel node := by decide
    obtain ⟨-, -, traceless, -⟩ :=
      add_again .fragment "demo" normalizedPair node more again same
    exact ⟨same, novel, traceless.mpr (.inl novel)⟩
  · intro node later
    have same : node.mapReads later.resolve = node.mapReads asked.resolve := by decide
    obtain ⟨-, -, traceless, -⟩ := add_again .fragment "demo" normalizedPair node more node same
    exact ⟨same, by decide, traceless.mpr (.inr ⟨by decide, by decide⟩)⟩

/-- A color that the host supplies. -/
def tint : Variable := { name := "tint", type := .vec4, storage := .uniform }

/-- A color that the vertex stage hands over. -/
def glow : Variable := { name := "glow", type := .vec4, storage := .varying }

/-- The color of the fragment. -/
def shade : Variable := { name := fragColorName, type := .vec4, storage := .builtin }

/-- **Requests may leave traces when they are made again.**  A copy to the color of the fragment
that follows a copy to something else becomes a node each time, and its statement is written
twice.  A request that was folded becomes a node if its output has been written, and takes its
output back if that was joined to another node. -/
theorem repeated_statement :
    (let asked := build .fragment "demo"
      [.declare tint, .declare glow, .request (copying tint glow)]
     let once := asked.add (copying tint shade)
     let twice := once.2.add (copying tint shade)
     once.1 = 1 ∧ twice.1 = 2 ∧ once.2.producers shade = [1] ∧
     twice.2.producers shade = [1, 2] ∧
       (Compiler.scheduledNodes twice.2).toOption =
         some [copying tint shade, copying tint shade]) ∧
    (let node := normalizing (supplied "first") (computed "c")
     let asked := build .fragment "demo" normalizedPair
     let written := ((asked.add node).2.add (copying (supplied "second") (computed "c"))).2
     let moved := ((asked.add node).2.add (normalizing (supplied "second") (computed "c"))).2
     (asked.add node).1 = 0 ∧ (written.add node).1 = 3 ∧
       (moved.add node).1 = 0 ∧ moved.producers (computed "c") = [1] ∧
         (moved.add node).2.producers (computed "c") = [0]) := by
  decide

end StageGraph
end ShaderLoom
