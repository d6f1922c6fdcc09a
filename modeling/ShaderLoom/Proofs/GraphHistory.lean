import Mathlib.Data.List.Basic
import Mathlib.Data.List.Induction
import ShaderLoom.Association
import ShaderLoom.Stage.Graph

/-!
# Histories of stage graphs

A stage graph is built up by a sequence of edits: variables are declared, temporaries created,
nodes requested, roots marked and results shared, in any order.  What holds of every graph is
what holds of the empty graph and is kept by every edit.

The interesting edit is a request that is folded into an earlier node.  It adds aliases, and the
questions are where they lead and whether following them comes to an end.  At the moment an
alias is made its source is written by no node and its target is.  Writers never go away, so a
target can never become a source later: every chain of aliases runs back in time
(`AliasLaws.ordered`), and the variable at its end is no alias (`AliasLaws.lookup_resolve`).

## Main definitions

* `StageGraph.Edit`, `StageGraph.build` — edits and the graph that they build
* `StageGraph.requested`, `StageGraph.demanded` — the requests and roots among edits
* `StageGraph.AliasLaws` — what is known about the aliases of every graph

## Main results

* `StageGraph.build_induction` — an invariant of edits holds of every graph
* `StageGraph.aliasLaws_build` — the aliases of every graph obey the laws
* `StageGraph.AliasLaws.lookup_resolve` — resolving comes to an end
-/

namespace ShaderLoom
namespace StageGraph

/-! ## Writers -/

/-- A node writes a variable if it has it in an output slot. -/
theorem mem_writers {graph : StageGraph} {v : Variable} {id : NodeId} :
    id ∈ graph.writers v ↔ ∃ node, graph.nodes[id]? = some node ∧ v ∈ node.writes := by
  simp only [writers, List.mem_flatMap, Prod.exists, List.mem_map, List.mem_filter, beq_iff_eq,
    List.mk_mem_zipIdx_iff_getElem?]
  constructor
  · rintro ⟨node, position, found, written, ⟨member, rfl⟩, rfl⟩
    exact ⟨node, found, member⟩
  · rintro ⟨node, found, member⟩
    exact ⟨node, id, found, v, ⟨member, rfl⟩, rfl⟩

theorem writers_eq_nil_iff {graph : StageGraph} {v : Variable} :
    graph.writers v = [] ↔ ∀ node ∈ graph.nodes, v ∉ node.writes := by
  rw [List.eq_nil_iff_forall_not_mem]
  constructor
  · intro none node member written
    obtain ⟨id, found⟩ := List.getElem?_of_mem member
    exact none id (mem_writers.mpr ⟨node, found, written⟩)
  · intro unwritten id member
    obtain ⟨node, found, written⟩ := mem_writers.mp member
    exact unwritten node (List.mem_of_getElem? found) written

theorem writers_lt {graph : StageGraph} {v : Variable} {id : NodeId}
    (member : id ∈ graph.writers v) : id < graph.nodes.length := by
  obtain ⟨node, found, _⟩ := mem_writers.mp member
  exact (List.getElem?_eq_some_iff.mp found).1

/-! ## Requests -/

/-- A request is folded into a node that computes the same and whose outputs can stand for its
own. -/
theorem twin?_eq_some {graph : StageGraph} {request earlier : Node} {id : NodeId}
    (found : graph.twin? request = some (earlier, id)) :
    graph.nodes[id]? = some earlier ∧ earlier.operation = request.operation ∧
      earlier.inputs = request.inputs ∧ graph.canFold request earlier = true := by
  obtain ⟨first, folds⟩ := Option.filter_eq_some_iff.mp found
  have same := List.find?_some first
  have member := List.mem_of_find?_eq_some first
  rw [List.mk_mem_zipIdx_iff_getElem?] at member
  simp only [Node.sameComputation, Bool.and_eq_true, beq_iff_eq] at same
  exact ⟨member, same.1, same.2, folds⟩

/-- What one alias of a folded request looks like. -/
theorem mem_newAliases {graph : StageGraph} {request earlier : Node}
    (folds : graph.canFold request earlier = true) {fresh old : Variable}
    (member : (fresh, old) ∈ newAliases request earlier) :
    fresh ≠ old ∧ fresh.storage = .temporary ∧ graph.writers fresh = [] ∧
      ∃ slot, (slot, fresh) ∈ request.outputs ∧ (slot, old) ∈ earlier.outputs ∧
        fresh.type = old.type := by
  simp only [newAliases, Node.writes, List.zip_map, List.mem_reverse, List.mem_filter,
    List.mem_map, bne_iff_ne, ne_eq] at member
  obtain ⟨⟨⟨⟨slot, v⟩, ⟨slot', w⟩⟩, paired, equal⟩, different⟩ := member
  cases equal
  simp only [canFold, Bool.and_eq_true, List.all_eq_true] at folds
  have joins := folds.2 _ paired
  simp only [canAlias, Bool.and_eq_true, Bool.or_eq_true, beq_iff_eq, List.isEmpty_iff] at joins
  obtain ⟨rfl, same | ⟨⟨temporary, types⟩, unwritten⟩⟩ := joins
  · exact absurd same different
  · obtain ⟨inRequest, inEarlier⟩ := List.of_mem_zip paired
    exact ⟨different, temporary, unwritten, slot, inRequest, inEarlier, types⟩

/-- **What a request can do**: it is folded into an earlier node, which leaves the nodes as they
are, or it becomes a node, which leaves the aliases as they are. -/
theorem add_cases (graph : StageGraph) (node : Node) :
    (∃ earlier id, graph.nodes[id]? = some earlier ∧
        earlier.operation = node.operation ∧
        earlier.inputs = (node.mapReads graph.resolve).inputs ∧
        graph.canFold (node.mapReads graph.resolve) earlier = true ∧
        graph.add node = (id, { graph with
          aliases := newAliases (node.mapReads graph.resolve) earlier ++ graph.aliases
          folded := graph.folded ++ [node.operation] })) ∨
      graph.add node = (graph.nodes.length,
        { graph with nodes := graph.nodes ++ [node.mapReads graph.resolve] }) := by
  unfold add
  dsimp only
  cases twin : graph.twin? (node.mapReads graph.resolve) with
  | none => exact .inr rfl
  | some pair =>
      obtain ⟨earlier, id⟩ := pair
      obtain ⟨found, operation, inputs, folds⟩ := twin?_eq_some twin
      exact .inl ⟨earlier, id, found, operation, inputs, folds, rfl⟩

/-! ## Edits -/

/-- One step of building up a graph. -/
inductive Edit where
  /-- Makes sure that a variable is in the table. -/
  | declare (v : Variable)
  /-- Creates a temporary. -/
  | temporary (type : DataType) (name : Option String)
  /-- Adds a node or folds it into an earlier one. -/
  | request (node : Node)
  /-- Marks a variable as one that the stage has to deliver. -/
  | root (v : Variable)
  /-- Puts a shared result under a key. -/
  | share (key : String) (v : Variable)

/-- The node that an edit requests. -/
def Edit.request? : Edit → Option Node
  | .request node => some node
  | _ => none

/-- The variable that an edit marks as a root. -/
def Edit.root? : Edit → Option Variable
  | .root v => some v
  | _ => none

/-- The nodes that edits request, in order. -/
def requested (edits : List Edit) : List Node :=
  edits.filterMap Edit.request?

/-- The variables that edits mark as roots, in order. -/
def demanded (edits : List Edit) : List Variable :=
  edits.filterMap Edit.root?

/-- Carries out an edit.  A declaration that is refused changes nothing. -/
def edit (graph : StageGraph) : Edit → StageGraph
  | .declare v =>
    match graph.table.declare v with
    | .ok table => { graph with table }
    | .error _ => graph
  | .temporary type name => { graph with table := (graph.table.fresh type name).2 }
  | .request node => (graph.add node).2
  | .root v => graph.addRoot v
  | .share key v => graph.setMemo key v

/-- The graph that a sequence of edits builds from an empty one. -/
def build (stage : Stage) (name : String) (edits : List Edit) : StageGraph :=
  edits.foldl edit (new stage name)

theorem build_concat (stage : Stage) (name : String) (edits : List Edit) (change : Edit) :
    build stage name (edits ++ [change]) = (build stage name edits).edit change := by
  rw [build, List.foldl_append]
  rfl

/-- What holds of the empty graph and is kept by every edit holds of every graph. -/
theorem build_induction {motive : StageGraph → Prop} {stage : Stage} {name : String}
    (empty : motive (new stage name)) (step : ∀ graph change, motive graph →
      motive (graph.edit change)) (edits : List Edit) : motive (build stage name edits) := by
  induction edits using List.reverseRecOn with
  | nil => exact empty
  | append_singleton edits change ih =>
      rw [build_concat]
      exact step _ change ih

theorem requested_concat (edits : List Edit) (change : Edit) :
    requested (edits ++ [change]) = requested edits ++ change.request?.toList := by
  rw [requested, List.filterMap_append]
  cases change <;> rfl

theorem demanded_concat (edits : List Edit) (change : Edit) :
    demanded (edits ++ [change]) = demanded edits ++ change.root?.toList := by
  rw [demanded, List.filterMap_append]
  cases change <;> rfl

/-- Only requests change nodes and aliases. -/
theorem edit_cases (graph : StageGraph) (change : Edit) :
    (∃ node, change = .request node) ∨
      (change.request? = none ∧ (graph.edit change).nodes = graph.nodes ∧
        (graph.edit change).aliases = graph.aliases) := by
  cases change with
  | declare v =>
      refine .inr ?_
      dsimp only [edit]
      cases graph.table.declare v <;> exact ⟨rfl, rfl, rfl⟩
  | temporary type name => exact .inr ⟨rfl, rfl, rfl⟩
  | request node => exact .inl ⟨node, rfl⟩
  | root v =>
      refine .inr ?_
      unfold edit addRoot
      dsimp only
      split <;> exact ⟨rfl, rfl, rfl⟩
  | share key v => exact .inr ⟨rfl, rfl, rfl⟩

/-- The nodes decide who writes a variable. -/
theorem writers_congr {graph other : StageGraph} (nodes : graph.nodes = other.nodes)
    (v : Variable) : graph.writers v = other.writers v := by
  rw [writers, writers, nodes]

/-! ## Aliases -/

/-- What is known about the aliases of every graph. -/
structure AliasLaws (graph : StageGraph) : Prop where
  /-- A target is written by a node. -/
  written : ∀ entry ∈ graph.aliases, graph.writers entry.2 ≠ []
  /-- A source is a temporary. -/
  temporary : ∀ entry ∈ graph.aliases, entry.1.storage = .temporary
  /-- A target is not the source of a later alias. -/
  ordered : graph.aliases.Pairwise fun later earlier => earlier.2 ≠ later.1
  /-- No alias stands for itself. -/
  proper : ∀ entry ∈ graph.aliases, entry.1 ≠ entry.2

theorem aliasLaws_new (stage : Stage) (name : String) : AliasLaws (new stage name) := by
  refine ⟨?_, ?_, List.Pairwise.nil, ?_⟩ <;>
    · intro entry member
      cases member

/-- The laws only look at nodes and aliases, and more writers do not hurt. -/
theorem AliasLaws.of_nodes {graph other : StageGraph} (laws : AliasLaws graph)
    (aliases : other.aliases = graph.aliases)
    (grows : ∀ v, graph.writers v ≠ [] → other.writers v ≠ []) : AliasLaws other := by
  refine ⟨?_, ?_, ?_, ?_⟩
  · intro entry member
    exact grows _ (laws.written entry (aliases ▸ member))
  · intro entry member
    exact laws.temporary entry (aliases ▸ member)
  · rw [aliases]
    exact laws.ordered
  · intro entry member
    exact laws.proper entry (aliases ▸ member)

theorem writers_append_ne_nil {graph : StageGraph} {nodes : List Node} {v : Variable}
    (written : graph.writers v ≠ []) :
    { graph with nodes := graph.nodes ++ nodes }.writers v ≠ [] := by
  rw [Ne, writers_eq_nil_iff] at written ⊢
  intro none
  exact written fun node member => none node (List.mem_append_left _ member)

theorem aliasLaws_add {graph : StageGraph} (laws : AliasLaws graph) (node : Node) :
    AliasLaws (graph.add node).2 := by
  rcases add_cases graph node with ⟨earlier, id, found, _, _, folds, added⟩ | added
  · rw [added]
    -- New targets are outputs of a node, new sources are written by none.
    have target : ∀ entry ∈ newAliases (node.mapReads graph.resolve) earlier,
        graph.writers entry.2 ≠ [] := by
      rintro ⟨source, target⟩ member
      obtain ⟨_, _, _, slot, _, output, _⟩ := mem_newAliases folds member
      rw [Ne, writers_eq_nil_iff]
      intro none
      exact none earlier (List.mem_of_getElem? found) (Node.mem_writes output)
    have source : ∀ entry ∈ newAliases (node.mapReads graph.resolve) earlier,
        graph.writers entry.1 = [] := by
      rintro ⟨source, target⟩ member
      exact (mem_newAliases folds member).2.2.1
    refine ⟨?_, ?_, ?_, ?_⟩
    · intro entry member
      rcases List.mem_append.mp member with new | old
      · exact target entry new
      · exact laws.written entry old
    · intro entry member
      rcases List.mem_append.mp member with new | old
      · exact (mem_newAliases folds new).2.1
      · exact laws.temporary entry old
    · refine List.pairwise_append.mpr ⟨?_, laws.ordered, ?_⟩
      · refine List.pairwise_of_forall_mem_list ?_
        intro later memberL earlier' memberE equal
        exact target earlier' memberE (equal ▸ source later memberL)
      · intro later memberL earlier' memberE equal
        exact laws.written earlier' memberE (equal ▸ source later memberL)
    · intro entry member
      rcases List.mem_append.mp member with new | old
      · exact (mem_newAliases folds new).1
      · exact laws.proper entry old
  · rw [added]
    exact laws.of_nodes rfl fun v written => writers_append_ne_nil written

theorem aliasLaws_edit {graph : StageGraph} (laws : AliasLaws graph) (change : Edit) :
    AliasLaws (graph.edit change) := by
  rcases edit_cases graph change with ⟨node, rfl⟩ | ⟨_, nodes, aliases⟩
  · exact aliasLaws_add laws node
  · exact laws.of_nodes aliases fun v written => by rwa [writers_congr nodes]

/-- **The aliases of every graph obey the laws.** -/
theorem aliasLaws_build (stage : Stage) (name : String) (edits : List Edit) :
    AliasLaws (build stage name edits) :=
  build_induction (aliasLaws_new stage name)
    (fun _ change laws => aliasLaws_edit laws change) edits

/-! ## Resolving -/

theorem follow_of_lookup_none {aliases : List (Variable × Variable)} {v : Variable}
    (free : aliases.lookup v = none) (steps : Nat) : follow aliases steps v = v := by
  cases steps with
  | zero => rfl
  | succ steps => rw [follow, free]

/-- Following aliases comes to an end.  A target is not the source of a later alias, so the
alias of a target stands further back; the aliases in `front` have been passed. -/
theorem lookup_follow (front : List (Variable × Variable))
    {aliases : List (Variable × Variable)}
    (ordered : (front ++ aliases).Pairwise fun later earlier => earlier.2 ≠ later.1)
    (proper : ∀ entry ∈ front ++ aliases, entry.1 ≠ entry.2) :
    ∀ {v : Variable} {steps : Nat}, aliases.length ≤ steps → front.lookup v = none →
      (front ++ aliases).lookup (follow (front ++ aliases) steps v) = none := by
  induction aliases generalizing front with
  | nil =>
      intro v steps _ passed
      rw [List.append_nil, follow_of_lookup_none passed]
      exact passed
  | cons entry rest ih =>
      intro v steps enough passed
      obtain ⟨source, target⟩ := entry
      have moved : front ++ (source, target) :: rest =
          (front ++ [(source, target)]) ++ rest := by
        rw [List.append_assoc, List.singleton_append]
      by_cases here : v = source
      · obtain ⟨steps, rfl⟩ : ∃ n, steps = n + 1 := by
          rw [List.length_cons] at enough
          exact ⟨steps - 1, by omega⟩
        have found : (front ++ (source, target) :: rest).lookup v = some target := by
          rw [List.lookup_append, passed, here, List.lookup_cons_self, Option.none_or]
        rw [follow, found]
        dsimp only
        rw [moved] at ordered proper ⊢
        refine ih _ ordered proper (by rw [List.length_cons] at enough; omega) ?_
        -- The target is neither this source nor one that has been passed.
        rw [List.lookup_eq_none_iff]
        intro entry member
        rw [bne_iff_ne]
        intro equal
        rcases List.mem_append.mp member with early | self
        · rw [← moved, List.pairwise_append] at ordered
          exact ordered.2.2 entry early (source, target) List.mem_cons_self equal
        · rw [List.mem_singleton] at self
          subst self
          exact proper (source, target)
            (List.mem_append_left _ (List.mem_append_right _ (List.mem_singleton_self _)))
            equal.symm
      · rw [moved] at ordered proper ⊢
        refine ih _ ordered proper (by rw [List.length_cons] at enough; omega) ?_
        rw [List.lookup_append, passed, List.lookup_singleton]
        simp [here]

/-- **Resolving comes to an end**: what a variable resolves to is no alias. -/
theorem AliasLaws.lookup_resolve {graph : StageGraph} (laws : AliasLaws graph) (v : Variable) :
    graph.aliases.lookup (graph.resolve v) = none :=
  lookup_follow [] laws.ordered laws.proper (Nat.le_refl _) rfl

theorem AliasLaws.resolve_resolve {graph : StageGraph} (laws : AliasLaws graph) (v : Variable) :
    graph.resolve (graph.resolve v) = graph.resolve v :=
  follow_of_lookup_none (laws.lookup_resolve v) _

theorem follow_add (aliases : List (Variable × Variable)) (m n : Nat) (v : Variable) :
    follow aliases (m + n) v = follow aliases n (follow aliases m v) := by
  induction m generalizing v with
  | zero => rw [Nat.zero_add]; rfl
  | succ m ih =>
      rw [Nat.succ_add, follow, follow]
      cases found : aliases.lookup v with
      | none =>
          dsimp only
          rw [follow_of_lookup_none found]
      | some target => exact ih target

/-- An alias resolves to what its target resolves to. -/
theorem AliasLaws.resolve_of_lookup {graph : StageGraph} (laws : AliasLaws graph)
    {v target : Variable} (found : graph.aliases.lookup v = some target) :
    graph.resolve v = graph.resolve target := by
  have settled := laws.lookup_resolve v
  calc graph.resolve v = follow graph.aliases 1 (graph.resolve v) :=
        (follow_of_lookup_none settled 1).symm
    _ = follow graph.aliases (1 + graph.aliases.length) v := by
        rw [resolve, ← follow_add, Nat.add_comm]
    _ = graph.resolve target := by
        rw [follow_add, follow, found]
        rfl

/-- If no alias is taken back, what a variable resolved to goes on resolving like the
variable. -/
theorem AliasLaws.resolve_follow {graph : StageGraph} (laws : AliasLaws graph)
    {aliases : List (Variable × Variable)}
    (kept : ∀ v target, aliases.lookup v = some target → graph.aliases.lookup v = some target)
    (steps : Nat) (v : Variable) :
    graph.resolve (follow aliases steps v) = graph.resolve v := by
  induction steps generalizing v with
  | zero => rfl
  | succ steps ih =>
      rw [follow]
      cases found : aliases.lookup v with
      | none => rfl
      | some target =>
          dsimp only
          rw [ih, laws.resolve_of_lookup (kept v target found)]

/-- Only temporaries are aliases. -/
theorem AliasLaws.resolve_of_storage {graph : StageGraph} (laws : AliasLaws graph)
    {v : Variable} (kept : v.storage ≠ .temporary) : graph.resolve v = v := by
  refine follow_of_lookup_none ?_ _
  rw [List.lookup_eq_none_iff]
  intro entry member
  rw [bne_iff_ne]
  intro equal
  exact kept (equal ▸ laws.temporary entry member)

/-- A variable stands for itself, or it is a temporary and stands for what a node writes. -/
theorem AliasLaws.resolve_cases {graph : StageGraph} (laws : AliasLaws graph) (v : Variable) :
    graph.resolve v = v ∨
      v.storage = .temporary ∧ ∃ node ∈ graph.nodes, graph.resolve v ∈ node.writes := by
  have targets : ∀ steps w, follow graph.aliases steps w = w ∨
      ∃ node ∈ graph.nodes, follow graph.aliases steps w ∈ node.writes := by
    intro steps
    induction steps with
    | zero => exact fun w => .inl rfl
    | succ steps ih =>
        intro w
        rw [follow]
        cases found : graph.aliases.lookup w with
        | none => exact .inl rfl
        | some target =>
            refine .inr ?_
            dsimp only
            rcases ih target with same | moved
            · rw [same]
              have produced := laws.written _ (Association.mem_of_lookup found)
              obtain ⟨id, writer⟩ := List.exists_mem_of_ne_nil _ produced
              obtain ⟨node, present, writes⟩ := mem_writers.mp writer
              exact ⟨node, List.mem_of_getElem? present, writes⟩
            · exact moved
  by_cases temporary : v.storage = .temporary
  · exact (targets _ v).imp_right fun moved => ⟨temporary, moved⟩
  · exact .inl (laws.resolve_of_storage temporary)

/-! ## Built-in outputs -/

/-- The built-in variables of a stage stay in the table under their names. -/
theorem find?_builtin {stage : Stage} {name : String} {v : Variable}
    (member : v ∈ builtins stage) (edits : List Edit) :
    (build stage name edits).table.find? v.name = some v := by
  refine build_induction (motive := fun graph => graph.table.find? v.name = some v) ?_ ?_ edits
  · cases stage <;> simp only [builtins, List.mem_cons, List.not_mem_nil, or_false] at member
    · rcases member with rfl | rfl <;> rfl
    · subst member
      rfl
  · intro graph change found
    -- Tables grow at the end, where they cannot hide an earlier variable.
    have kept : ∀ symbols, (graph.table.symbols ++ symbols).find? (fun w => w.name == v.name) =
        some v := by
      intro symbols
      rw [List.find?_append]
      change (graph.table.find? v.name).or _ = some v
      rw [found, Option.some_or]
    cases change with
    | declare w =>
        dsimp only [edit, SymbolTable.declare]
        cases graph.table.find? w.name with
        | none => exact kept [w]
        | some existing =>
            by_cases same : existing = w
            · simp only [same, if_true]
              exact found
            · simp only [same, if_false]
              exact found
    | temporary type name => exact kept _
    | request node =>
        rcases add_cases graph node with ⟨_, _, _, _, _, _, added⟩ | added
        · rw [edit, added]; exact found
        · rw [edit, added]; exact found
    | root w =>
        unfold edit addRoot
        dsimp only
        split <;> exact found
    | share key w => exact found

/-- Edits leave the stage and the name of a graph alone. -/
theorem edit_header (graph : StageGraph) (change : Edit) :
    (graph.edit change).stage = graph.stage ∧ (graph.edit change).name = graph.name := by
  cases change with
  | declare v =>
      dsimp only [edit]
      cases graph.table.declare v <;> exact ⟨rfl, rfl⟩
  | temporary type name => exact ⟨rfl, rfl⟩
  | request node =>
      rcases add_cases graph node with ⟨_, _, _, _, _, _, added⟩ | added <;>
        · rw [edit, added]; exact ⟨rfl, rfl⟩
  | root v => unfold edit addRoot; dsimp only; split <;> exact ⟨rfl, rfl⟩
  | share key v => exact ⟨rfl, rfl⟩

theorem build_stage (stage : Stage) (name : String) (edits : List Edit) :
    (build stage name edits).stage = stage := by
  refine build_induction (motive := fun graph => graph.stage = stage) rfl ?_ edits
  intro graph change same
  exact (edit_header graph change).1.trans same

theorem build_name (stage : Stage) (name : String) (edits : List Edit) :
    (build stage name edits).name = name := by
  refine build_induction (motive := fun graph => graph.name = name) rfl ?_ edits
  intro graph change same
  exact (edit_header graph change).2.trans same

end StageGraph
end ShaderLoom
