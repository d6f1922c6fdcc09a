import ShaderLoom.Proofs.Dataflow
import ShaderLoom.Proofs.TopologicalSchedule
import ShaderLoom.Stage.Source

/-!
# Folding and scheduling keep the meaning of requests

Nodes are requested in any order, readers before writers if need be.  A graph folds some
requests into earlier nodes, redirects their readers through aliases, and schedules what the
roots need.  Under every reading of nodes, carrying out the schedule leaves in every root the
value that unfolding the requests gives it, provided that the requests write every variable once
and have no cycle.

The argument has three parts.

* Every variable that a request writes is written by a node or is an alias, and only once
  (`Accounted`).
* Values that solve the equations of the requests solve those of the nodes, and an alias has the
  value of its target (`Consistent`).  It follows that no node reads what it writes, even
  through aliases made later: under a reading that counts nestings, what a node writes is
  greater than what it reads (`not_mem_writes_of_mem_reads`).
* The schedule puts every node behind those it depends on, so that each one reads finished
  values (`Faithful.progress_execute`).

## Main definitions

* `StageGraph.Accounted`, `StageGraph.Consistent` — the two invariants of requests

## Main results

* `StageGraph.execute_scheduled_eq_meaning` — schedules compute what was requested
-/

namespace ShaderLoom
namespace StageGraph

open Relation Schedule

universe u

theorem nodup_of_concat {edits : List Edit} {change : Edit}
    (distinct : ((requested (edits ++ [change])).flatMap Node.writes).Nodup) :
    ((requested edits).flatMap Node.writes).Nodup := by
  rw [requested_concat, List.flatMap_append] at distinct
  exact distinct.of_append_left

/-! ## Where requested outputs are -/

/-- The variables that requests write are the aliases and what the nodes write, each once. -/
def Accounted (graph : StageGraph) (requests : List Node) : Prop :=
  (graph.aliases.map Prod.fst ++ graph.nodes.flatMap Node.writes).Perm
    (requests.flatMap Node.writes)

/-- Where no output of a request is an output of the earlier node, all become aliases. -/
theorem map_fst_newAliases {graph : StageGraph} {request earlier : Node}
    (folds : graph.canFold request earlier = true)
    (apart : request.writes.Disjoint earlier.writes) :
    ((newAliases request earlier).map Prod.fst).Perm request.writes := by
  have all : newAliases request earlier = (request.writes.zip earlier.writes).reverse := by
    refine congrArg List.reverse (List.filter_eq_self.mpr ?_)
    rintro ⟨fresh, old⟩ member
    obtain ⟨inRequest, inEarlier⟩ := List.of_mem_zip member
    rw [bne_iff_ne]
    rintro rfl
    exact apart inRequest inEarlier
  simp only [canFold, Bool.and_eq_true, beq_iff_eq] at folds
  have lengths : request.writes.length ≤ earlier.writes.length := by
    rw [Node.writes, Node.writes, List.length_map, List.length_map, folds.1]
  rw [all, List.map_reverse, List.map_fst_zip lengths]
  exact List.reverse_perm _

theorem accounted_add {graph : StageGraph} {requests : List Node} {node : Node}
    (accounted : graph.Accounted requests)
    (distinct : ((requests ++ [node]).flatMap Node.writes).Nodup) :
    (graph.add node).2.Accounted (requests ++ [node]) := by
  unfold Accounted at accounted ⊢
  rw [List.flatMap_append, List.flatMap_singleton] at distinct ⊢
  rcases add_cases graph node with ⟨earlier, id, found, _, _, folds, added⟩ | added
  · rw [added]
    have apart : (node.mapReads graph.resolve).writes.Disjoint earlier.writes := by
      intro v inRequest inEarlier
      have before : v ∈ requests.flatMap Node.writes := by
        refine accounted.mem_iff.mp (List.mem_append_right _ ?_)
        exact List.mem_flatMap.mpr ⟨earlier, List.mem_of_getElem? found, inEarlier⟩
      exact List.disjoint_of_nodup_append distinct before inRequest
    have fresh := map_fst_newAliases folds apart
    dsimp only
    rw [List.map_append, List.append_assoc]
    exact (fresh.append accounted).trans List.perm_append_comm
  · rw [added]
    dsimp only
    rw [List.flatMap_append, List.flatMap_singleton, ← List.append_assoc]
    exact accounted.append_right _

theorem Accounted.congr {graph other : StageGraph} {requests : List Node}
    (accounted : graph.Accounted requests) (nodes : other.nodes = graph.nodes)
    (aliases : other.aliases = graph.aliases) : other.Accounted requests := by
  rw [Accounted, nodes, aliases]
  exact accounted

theorem accounted_build (stage : Stage) (name : String) {edits : List Edit}
    (distinct : ((requested edits).flatMap Node.writes).Nodup) :
    (build stage name edits).Accounted (requested edits) := by
  induction edits using List.reverseRecOn with
  | nil => exact List.Perm.refl _
  | append_singleton edits change ih =>
      have before := ih (nodup_of_concat distinct)
      rw [build_concat]
      rw [requested_concat] at distinct ⊢
      rcases edit_cases (build stage name edits) change with
        ⟨node, rfl⟩ | ⟨none, nodes, aliases⟩
      · exact accounted_add before distinct
      · rw [none, Option.toList_none, List.append_nil]
        exact before.congr nodes aliases

/-- What requests write is written by a node unless it is an alias. -/
theorem Accounted.writers_ne_nil {graph : StageGraph} {requests : List Node}
    (accounted : graph.Accounted requests) {v : Variable}
    (output : v ∈ requests.flatMap Node.writes) (free : graph.aliases.lookup v = none) :
    graph.writers v ≠ [] := by
  rw [Ne, writers_eq_nil_iff]
  intro unwritten
  rcases List.mem_append.mp (accounted.mem_iff.mpr output) with source | written
  · obtain ⟨entry, member, rfl⟩ := List.mem_map.mp source
    have other := List.lookup_eq_none_iff.mp free entry member
    rw [bne_self_eq_false] at other
    cases other
  · obtain ⟨node, member, writes⟩ := List.mem_flatMap.mp written
    exact unwritten node member writes

/-! ## Values -/

/-- Values solve the equations of the nodes, and aliases join equal values. -/
structure Consistent {D : Type u} (I : Interpretation D) (value : Variable → D)
    (graph : StageGraph) : Prop where
  output : ∀ node ∈ graph.nodes, ∀ slot v, (slot, v) ∈ node.outputs →
    value v = I.result value node slot v.type
  joined : ∀ entry ∈ graph.aliases, value entry.1 = value entry.2

section Values

variable {D : Type u} {I : Interpretation D} {value : Variable → D} {graph : StageGraph}

theorem Consistent.value_follow (consistent : Consistent I value graph) (steps : Nat)
    (v : Variable) : value (follow graph.aliases steps v) = value v := by
  induction steps generalizing v with
  | zero => rfl
  | succ steps ih =>
      rw [follow]
      cases found : graph.aliases.lookup v with
      | none => rfl
      | some target =>
          dsimp only
          rw [ih, ← consistent.joined _ (Association.mem_of_lookup found)]

/-- A variable has the value of what it resolves to. -/
theorem Consistent.value_resolve (consistent : Consistent I value graph) (v : Variable) :
    value (graph.resolve v) = value v :=
  consistent.value_follow _ v

/-- Redirecting what a node reads does not change what it computes. -/
theorem Consistent.result_mapReads (consistent : Consistent I value graph) (node : Node)
    (slot : String) (type : DataType) :
    I.result value (node.mapReads graph.resolve) slot type = I.result value node slot type := by
  rw [I.result_mapReads]
  exact I.result_congr (fun v _ => consistent.value_resolve v) slot type

/-- A request whose equations hold keeps a graph consistent, whether it becomes a node or is
folded. -/
theorem consistent_add (consistent : Consistent I value graph) {node : Node}
    (solved : ∀ slot v, (slot, v) ∈ node.outputs → value v = I.result value node slot v.type) :
    Consistent I value (graph.add node).2 := by
  rcases add_cases graph node with ⟨earlier, id, found, operation, inputs, folds, added⟩ | added
  · rw [added]
    refine ⟨consistent.output, ?_⟩
    rintro ⟨fresh, old⟩ member
    rcases List.mem_append.mp member with new | before
    · obtain ⟨_, _, _, slot, inRequest, inEarlier, types⟩ := mem_newAliases folds new
      calc value fresh = I.result value node slot fresh.type := solved slot fresh inRequest
        _ = I.result value (node.mapReads graph.resolve) slot fresh.type :=
            (consistent.result_mapReads node slot fresh.type).symm
        _ = I.result value earlier slot old.type := by
            rw [Interpretation.result, Interpretation.result, operation, inputs, types]
            rfl
        _ = value old :=
            (consistent.output earlier (List.mem_of_getElem? found) slot old inEarlier).symm
    · exact consistent.joined _ before
  · rw [added]
    refine ⟨?_, consistent.joined⟩
    intro other member slot v output
    rcases List.mem_append.mp member with before | new
    · exact consistent.output other before slot v output
    · rw [List.mem_singleton] at new
      subst new
      rw [consistent.result_mapReads]
      exact solved slot v output

theorem consistent_build (stage : Stage) (name : String) {edits : List Edit}
    (solved : ∀ request ∈ requested edits, ∀ slot v, (slot, v) ∈ request.outputs →
      value v = I.result value request slot v.type) :
    Consistent I value (build stage name edits) := by
  induction edits using List.reverseRecOn with
  | nil =>
      refine ⟨?_, ?_⟩
      · intro node member
        cases member
      · intro entry member
        cases member
  | append_singleton edits change ih =>
      rw [requested_concat] at solved
      have before := ih fun request member => solved request (List.mem_append_left _ member)
      rw [build_concat]
      rcases edit_cases (build stage name edits) change with ⟨node, rfl⟩ | ⟨_, nodes, aliases⟩
      · exact consistent_add before
          (solved node (List.mem_append_right _ (List.mem_singleton_self node)))
      · refine ⟨?_, ?_⟩
        · rw [nodes]
          exact before.output
        · rw [aliases]
          exact before.joined

end Values

/-! ## No node reads what it writes -/

/-- The reading under which a value counts the nodes that it is made of. -/
def nesting : Interpretation Nat where
  initial _ := 0
  literal _ := 0
  apply _ arguments _ _ := arguments.foldr (fun argument total => argument.2 + total) 1

theorem lt_foldr_of_mem {arguments : List (String × Nat)} {argument : String × Nat}
    (member : argument ∈ arguments) :
    argument.2 < arguments.foldr (fun argument total => argument.2 + total) 1 := by
  induction arguments with
  | nil => cases member
  | cons first rest ih =>
      rw [List.foldr_cons]
      have positive : 0 < rest.foldr (fun argument total => argument.2 + total) 1 := by
        clear ih member
        induction rest with
        | nil => decide
        | cons _ _ ih => exact Nat.add_pos_right _ ih
      rcases List.mem_cons.mp member with rfl | later
      · exact Nat.lt_add_of_pos_right positive
      · exact Nat.lt_of_lt_of_le (ih later) (Nat.le_add_left _ _)

/-- What a node computes has more nestings than what it reads. -/
theorem lt_result_nesting {value : Variable → Nat} {node : Node} {v : Variable}
    (reads : v ∈ node.reads) (slot : String) (type : DataType) :
    value v < nesting.result value node slot type := by
  obtain ⟨⟨input, operand⟩, member, source⟩ := List.mem_filterMap.mp reads
  cases operand with
  | literal text => cases source
  | read w =>
      cases source
      have argument : (input, value v) ∈
          node.inputs.map fun entry => (entry.1, nesting.operand value entry.2) :=
        List.mem_map.mpr ⟨_, member, rfl⟩
      exact lt_foldr_of_mem argument

/-- Where the requests have no cycle, no node reads what it writes, through any alias. -/
theorem not_mem_writes_of_mem_reads {stage : Stage} {name : String} {edits : List Edit}
    (distinct : ((requested edits).flatMap Node.writes).Nodup)
    (acyclic : ∀ v, ¬ TransGen (Interpretation.Feeds (requested edits)) v v) {node : Node}
    (member : node ∈ (build stage name edits).nodes) {v : Variable} (reads : v ∈ node.reads) :
    (build stage name edits).resolve v ∉ node.writes := by
  intro writes
  have consistent := consistent_build stage name
    (nesting.unfolding_meaning distinct acyclic).output
  obtain ⟨⟨slot, w⟩, output, same⟩ := List.mem_map.mp writes
  have larger : nesting.meaning (requested edits) v <
      nesting.result (nesting.meaning (requested edits)) node slot w.type :=
    lt_result_nesting reads slot w.type
  dsimp only at same
  rw [← consistent.output node member slot w output, same, consistent.value_resolve] at larger
  exact Nat.lt_irrefl _ larger

/-! ## Carrying out a schedule -/

/-- What is known about a graph whose requests write every variable once and have no cycle. -/
structure Faithful {D : Type u} (I : Interpretation D) (value : Variable → D)
    (requests : List Node) (graph : StageGraph) : Prop where
  laws : AliasLaws graph
  accounted : graph.Accounted requests
  distinct : (requests.flatMap Node.writes).Nodup
  unfolding : I.Unfolding requests value
  consistent : Consistent I value graph
  apart : ∀ node ∈ graph.nodes, ∀ v ∈ node.reads, graph.resolve v ∉ node.writes

theorem faithful_build {D : Type u} (I : Interpretation D) (stage : Stage) (name : String)
    {edits : List Edit} (distinct : ((requested edits).flatMap Node.writes).Nodup)
    (acyclic : ∀ v, ¬ TransGen (Interpretation.Feeds (requested edits)) v v) :
    Faithful I (I.meaning (requested edits)) (requested edits) (build stage name edits) where
  laws := aliasLaws_build stage name edits
  accounted := accounted_build stage name distinct
  distinct := distinct
  unfolding := I.unfolding_meaning distinct acyclic
  consistent := consistent_build stage name (I.unfolding_meaning distinct acyclic).output
  apart _ member _ reads := not_mem_writes_of_mem_reads distinct acyclic member reads

/-- How far the nodes in `front` have come: what they write has its final value, and everything
else its initial one. -/
structure Progress {D : Type u} (I : Interpretation D) (value : Variable → D)
    (graph : StageGraph) (front : List NodeId) (store : Variable → D) : Prop where
  finished : ∀ v, (∃ n ∈ front, n ∈ graph.writers v) → store v = value v
  untouched : ∀ v, (∀ n ∈ front, n ∉ graph.writers v) → store v = I.initial v

namespace Faithful

variable {D : Type u} {I : Interpretation D} {value : Variable → D} {requests : List Node}
  {graph : StageGraph}

/-- Nodes write every variable once at most. -/
theorem nodup_flatMap_writes (faithful : Faithful I value requests graph) :
    (graph.nodes.flatMap Node.writes).Nodup :=
  (faithful.accounted.nodup_iff.mpr faithful.distinct).of_append_right

theorem nodup_writes (faithful : Faithful I value requests graph) {node : Node}
    (member : node ∈ graph.nodes) : node.writes.Nodup :=
  (List.nodup_flatMap.mp faithful.nodup_flatMap_writes).1 node member

variable {front : List NodeId} {store : Variable → D}

/-- A node reads finished values, once everything that it depends on has been carried out. -/
theorem store_resolve (faithful : Faithful I value requests graph)
    (progress : Progress I value graph front store) {n : NodeId} {node : Node}
    (found : graph.node? n = some node) (ready : ∀ p, graph.DependsOn n p → p ∈ front)
    {v : Variable} (reads : v ∈ node.reads) : store (graph.resolve v) = value v := by
  rw [← faithful.consistent.value_resolve v]
  by_cases written : graph.writers (graph.resolve v) = []
  · -- Nobody writes it and it is no alias, so it is an input of the stage.
    rw [progress.untouched _ fun p _ => by rw [written]; exact List.not_mem_nil]
    refine (faithful.unfolding.input _ ?_).symm
    intro request member writes
    exact faithful.accounted.writers_ne_nil (List.mem_flatMap.mpr ⟨request, member, writes⟩)
      (faithful.laws.lookup_resolve v) written
  · obtain ⟨p, producer⟩ := List.exists_mem_of_ne_nil _ written
    have other : p ≠ n := by
      rintro rfl
      obtain ⟨same, found', writes⟩ := mem_writers.mp producer
      rw [← node?, found] at found'
      cases found'
      exact faithful.apart node (List.mem_of_getElem? found) v reads writes
    exact progress.finished _ ⟨p, ready p ⟨other, node, found, v, reads, producer⟩, producer⟩

/-- A node that is carried out after everything it depends on finishes what it writes. -/
theorem progress_step (faithful : Faithful I value requests graph)
    (progress : Progress I value graph front store) {n : NodeId} {node : Node}
    (found : graph.node? n = some node) (ready : ∀ p, graph.DependsOn n p → p ∈ front) :
    Progress I value graph (front ++ [n]) (I.step store (node.mapReads graph.resolve)) := by
  have present : node ∈ graph.nodes := List.mem_of_getElem? found
  have nodup : (node.mapReads graph.resolve).writes.Nodup := by
    rw [Node.writes_mapReads]
    exact faithful.nodup_writes present
  have mem_iff : ∀ v, n ∈ graph.writers v ↔ v ∈ (node.mapReads graph.resolve).writes := by
    intro v
    rw [mem_writers, ← node?, found, Node.writes_mapReads]
    simp
  refine ⟨?_, ?_⟩
  · rintro v ⟨m, member, writes⟩
    by_cases here : v ∈ (node.mapReads graph.resolve).writes
    · obtain ⟨⟨slot, w⟩, output, rfl⟩ := List.mem_map.mp here
      rw [I.step_of_mem nodup output, I.result_mapReads,
        faithful.consistent.output node present slot w output]
      exact I.result_congr (fun u reads => faithful.store_resolve progress found ready reads)
        slot w.type
    · rw [I.step_of_notMem here]
      rcases List.mem_append.mp member with before | last
      · exact progress.finished v ⟨m, before, writes⟩
      · rw [List.mem_singleton] at last
        exact absurd ((mem_iff v).mp (last ▸ writes)) here
  · intro v free
    have absent := free n (List.mem_append_right _ (List.mem_singleton_self n))
    rw [mem_iff] at absent
    rw [I.step_of_notMem absent]
    exact progress.untouched v fun m member => free m (List.mem_append_left _ member)

/-- A position without a node changes nothing. -/
theorem progress_skip (progress : Progress I value graph front store) {n : NodeId}
    (absent : graph.node? n = none) : Progress I value graph (front ++ [n]) store := by
  refine ⟨?_, ?_⟩
  · rintro v ⟨m, member, writes⟩
    rcases List.mem_append.mp member with before | last
    · exact progress.finished v ⟨m, before, writes⟩
    · rw [List.mem_singleton] at last
      obtain ⟨node, found, _⟩ := mem_writers.mp writes
      rw [last, ← node?, absent] at found
      cases found
  · intro v free
    exact progress.untouched v fun m member => free m (List.mem_append_left _ member)

/-- **Along a settled order** every node is carried out after everything it depends on. -/
theorem progress_execute (faithful : Faithful I value requests graph) {order : List NodeId}
    (settled : Settled graph.dependencies order) {back : List NodeId}
    (split : order = front ++ back) :
    Progress I value graph front (I.execute (front.filterMap graph.resolvedNode?)) := by
  induction front using List.reverseRecOn generalizing back with
  | nil =>
      refine ⟨?_, fun v _ => rfl⟩
      rintro v ⟨n, member, _⟩
      cases member
  | append_singleton front n ih =>
      rw [List.append_assoc, List.singleton_append] at split
      have progress := ih split
      have ready : ∀ p, graph.DependsOn n p → p ∈ front := by
        intro p depends
        rw [← needs_dependencies] at depends
        exact settled.behind split p depends
      rw [List.filterMap_append]
      cases found : graph.node? n with
      | none =>
          have skipped : [n].filterMap graph.resolvedNode? = [] := by
            simp [resolvedNode?, found]
          rw [skipped, List.append_nil]
          exact progress_skip progress found
      | some node =>
          have carried : [n].filterMap graph.resolvedNode? = [node.mapReads graph.resolve] := by
            simp [resolvedNode?, found]
          rw [carried, Interpretation.execute, List.foldl_append]
          exact faithful.progress_step progress found ready

end Faithful

/-! ## Roots -/

/-- Where every variable is requested once, no edit takes an alias back. -/
theorem lookup_edit {stage : Stage} {name : String} {edits : List Edit} {change : Edit}
    (distinct : ((requested (edits ++ [change])).flatMap Node.writes).Nodup)
    {v target : Variable} (found : (build stage name edits).aliases.lookup v = some target) :
    ((build stage name edits).edit change).aliases.lookup v = some target := by
  have accounted := accounted_build stage name distinct
  have nodup := (accounted.nodup_iff.mpr distinct).of_append_left
  rw [build_concat] at nodup
  rcases edit_cases (build stage name edits) change with ⟨node, rfl⟩ | ⟨_, _, aliases⟩
  · rcases add_cases (build stage name edits) node with ⟨earlier, _, _, _, _, _, added⟩ | added
    · rw [edit, added] at nodup ⊢
      dsimp only at nodup ⊢
      rw [List.map_append] at nodup
      have old : v ∈ (build stage name edits).aliases.map Prod.fst :=
        List.mem_map.mpr ⟨_, Association.mem_of_lookup found, rfl⟩
      have fresh :
          (newAliases (node.mapReads (build stage name edits).resolve) earlier).lookup v =
          none := by
        rw [List.lookup_eq_none_iff]
        intro entry member
        rw [bne_iff_ne]
        rintro rfl
        exact List.disjoint_of_nodup_append nodup (List.mem_map.mpr ⟨_, member, rfl⟩) old
      rw [List.lookup_append, fresh, found]
      rfl
    · rw [edit, added]
      exact found
  · rw [aliases]
    exact found

/-- An edit leaves the roots alone or adds the variable that it marks, resolved. -/
theorem roots_edit_cases (graph : StageGraph) (change : Edit) :
    (graph.edit change).roots = graph.roots ∨
      ∃ v, change = .root v ∧ (graph.edit change).roots = graph.roots ++ [graph.resolve v] := by
  cases change with
  | declare v =>
      refine .inl ?_
      dsimp only [edit]
      cases graph.table.declare v <;> rfl
  | temporary type name => exact .inl rfl
  | request node =>
      refine .inl ?_
      rcases add_cases graph node with ⟨_, _, _, _, _, _, added⟩ | added <;>
        · rw [edit, added]
  | root v =>
      dsimp only [edit, addRoot]
      split
      · exact .inl rfl
      · exact .inr ⟨v, rfl, rfl⟩
  | share key v => exact .inl rfl

theorem roots_edit (graph : StageGraph) (change : Edit) :
    graph.roots ⊆ (graph.edit change).roots := by
  rcases roots_edit_cases graph change with same | ⟨v, _, more⟩
  · rw [same]
    exact List.Subset.refl _
  · rw [more]
    exact List.subset_append_left _ _

theorem resolve_mem_roots (graph : StageGraph) (v : Variable) :
    graph.resolve v ∈ (graph.addRoot v).roots := by
  unfold addRoot
  dsimp only
  split
  · rename_i present
    exact present
  · exact List.mem_append_right _ (List.mem_singleton_self _)

/-- A variable that was marked as a root resolves like one of the registered roots. -/
theorem exists_root_of_demanded {stage : Stage} {name : String} {edits : List Edit}
    (distinct : ((requested edits).flatMap Node.writes).Nodup) {v : Variable}
    (demand : v ∈ demanded edits) : ∃ root ∈ (build stage name edits).roots,
      (build stage name edits).resolve root = (build stage name edits).resolve v := by
  induction edits using List.reverseRecOn with
  | nil => cases demand
  | append_singleton edits change ih =>
      have laws := aliasLaws_build stage name (edits ++ [change])
      rw [build_concat] at laws ⊢
      have settles := fun steps =>
        laws.resolve_follow (fun _ _ found => lookup_edit distinct found) steps
      rw [demanded_concat] at demand
      rcases List.mem_append.mp demand with before | now
      · obtain ⟨root, member, same⟩ := ih (nodup_of_concat distinct) before
        refine ⟨root, roots_edit _ change member, ?_⟩
        calc ((build stage name edits).edit change).resolve root
            = ((build stage name edits).edit change).resolve
                ((build stage name edits).resolve root) := (settles _ root).symm
          _ = ((build stage name edits).edit change).resolve v := by
              rw [same]
              exact settles _ v
      · cases change with
        | root w =>
            rw [Edit.root?, Option.toList_some, List.mem_singleton] at now
            subst now
            exact ⟨_, resolve_mem_roots (build stage name edits) v, settles _ v⟩
        | declare | temporary | request | share => cases now

/-! ## Meaning -/

/-- **Schedules compute what was requested.**  Let edits request nodes in any order, so that no
variable is written twice and none feeds itself.  If the graph that they build can be compiled,
then under every reading of nodes, carrying out the nodes that the text is made from leaves in
each root the value that unfolding the requests gives it.  The roots are the built-in outputs,
the registered roots, and all variables that were marked as roots. -/
theorem execute_scheduled_eq_meaning {D : Type u} (I : Interpretation D) (compiler : Compiler)
    (stage : Stage) (name : String) (edits : List Edit) (source : StageSource)
    (distinct : ((requested edits).flatMap Node.writes).Nodup)
    (acyclic : ∀ v, ¬ TransGen (Interpretation.Feeds (requested edits)) v v)
    (compiled : compiler.compile (build stage name edits) = .ok source) :
    let graph := build stage name edits
    I.Unfolding (requested edits) (I.meaning (requested edits)) ∧
      ∃ nodes, Compiler.scheduledNodes graph = .ok nodes ∧
        compiler.compileNodes graph.stage graph.name nodes = .ok source ∧
        ∀ root, root ∈ (mandatory stage).filterMap graph.builtin? ++ graph.roots ++
          demanded edits →
          I.execute nodes (graph.resolve root) = I.meaning (requested edits) root := by
  intro graph
  have faithful := faithful_build I stage name distinct acyclic
  refine ⟨faithful.unfolding, ?_⟩
  cases scheduled : graph.schedule with
  | error cause =>
      rw [Compiler.compile, Compiler.scheduledNodes, scheduled] at compiled
      cases compiled
  | ok order =>
      have nodes : Compiler.scheduledNodes graph =
          .ok (order.filterMap graph.resolvedNode?) := by
        rw [Compiler.scheduledNodes, scheduled]
        rfl
      refine ⟨_, nodes, ?_, ?_⟩
      · rw [Compiler.compile, nodes] at compiled
        exact compiled
      · rw [schedule_eq_foldlM (builtin?_build stage name edits)] at scheduled
        obtain ⟨produced, grown⟩ := foldlM_scheduleRoot_grown Settled.nil scheduled
        have progress := faithful.progress_execute grown.settled (List.append_nil order).symm
        -- Whatever resolves like a required root has a producer in the schedule.
        have delivers : ∀ root,
            root ∈ (mandatory graph.stage).filterMap graph.builtin? ++ graph.roots →
            ∀ v, graph.resolve root = graph.resolve v →
              I.execute (order.filterMap graph.resolvedNode?) (graph.resolve v) =
                I.meaning (requested edits) v := by
          intro root member v same
          have required : graph.resolve v ∈ graph.requiredRoots :=
            same ▸ List.mem_map_of_mem member
          obtain ⟨p, producer⟩ := List.exists_mem_of_ne_nil _ (produced _ required)
          have inside := grown.covers p (List.mem_flatMap.mpr ⟨_, required, producer⟩)
          rw [producers, faithful.laws.resolve_resolve] at producer
          rw [progress.finished _ ⟨p, inside, producer⟩, faithful.consistent.value_resolve]
        intro root member
        rw [← build_stage stage name edits] at member
        rcases List.mem_append.mp member with registered | marked
        · exact delivers root registered root rfl
        · obtain ⟨other, registered, same⟩ := exists_root_of_demanded distinct marked
          exact delivers other (List.mem_append_right _ registered) root same

/-- Edits that request a reader before its writer, and the same call twice for two temporaries,
of which the reader wants the second. -/
def sharedCall : List Edit :=
  let scale : Variable := { name := "scale", type := .float, storage := .uniform }
  let once : Variable := { name := "once", type := .float, storage := .temporary }
  let twice : Variable := { name := "twice", type := .float, storage := .temporary }
  let color : Variable := { name := fragColorName, type := .vec4, storage := .builtin }
  [.declare scale,
    .request
      { operation := .call "vec4" none, inputs := [("x", .read twice)],
        outputs := [("out", color)] },
    .request
      { operation := .call "sqrt" none, inputs := [("x", .read scale)],
        outputs := [("out", once)] },
    .request
      { operation := .call "sqrt" none, inputs := [("x", .read scale)],
        outputs := [("out", twice)] },
    .root twice]

/-- The second call is folded into the first, its reader is redirected, and two of the three
requests are carried out; all roots still have the values that were requested. -/
theorem execute_scheduled_eq_meaning_sharedCall :
    ((requested sharedCall).flatMap Node.writes).Nodup ∧
    (∀ v, ¬ TransGen (Interpretation.Feeds (requested sharedCall)) v v) ∧
    (build .fragment "demo" sharedCall).schedule = .ok [1, 0] ∧
    ∃ nodes, Compiler.scheduledNodes (build .fragment "demo" sharedCall) = .ok nodes ∧
      ∀ root ∈ demanded sharedCall,
        nesting.execute nodes ((build .fragment "demo" sharedCall).resolve root) =
          nesting.meaning (requested sharedCall) root := by
  have distinct : ((requested sharedCall).flatMap Node.writes).Nodup := by decide
  have acyclic : ∀ v, ¬ TransGen (Interpretation.Feeds (requested sharedCall)) v v :=
    Interpretation.acyclic_of_rank (fun v =>
      if v.storage = .uniform then 0 else if v.storage = .temporary then 1 else 2) (by decide)
  -- A frame without text keeps the compilation small.
  obtain ⟨source, compiled⟩ : ∃ source,
      Compiler.compile { library := { registered := [(Compiler.frameSnippet, .done)] } }
        (build .fragment "demo" sharedCall) = .ok source := ⟨_, rfl⟩
  refine ⟨distinct, acyclic, by decide, ?_⟩
  obtain ⟨_, nodes, scheduled, _, computes⟩ := execute_scheduled_eq_meaning nesting
    { library := { registered := [(Compiler.frameSnippet, .done)] } } .fragment
    "demo" sharedCall source distinct acyclic compiled
  exact ⟨nodes, scheduled, fun root member => computes root (List.mem_append_right _ member)⟩

end StageGraph
end ShaderLoom
