import ShaderLoom.Proofs.FinishedDrafts

/-!
# Unfolding variables of a graph

A graph can be read backwards: a variable is replaced by the variable it stands for, and this
one by the operation of the node that produces it, on the terms of what that node reads.
Variables without a producer are inputs (`StageGraph.term?`).  The function looks at the nodes
of the finished graph only and knows nothing of the requests that it was built from.

If requests write every variable once and have no cycle, unfolding succeeds for every variable,
and gives the term that unfolding the requests gives.  Every variable has at most one producer
(`length_writers_le`), and the nodes that a node depends on become fewer with every step
(`card_below_lt`), so a depth of as many steps as there are nodes, and one more for the inputs,
is enough.

## Main definitions

* `StageGraph.term?` — what a variable unfolds to

## Main results

* `StageGraph.Faithful.term?_eq` — unfolding a graph is unfolding its requests
-/

namespace ShaderLoom
namespace StageGraph

open Relation

/-- The term of an operand, given the terms of variables. -/
def operandTerm? (term? : Variable → Option Term) : Operand → Option Term
  | .read v => term? v
  | .literal text => some (.literal text)

/-- What a variable of a graph unfolds to within a given depth.  There is no answer for a
variable with several producers. -/
def term? (graph : StageGraph) : (depth : Nat) → Variable → Option Term
  | 0, _ => none
  | depth + 1, v =>
    match graph.producers v with
    | [] => some (.input (graph.resolve v))
    | [p] => do
      let node ← graph.node? p
      let output ← node.outputs.find? fun entry => entry.2 == graph.resolve v
      let arguments ← node.inputs.mapM fun entry =>
        (operandTerm? (graph.term? depth) entry.2).map (Prod.mk entry.1)
      return .apply node.operation arguments output.1 output.2.type
    | _ => none

/-! ## One producer -/

/-- A variable has a writer for every time that nodes write it. -/
theorem length_writers (graph : StageGraph) (v : Variable) :
    (graph.writers v).length = (graph.nodes.flatMap Node.writes).count v := by
  rw [writers, List.length_flatMap, List.count_flatMap]
  have each : (fun entry : Node × NodeId => ((entry.1.writes.filter fun written =>
      written == v).map fun _ => entry.2).length) =
        (List.count v ∘ Node.writes) ∘ Prod.fst := by
    funext entry
    rw [List.length_map, Function.comp_apply, Function.comp_apply, List.count,
      List.countP_eq_length_filter]
  change (List.map (fun entry : Node × NodeId => ((entry.1.writes.filter fun written =>
    written == v).map fun _ => entry.2).length) graph.nodes.zipIdx).sum = _
  rw [each, ← List.map_map, List.zipIdx_map_fst]

section Faithful

variable {value : Variable → Term} {requests : List Node} {graph : StageGraph}
  (faithful : Faithful Term.free value requests graph)
include faithful

/-- Where every variable is requested once, it has one writer at most. -/
theorem Faithful.length_writers_le (v : Variable) : (graph.writers v).length ≤ 1 := by
  rw [length_writers]
  exact List.nodup_iff_count_le_one.mp faithful.nodup_flatMap_writes v

theorem Faithful.eq_of_writers {v : Variable} {n m : NodeId} (first : n ∈ graph.writers v)
    (second : m ∈ graph.writers v) : n = m := by
  have short := faithful.length_writers_le v
  match sources : graph.writers v with
  | [] =>
      rw [sources] at first
      cases first
  | [p] =>
      rw [sources, List.mem_singleton] at first second
      rw [first, second]
  | p :: q :: more =>
      rw [sources, List.length_cons, List.length_cons] at short
      omega

/-- A variable without a producer stands for an input. -/
theorem Faithful.value_of_producers_eq_nil {v : Variable} (free : graph.producers v = []) :
    value v = .input (graph.resolve v) := by
  rw [← faithful.consistent.value_resolve v]
  refine faithful.unfolding.input _ fun request member writes => ?_
  exact faithful.accounted.writers_ne_nil (List.mem_flatMap.mpr ⟨request, member, writes⟩)
    (faithful.laws.lookup_resolve v) free

/-- What produces something that a node reads is a node that it depends on. -/
theorem Faithful.dependsOn {n : NodeId} {node : Node} (found : graph.node? n = some node)
    {u : Variable} (reads : u ∈ node.reads) {p : NodeId} (source : p ∈ graph.producers u) :
    graph.DependsOn n p := by
  refine ⟨?_, node, found, u, reads, source⟩
  rintro rfl
  obtain ⟨same, present, writes⟩ := mem_writers.mp source
  rw [← node?, found] at present
  cases present
  exact faithful.apart node (List.mem_of_getElem? found) u reads writes

end Faithful

/-! ## Unfolding comes to an end -/

open Classical in
/-- The nodes that a node depends on, directly or through others. -/
noncomputable def below (graph : StageGraph) (n : NodeId) : Finset NodeId :=
  (Finset.range graph.nodes.length).filter fun m => TransGen graph.DependsOn n m

open Classical in
theorem mem_below {graph : StageGraph} {n m : NodeId} :
    m ∈ graph.below n ↔ m < graph.nodes.length ∧ TransGen graph.DependsOn n m := by
  rw [below, Finset.mem_filter, Finset.mem_range]

section Acyclic

variable {graph : StageGraph} (acyclic : ∀ n, ¬ graph.OnCycle n)
include acyclic

theorem not_mem_below (n : NodeId) : n ∉ graph.below n := by
  intro inside
  obtain ⟨next, depends, onward⟩ := TransGen.head'_iff.mp (mem_below.mp inside).2
  exact acyclic n ⟨next, depends.1, .single depends, onward⟩

/-- What a node depends on depends on fewer nodes. -/
theorem card_below_lt {n p : NodeId} (depends : graph.DependsOn n p) :
    (graph.below p).card < (graph.below n).card := by
  refine Finset.card_lt_card
    (Finset.ssubset_iff_of_subset ?_ |>.mpr ⟨p, ?_, not_mem_below acyclic p⟩)
  · intro m inside
    obtain ⟨bound, path⟩ := mem_below.mp inside
    exact mem_below.mpr ⟨bound, .head depends path⟩
  · have fed := depends
    obtain ⟨_, _, _, _, _, source⟩ := fed
    exact mem_below.mpr ⟨writers_lt source, .single depends⟩

/-- A node does not depend on all nodes: not on itself. -/
theorem card_below_lt_length {n : NodeId} (bound : n < graph.nodes.length) :
    (graph.below n).card < graph.nodes.length := by
  have fewer : graph.below n ⊂ Finset.range graph.nodes.length := by
    refine Finset.ssubset_iff_of_subset ?_ |>.mpr
      ⟨n, Finset.mem_range.mpr bound, not_mem_below acyclic n⟩
    exact fun m inside => Finset.mem_range.mpr (mem_below.mp inside).1
  simpa using Finset.card_lt_card fewer

end Acyclic

theorem mapM_eq_some {α β : Type} {f : α → Option β} {g : α → β} {items : List α}
    (each : ∀ item ∈ items, f item = some (g item)) : items.mapM f = some (items.map g) := by
  induction items with
  | nil => rfl
  | cons item items ih =>
      rw [List.mapM_cons, each item List.mem_cons_self,
        ih fun other member => each other (List.mem_cons_of_mem _ member)]
      rfl

section Unfolding

variable {value : Variable → Term} {requests : List Node} {graph : StageGraph}
  (faithful : Faithful Term.free value requests graph) (acyclic : ∀ n, ¬ graph.OnCycle n)
include faithful acyclic

/-- Unfolding any deeper than the producer of a variable depends on nodes gives its term. -/
theorem Faithful.term?_of_lt {depth : Nat} {v : Variable}
    (enough : ∀ p ∈ graph.producers v, (graph.below p).card < depth) :
    graph.term? (depth + 1) v = some (value v) := by
  induction depth generalizing v with
  | zero =>
      have free : graph.producers v = [] :=
        List.eq_nil_iff_forall_not_mem.mpr fun p source =>
          absurd (enough p source) (Nat.not_lt_zero _)
      rw [term?, free, faithful.value_of_producers_eq_nil free]
  | succ depth ih =>
      rw [term?]
      match sources : graph.producers v with
      | [] => rw [faithful.value_of_producers_eq_nil sources]
      | p :: q :: more =>
          have single := faithful.length_writers_le (graph.resolve v)
          rw [← producers, sources, List.length_cons, List.length_cons] at single
          omega
      | [p] =>
          have source : p ∈ graph.producers v := by
            rw [sources]
            exact List.mem_singleton_self p
          obtain ⟨node, found, writes⟩ := mem_writers.mp source
          replace found : graph.node? p = some node := found
          -- The node has a slot for the variable.
          obtain ⟨⟨slot, out⟩, output⟩ : ∃ entry,
              node.outputs.find? (fun entry => entry.2 == graph.resolve v) = some entry := by
            obtain ⟨entry, member, same⟩ := List.mem_map.mp writes
            refine Option.isSome_iff_exists.mp (List.find?_isSome.mpr ⟨entry, member, ?_⟩)
            rw [beq_iff_eq]
            exact same
          have same : out = graph.resolve v := by simpa using List.find?_some output
          have arguments : node.inputs.mapM (fun entry =>
              (operandTerm? (graph.term? (depth + 1)) entry.2).map (Prod.mk entry.1)) =
                some
                  (node.inputs.map fun entry =>
                    (entry.1, Term.free.operand value entry.2)) := by
            refine mapM_eq_some ?_
            rintro ⟨slot, operand⟩ member
            cases operand with
            | literal text => rfl
            | read u =>
                have reads : u ∈ node.reads := List.mem_filterMap.mpr ⟨_, member, rfl⟩
                have unfolded : graph.term? (depth + 1) u = some (value u) := by
                  refine ih fun q feeds => ?_
                  have fewer := card_below_lt acyclic (faithful.dependsOn found reads feeds)
                  have bound := enough p source
                  omega
                dsimp only [operandTerm?]
                rw [unfolded]
                rfl
          dsimp only
          rw [found]
          dsimp only [bind, Option.bind]
          rw [output, arguments]
          dsimp only
          rw [← faithful.consistent.value_resolve v, ← same]
          exact congrArg some
            (faithful.consistent.output node (List.mem_of_getElem? found) slot out
              (List.mem_of_find?_eq_some output)).symm

/-- **Unfolding a graph is unfolding its requests.** -/
theorem Faithful.term?_eq (v : Variable) :
    graph.term? (graph.nodes.length + 1) v = some (value v) :=
  faithful.term?_of_lt acyclic fun _ source =>
    card_below_lt_length acyclic (writers_lt source)

end Unfolding

end StageGraph

namespace Wire

variable {V : Vocabulary} {name : String} (draft : Draft V name)

/-- The graph of a draft stands for its requests. -/
theorem Draft.faithful :
    StageGraph.Faithful Term.free draft.term (StageGraph.requested draft.edits) draft.graph :=
  StageGraph.faithful_build Term.free V.stage name draft.sound.distinct draft.sound.acyclic

/-- Variables of a draft unfold to their terms. -/
theorem Draft.term?_eq (v : Variable) :
    draft.graph.term? (draft.graph.nodes.length + 1) v = some (draft.term v) :=
  draft.faithful.term?_eq
    (StageGraph.not_onCycle V.stage name draft.sound.distinct draft.sound.acyclic) v

end Wire
end ShaderLoom
