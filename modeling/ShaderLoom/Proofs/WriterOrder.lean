import ShaderLoom.Proofs.Compilation
import ShaderLoom.Proofs.RequestedProducers
import ShaderLoom.Proofs.TopologicalSchedule

/-!
# Several writers of one variable

A variable may be written by several nodes: it is given a value first and reworked in place
later.  Nothing in a schedule says that the first of these nodes comes first.  The second one
may be met long before the first, from a root, from a reader or from a node that has nothing to
do with the variable, and a node that reworks a variable reads it, but does not wait for itself.

The order comes from the lists that nodes are met in.  A node whose only output is the variable
is only ever met in the list of producers of that variable, and there the older node stands
before it (`StageGraph.heralds_producers`).  Two kinds of list are shortened: the one of the
younger node itself, which loses that node, and the one of the older node, which would lose the
older one; but that one does not read the variable, so the younger node is not in its list
(`StageGraph.heralds_dependencies`).  If the older node stands before the younger one in all
lists, it does so in the order that results (`Schedule.visit_heralds`).

## Main definitions

* `StageGraph.Reworks` — a node writes what an older node has written
* `StageGraph.Lowers` — the statements of a node of a graph

## Main results

* `Schedule.visit_heralds` — what stands first in all dependencies is visited first
* `StageGraph.writers_in_order` — a variable is reworked after it was given a value
-/

namespace ShaderLoom

/-! ## Nodes that stand before others -/

namespace Schedule

namespace Heralds

variable {first second : NodeId} {ids more : List NodeId}

theorem of_not_mem (absent : second ∉ ids) : Heralds first second ids := by
  rintro front back rfl
  exact absurd (List.mem_append_right _ List.mem_cons_self) absent

theorem append (early : Heralds first second ids) (late : Heralds first second more) :
    Heralds first second (ids ++ more) := by
  intro front back split
  rcases List.append_eq_append_iff.mp split with ⟨between, rfl, rest⟩ | ⟨between, rfl, rest⟩
  · exact List.mem_append_right _ (late rest)
  · cases between with
    | nil =>
        have none : first ∈ ([] : List NodeId) := late rest.symm
        exact absurd none List.not_mem_nil
    | cons head tail =>
        cases rest
        exact early rfl

theorem flatMap {α : Type} {items : List α} {lists : α → List NodeId}
    (each : ∀ item ∈ items, Heralds first second (lists item)) :
    Heralds first second (items.flatMap lists) := by
  induction items with
  | nil => exact of_not_mem List.not_mem_nil
  | cons item items ih =>
      rw [List.flatMap_cons]
      exact (each item List.mem_cons_self).append
        (ih fun other member => each other (List.mem_cons_of_mem _ member))

theorem filter {keep : NodeId → Bool} (all : Heralds first second ids)
    (kept : keep first = true) : Heralds first second (ids.filter keep) := by
  intro front back split
  obtain ⟨early, late, rfl, rfl, rest⟩ := List.filter_eq_append_iff.mp split
  obtain ⟨dropped, others, rfl, none, -, -⟩ := List.filter_eq_cons_iff.mp rest
  have member : first ∈ early ++ dropped := all (List.append_assoc early dropped _).symm
  rcases List.mem_append.mp member with inside | outside
  · exact List.mem_filter.mpr ⟨inside, kept⟩
  · exact absurd kept (none first outside)

/-- In a list that is in order, what is smaller stands first. -/
theorem of_pairwise (sorted : ids.Pairwise (· ≤ ·)) (member : first ∈ ids)
    (less : first < second) : Heralds first second ids := by
  rintro front back rfl
  rcases List.mem_append.mp member with inside | outside
  · exact inside
  · have least := (List.pairwise_cons.mp (List.pairwise_append.mp sorted).2.1).1
    rcases List.mem_cons.mp outside with same | later
    · exact absurd same (Nat.ne_of_lt less)
    · exact absurd (least first later) (Nat.not_le.mpr less)

end Heralds

variable {dependencies : NodeId → List NodeId} {first second : NodeId}

/-- If each step of a fold keeps the order, and a step to the younger node is only taken after
one to the older node, the fold keeps the order. -/
theorem heralds_foldlM {ε : Type} {path : List NodeId}
    {step : List NodeId → NodeId → Except ε (List NodeId)}
    (grows : ∀ {order id result}, Settled dependencies order → step order id = .ok result →
      Grown dependencies path [id] order result)
    (keeps : ∀ {order id result}, Settled dependencies order → Heralds first second order →
      (id = second → first ∈ order) → step order id = .ok result →
        Heralds first second result) :
    ∀ {sources order result : List NodeId}, Settled dependencies order →
      Heralds first second order →
      (∀ front back, sources = front ++ second :: back → first ∈ front ∨ first ∈ order) →
      sources.foldlM step order = .ok result → Heralds first second result := by
  intro sources
  induction sources with
  | nil =>
      intro order result _ ordered _ succeeded
      cases succeeded
      exact ordered
  | cons source rest ih =>
      intro order result settled ordered listed succeeded
      rw [List.foldlM_cons] at succeeded
      obtain ⟨middle, stepped, succeeded⟩ := exists_of_bind_eq_ok succeeded
      have grown := grows settled stepped
      have ready : source = second → first ∈ order := by
        rintro rfl
        exact (listed [] rest rfl).resolve_left List.not_mem_nil
      -- A source that has been passed is in the order from then on.
      refine ih grown.settled (keeps settled ordered ready stepped) ?_ succeeded
      rintro front back rfl
      rcases listed (source :: front) back rfl with early | done
      · rcases List.mem_cons.mp early with rfl | early
        · exact .inr (grown.covers _ (List.mem_singleton_self _))
        · exact .inl early
      · exact .inr (grown.mem_of_mem done)

/-- **What stands first in all dependencies is visited first.** -/
theorem visit_heralds (listed : ∀ n, Heralds first second (dependencies n)) {depth : Nat} :
    ∀ {path order result : List NodeId} {id : NodeId}, Settled dependencies order →
      Heralds first second order → (id = second → first ∈ order) →
      visit dependencies depth path order id = .ok result → Heralds first second result := by
  induction depth with
  | zero =>
      intro path order result id _ ordered _ succeeded
      rcases visit_ok_cases succeeded with ⟨_, rfl⟩ | ⟨_, _, _, _, impossible, _⟩
      · exact ordered
      · cases impossible
  | succ depth ih =>
      intro path order result id settled ordered ready succeeded
      rcases visit_ok_cases succeeded with ⟨_, rfl⟩ | ⟨_, _, less, middle, same, folded, rfl⟩
      · exact ordered
      · cases same
        have below := heralds_foldlM visit_grown (fun s h r v => ih s h r v) settled ordered
          (fun _ _ split => .inl (listed id split)) folded
        have grown := grown_foldlM (fun s v => visit_grown s v) settled folded
        -- The node itself is added last, which matters only if it is the younger one.
        exact below.concat fun younger => grown.mem_of_mem (ready younger)

end Schedule

/-! ## Writers of one variable -/

namespace StageGraph

open Schedule

/-- Two nodes write the variable that `v` stands for.  The younger one writes nothing else, and
the older one does not read it. -/
structure Reworks (graph : StageGraph) (v : Variable) (first second : NodeId) : Prop where
  older : first < second
  begins : first ∈ graph.producers v
  follows : second ∈ graph.producers v
  only : ∀ node, graph.node? second = some node → ∀ u ∈ node.writes, u = graph.resolve v
  blind : ∀ node, graph.node? first = some node → ∀ u ∈ node.reads,
    graph.resolve u ≠ graph.resolve v

section Reworks

variable {graph : StageGraph} {v : Variable} {first second : NodeId}
  (reworks : graph.Reworks v first second)
include reworks

/-- The younger node only produces what `v` stands for. -/
theorem Reworks.resolve_eq {u : Variable} (produces : second ∈ graph.producers u) :
    graph.resolve u = graph.resolve v := by
  obtain ⟨node, found, writes⟩ := mem_writers.mp produces
  exact reworks.only node found _ writes

theorem heralds_producers (u : Variable) : Heralds first second (graph.producers u) := by
  by_cases produces : second ∈ graph.producers u
  · have same : graph.producers u = graph.producers v := by
      rw [producers, reworks.resolve_eq produces, producers]
    rw [same]
    exact .of_pairwise (pairwise_writers graph _) reworks.begins reworks.older
  · exact .of_not_mem produces

theorem heralds_dependencies (n : NodeId) : Heralds first second (graph.dependencies n) := by
  by_cases same : n = first
  · -- The older node is missing from its own list, and so is the younger one.
    refine .of_not_mem fun listed => ?_
    have depends : graph.DependsOn n second := needs_dependencies graph ▸ listed
    obtain ⟨_, node, found, u, reads, produces⟩ := depends
    exact reworks.blind node (same ▸ found) u reads (reworks.resolve_eq produces)
  · rw [dependencies]
    cases graph.node? n with
    | none => exact .of_not_mem List.not_mem_nil
    | some node =>
        refine Heralds.filter (.flatMap fun u _ => heralds_producers reworks u) ?_
        exact bne_iff_ne.mpr (Ne.symm same)

theorem scheduleNode_heralds {order result : List NodeId} {id : NodeId}
    (settled : Settled graph.dependencies order) (ordered : Heralds first second order)
    (ready : id = second → first ∈ order)
    (succeeded : graph.scheduleNode order id = .ok result) : Heralds first second result := by
  unfold scheduleNode at succeeded
  cases visited : visit graph.dependencies graph.nodes.length [] order id with
  | error closing => rw [visited] at succeeded; cases succeeded
  | ok order' =>
      rw [visited] at succeeded
      cases succeeded
      exact visit_heralds (heralds_dependencies reworks) settled ordered ready visited

theorem scheduleRoot_heralds {order result : List NodeId} {root : Variable}
    (settled : Settled graph.dependencies order) (ordered : Heralds first second order)
    (succeeded : graph.scheduleRoot order root = .ok result) : Heralds first second result := by
  unfold scheduleRoot at succeeded
  split at succeeded
  · cases succeeded
  · exact heralds_foldlM scheduleNode_grown
      (fun s h r v => scheduleNode_heralds reworks s h r v)
      settled ordered (fun _ _ split => .inl (heralds_producers reworks root split)) succeeded

theorem foldlM_scheduleRoot_heralds {roots : List Variable} :
    ∀ {order result : List NodeId}, Settled graph.dependencies order →
      Heralds first second order → roots.foldlM graph.scheduleRoot order = .ok result →
        Heralds first second result := by
  induction roots with
  | nil =>
      intro order result _ ordered succeeded
      cases succeeded
      exact ordered
  | cons root rest ih =>
      intro order result settled ordered succeeded
      rw [List.foldlM_cons] at succeeded
      obtain ⟨middle, scheduled, succeeded⟩ := exists_of_bind_eq_ok succeeded
      exact ih (scheduleRoot_grown settled scheduled).2.settled
        (scheduleRoot_heralds reworks settled ordered scheduled) succeeded

end Reworks

/-! ## Statements -/

/-- The statements that carry out the node at a position of a graph. -/
def Lowers (graph : StageGraph) (registry : Registry) (n : NodeId) (lowered : Lowered) : Prop :=
  ∃ node, graph.resolvedNode? n = some node ∧ node.lower registry = .ok lowered

/-- The nodes of an order are lowered one by one. -/
theorem forall₂_lowers {graph : StageGraph} {registry : Registry} {order : List NodeId}
    (bounded : ∀ n ∈ order, n < graph.nodes.length) :
    ∀ {lowered : List Lowered}, List.Forall₂ (fun node part => node.lower registry = .ok part)
        (order.filterMap graph.resolvedNode?) lowered →
      List.Forall₂ (graph.Lowers registry) order lowered := by
  induction order with
  | nil =>
      intro lowered parts
      cases parts
      exact .nil
  | cons n order ih =>
      intro lowered parts
      have bound := bounded n List.mem_cons_self
      have found : graph.resolvedNode? n =
          some ((graph.nodes.get ⟨n, bound⟩).mapReads graph.resolve) := by
        rw [resolvedNode?, node?, List.getElem?_eq_getElem bound]
        rfl
      rw [List.filterMap_cons_some found] at parts
      cases parts with
      | cons here later =>
          exact .cons ⟨_, found, here⟩
            (ih (fun m member => bounded m (List.mem_cons_of_mem _ member)) later)

/-- **A variable is reworked after it was given a value.**  Let two nodes produce one variable,
the younger one writing nothing else and the older one not reading it, where reading through an
alias counts.  If the graph can be compiled, its statements are those of the scheduled nodes,
one node after another and none twice; and if the younger node is scheduled, so is the older
one, before it.  Which roots there are, and which of the two nodes is met first, does not
matter. -/
theorem writers_in_order {graph : StageGraph} {v : Variable} {first second : NodeId}
    (reworks : graph.Reworks v first second) {compiler : Compiler} {source : StageSource}
    (compiled : compiler.compile graph = .ok source) :
    ∃ order lowered, graph.schedule = .ok order ∧ order.Nodup ∧
      List.Forall₂ (graph.Lowers compiler.registry) order lowered ∧
      source.statements = lowered.flatMap Lowered.statements ∧
      (second ∈ order → first ∈ order ∧ order.idxOf first < order.idxOf second) := by
  obtain ⟨order, scheduled, done⟩ := Compiler.exists_of_compile compiled
  obtain ⟨roots, _, folded⟩ := exists_of_bind_eq_ok scheduled
  have bounded : ∀ n ∈ order, n < graph.nodes.length := by
    intro n member
    obtain ⟨root, _, reaches⟩ := (mem_of_foldlM folded n).mp member
    exact reaches.lt
  obtain ⟨lowered, written, statements, _, _⟩ := Compiler.exists_of_compileNodes done
  have nodup := (foldlM_scheduleRoot_grown Settled.nil folded).2.settled.nodup
  have ordered : Heralds first second order :=
    foldlM_scheduleRoot_heralds reworks Settled.nil (.of_not_mem List.not_mem_nil) folded
  exact ⟨order, lowered, scheduled, nodup, forall₂_lowers bounded (forall₂_of_mapM written),
    statements, ordered.idxOf_lt nodup⟩

/-- The color of a fragment is requested before the direction that it is made from, and the
direction is normalized in place. -/
def retouched : StageGraph :=
  build .fragment "retouched" [.declare (supplied "source"), .temporary .vec3 (some "unit"),
    .request
      (copying (computed "unit") { name := fragColorName, type := .vec4, storage := .builtin }),
    .request (copying (supplied "source") (computed "unit")),
    .request (normalizing (computed "unit") (computed "unit"))]

/-- The direction is copied, normalized and shown. -/
theorem writers_in_order_retouched : retouched.Reworks (computed "unit") 1 2 ∧
    ∃ source, Compiler.compile {} retouched = .ok source ∧
      source.statements = ["unit = source;", "unit = normalize(unit);",
        "gl_FragColor = vec4(unit, 1.0);"] ∧
      ∃ order lowered, retouched.schedule = .ok order ∧ order.Nodup ∧
        List.Forall₂ (retouched.Lowers []) order lowered ∧
        source.statements = lowered.flatMap Lowered.statements ∧
        (2 ∈ order → 1 ∈ order ∧ order.idxOf 1 < order.idxOf 2) := by
  let nodes : List Node := [copying (supplied "source") (computed "unit"),
    normalizing (computed "unit") (computed "unit"),
    copying (computed "unit") { name := fragColorName, type := .vec4, storage := .builtin }]
  have present : retouched.node? 1 = nodes[0]? ∧ retouched.node? 2 = nodes[1]? := by decide
  have reworks : retouched.Reworks (computed "unit") 1 2 := by
    refine ⟨by decide, by decide, by decide, ?_, ?_⟩
    · intro node found
      rw [present.2] at found
      cases found
      decide
    · intro node found
      rw [present.1] at found
      cases found
      decide
  have scheduled : Compiler.scheduledNodes retouched = .ok nodes := by decide +kernel
  have complete : ∀ node ∈ nodes, node.Complete := by
    refine List.forall_mem_cons.mpr ⟨?_, List.forall_mem_cons.mpr ⟨?_,
      List.forall_mem_singleton.mpr ?_⟩⟩ <;>
    exact Node.Complete.of_slots (List.Subset.refl _) (List.Subset.refl _) nofun trivial
  have lowers : nodes.mapM (Node.lower []) = .ok [{ statements := ["unit = source;"] },
      { statements := ["unit = normalize(unit);"] },
      { statements := ["gl_FragColor = vec4(unit, 1.0);"] }] := by decide +kernel
  have compiles : ∃ source, Compiler.compile {} retouched = .ok source :=
    Compiler.exists_compile rfl scheduled complete
  obtain ⟨source, compiled⟩ := compiles
  obtain ⟨lowered, written, statements, _, _⟩ :=
    Compiler.exists_of_compileNodes ((Compiler.compile_eq scheduled).symm.trans compiled)
  obtain rfl := Except.ok.inj (lowers.symm.trans written)
  exact ⟨reworks, source, compiled, statements, writers_in_order reworks compiled⟩

end StageGraph
end ShaderLoom
