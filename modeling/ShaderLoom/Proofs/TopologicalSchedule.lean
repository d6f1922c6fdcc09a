import ShaderLoom.Proofs.GraphHistory
import ShaderLoom.Proofs.Traversal

/-!
# Schedules are topological orders

What `StageGraph.schedule` answers, for every graph that edits can build.  A node depends on the
other nodes that write what it reads; the nodes to be scheduled are those that the producers of
the roots depend on.  If every root has a producer and no cycle of two or more nodes can be
reached, the schedule lists exactly these nodes, each behind those it depends on.  Otherwise the
roots are taken in turn, and the first one that has no producer or reaches a cycle is reported.

The traversal itself is treated in `ShaderLoom.Proofs.Traversal`.  Here it is run from the
producers of one root after another (`scheduleRoot_grown`, `scheduleRoot_error`).  The list of
roots is free of repeats in the program and not in the specification, which makes no difference:
a root that is already scheduled adds nothing (`schedule_eq_foldlM`).

## Main definitions

* `StageGraph.DependsOn`, `StageGraph.OnCycle` — the dependencies of the nodes of a graph
* `StageGraph.requiredRoots` — what a stage has to deliver
* `StageGraph.RootReaches` — the nodes that a root depends on

## Main results

* `StageGraph.schedule_topological` — a schedule is a topological order, and its errors are
  exact
-/

namespace ShaderLoom
namespace StageGraph

open Relation Schedule

variable {graph : StageGraph}

/-! ## Dependencies -/

/-- A node depends on every other node that writes something it reads. -/
def DependsOn (graph : StageGraph) (n p : NodeId) : Prop :=
  p ≠ n ∧ ∃ node, graph.node? n = some node ∧ ∃ v ∈ node.reads, p ∈ graph.producers v

/-- A node lies on a cycle of two or more nodes. -/
def OnCycle (graph : StageGraph) (n : NodeId) : Prop :=
  ∃ m, m ≠ n ∧ ReflTransGen graph.DependsOn n m ∧ ReflTransGen graph.DependsOn m n

/-- What a stage has to deliver: its built-in outputs, then the registered roots. -/
def requiredRoots (graph : StageGraph) : List Variable :=
  ((mandatory graph.stage).filterMap graph.builtin? ++ graph.roots).map graph.resolve

/-- A root depends on the nodes that produce it and on what these depend on. -/
def RootReaches (graph : StageGraph) (root : Variable) (n : NodeId) : Prop :=
  ∃ p ∈ graph.producers root, ReflTransGen graph.DependsOn p n

theorem needs_dependencies (graph : StageGraph) :
    Needs graph.dependencies = graph.DependsOn := by
  funext n p
  rw [eq_iff_iff, Needs, dependencies, DependsOn]
  cases graph.node? n with
  | none => simp
  | some node =>
      simp only [List.mem_filter, List.mem_flatMap, bne_iff_ne, Option.some.injEq,
        exists_eq_left']
      exact and_comm

theorem dependencies_lt {n p : NodeId} (needs : p ∈ graph.dependencies n) :
    p < graph.nodes.length := by
  have depends : graph.DependsOn n p := needs_dependencies graph ▸ needs
  obtain ⟨_, _, _, v, _, writes⟩ := depends
  exact writers_lt writes

/-- What a root depends on is a node of the graph. -/
theorem RootReaches.lt {root : Variable} {n : NodeId}
    (reaches : graph.RootReaches root n) : n < graph.nodes.length := by
  obtain ⟨p, source, path⟩ := reaches
  rcases path.cases_tail with rfl | ⟨_, _, depends⟩
  · exact writers_lt source
  · obtain ⟨_, _, _, _, _, writes⟩ := depends
    exact writers_lt writes

/-- No node depends on itself directly, so a node that depends on itself does so through another
one. -/
theorem cyclic_iff_onCycle {n : NodeId} : Cyclic graph.dependencies n ↔ graph.OnCycle n := by
  rw [Cyclic, needs_dependencies]
  constructor
  · intro cycle
    obtain ⟨m, depends, back⟩ := TransGen.head'_iff.mp cycle
    exact ⟨m, depends.1, .single depends, back⟩
  · rintro ⟨m, other, there, back⟩
    rcases there.cases_head with equal | ⟨next, depends, onward⟩
    · exact absurd equal.symm other
    · exact TransGen.head' depends (onward.trans back)

/-- Something is read from a node on a cycle, so it has an output. -/
theorem OnCycle.output {n : NodeId} (cycle : graph.OnCycle n) :
    ∃ node v, graph.node? n = some node ∧ node.writes.head? = some v := by
  obtain ⟨m, other, _, back⟩ := cycle
  rcases back.cases_tail with equal | ⟨_, _, depends⟩
  · exact absurd equal.symm other
  · obtain ⟨_, _, _, v, _, writes⟩ := depends
    obtain ⟨node, found, written⟩ := mem_writers.mp writes
    refine ⟨node, node.writes.head (List.ne_nil_of_mem written), found, ?_⟩
    exact List.head?_eq_some_head _

/-! ## Roots one after another -/

/-- The sources that a list of roots starts the traversal from. -/
def sources (graph : StageGraph) (roots : List Variable) : List NodeId :=
  roots.flatMap graph.producers

theorem scheduleNode_grown {order result : List NodeId} {id : NodeId}
    (settled : Settled graph.dependencies order)
    (succeeded : graph.scheduleNode order id = .ok result) :
    Grown graph.dependencies [] [id] order result := by
  unfold scheduleNode at succeeded
  cases visited : visit graph.dependencies graph.nodes.length [] order id with
  | error closing => rw [visited] at succeeded; cases succeeded
  | ok order' =>
      rw [visited] at succeeded
      cases succeeded
      exact visit_grown settled visited

theorem scheduleRoot_grown {order result : List NodeId} {root : Variable}
    (settled : Settled graph.dependencies order)
    (succeeded : graph.scheduleRoot order root = .ok result) :
    graph.producers root ≠ [] ∧
      Grown graph.dependencies [] (graph.producers root) order result := by
  unfold scheduleRoot at succeeded
  split at succeeded
  · cases succeeded
  · rename_i present
    exact ⟨present, grown_foldlM scheduleNode_grown settled succeeded⟩

/-- Roots that are scheduled in turn have producers, and the traversal has run from these. -/
theorem foldlM_scheduleRoot_grown {roots : List Variable} :
    ∀ {order result : List NodeId}, Settled graph.dependencies order →
      roots.foldlM graph.scheduleRoot order = .ok result →
        (∀ root ∈ roots, graph.producers root ≠ []) ∧
          Grown graph.dependencies [] (graph.sources roots) order result := by
  induction roots with
  | nil =>
      intro order result settled succeeded
      cases succeeded
      exact ⟨List.forall_mem_nil _, Grown.refl settled (List.forall_mem_nil _)⟩
  | cons root rest ih =>
      intro order result settled succeeded
      rw [List.foldlM_cons] at succeeded
      cases first : graph.scheduleRoot order root with
      | error cause => rw [first] at succeeded; cases succeeded
      | ok middle =>
          rw [first] at succeeded
          obtain ⟨present, grown⟩ := scheduleRoot_grown settled first
          obtain ⟨others, grown'⟩ := ih grown.settled succeeded
          refine ⟨?_, grown.trans grown'⟩
          intro other member
          rcases List.mem_cons.mp member with rfl | later
          · exact present
          · exact others other later

/-- A root whose producers are in the order adds nothing. -/
theorem scheduleRoot_of_mem {order : List NodeId} {root : Variable}
    (present : graph.producers root ≠ []) (done : ∀ p ∈ graph.producers root, p ∈ order) :
    graph.scheduleRoot order root = .ok order := by
  unfold scheduleRoot
  split
  · rename_i absent
    exact absurd absent present
  · clear present
    generalize graph.producers root = producers at done
    induction producers with
    | nil => rfl
    | cons p rest ih =>
        have first : graph.scheduleNode order p = .ok order := by
          rw [scheduleNode, visit_of_mem (done p List.mem_cons_self)]
        rw [List.foldlM_cons, first]
        exact ih fun q member => done q (List.mem_cons_of_mem _ member)

/-- A root that cannot be scheduled has no producer or reaches a cycle. -/
theorem scheduleRoot_error {order : List NodeId} {root : Variable} {cause : Error}
    (failed : graph.scheduleRoot order root = .error cause) :
    (graph.producers root = [] ∧ cause = .missingRoot root.name) ∨
      ∃ n, graph.RootReaches root n ∧ graph.OnCycle n ∧ cause = graph.cycleError n := by
  unfold scheduleRoot at failed
  split at failed
  · rename_i absent
    cases failed
    exact .inl ⟨absent, rfl⟩
  · obtain ⟨front, p, back, middle, split, _, failing⟩ := foldlM_error failed
    have source : p ∈ graph.producers root := by
      rw [split]
      exact List.mem_append_right _ List.mem_cons_self
    unfold scheduleNode at failing
    cases visited : visit graph.dependencies graph.nodes.length [] middle p with
    | ok order' => rw [visited] at failing; cases failing
    | error closing =>
        rw [visited] at failing
        cases failing
        obtain ⟨reaches, cycle⟩ :=
          visit_error (fun _ _ _ needs => dependencies_lt needs) visited
          (writers_lt source) List.nodup_nil (fun _ member => by cases member)
          (by rw [List.length_nil, Nat.zero_add]) (fun _ member => by cases member)
        rw [Reaches, needs_dependencies] at reaches
        exact .inr ⟨closing, ⟨p, source, reaches⟩, cyclic_iff_onCycle.mp cycle, rfl⟩

/-! ## The list of roots -/

/-- A built-in output that the stage has to deliver is a variable of every graph. -/
theorem builtin?_build (stage : Stage) (name : String) (edits : List Edit) :
    ∀ output ∈ mandatory (build stage name edits).stage,
      ((build stage name edits).builtin? output).isSome = true := by
  intro output member
  rw [build_stage] at member
  have found : ∃ v ∈ builtins stage, v.name = output ∧ v.storage = .builtin := by
    cases stage <;>
      simp only [mandatory, builtins, List.mem_cons, List.not_mem_nil, or_false] at member ⊢
    · rcases member with rfl | rfl
      · exact ⟨_, .inr rfl, rfl, rfl⟩
      · exact ⟨_, .inl rfl, rfl, rfl⟩
    · exact ⟨_, rfl, member.symm, rfl⟩
  obtain ⟨v, builtin, rfl, storage⟩ := found
  rw [builtin?, find?_builtin builtin edits, Option.filter_some, storage]
  rfl

theorem mandatoryRoots_eq
    (present : ∀ output ∈ mandatory graph.stage, (graph.builtin? output).isSome = true) :
    graph.mandatoryRoots =
      .ok (((mandatory graph.stage).filterMap graph.builtin?).map graph.resolve) := by
  unfold mandatoryRoots
  generalize mandatory graph.stage = outputs at present
  induction outputs with
  | nil => rfl
  | cons output rest ih =>
      obtain ⟨v, found⟩ := Option.isSome_iff_exists.mp (present output List.mem_cons_self)
      rw [List.mapM_cons, found,
        ih fun other member => present other (List.mem_cons_of_mem _ member),
        List.filterMap_cons, found]
      rfl

/-- Leaving out roots that have been met before makes no difference. -/
theorem schedule_eq_foldlM
    (present : ∀ output ∈ mandatory graph.stage, (graph.builtin? output).isSome = true) :
    graph.schedule = graph.requiredRoots.foldlM graph.scheduleRoot [] := by
  rw [schedule, allRoots, mandatoryRoots_eq present, requiredRoots, List.map_append]
  generalize ((mandatory graph.stage).filterMap graph.builtin?).map graph.resolve = first
  change (List.foldl _ first graph.roots).foldlM graph.scheduleRoot [] = _
  -- Along the registered roots: the two lists have the same members and schedule alike.
  suffices both : (∀ root, root ∈ graph.roots.foldl (fun roots root =>
        if graph.resolve root ∈ roots then roots else roots ++ [graph.resolve root]) first →
          root ∈ first ++ graph.roots.map graph.resolve) ∧
      (graph.roots.foldl (fun roots root =>
        if graph.resolve root ∈ roots then roots
        else roots ++ [graph.resolve root]) first).foldlM graph.scheduleRoot [] =
        (first ++ graph.roots.map graph.resolve).foldlM graph.scheduleRoot [] from both.2
  induction graph.roots using List.reverseRecOn with
  | nil => simp
  | append_singleton roots root ih =>
      obtain ⟨members, same⟩ := ih
      rw [List.foldl_append, List.foldl_cons, List.foldl_nil, List.map_append,
        List.map_singleton, ← List.append_assoc]
      split
      · rename_i met
        refine ⟨fun other member => List.mem_append_left _ (members other member), ?_⟩
        rw [same]
        generalize first ++ roots.map graph.resolve = scheduled at members
        rw [List.foldlM_append]
        cases done : scheduled.foldlM graph.scheduleRoot [] with
        | error cause => rfl
        | ok order =>
            obtain ⟨produced, grown⟩ := foldlM_scheduleRoot_grown Settled.nil done
            have again : graph.scheduleRoot order (graph.resolve root) = .ok order := by
              refine scheduleRoot_of_mem (produced _ (members _ met)) ?_
              intro p source
              exact grown.covers p (List.mem_flatMap.mpr ⟨_, members _ met, source⟩)
            change _ = List.foldlM graph.scheduleRoot order [graph.resolve root]
            rw [List.foldlM_cons, again]
            rfl
      · refine ⟨?_, ?_⟩
        · intro other member
          rcases List.mem_append.mp member with old | new
          · exact List.mem_append_left _ (members other old)
          · exact List.mem_append_right _ new
        · rw [List.foldlM_append, same, ← List.foldlM_append]

/-! ## The schedule -/

/-- The roots of a schedule have producers and reach no cycle. -/
theorem sound_of_foldlM {roots : List Variable} {order : List NodeId}
    (succeeded : roots.foldlM graph.scheduleRoot [] = .ok order) :
    ∀ root ∈ roots, graph.producers root ≠ [] ∧
      ∀ n, graph.RootReaches root n → ¬ graph.OnCycle n := by
  obtain ⟨produced, grown⟩ := foldlM_scheduleRoot_grown Settled.nil succeeded
  intro root member
  refine ⟨produced root member, ?_⟩
  rintro n ⟨p, source, reaches⟩ cycle
  have inside : n ∈ order := by
    refine grown.settled.mem_of_reaches
      (grown.covers p (List.mem_flatMap.mpr ⟨root, member, source⟩)) ?_
    rw [Reaches, needs_dependencies]
    exact reaches
  exact grown.settled.not_cyclic inside (cyclic_iff_onCycle.mpr cycle)

theorem mem_of_foldlM {roots : List Variable} {order : List NodeId}
    (succeeded : roots.foldlM graph.scheduleRoot [] = .ok order) (n : NodeId) :
    n ∈ order ↔ ∃ root ∈ roots, graph.RootReaches root n := by
  obtain ⟨_, grown⟩ := foldlM_scheduleRoot_grown Settled.nil succeeded
  constructor
  · intro member
    rcases grown.mem_or_reaches member with old | ⟨_, p, source, reaches⟩
    · cases old
    · obtain ⟨root, among, source⟩ := List.mem_flatMap.mp source
      rw [Reaches, needs_dependencies] at reaches
      exact ⟨root, among, p, source, reaches⟩
  · rintro ⟨root, among, p, source, reaches⟩
    refine grown.settled.mem_of_reaches
      (grown.covers p (List.mem_flatMap.mpr ⟨root, among, source⟩)) ?_
    rw [Reaches, needs_dependencies]
    exact reaches

/-- The first root that cannot be scheduled decides the error. -/
theorem error_of_foldlM {roots : List Variable} {cause : Error}
    (failed : roots.foldlM graph.scheduleRoot [] = .error cause) :
    ∃ before root after, roots = before ++ root :: after ∧
      (∀ other ∈ before, graph.producers other ≠ [] ∧
        ∀ n, graph.RootReaches other n → ¬ graph.OnCycle n) ∧
      ((graph.producers root = [] ∧ cause = .missingRoot root.name) ∨
        ∃ n node v, graph.RootReaches root n ∧ graph.OnCycle n ∧ graph.node? n = some node ∧
          node.writes.head? = some v ∧ cause = .cyclicGraph node.operation.label v.name) := by
  obtain ⟨before, root, after, middle, split, succeeded, failing⟩ := foldlM_error failed
  refine ⟨before, root, after, split, sound_of_foldlM succeeded, ?_⟩
  rcases scheduleRoot_error failing with missing | ⟨n, reaches, cycle, named⟩
  · exact .inl missing
  · obtain ⟨node, v, found, first⟩ := cycle.output
    refine .inr ⟨n, node, v, reaches, cycle, found, first, ?_⟩
    rw [named, cycleError, found]
    dsimp only
    rw [first]
    rfl

/-- There is a schedule if every root has a producer and reaches no cycle. -/
theorem exists_schedule
    (present : ∀ output ∈ mandatory graph.stage, (graph.builtin? output).isSome = true)
    (produced : ∀ root ∈ graph.requiredRoots, graph.producers root ≠ [])
    (acyclic : ∀ root ∈ graph.requiredRoots, ∀ n, graph.RootReaches root n →
      ¬ graph.OnCycle n) :
    ∃ order, graph.schedule = .ok order := by
  rw [schedule_eq_foldlM present]
  cases result : graph.requiredRoots.foldlM graph.scheduleRoot [] with
  | ok order => exact ⟨order, rfl⟩
  | error cause =>
      obtain ⟨before, root, after, split, _, blame⟩ := error_of_foldlM result
      have member : root ∈ graph.requiredRoots := by
        rw [split]
        exact List.mem_append_right _ List.mem_cons_self
      rcases blame with ⟨missing, _⟩ | ⟨n, _, _, reaches, cycle, _⟩
      · exact absurd missing (produced root member)
      · exact absurd cycle (acyclic root member n reaches)

/-- **A schedule is a topological order, and its errors are exact.**  In every graph, resolving
a variable comes to an end and the stage has all its built-in outputs.  A schedule holds exactly
the nodes that the roots depend on, once each and behind all that they depend on.  There is one
if and only if every root has a producer and reaches no cycle of two or more nodes.  If there is
none, the first root that is to blame decides the error: it has no producer and is named, or it
reaches a cycle and a node on a cycle is named. -/
theorem schedule_topological (stage : Stage) (name : String) (edits : List Edit) :
    let graph := build stage name edits
    (∀ v, graph.aliases.lookup (graph.resolve v) = none) ∧
    (∀ output ∈ mandatory graph.stage, (graph.builtin? output).isSome = true) ∧
    (∀ order, graph.schedule = .ok order →
      order.Nodup ∧
      (∀ n, n ∈ order ↔ ∃ root ∈ graph.requiredRoots, graph.RootReaches root n) ∧
      ∀ n ∈ order, ∀ p, graph.DependsOn n p → p ∈ order ∧ order.idxOf p < order.idxOf n) ∧
    ((∃ order, graph.schedule = .ok order) ↔
      (∀ root ∈ graph.requiredRoots, graph.producers root ≠ []) ∧
      ∀ root ∈ graph.requiredRoots, ∀ n, graph.RootReaches root n → ¬ graph.OnCycle n) ∧
    ∀ cause, graph.schedule = .error cause →
      ∃ before root after, graph.requiredRoots = before ++ root :: after ∧
        (∀ other ∈ before, graph.producers other ≠ [] ∧
          ∀ n, graph.RootReaches other n → ¬ graph.OnCycle n) ∧
        ((graph.producers root = [] ∧ cause = .missingRoot root.name) ∨
          ∃ n node v, graph.RootReaches root n ∧ graph.OnCycle n ∧ graph.node? n = some node ∧
            node.writes.head? = some v ∧ cause = .cyclicGraph node.operation.label v.name) := by
  intro graph
  have present := builtin?_build stage name edits
  have folds := schedule_eq_foldlM present
  refine ⟨(aliasLaws_build stage name edits).lookup_resolve, present, ?_, ?_, ?_⟩
  · intro order succeeded
    rw [folds] at succeeded
    obtain ⟨_, grown⟩ := foldlM_scheduleRoot_grown Settled.nil succeeded
    refine ⟨grown.settled.nodup, mem_of_foldlM succeeded, ?_⟩
    intro n member p depends
    have needs : Needs graph.dependencies n p := by
      rw [needs_dependencies]
      exact depends
    exact ⟨grown.settled.mem_of_needs member needs, grown.settled.idxOf_lt member needs⟩
  · constructor
    · rintro ⟨order, succeeded⟩
      rw [folds] at succeeded
      have sound := sound_of_foldlM succeeded
      exact ⟨fun root member => (sound root member).1, fun root member => (sound root member).2⟩
    · rintro ⟨produced, acyclic⟩
      exact exists_schedule present produced acyclic
  · intro cause failed
    rw [folds] at failed
    exact error_of_foldlM failed

end StageGraph
end ShaderLoom
