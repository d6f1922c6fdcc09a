import Mathlib.Data.List.Count
import Mathlib.Data.List.Infix
import ShaderLoom.Proofs.GraphHistory

/-!
# The producers of requested variables

A request lists variables among its outputs and is answered with a node.  Whoever asks for the
producers of such a variable, at once or after any number of further requests, expects to find
that node.

Nodes and aliases are only added, so that the answer can always be found in the graph: the node
writes the variable, or a variable that it was made an alias of (`StageGraph.Recorded`).
Producers are looked up behind the latest alias, however.  A node that writes an alias is not
looked for there, and an alias that is folded once more points away from the node that it was
folded into first (`StageGraph.producers_lose_alias_writes`).  Where requests leave aliases
alone, nothing can go wrong: lists of producers grow at their end only, and no answer is lost.

## Main definitions

* `StageGraph.checked` — each request passes a check against the graph that it is made to
* `StageGraph.respects` — a request leaves aliases alone
* `StageGraph.Unwritten` — aliases are written by no node

## Main results

* `StageGraph.producers_prefix_add`, `StageGraph.mem_producers_add` — the producers after a
  request
* `StageGraph.requested_producers` — the producers after any requests
-/

namespace ShaderLoom
namespace StageGraph

/-! ## Writers -/

/-- A new node joins the writers at their end, once for each of its slots. -/
theorem writers_concat (graph : StageGraph) (node : Node) (v : Variable) :
    { graph with nodes := graph.nodes ++ [node] }.writers v =
      graph.writers v ++ List.replicate (node.writes.count v) graph.nodes.length := by
  have slots : (node.writes.filter fun written => written == v).length = node.writes.count v :=
    List.countP_eq_length_filter.symm
  simp only [writers, List.zipIdx_append, List.flatMap_append, List.zipIdx_singleton,
    List.flatMap_cons, List.flatMap_nil, List.append_nil, Nat.zero_add, List.map_const', slots]

theorem mem_writers_concat (graph : StageGraph) {node : Node} {v : Variable}
    (output : v ∈ node.writes) :
    graph.nodes.length ∈ { graph with nodes := graph.nodes ++ [node] }.writers v :=
  mem_writers.mpr ⟨node, List.getElem?_concat_length, output⟩

/-- Writers stand in the order in which they were created. -/
theorem pairwise_writers (graph : StageGraph) (v : Variable) :
    (graph.writers v).Pairwise (· ≤ ·) := by
  suffices ordered : ∀ nodes : List Node, ({ graph with nodes }.writers v).Pairwise (· ≤ ·) from
    ordered graph.nodes
  intro nodes
  induction nodes using List.reverseRecOn with
  | nil => exact .nil
  | append_singleton nodes node ih =>
      have grown := writers_concat { graph with nodes } node v
      dsimp only at grown
      rw [grown, List.pairwise_append]
      refine ⟨ih, List.pairwise_replicate.mpr (.inr (Nat.le_refl _)), ?_⟩
      intro old member new last
      rw [List.eq_of_mem_replicate last]
      exact Nat.le_of_lt (writers_lt member)

/-! ## What a request adds -/

theorem aliases_add (graph : StageGraph) (node : Node) :
    graph.aliases <:+ (graph.add node).2.aliases := by
  rcases add_cases graph node with ⟨earlier, _, _, _, _, _, added⟩ | added
  · rw [added]
    exact List.suffix_append _ _
  · rw [added]

theorem writers_add (graph : StageGraph) (node : Node) (v : Variable) :
    graph.writers v <+: (graph.add node).2.writers v := by
  rcases add_cases graph node with ⟨earlier, _, _, _, _, _, added⟩ | added
  · rw [added]
    rfl
  · rw [added, writers_concat]
    exact List.prefix_append _ _

theorem aliases_edit (graph : StageGraph) (change : Edit) :
    graph.aliases <:+ (graph.edit change).aliases := by
  rcases edit_cases graph change with ⟨node, rfl⟩ | ⟨_, _, aliases⟩
  · exact aliases_add graph node
  · rw [aliases]

theorem writers_edit (graph : StageGraph) (change : Edit) (v : Variable) :
    graph.writers v <+: (graph.edit change).writers v := by
  rcases edit_cases graph change with ⟨node, rfl⟩ | ⟨_, nodes, _⟩
  · exact writers_add graph node v
  · rw [writers_congr nodes]

/-- A node writes a variable, or one that the variable was made an alias of. -/
def Recorded (graph : StageGraph) (v : Variable) (id : NodeId) : Prop :=
  ∃ w, (w = v ∨ (v, w) ∈ graph.aliases) ∧ id ∈ graph.writers w

theorem Recorded.edit {graph : StageGraph} {v : Variable} {id : NodeId}
    (recorded : graph.Recorded v id) (change : Edit) : (graph.edit change).Recorded v id := by
  obtain ⟨w, stands, writes⟩ := recorded
  exact ⟨w, stands.imp_right fun member => (aliases_edit graph change).subset member,
    (writers_edit graph change w).subset writes⟩

theorem Recorded.foldl {graph : StageGraph} {v : Variable} {id : NodeId}
    (recorded : graph.Recorded v id) (edits : List Edit) :
    (edits.foldl StageGraph.edit graph).Recorded v id := by
  induction edits generalizing graph with
  | nil => exact recorded
  | cons change later ih => exact ih (recorded.edit change)

/-- An output of a request that is folded is an output of the earlier node or becomes an alias
of one. -/
theorem mem_writes_or_mem_newAliases {graph : StageGraph} {request earlier : Node}
    (folds : graph.canFold request earlier = true) {v : Variable}
    (output : v ∈ request.writes) :
    v ∈ earlier.writes ∨ ∃ w ∈ earlier.writes, (v, w) ∈ newAliases request earlier := by
  simp only [canFold, Bool.and_eq_true, beq_iff_eq] at folds
  have lengths : request.writes.length ≤ earlier.writes.length := by
    simpa only [Node.writes, List.length_map] using Nat.le_of_eq folds.1
  rw [← List.map_fst_zip lengths] at output
  obtain ⟨⟨_, w⟩, paired, rfl⟩ := List.mem_map.mp output
  have written : w ∈ earlier.writes := (List.of_mem_zip paired).2
  dsimp only at paired ⊢
  rename_i v
  by_cases same : v = w
  · exact .inl (same ▸ written)
  · refine .inr ⟨w, written, ?_⟩
    rw [newAliases, List.mem_reverse, List.mem_filter, bne_iff_ne]
    exact ⟨paired, same⟩

/-- The node that answers a request is recorded for every output of the request. -/
theorem recorded_add (graph : StageGraph) (node : Node) {v : Variable}
    (output : v ∈ node.writes) : (graph.add node).2.Recorded v (graph.add node).1 := by
  rcases add_cases graph node with ⟨earlier, id, found, _, _, folds, added⟩ | added
  · rw [added]
    have writes : ∀ w ∈ earlier.writes, id ∈ graph.writers w := fun w member =>
      mem_writers.mpr ⟨earlier, found, member⟩
    rcases mem_writes_or_mem_newAliases folds output with own | ⟨w, written, joined⟩
    · exact ⟨v, .inl rfl, writes v own⟩
    · exact ⟨w, .inr (List.mem_append_left _ joined), writes w written⟩
  · rw [added]
    exact ⟨v, .inl rfl, mem_writers_concat graph output⟩

/-! ## Checking requests -/

/-- Whether each request among edits passes a check against the graph that it is made to. -/
def checked (check : StageGraph → Node → Bool) : StageGraph → List Edit → Bool
  | _, [] => true
  | graph, change :: later =>
    change.request?.all (check graph) && checked check (graph.edit change) later

section Checked

variable {check : StageGraph → Node → Bool}

theorem checked_append (graph : StageGraph) (edits more : List Edit) :
    checked check graph (edits ++ more) =
      (checked check graph edits && checked check (edits.foldl edit graph) more) := by
  induction edits generalizing graph with
  | nil => rfl
  | cons change later ih =>
      rw [List.cons_append, checked, checked, ih, Bool.and_assoc]
      rfl

/-- What is kept by edits whose requests pass a check is kept by all that were checked. -/
theorem checked_induction {motive : StageGraph → Prop}
    (step : ∀ graph change, motive graph → change.request?.all (check graph) = true →
      motive (graph.edit change)) {graph : StageGraph} (start : motive graph)
        {edits : List Edit}
    (passed : checked check graph edits = true) : motive (edits.foldl edit graph) := by
  induction edits generalizing graph with
  | nil => exact start
  | cons change later ih =>
      rw [checked, Bool.and_eq_true_iff] at passed
      exact ih (step graph change start passed.1) passed.2

end Checked

/-! ## Aliases that no node writes -/

/-- Aliases are written by no node. -/
def Unwritten (graph : StageGraph) : Prop :=
  ∀ entry ∈ graph.aliases, graph.writers entry.1 = []

theorem Unwritten.lookup_eq_none {graph : StageGraph} (unwritten : Unwritten graph)
    {v : Variable} (written : graph.writers v ≠ []) : graph.aliases.lookup v = none := by
  rw [List.lookup_eq_none_iff]
  intro entry member
  rw [bne_iff_ne]
  rintro rfl
  exact written (unwritten entry member)

/-- Where no node writes an alias, no alias stands for another. -/
theorem Unwritten.resolve_of_lookup {graph : StageGraph} (unwritten : Unwritten graph)
    (laws : AliasLaws graph) {v target : Variable}
    (found : graph.aliases.lookup v = some target) : graph.resolve v = target := by
  rw [laws.resolve_of_lookup found]
  exact follow_of_lookup_none
    (unwritten.lookup_eq_none (laws.written _ (Association.mem_of_lookup found))) _

theorem resolve_of_lookup_none {graph : StageGraph} {v : Variable}
    (free : graph.aliases.lookup v = none) : graph.resolve v = v :=
  follow_of_lookup_none free _

/-- A request keeps aliases unwritten if it is folded or lists no alias. -/
theorem Unwritten.add {graph : StageGraph} (unwritten : Unwritten graph) {node : Node}
    (apart : (graph.add node).1 = graph.nodes.length →
      ∀ v ∈ node.writes, graph.aliases.lookup v = none) : Unwritten (graph.add node).2 := by
  rcases add_cases graph node with ⟨earlier, id, found, _, _, folds, added⟩ | added
  · rw [added]
    intro entry member
    rcases List.mem_append.mp member with new | old
    · exact (mem_newAliases folds new).2.2.1
    · exact unwritten entry old
  · rw [added] at apart ⊢
    intro entry member
    have absent : entry.1 ∉ node.writes := by
      intro output
      have free := List.lookup_eq_none_iff.mp (apart rfl entry.1 output) entry member
      simp at free
    rw [writers_concat, Node.writes_mapReads, List.count_eq_zero.mpr absent,
      unwritten entry member]
    rfl

/-! ## Requests that leave aliases alone -/

/-- Whether a request leaves aliases alone: an alias that it lists among its outputs is folded
back, so that it goes on standing for the same variable and is written by no node. -/
def respects (graph : StageGraph) (node : Node) : Bool :=
  node.writes.all fun v => (graph.aliases.lookup v).all fun target =>
    (graph.add node).2.aliases.lookup v == some target && ((graph.add node).2.writers v).isEmpty

theorem lookup_add_of_respects {graph : StageGraph} {node : Node}
    (respected : graph.respects node = true) {v target : Variable} (output : v ∈ node.writes)
    (found : graph.aliases.lookup v = some target) :
    (graph.add node).2.aliases.lookup v = some target ∧ (graph.add node).2.writers v = [] := by
  have kept := List.all_eq_true.mp respected v output
  rw [found, Option.all_some, Bool.and_eq_true_iff, beq_iff_eq, List.isEmpty_iff] at kept
  exact kept

section Step

variable {graph : StageGraph} {node : Node} (laws : AliasLaws graph)
  (unwritten : Unwritten graph) (respected : graph.respects node = true)

include unwritten respected

theorem unwritten_add : Unwritten (graph.add node).2 := by
  refine unwritten.add fun stored v output => ?_
  cases found : graph.aliases.lookup v with
  | none => rfl
  | some target =>
      have gone := (lookup_add_of_respects respected output found).2
      rcases add_cases graph node with ⟨_, id, present, _, _, _, added⟩ | added
      · -- The answer is an earlier node and not a new one.
        rw [added] at stored
        exact absurd stored (Nat.ne_of_lt (List.getElem?_eq_some_iff.mp present).1)
      · rw [added] at gone
        exact absurd gone (List.ne_nil_of_mem (mem_writers_concat graph output))

include laws

/-- **Producers grow at their end.**  A request that leaves aliases alone may add a producer to
a variable, behind those that it has. -/
theorem producers_prefix_add (v : Variable) :
    graph.producers v <+: (graph.add node).2.producers v := by
  have unwrittenAfter := unwritten_add unwritten respected
  have lawsAfter := aliasLaws_add laws node
  cases before : graph.aliases.lookup v with
  | some target =>
      -- An alias that is requested again stands for the same variable, and others are not
      -- touched.
      have after : (graph.add node).2.aliases.lookup v = some target := by
        by_cases output : v ∈ node.writes
        · exact (lookup_add_of_respects respected output before).1
        · rcases add_cases graph node with ⟨earlier, _, _, _, _, folds, added⟩ | added
          · rw [added, List.lookup_append, before]
            have other : (newAliases (node.mapReads graph.resolve) earlier).lookup v =
                none := by
              rw [List.lookup_eq_none_iff]
              intro entry member
              rw [bne_iff_ne]
              rintro rfl
              obtain ⟨_, _, _, slot, listed, _⟩ := mem_newAliases folds member
              exact output (Node.mem_writes listed)
            rw [other]
            rfl
          · rw [added]
            exact before
      rw [producers, producers, unwritten.resolve_of_lookup laws before,
        unwrittenAfter.resolve_of_lookup lawsAfter after]
      exact writers_add graph node target
  | none =>
      rw [producers, resolve_of_lookup_none before]
      by_cases written : graph.writers v = []
      · rw [written]
        exact List.nil_prefix
      · have kept : (graph.add node).2.writers v ≠ [] := fun none =>
          written (List.prefix_nil.mp (none ▸ writers_add graph node v))
        rw [producers, resolve_of_lookup_none (unwrittenAfter.lookup_eq_none kept)]
        exact writers_add graph node v

/-- A request finds the node that answers it among the producers of its outputs. -/
theorem mem_producers_add {v : Variable} (output : v ∈ node.writes) :
    (graph.add node).1 ∈ (graph.add node).2.producers v := by
  have unwrittenAfter := unwritten_add unwritten respected
  have lawsAfter := aliasLaws_add laws node
  rw [producers]
  cases found : (graph.add node).2.aliases.lookup v with
  | none =>
      obtain ⟨w, rfl | joined, writes⟩ := recorded_add graph node output
      · rw [resolve_of_lookup_none found]
        exact writes
      · have other := List.lookup_eq_none_iff.mp found _ joined
        simp at other
  | some target =>
      rw [unwrittenAfter.resolve_of_lookup lawsAfter found]
      have free := unwrittenAfter _ (Association.mem_of_lookup found)
      rcases add_cases graph node with ⟨earlier, id, present, _, _, folds, added⟩ | added
      · rw [added] at found free ⊢
        -- No node writes an alias, so the output has become an alias of an output of the node.
        rcases mem_writes_or_mem_newAliases folds output with own | ⟨w, _, joined⟩
        · exact absurd free (List.ne_nil_of_mem (mem_writers.mpr ⟨earlier, present, own⟩))
        · rw [List.lookup_append] at found
          cases latest : (newAliases (node.mapReads graph.resolve) earlier).lookup v with
          | none =>
              have other := List.lookup_eq_none_iff.mp latest _ joined
              simp at other
          | some latestTarget =>
              rw [latest, Option.some_or, Option.some.injEq] at found
              subst found
              obtain ⟨_, _, _, slot, _, listed, _⟩ :=
                mem_newAliases folds (Association.mem_of_lookup latest)
              exact mem_writers.mpr ⟨earlier, present, Node.mem_writes listed⟩
      · rw [added] at free
        exact absurd free (List.ne_nil_of_mem (mem_writers_concat graph output))

end Step

/-! ## Any number of requests -/

theorem producers_congr {graph other : StageGraph} (nodes : other.nodes = graph.nodes)
    (aliases : other.aliases = graph.aliases) (v : Variable) :
    other.producers v = graph.producers v := by
  rw [producers, producers, resolve, resolve, aliases, writers_congr nodes]

/-- Along edits that leave aliases alone, producers grow at their end. -/
theorem producers_prefix_foldl {graph : StageGraph} (laws : AliasLaws graph)
    (unwritten : Unwritten graph) {edits : List Edit}
    (respected : checked respects graph edits = true) :
    Unwritten (edits.foldl edit graph) ∧
      ∀ v, graph.producers v <+: (edits.foldl edit graph).producers v := by
  have along : AliasLaws (edits.foldl edit graph) ∧ Unwritten (edits.foldl edit graph) ∧
      ∀ v, graph.producers v <+: (edits.foldl edit graph).producers v := by
    refine checked_induction (motive := fun later => AliasLaws later ∧ Unwritten later ∧
      ∀ v, graph.producers v <+: later.producers v) ?_
      ⟨laws, unwritten, fun _ => List.prefix_rfl⟩ respected
    rintro later change ⟨laws, unwritten, grown⟩ passed
    refine ⟨aliasLaws_edit laws change, ?_⟩
    rcases edit_cases later change with ⟨node, rfl⟩ | ⟨_, nodes, aliases⟩
    · exact ⟨unwritten_add unwritten passed, fun v =>
        (grown v).trans (producers_prefix_add laws unwritten passed v)⟩
    · refine ⟨?_, fun v => (producers_congr nodes aliases v).symm ▸ grown v⟩
      intro entry member
      rw [writers_congr nodes]
      exact unwritten entry (aliases ▸ member)
  exact along.2

/-- **The producers of what was requested.**  A request is made to some graph, and any edits
follow.

* Producers stand in the order in which they were created.
* The node that answered the request writes each output of the request, or a variable that the
  output was made an alias of.
* If no request, before or after, writes an alias otherwise than by folding it back, the node is
  among the producers of each output, and lists of producers have only grown at their end. -/
theorem requested_producers (stage : Stage) (name : String) (edits : List Edit) (node : Node)
    (more : List Edit) :
    let asked := build stage name edits
    let graph := build stage name (edits ++ .request node :: more)
    (∀ v, (graph.producers v).Pairwise (· ≤ ·)) ∧
    (∀ v ∈ node.writes, graph.Recorded v (asked.add node).1) ∧
    (checked respects (new stage name) (edits ++ .request node :: more) = true →
      (∀ v ∈ node.writes, (asked.add node).1 ∈ graph.producers v) ∧
      ∀ v, asked.producers v <+: graph.producers v) := by
  intro asked graph
  have continued : graph = more.foldl edit (asked.add node).2 := by
    change List.foldl _ _ _ = _
    rw [List.foldl_append]
    rfl
  refine ⟨fun v => pairwise_writers graph _, fun v output => ?_, fun respected => ?_⟩
  · rw [continued]
    exact (recorded_add asked node output).foldl more
  · rw [checked_append, checked, Bool.and_eq_true_iff, Bool.and_eq_true_iff] at respected
    obtain ⟨before, now, after⟩ := respected
    have laws := aliasLaws_build stage name edits
    have unwritten : Unwritten asked :=
      (producers_prefix_foldl (aliasLaws_new stage name)
        (fun _ member => by cases member) before).1
    have grown :=
      (producers_prefix_foldl (aliasLaws_add laws node) (unwritten_add unwritten now) after).2
    rw [continued]
    exact ⟨fun v output => (grown v).subset (mem_producers_add laws unwritten now output),
      fun v => (producers_prefix_add laws unwritten now v).trans (grown v)⟩

/-! ## Aliases that are written again -/

/-- A direction that the host supplies. -/
def supplied (name : String) : Variable := { name, type := .vec3, storage := .uniform }

/-- A direction that is computed. -/
def computed (name : String) : Variable := { name, type := .vec3, storage := .temporary }

/-- Normalizes a direction. -/
def normalizing (source target : Variable) : Node :=
  { operation := .normalize, inputs := [("vec", .read source)],
    outputs := [("result", target)] }

/-- Copies a direction. -/
def copying (source target : Variable) : Node :=
  { operation := .assign, inputs := [("in", .read source)], outputs := [("out", target)] }

/-- Two directions are supplied; `a` is the normalized first, and `b` the normalized second. -/
def normalizedPair : List Edit :=
  [.declare (supplied "first"), .declare (supplied "second"),
    .request (normalizing (supplied "first") (computed "a")),
    .request (normalizing (supplied "second") (computed "b"))]

/-- An alias may be requested again, and what it stands for may be rewritten. -/
theorem requested_producers_repeated :
    let node := normalizing (supplied "first") (computed "c")
    let more : List Edit :=
      [.request node, .request (copying (supplied "second") (computed "a"))]
    let graph := build .fragment "demo" (normalizedPair ++ .request node :: more)
    checked respects (new .fragment "demo") (normalizedPair ++ .request node :: more) = true ∧
      graph.producers (computed "c") = [0, 2] ∧
      ((build .fragment "demo" normalizedPair).add node).1 ∈
        graph.producers (computed "c") := by
  intro node more graph
  have respected : checked respects (new .fragment "demo")
      (normalizedPair ++ .request node :: more) = true := by decide
  have output : computed "c" ∈ node.writes := by decide
  exact ⟨respected, by decide,
    ((requested_producers .fragment "demo" normalizedPair node more).2.2 respected).1 _ output⟩

/-- Once `c` is an alias of `a`, a node that writes `c` is not among its producers, and folding
`c` into the other node drops the producer that it had. -/
theorem producers_lose_alias_writes :
    let asked := build .fragment "demo"
      (normalizedPair ++ [.request (normalizing (supplied "first") (computed "c"))])
    let written := asked.add (copying (supplied "second") (computed "c"))
    let refolded := asked.add (normalizing (supplied "second") (computed "c"))
    asked.producers (computed "c") = [0] ∧
      (written.1 = 2 ∧ written.2.producers (computed "c") = [0]) ∧
      refolded.1 = 1 ∧ refolded.2.producers (computed "c") = [1] := by
  decide

end StageGraph
end ShaderLoom
