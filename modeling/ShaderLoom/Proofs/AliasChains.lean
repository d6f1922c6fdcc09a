import Mathlib.Logic.Relation
import ShaderLoom.Proofs.GraphHistory

/-!
# Chains of aliases

To resolve a variable is to follow aliases until there is none.  The loop has no bound of its
own (`StageGraph.Chase`), and the map that it walks through is changed all the time: a variable
can be folded a second time, into another node, and a variable that is an alias can still be
written, and then be what other aliases stand for.

What never changes is when a variable was first written.  When an alias is made, the variable
that it stands for is an output of a node and the alias is an output of none; if it becomes one
later, the node is younger.  So along every alias, in force or not, the time of the first write
goes back (`StageGraph.Receding`), and there is no way round in a circle.

## Main definitions

* `StageGraph.firstWrite` — when a variable became an output for the first time
* `StageGraph.StandsFor` — what an alias in force leads to
* `StageGraph.Chase` — the loop that resolves a variable

## Main results

* `StageGraph.receding_build` — aliases lead to variables that were written before
* `StageGraph.resolve_terminates` — the loop ends, at a variable that is no alias
-/

namespace ShaderLoom
namespace StageGraph

/-- The position of the first node that writes a variable, or the number of nodes if there is
none. -/
def firstWrite (graph : StageGraph) (v : Variable) : Nat :=
  graph.nodes.findIdx fun node => v ∈ node.writes

/-- The alias of `v` that is in force leads to `target`. -/
def StandsFor (graph : StageGraph) (v target : Variable) : Prop :=
  graph.aliases.lookup v = some target

/-- The loop that resolves a variable: it goes from alias to alias, in the given number of
rounds, and ends at a variable that is no alias. -/
inductive Chase (graph : StageGraph) : Variable → Nat → Variable → Prop
  | ends {v : Variable} (free : graph.aliases.lookup v = none) : Chase graph v 0 v
  | goesOn {v target w : Variable} {rounds : Nat} (stands : graph.StandsFor v target)
      (onward : Chase graph target rounds w) : Chase graph v (rounds + 1) w

/-! ## First writes -/

section FirstWrite

variable {graph : StageGraph} {v : Variable}

theorem firstWrite_le_length (graph : StageGraph) (v : Variable) :
    graph.firstWrite v ≤ graph.nodes.length :=
  List.findIdx_le_length

theorem firstWrite_lt_of_mem {node : Node} (member : node ∈ graph.nodes)
    (writes : v ∈ node.writes) : graph.firstWrite v < graph.nodes.length :=
  List.findIdx_lt_length_of_exists ⟨node, member, decide_eq_true writes⟩

theorem firstWrite_of_unwritten (unwritten : graph.writers v = []) :
    graph.firstWrite v = graph.nodes.length := by
  refine List.findIdx_eq_length.mpr ?_
  intro node member
  exact decide_eq_false (writers_eq_nil_iff.mp unwritten node member)

/-- A node that is added does not write a variable for the first time before it is there. -/
theorem firstWrite_le_concat (graph : StageGraph) (node : Node) (v : Variable) :
    graph.firstWrite v ≤ { graph with nodes := graph.nodes ++ [node] }.firstWrite v := by
  rw [firstWrite, firstWrite, List.findIdx_append]
  split
  · exact Nat.le_refl _
  · have last := firstWrite_le_length graph v
    exact Nat.le_trans last (Nat.le_add_left _ _)

/-- A variable that has been written is not written for the first time again. -/
theorem firstWrite_concat (node : Node) (written : graph.firstWrite v < graph.nodes.length) :
    { graph with nodes := graph.nodes ++ [node] }.firstWrite v = graph.firstWrite v := by
  rw [firstWrite, List.findIdx_append]
  exact if_pos written

end FirstWrite

/-! ## Aliases lead back in time -/

/-- Every alias that was made, in force or not, stands for a variable that was written before
the alias was, if the alias was written at all. -/
def Receding (graph : StageGraph) : Prop :=
  ∀ entry ∈ graph.aliases, graph.firstWrite entry.2 < graph.firstWrite entry.1

theorem receding_new (stage : Stage) (name : String) : Receding (new stage name) := by
  intro entry member
  cases member

/-- Requests keep aliases going back in time.  Folding makes aliases of variables that are not
written, for variables that are; a new node is younger than all first writes so far. -/
theorem Receding.add {graph : StageGraph} (receding : graph.Receding) (node : Node) :
    (graph.add node).2.Receding := by
  rcases add_cases graph node with ⟨earlier, id, found, _, _, folds, added⟩ | added
  · rw [added]
    rintro ⟨source, target⟩ member
    rcases List.mem_append.mp member with new | old
    · obtain ⟨_, _, unwritten, slot, _, output, _⟩ := mem_newAliases folds new
      have last : graph.firstWrite source = graph.nodes.length :=
        firstWrite_of_unwritten unwritten
      have before : graph.firstWrite target < graph.nodes.length :=
        firstWrite_lt_of_mem (List.mem_of_getElem? found) (Node.mem_writes output)
      exact last ▸ before
    · exact receding _ old
  · rw [added]
    rintro ⟨source, target⟩ member
    have before : graph.firstWrite target < graph.firstWrite source := receding _ member
    have written := Nat.lt_of_lt_of_le before (firstWrite_le_length graph source)
    dsimp only
    rw [firstWrite_concat _ written]
    exact Nat.lt_of_lt_of_le before (firstWrite_le_concat graph _ source)

theorem Receding.edit {graph : StageGraph} (receding : graph.Receding) (change : Edit) :
    (graph.edit change).Receding := by
  rcases edit_cases graph change with ⟨node, rfl⟩ | ⟨_, nodes, aliases⟩
  · exact receding.add node
  · intro entry member
    rw [firstWrite, firstWrite, nodes]
    exact receding entry (aliases ▸ member)

/-- **Aliases lead back in time**, in every graph. -/
theorem receding_build (stage : Stage) (name : String) (edits : List Edit) :
    Receding (build stage name edits) :=
  build_induction (receding_new stage name)
    (fun _ change receding => receding.edit change) edits

/-! ## The loop -/

section Loop

variable {graph : StageGraph} {v w : Variable}

theorem Receding.lt_of_standsFor (receding : graph.Receding) (stands : graph.StandsFor v w) :
    graph.firstWrite w < graph.firstWrite v :=
  receding (v, w) (Association.mem_of_lookup stands)

theorem Receding.lt_of_transGen (receding : graph.Receding)
    (chain : Relation.TransGen graph.StandsFor v w) :
    graph.firstWrite w < graph.firstWrite v := by
  induction chain with
  | single stands => exact receding.lt_of_standsFor stands
  | tail _ stands ih => exact Nat.lt_trans (receding.lt_of_standsFor stands) ih

/-- No chain of aliases comes back to where it started. -/
theorem Receding.acyclic (receding : graph.Receding) (v : Variable) :
    ¬ Relation.TransGen graph.StandsFor v v :=
  fun cycle => Nat.lt_irrefl _ (receding.lt_of_transGen cycle)

/-- The loop ends.  Each round goes back to an earlier first write, so there are no more rounds
than nodes before the first that writes the variable. -/
theorem Receding.exists_chase (receding : graph.Receding) (v : Variable) :
    ∃ rounds ≤ graph.firstWrite v, ∃ w, graph.Chase v rounds w := by
  induction time : graph.firstWrite v using Nat.strongRecOn generalizing v with
  | ind time ih =>
      cases found : graph.aliases.lookup v with
      | none => exact ⟨0, Nat.zero_le _, v, .ends found⟩
      | some target =>
          have before := receding.lt_of_standsFor found
          rw [time] at before
          obtain ⟨rounds, few, w, chase⟩ := ih _ before target rfl
          exact ⟨rounds + 1, by omega, w, .goesOn found chase⟩

/-- There is one way to go through the loop. -/
theorem Chase.unique {rounds rounds' : Nat} {w' : Variable} (chase : graph.Chase v rounds w)
    (other : graph.Chase v rounds' w') : rounds = rounds' ∧ w = w' := by
  induction chase generalizing rounds' with
  | ends free =>
      cases other with
      | ends => exact ⟨rfl, rfl⟩
      | goesOn stands => cases free.symm.trans stands
  | goesOn stands _ ih =>
      cases other with
      | ends free => cases free.symm.trans stands
      | goesOn stands' onward =>
          cases stands.symm.trans stands'
          obtain ⟨rfl, rfl⟩ := ih onward
          exact ⟨rfl, rfl⟩

/-- The loop ends at what the variable resolves to. -/
theorem Chase.resolve_eq {rounds : Nat} (laws : AliasLaws graph)
    (chase : graph.Chase v rounds w) : graph.resolve v = w := by
  induction chase with
  | ends free => exact follow_of_lookup_none free _
  | goesOn stands _ ih => exact (laws.resolve_of_lookup stands).trans ih

end Loop

/-- **Resolving terminates**, in every graph, whatever was requested.  Aliases do not form a
circle, and the loop that follows them from a variable can go one way only: after at most as
many rounds as there are nodes it ends at what the variable resolves to, which is not an
alias. -/
theorem resolve_terminates (stage : Stage) (name : String) (edits : List Edit) :
    (∀ v, ¬ Relation.TransGen (build stage name edits).StandsFor v v) ∧
    ∀ v, ∃ few ≤ (build stage name edits).nodes.length,
      (∀ rounds w, (build stage name edits).Chase v rounds w ↔
        rounds = few ∧ w = (build stage name edits).resolve v) ∧
      ∀ entry ∈ (build stage name edits).aliases, entry.1 ≠
        (build stage name edits).resolve v := by
  have receding := receding_build stage name edits
  have laws := aliasLaws_build stage name edits
  refine ⟨receding.acyclic, ?_⟩
  intro v
  obtain ⟨few, bound, w, chase⟩ := receding.exists_chase v
  obtain rfl := chase.resolve_eq laws
  refine ⟨few, Nat.le_trans bound (firstWrite_le_length _ v), ?_, ?_⟩
  · intro rounds w
    constructor
    · exact fun other => other.unique chase
    · rintro ⟨rfl, rfl⟩
      exact chase
  · intro entry member same
    have free := List.lookup_eq_none_iff.mp (laws.lookup_resolve v) entry member
    exact bne_iff_ne.mp free same.symm

end StageGraph
end ShaderLoom
