import ShaderLoom.Proofs.Compilation
import ShaderLoom.Proofs.FinishedDrafts

/-!
# Declarations are exact, unique and in order

A generated stage declares the variables that its scheduled nodes use, each once, and nothing
else.  Attributes come first, then uniforms, varyings and local variables, and within each of
these groups variables stand in the order in which the nodes use them first.

No name is declared twice.  The names of a table are distinct; but scheduled nodes use the
variables that aliases stand for, so it has to be seen that these are in the table as well.
They are, in every graph that is built by edits which only mention variables of the graph
(`StageGraph.Reachable`).

## Main definitions

* `StageGraph.Reachable` — graphs that can be built
* `Variable.Precedes` — the order of declarations

## Main results

* `Compiler.pairwise_idxOf_eraseDups` — removing repetitions keeps the order of first
  occurrences
* `StageGraph.Reachable.used_subset_symbols` — scheduled nodes use variables of the table
* `Compiler.declarations_exact` — what is declared, and in which order
-/

namespace ShaderLoom

/-! ## Graphs that can be built -/

namespace StageGraph

/-- The variables that an edit takes from the graph. -/
def Edit.mentions : Edit → List Variable
  | .declare _ => []
  | .temporary _ _ => []
  | .request node => node.reads ++ node.writes
  | .root v => [v]
  | .share _ v => [v]

/-- The graphs that edits can build from an empty one, if they mention variables of the graph
only. -/
inductive Reachable : StageGraph → Prop
  | new (stage : Stage) (name : String) : Reachable (new stage name)
  | edit {graph : StageGraph} (reachable : Reachable graph) (change : Edit)
      (known : ∀ v ∈ change.mentions, v ∈ graph.table.symbols) : Reachable (graph.edit change)

namespace Reachable

variable {graph : StageGraph}

theorem exists_build (reachable : Reachable graph) :
    ∃ stage name edits, graph = build stage name edits := by
  induction reachable with
  | new stage name => exact ⟨stage, name, [], rfl⟩
  | edit _ change _ ih =>
      obtain ⟨stage, name, edits, rfl⟩ := ih
      exact ⟨stage, name, edits ++ [change], (build_concat stage name edits change).symm⟩

theorem nodup_names (reachable : Reachable graph) :
    (graph.table.symbols.map Variable.name).Nodup := by
  obtain ⟨stage, name, edits, rfl⟩ := reachable.exists_build
  exact nodup_names_build stage name edits

theorem laws (reachable : Reachable graph) : AliasLaws graph := by
  obtain ⟨stage, name, edits, rfl⟩ := reachable.exists_build
  exact aliasLaws_build stage name edits

/-- A variable of the table stands for one of the table, if nodes write such variables only. -/
theorem resolve_mem (laws : AliasLaws graph)
    (writes : ∀ node ∈ graph.nodes, node.writes ⊆ graph.table.symbols) {v : Variable}
    (member : v ∈ graph.table.symbols) : graph.resolve v ∈ graph.table.symbols := by
  rcases laws.resolve_cases v with same | ⟨_, node, present, written⟩
  · rw [same]
    exact member
  · exact writes node present written

/-- **Nodes use variables of the table**: this holds of the graph without nodes and is kept by
every edit. -/
theorem nodes_subset_symbols (reachable : Reachable graph) :
    ∀ node ∈ graph.nodes, node.reads ⊆ graph.table.symbols ∧
      node.writes ⊆ graph.table.symbols := by
  induction reachable with
  | new stage name => exact List.forall_mem_nil _
  | @edit graph reachable change known ih =>
      have grows := (Wire.symbols_edit graph change).subset
      have earlier : ∀ node ∈ graph.nodes, node.reads ⊆ (graph.edit change).table.symbols ∧
          node.writes ⊆ (graph.edit change).table.symbols := by
        intro node present
        exact ⟨List.Subset.trans (ih node present).1 grows,
          List.Subset.trans (ih node present).2 grows⟩
      rcases edit_cases graph change with ⟨request, rfl⟩ | ⟨_, nodes, _⟩
      · rcases add_cases graph request with ⟨_, _, _, _, _, _, added⟩ | added
        · rw [StageGraph.edit, added]
          exact ih
        · intro node present
          rw [StageGraph.edit, added] at present
          rcases List.mem_append.mp present with before | new
          · exact earlier node before
          · rw [List.mem_singleton.mp new]
            refine ⟨?_, fun v writes => grows (known v (List.mem_append_right _ writes))⟩
            intro v reads
            obtain ⟨w, read, rfl⟩ := Node.mem_reads_mapReads.mp reads
            exact grows (resolve_mem reachable.laws (fun node present => (ih node present).2)
              (known w (List.mem_append_left _ read)))
      · rw [nodes]
        exact earlier

/-- **Scheduled nodes use variables of the table.** -/
theorem used_subset_symbols (reachable : Reachable graph) (order : List NodeId) :
    Compiler.usedVariables (order.filterMap graph.resolvedNode?) ⊆ graph.table.symbols := by
  intro v used
  obtain ⟨node, member, uses⟩ := Wire.mem_usedVariables.mp used
  obtain ⟨n, _, found⟩ := List.mem_filterMap.mp member
  obtain ⟨stored, present, rfl⟩ := Option.map_eq_some_iff.mp found
  obtain ⟨reads, writes⟩ := reachable.nodes_subset_symbols stored (List.mem_of_getElem? present)
  rcases uses with read | written
  · obtain ⟨w, original, rfl⟩ := Node.mem_reads_mapReads.mp read
    exact resolve_mem reachable.laws
      (fun node present => (reachable.nodes_subset_symbols node present).2) (reads original)
  · exact writes written

end Reachable

end StageGraph

/-! ## The order of declarations -/

namespace Compiler

section Repetitions

variable {α : Type} [BEq α] [LawfulBEq α]

/-- Leaving out elements keeps the order of first occurrences of the others. -/
theorem idxOf_lt_of_filter {p : α → Bool} {vs : List α} {v w : α}
    (kept : p w = true) (before : (vs.filter p).idxOf v < (vs.filter p).idxOf w) :
    vs.idxOf v < vs.idxOf w := by
  induction vs with
  | nil => exact before
  | cons u vs ih =>
      by_cases first : u = v
      · by_cases second : u = w
        · rw [← first, ← second] at before
          exact absurd before (Nat.lt_irrefl _)
        · rw [List.idxOf_cons_eq _ first, List.idxOf_cons_ne _ second]
          exact Nat.succ_pos _
      · by_cases second : u = w
        · rw [List.filter_cons_of_pos (second ▸ kept), List.idxOf_cons_eq _ second] at before
          exact absurd before (Nat.not_lt_zero _)
        · rw [List.idxOf_cons_ne _ first, List.idxOf_cons_ne _ second]
          refine Nat.succ_lt_succ (ih ?_)
          by_cases stays : p u = true
          · rw [List.filter_cons_of_pos stays, List.idxOf_cons_ne _ first,
              List.idxOf_cons_ne _ second] at before
            exact Nat.lt_of_succ_lt_succ before
          · rwa [List.filter_cons_of_neg stays] at before

/-- **Removing repetitions keeps the order of first occurrences.** -/
theorem pairwise_idxOf_eraseDups (vs : List α) :
    vs.eraseDups.Pairwise fun v w => vs.idxOf v < vs.idxOf w := by
  cases vs with
  | nil => exact .nil
  | cons u vs =>
      have other : ∀ w ∈ (vs.filter fun w => !w == u).eraseDups, (!w == u) = true :=
        fun w member => (List.mem_filter.mp (List.mem_eraseDups.mp member)).2
      rw [List.eraseDups_cons, List.pairwise_cons]
      constructor
      · intro w member
        have differs : u ≠ w := fun same => by simpa [same] using other w member
        rw [List.idxOf_cons_self, List.idxOf_cons_ne _ differs]
        exact Nat.succ_pos _
      · refine (pairwise_idxOf_eraseDups (vs.filter fun w => !w == u)).imp_of_mem ?_
        intro v w inV inW before
        have differsV : u ≠ v := fun same => by simpa [same] using other v inV
        have differsW : u ≠ w := fun same => by simpa [same] using other w inW
        rw [List.idxOf_cons_ne _ differsV, List.idxOf_cons_ne _ differsW]
        exact Nat.succ_lt_succ (idxOf_lt_of_filter (other w inW) before)
termination_by vs.length
decreasing_by exact Nat.lt_succ_of_le (List.length_filter_le _ _)

theorem nodup_eraseDups (vs : List α) : vs.eraseDups.Nodup := by
  refine (pairwise_idxOf_eraseDups vs).imp ?_
  rintro v _ before rfl
  exact Nat.lt_irrefl _ before

end Repetitions

end Compiler

/-- The order of declarations: storage by storage and, within a storage, by the first of all
uses. -/
def Variable.Precedes (uses : List Variable) (v w : Variable) : Prop :=
  v.storage.rank < w.storage.rank ∨ v.storage = w.storage ∧ uses.idxOf v < uses.idxOf w

namespace Compiler

/-- Variables are listed in the order of declarations. -/
theorem pairwise_precedes (uses : List Variable) :
    (variablesOf declaredStorages uses.eraseDups).Pairwise (Variable.Precedes uses) := by
  have ranked : declaredStorages.Pairwise fun a b => a.rank < b.rank := by decide
  rw [variablesOf, List.pairwise_flatMap]
  constructor
  · intro storage _
    refine ((pairwise_idxOf_eraseDups uses).filter _).imp_of_mem ?_
    intro v w inV inW before
    have storedV := beq_iff_eq.mp (List.mem_filter.mp inV).2
    have storedW := beq_iff_eq.mp (List.mem_filter.mp inW).2
    exact .inr ⟨storedV.trans storedW.symm, before⟩
  · refine ranked.imp ?_
    intro a b less v inV w inW
    have storedV := beq_iff_eq.mp (List.mem_filter.mp inV).2
    have storedW := beq_iff_eq.mp (List.mem_filter.mp inW).2
    refine .inl ?_
    rw [storedV, storedW]
    exact less

theorem nodup_variablesOf (nodes : List Node) :
    (variablesOf declaredStorages (usedVariables nodes)).Nodup := by
  refine (pairwise_precedes (nodes.flatMap fun node => node.reads ++ node.writes)).imp ?_
  rintro v _ precedes rfl
  rcases precedes with less | ⟨_, less⟩ <;> exact Nat.lt_irrefl _ less

/-- Variables that are not built in have declarations. -/
theorem forall₂_declaration {vs : List Variable} (external : ∀ v ∈ vs, v.storage ≠ .builtin) :
    List.Forall₂ (fun v text => v.declaration? = some text) vs
      (vs.filterMap Variable.declaration?) := by
  induction vs with
  | nil => exact .nil
  | cons v vs ih =>
      obtain ⟨text, declared⟩ := Variable.exists_declaration (external v List.mem_cons_self)
      rw [List.filterMap_cons_some declared]
      exact .cons declared (ih fun w member => external w (List.mem_cons_of_mem _ member))

/-- **Declarations are exact, unique and in order.**  Whenever a graph that can be built is
compiled, with whatever snippets, custom kinds and settings, the declarations of its source are
those of a list of variables: the variables that scheduled nodes read or write, apart from
built-in ones, and no others.  Their names are distinct.  Attributes come first, then uniforms,
varyings and local variables, and within each of these the variable that is used first is
declared first, where nodes use what they read before what they write, slot by slot. -/
theorem declarations_exact {graph : StageGraph} (reachable : graph.Reachable)
    {compiler : Compiler} {source : StageSource}
    (compiled : compiler.compile graph = .ok source) :
    ∃ nodes declared, scheduledNodes graph = .ok nodes ∧
      List.Forall₂ (fun v text => v.declaration? = some text) declared source.declarations ∧
      (∀ v : Variable, v ∈ declared ↔
        v.storage ≠ .builtin ∧ ∃ node ∈ nodes, v ∈ node.reads ∨ v ∈ node.writes) ∧
      (declared.map Variable.name).Nodup ∧
      declared.Pairwise
        (Variable.Precedes (nodes.flatMap fun node => node.reads ++ node.writes)) := by
  obtain ⟨order, scheduled, done⟩ := exists_of_compile compiled
  refine ⟨order.filterMap graph.resolvedNode?, variablesOf declaredStorages
    (usedVariables (order.filterMap graph.resolvedNode?)), ?_, ?_, ?_, ?_, pairwise_precedes _⟩
  · rw [scheduledNodes, scheduled]
    rfl
  · rw [declarations_of_compileNodes done]
    exact forall₂_declaration fun v listed =>
      mem_declaredStorages.mp (mem_variablesOf.mp listed).2
  · intro v
    rw [mem_variablesOf, Wire.mem_usedVariables, mem_declaredStorages, and_comm]
  · refine List.Nodup.map_on ?_ (nodup_variablesOf _)
    intro v inV w inW same
    exact List.inj_on_of_nodup_map reachable.nodup_names
      (reachable.used_subset_symbols order (mem_variablesOf.mp inV).1)
      (reachable.used_subset_symbols order (mem_variablesOf.mp inW).1) same

end Compiler

namespace StageGraph

/-- A normal that is brought to unit length, in a temporary of a given name. -/
def unitNormal (out : String) : Node where
  operation := .normalize
  inputs := [("vec", .read { name := "vNormal", type := .vec3, storage := .varying })]
  outputs := [("result", { name := out, type := .vec3, storage := .temporary })]

/-- Shows what is in a temporary of a given name. -/
def shown (source : String) : Node where
  operation := .assign
  inputs := [("in", .read { name := source, type := .vec3, storage := .temporary })]
  outputs := [("out", { name := fragColorName, type := .vec4, storage := .builtin })]

/-- A fragment stage that brings a normal to unit length twice, so that the second request is
folded into the first, and shows the second result. -/
def twice : StageGraph :=
  build .fragment "twice" [.declare { name := "vNormal", type := .vec3, storage := .varying },
    .temporary .vec3 (some "first"), .temporary .vec3 (some "second"),
    .request (unitNormal "first"), .request (unitNormal "second"), .request (shown "second")]

theorem reachable_twice : twice.Reachable := by
  simp only [twice, build, List.foldl_cons, List.foldl_nil]
  refine .edit
    (.edit (.edit (.edit (.edit (.edit (.new .fragment "twice") _ ?_) _ ?_) _ ?_) _ ?_) _ ?_)
    _ ?_ <;> decide +kernel

end StageGraph

/-- The name of the first temporary is declared and that of the second is not. -/
theorem Compiler.declarations_exact_twice : StageGraph.twice.Reachable ∧
    ∃ source, Compiler.compile {} StageGraph.twice = .ok source ∧
      source.declarations = ["varying vec3 vNormal;", "vec3 first;"] ∧
      ∃ nodes declared, scheduledNodes StageGraph.twice = .ok nodes ∧
        List.Forall₂ (fun v text => v.declaration? = some text) declared source.declarations ∧
        (declared.map Variable.name).Nodup := by
  have scheduled : scheduledNodes StageGraph.twice =
      .ok [StageGraph.unitNormal "first", StageGraph.shown "first"] := by decide +kernel
  have complete : ∀ node ∈ [StageGraph.unitNormal "first", StageGraph.shown "first"],
      node.Complete := by
    refine List.forall_mem_cons.mpr ⟨?_, List.forall_mem_singleton.mpr ?_⟩ <;>
      exact Node.Complete.of_slots (List.Subset.refl _) (List.Subset.refl _) nofun trivial
  have compiles : ∃ source,
      Compiler.compileNodes {} StageGraph.twice.stage StageGraph.twice.name
      [StageGraph.unitNormal "first", StageGraph.shown "first"] = .ok source :=
    exists_compileNodes rfl _ _ complete
  obtain ⟨source, done⟩ := compiles
  have compiled : Compiler.compile {} StageGraph.twice = .ok source :=
    (compile_eq scheduled).trans done
  obtain ⟨nodes, declared, found, texts, _, distinct, _⟩ :=
    declarations_exact StageGraph.reachable_twice compiled
  refine ⟨StageGraph.reachable_twice, source, compiled, ?_, nodes, declared, found,
    texts, distinct⟩
  rw [declarations_of_compileNodes done]
  decide +kernel

end ShaderLoom
