import ShaderLoom.Proofs.WiringTerms

/-!
# Finished drafts

A draft is finished when it has written the built-in outputs of its stage.  Then it has a
schedule: its requests only read what is written before, so they have no cycle, and neither have
the nodes that they become.  Under the reading that counts nestings, a node has more of them
than all it depends on (`not_onCycle`).  Every root is written.

The scheduled nodes are requests whose temporaries have been redirected to other variables that
are written (`Redirects`).  So they are complete and simple, and they use declared variables
only.  On the other hand, they write all roots, and the inputs that they read are those that the
terms of roots start from (`Draft.exists_reader_of_root`, `Draft.exists_root_of_reader`).

## Main definitions

* `Wire.Redirects` — reading other variables in place of temporaries
* `Wire.Draft.Finished` — drafts that have written the built-in outputs of their stage

## Main results

* `StageGraph.not_onCycle` — nodes of requests without cycles have no cycles
* `Wire.Draft.exists_schedule` — finished drafts have schedules
* `Wire.Draft.exists_request` — scheduled nodes are redirected requests
* `Wire.Draft.exists_reader_of_root`, `Wire.Draft.exists_root_of_reader` — inputs that roots
  depend on are read, and no others
-/

namespace ShaderLoom

open Relation

/-! ## Graphs without cycles -/

namespace StageGraph

/-- The number of nestings of a node, under given values. -/
def level (graph : StageGraph) (value : Variable → Nat) (n : NodeId) : Nat :=
  (graph.node? n).elim 0 fun node => nesting.result value node "" .float

/-- A node has more nestings than the nodes that it depends on. -/
theorem level_lt {graph : StageGraph} {value : Variable → Nat}
    (consistent : Consistent nesting value graph) {n p : NodeId}
    (depends : graph.DependsOn n p) : graph.level value p < graph.level value n := by
  obtain ⟨_, node, found, v, reads, producer⟩ := depends
  obtain ⟨earlier, foundEarlier, writes⟩ := mem_writers.mp producer
  rw [← node?] at foundEarlier
  obtain ⟨⟨slot, w⟩, output, same⟩ := List.mem_map.mp writes
  dsimp only at same
  rw [level, level, found, foundEarlier]
  calc nesting.result value earlier "" .float
      = nesting.result value earlier slot w.type := rfl
    _ = value w :=
      (consistent.output earlier (List.mem_of_getElem? foundEarlier) slot w output).symm
    _ = value v := by rw [same, consistent.value_resolve]
    _ < nesting.result value node "" .float := lt_result_nesting reads "" .float

/-- **Nodes of requests without cycles have no cycles.** -/
theorem not_onCycle (stage : Stage) (name : String) {edits : List Edit}
    (distinct : ((requested edits).flatMap Node.writes).Nodup)
    (acyclic : ∀ v, ¬ TransGen (Interpretation.Feeds (requested edits)) v v) (n : NodeId) :
    ¬ (build stage name edits).OnCycle n := by
  have consistent := consistent_build stage name
    (nesting.unfolding_meaning distinct acyclic).output
  have descends : ∀ {n m}, TransGen (build stage name edits).DependsOn n m →
      (build stage name edits).level (nesting.meaning (requested edits)) m <
        (build stage name edits).level (nesting.meaning (requested edits)) n := by
    intro n m path
    induction path with
    | single depends => exact level_lt consistent depends
    | tail _ depends ih => exact Nat.lt_trans (level_lt consistent depends) ih
  rintro ⟨m, other, there, back⟩
  rcases there.cases_head with equal | ⟨next, depends, onward⟩
  · exact other equal.symm
  · exact Nat.lt_irrefl _ (descends (TransGen.head' depends (onward.trans back)))

/-- Every node is a request, as it was redirected when it came. -/
theorem exists_request_of_mem_nodes {stage : Stage} {name : String}
    {edits : List Edit} {node : Node} (member : node ∈ (build stage name edits).nodes) :
    ∃ front request, front ++ [.request request] <+: edits ∧
      node = request.mapReads (build stage name front).resolve := by
  induction edits using List.reverseRecOn with
  | nil => cases member
  | append_singleton edits change ih =>
      rw [build_concat] at member
      have earlier : node ∈ (build stage name edits).nodes → ∃ front request,
          front ++ [.request request] <+: edits ++ [change] ∧
            node = request.mapReads (build stage name front).resolve := by
        intro before
        obtain ⟨front, request, leads, same⟩ := ih before
        exact ⟨front, request, leads.trans (List.prefix_append _ _), same⟩
      rcases edit_cases (build stage name edits) change with ⟨request, rfl⟩ | ⟨_, nodes, _⟩
      · rcases add_cases (build stage name edits) request with ⟨_, _, _, _, _, _, added⟩ | added
        · rw [edit, added] at member
          exact earlier member
        · rw [edit, added] at member
          rcases List.mem_append.mp member with before | new
          · exact earlier before
          · exact ⟨edits, request, List.prefix_refl _, List.mem_singleton.mp new⟩
      · rw [nodes] at member
        exact earlier member

/-- The registered roots are the variables that were marked as roots, if none of these is a
temporary. -/
theorem roots_subset_demanded {stage : Stage} {name : String} {edits : List Edit}
    (external : ∀ v ∈ demanded edits, v.storage ≠ .temporary) :
    (build stage name edits).roots ⊆ demanded edits := by
  induction edits using List.reverseRecOn with
  | nil => exact List.nil_subset _
  | append_singleton edits change ih =>
      rw [demanded_concat] at external ⊢
      rw [build_concat]
      have before := ih fun v member => external v (List.mem_append_left _ member)
      rcases roots_edit_cases (build stage name edits) change with same | ⟨v, rfl, more⟩
      · rw [same]
        exact List.subset_append_of_subset_left _ before
      · have marked : v ∈ demanded edits ++ [v] :=
          List.mem_append_right _ (List.mem_singleton_self v)
        rw [more, (aliasLaws_build stage name edits).resolve_of_storage (external v marked)]
        exact List.append_subset.mpr ⟨List.subset_append_of_subset_left _ before,
          List.subset_append_right _ _⟩

/-- The built-in outputs that a stage has to deliver are those that the language provides. -/
theorem mem_builtins_of_mandatory {stage : Stage} {name : String} {edits : List Edit}
    {v : Variable}
    (member : v ∈ (mandatory stage).filterMap (build stage name edits).builtin?) :
    v ∈ builtins stage := by
  obtain ⟨output, among, found⟩ := List.mem_filterMap.mp member
  obtain ⟨w, provided, rfl⟩ : ∃ w ∈ builtins stage, w.name = output := by
    cases stage <;> simpa [mandatory, builtins, or_comm, eq_comm] using among
  rw [builtin?, find?_builtin provided edits] at found
  obtain ⟨same, _⟩ := Option.filter_eq_some_iff.mp found
  cases same
  exact provided

/-- The names of the variables of a graph are distinct. -/
theorem nodup_names_build (stage : Stage) (name : String) (edits : List Edit) :
    (build stage name edits).table.names.Nodup := by
  refine build_induction (motive := fun graph => graph.table.names.Nodup) ?_ ?_ edits
  · change ((builtins stage).map Variable.name).Nodup
    cases stage <;> decide
  · intro graph change distinct
    cases change with
    | declare v =>
        dsimp only [edit]
        cases declared : graph.table.declare v with
        | ok table => exact SymbolTable.nodup_names_declare distinct declared
        | error cause => exact distinct
    | temporary type base => exact SymbolTable.nodup_names_fresh distinct type base
    | request node =>
        rcases add_cases graph node with ⟨_, _, _, _, _, _, added⟩ | added <;>
          · rw [edit, added]
            exact distinct
    | root v =>
        dsimp only [edit, addRoot]
        split <;> exact distinct
    | share key v => exact distinct

/-! ## Schedules -/

section Order

variable {graph : StageGraph} {order : List NodeId}
  (present : ∀ output ∈ mandatory graph.stage, (graph.builtin? output).isSome = true)
  (scheduled : graph.schedule = .ok order)
include present scheduled

/-- What produces a root is scheduled. -/
theorem mem_order_of_root {root : Variable} (member : root ∈ graph.requiredRoots) {p : NodeId}
    (source : p ∈ graph.producers root) : p ∈ order := by
  rw [schedule_eq_foldlM present] at scheduled
  exact (mem_of_foldlM scheduled p).mpr ⟨root, member, p, source, .refl⟩

/-- What a scheduled node depends on is scheduled. -/
theorem mem_order_of_dependsOn {n p : NodeId} (member : n ∈ order)
    (depends : graph.DependsOn n p) : p ∈ order := by
  rw [schedule_eq_foldlM present] at scheduled
  obtain ⟨root, among, source, produces, reaches⟩ := (mem_of_foldlM scheduled n).mp member
  exact (mem_of_foldlM scheduled p).mpr ⟨root, among, source, produces, reaches.tail depends⟩

/-- Roots are written. -/
theorem exists_writer_of_root {root : Variable} (member : root ∈ graph.requiredRoots)
    (settled : graph.resolve root = root) :
    ∃ node ∈ order.filterMap graph.resolvedNode?, root ∈ node.writes := by
  have produced : graph.producers root ≠ [] := by
    rw [schedule_eq_foldlM present] at scheduled
    exact (sound_of_foldlM scheduled root member).1
  obtain ⟨p, source⟩ := List.exists_mem_of_ne_nil _ produced
  have among := mem_order_of_root present scheduled member source
  rw [producers, settled] at source
  obtain ⟨node, found, writes⟩ := mem_writers.mp source
  refine ⟨node.mapReads graph.resolve, ?_, writes⟩
  exact List.mem_filterMap.mpr ⟨p, among, Option.map_eq_some_iff.mpr ⟨node, found, rfl⟩⟩

end Order

end StageGraph

/-! ## Redirected requests -/

theorem Node.mem_reads_mapReads {node : Node} {f : Variable → Variable} {v : Variable} :
    v ∈ (node.mapReads f).reads ↔ ∃ w ∈ node.reads, f w = v := by
  simp only [Node.reads, Node.mapReads, List.mem_filterMap, List.mem_map, Prod.exists]
  constructor
  · rintro ⟨slot, operand, ⟨slot', original, input, same⟩, source⟩
    cases original with
    | literal text =>
        cases same
        cases source
    | read w =>
        cases same
        cases source
        exact ⟨w, ⟨_, _, input, rfl⟩, rfl⟩
  · rintro ⟨w, ⟨slot, operand, input, source⟩, rfl⟩
    cases operand with
    | literal text => cases source
    | read u =>
        cases source
        exact ⟨slot, _, ⟨slot, _, input, rfl⟩, rfl⟩

namespace Wire

open StageGraph

/-- Other variables are read in place of temporaries, and they are written. -/
def Redirects (edits : List Edit) (f : Variable → Variable) : Prop :=
  ∀ v, f v = v ∨ v.storage = .temporary ∧ f v ∈ written edits

theorem redirects_resolve (stage : Stage) (name : String) (edits : List Edit) :
    Redirects edits (build stage name edits).resolve := by
  intro v
  refine ((aliasLaws_build stage name edits).resolve_cases v).imp_right ?_
  rintro ⟨temporary, node, present, writes⟩
  obtain ⟨front, request, leads, rfl⟩ := exists_request_of_mem_nodes present
  refine ⟨temporary, written_subset leads ?_⟩
  rw [written_concat_request]
  exact List.mem_append_right _ writes

theorem Redirects.mono {edits later : List Edit} {f : Variable → Variable}
    (redirects : Redirects edits f) (grows : edits <+: later) : Redirects later f :=
  fun v => (redirects v).imp_right fun moved => ⟨moved.1, written_subset grows moved.2⟩

theorem Redirects.comp {edits : List Edit} {f g : Variable → Variable}
    (first : Redirects edits f) (second : Redirects edits g) : Redirects edits (g ∘ f) := by
  intro v
  rcases first v with same | ⟨temporary, moved⟩
  · rw [Function.comp_apply, same]
    exact second v
  · refine .inr ⟨temporary, ?_⟩
    rcases second (f v) with same | further
    · rw [Function.comp_apply, same]
      exact moved
    · exact further.2

theorem Redirects.eq_of_storage {edits : List Edit} {f : Variable → Variable}
    (redirects : Redirects edits f) {v : Variable} (kept : v.storage ≠ .temporary) :
    f v = v := by
  rcases redirects v with same | ⟨temporary, _⟩
  · exact same
  · exact absurd temporary kept

theorem mapReads_mapReads (f g : Variable → Variable) (node : Node) :
    (node.mapReads f).mapReads g = node.mapReads (g ∘ f) := by
  simp only [Node.mapReads, List.map_map]
  congr 1
  refine List.map_congr_left ?_
  rintro ⟨slot, operand⟩ _
  cases operand <;> rfl

theorem mem_usedVariables {nodes : List Node} {v : Variable} :
    v ∈ Compiler.usedVariables nodes ↔ ∃ node ∈ nodes, v ∈ node.reads ∨ v ∈ node.writes := by
  rw [Compiler.usedVariables, List.mem_eraseDups, List.mem_flatMap]
  simp only [List.mem_append]

namespace Draft

variable {V : Vocabulary} {name : String}

/-- **Scheduled nodes are redirected requests.** -/
theorem exists_request (draft : Draft V name) {n : NodeId} {node : Node}
    (found : draft.graph.resolvedNode? n = some node) :
    ∃ request ∈ requested draft.edits, ∃ f,
      Redirects draft.edits f ∧ node = request.mapReads f := by
  obtain ⟨stored, present, rfl⟩ := Option.map_eq_some_iff.mp found
  obtain ⟨front, request, leads, rfl⟩ :=
    exists_request_of_mem_nodes (List.mem_of_getElem? present)
  have early : Redirects draft.edits (build V.stage name front).resolve :=
    (redirects_resolve V.stage name front).mono ((List.prefix_append _ _).trans leads)
  refine ⟨request, ?_, _, early.comp (redirects_resolve V.stage name draft.edits),
    mapReads_mapReads _ _ request⟩
  obtain ⟨more, extended⟩ := leads
  rw [← extended, requested, List.filterMap_append, List.filterMap_append]
  exact List.mem_append_left _ (List.mem_append_right _ (List.mem_singleton_self request))

variable (draft : Draft V name) {order : List NodeId} {node : Node}
  (member : node ∈ order.filterMap draft.graph.resolvedNode?)
include member

theorem complete_of_scheduled : node.Complete := by
  obtain ⟨n, _, found⟩ := List.mem_filterMap.mp member
  obtain ⟨request, among, f, _, rfl⟩ := draft.exists_request found
  exact (draft.sound.complete request among).mapReads f

theorem simple_of_scheduled : node.Simple := by
  obtain ⟨n, _, found⟩ := List.mem_filterMap.mp member
  obtain ⟨request, among, f, redirects, rfl⟩ := draft.exists_request found
  exact (draft.sound.simple request among).mapReads fun v kept => redirects.eq_of_storage kept

/-- Scheduled nodes read variables that have a value. -/
theorem has_of_reads {v : Variable} (reads : v ∈ node.reads) : draft.Has v := by
  obtain ⟨n, _, found⟩ := List.mem_filterMap.mp member
  obtain ⟨request, among, f, redirects, rfl⟩ := draft.exists_request found
  obtain ⟨w, read, rfl⟩ := Node.mem_reads_mapReads.mp reads
  rcases redirects w with same | ⟨_, moved⟩
  · obtain ⟨front, back, split⟩ := List.append_of_mem among
    obtain ⟨declared, before⟩ := draft.sound.ordered front request back split w read
    rw [same]
    refine ⟨declared, before.imp_right fun early => ?_⟩
    rw [written, split, List.flatMap_append]
    exact List.mem_append_left _ early
  · exact has_of_written moved

/-- Scheduled nodes read declared variables. -/
theorem reads_subset_symbols : node.reads ⊆ draft.graph.table.symbols :=
  fun _ reads => (draft.has_of_reads member reads).1

/-- Scheduled nodes write declared variables. -/
theorem writes_subset_symbols : node.writes ⊆ draft.graph.table.symbols := by
  obtain ⟨n, _, found⟩ := List.mem_filterMap.mp member
  obtain ⟨request, among, f, _, rfl⟩ := draft.exists_request found
  intro v writes
  exact (draft.sound.writes v (mem_written among writes)).1

/-- **Scheduled nodes are written as assignments**, each to the one variable that it writes. -/
theorem lower_of_scheduled [draft.Spelled] {registry : Registry} {lowered : Lowered}
    (done : node.lower registry = .ok lowered) :
    ∃ v, node.writes = [v] ∧ lowered.Assigns v node.Allows := by
  obtain ⟨entry, single, assigns⟩ := (draft.simple_of_scheduled member).lower
    (fun v reads => draft.isSlotPart_name v (draft.reads_subset_symbols member reads))
    (fun v writes => draft.isSlotPart_name v (draft.writes_subset_symbols member writes)) done
  refine ⟨entry.2, ?_, assigns⟩
  rw [Node.writes, single, List.map_singleton]

/-- Scheduled nodes write no inputs. -/
theorem not_readable_of_writes {v : Variable} (writes : v ∈ node.writes) :
    ¬ Readable V.stage v := by
  obtain ⟨n, _, found⟩ := List.mem_filterMap.mp member
  obtain ⟨request, among, f, _, rfl⟩ := draft.exists_request found
  exact (draft.sound.writes v (mem_written among writes)).2

omit member in
theorem used_subset_symbols :
    Compiler.usedVariables (order.filterMap draft.graph.resolvedNode?) ⊆
      draft.graph.table.symbols := by
  intro v used
  obtain ⟨node, member, reads | writes⟩ := mem_usedVariables.mp used
  · exact draft.reads_subset_symbols member reads
  · exact draft.writes_subset_symbols member writes

end Draft

/-! ## Schedules of drafts -/

namespace Draft

variable {V : Vocabulary} {name : String}

/-- The built-in outputs of the stage are written. -/
def Finished (draft : Draft V name) : Prop :=
  ∀ v ∈ builtins V.stage, v ∈ draft.outputs

theorem builtin?_isSome (draft : Draft V name) :
    ∀ output ∈ mandatory draft.graph.stage, (draft.graph.builtin? output).isSome = true :=
  builtin?_build V.stage name draft.edits

theorem laws (draft : Draft V name) : AliasLaws draft.graph :=
  aliasLaws_build V.stage name draft.edits

/-- What is written has a producer. -/
theorem producers_ne_nil (draft : Draft V name) {v : Variable}
    (member : v ∈ written draft.edits) : draft.graph.producers v ≠ [] :=
  (accounted_build V.stage name draft.sound.distinct).writers_ne_nil
    (draft.resolve_mem_written member) (draft.laws.lookup_resolve v)

/-- What a finished draft has to deliver is among the outputs that it has written. -/
theorem requiredRoots_subset_outputs (draft : Draft V name) (finished : draft.Finished) :
    draft.graph.requiredRoots ⊆ draft.outputs := by
  have stage : draft.graph.stage = V.stage := build_stage V.stage name draft.edits
  intro root member
  obtain ⟨v, among, rfl⟩ := List.mem_map.mp member
  have output : v ∈ draft.outputs := by
    rcases List.mem_append.mp among with builtin | registered
    · rw [stage] at builtin
      exact finished v (mem_builtins_of_mandatory builtin)
    · obtain ⟨written, external⟩ := draft.sound.delivered v (roots_subset_demanded
        (fun w marked => (draft.sound.delivered w marked).2) registered)
      exact List.mem_filter.mpr ⟨written, bne_iff_ne.mpr external⟩
  rw [draft.laws.resolve_of_storage (bne_iff_ne.mp (List.mem_filter.mp output).2)]
  exact output

/-- **Finished drafts have schedules.** -/
theorem exists_schedule (draft : Draft V name) (finished : draft.Finished) :
    ∃ order, draft.graph.schedule = .ok order := by
  have produced : ∀ root ∈ draft.graph.requiredRoots, draft.graph.producers root ≠ [] := by
    intro root member
    have output := draft.requiredRoots_subset_outputs finished member
    exact draft.producers_ne_nil (List.mem_filter.mp output).1
  exact StageGraph.exists_schedule draft.builtin?_isSome produced
    fun _ _ n _ => not_onCycle V.stage name draft.sound.distinct draft.sound.acyclic n

/-- The built-in outputs and the registered roots have to be delivered. -/
theorem mem_requiredRoots (draft : Draft V name) {v : Variable}
    (external : v.storage ≠ .temporary)
    (root : v ∈ (mandatory draft.graph.stage).filterMap draft.graph.builtin? ∨
      v ∈ draft.graph.roots) : v ∈ draft.graph.requiredRoots := by
  refine List.mem_map.mpr ⟨v, List.mem_append.mpr root, ?_⟩
  exact draft.laws.resolve_of_storage external

/-- A variable whose term is an input stands for that input. -/
theorem resolve_eq_of_term (draft : Draft V name) {u v : Variable}
    (term : draft.term v = .input u) : draft.graph.resolve v = u :=
  draft.eq_of_term_eq_input ((draft.term_resolve v).trans term)

/-- What a node produces stands for its operation on what it reads. -/
theorem term_of_producer (draft : Draft V name) {v : Variable} {p : NodeId} {node : Node}
    (source : p ∈ draft.graph.producers v) (found : draft.graph.node? p = some node) :
    ∃ slot type, draft.term v = .apply node.operation
      (node.inputs.map fun entry => (entry.1, Term.free.operand draft.term entry.2))
        slot type := by
  obtain ⟨same, present, writes⟩ := mem_writers.mp source
  rw [← node?, found] at present
  cases present
  obtain ⟨⟨slot, w⟩, output, resolved⟩ := List.mem_map.mp writes
  have consistent : Consistent Term.free draft.term draft.graph :=
    consistent_build V.stage name draft.unfolding_term.output
  have applied := consistent.output node (List.mem_of_getElem? found) slot w output
  rw [show w = draft.graph.resolve v from resolved, draft.term_resolve] at applied
  exact ⟨slot, _, applied⟩

/-- A variable whose term is an operation has a producer that carries it out. -/
theorem exists_producer_of_term (draft : Draft V name) {v : Variable} {operation : Operation}
    {arguments : List (String × Term)} {slot : String} {type : DataType}
    (term : draft.term v = .apply operation arguments slot type) :
    ∃ p ∈ draft.graph.producers v, ∃ node, draft.graph.node? p = some node ∧
      node.inputs.map (fun entry => (entry.1, Term.free.operand draft.term entry.2)) =
        arguments := by
  have member : v ∈ written draft.edits := by
    by_contra free
    have unwritten := draft.unfolding_term.input v fun request among writes =>
      free (mem_written among writes)
    rw [term] at unwritten
    cases unwritten
  obtain ⟨p, source⟩ := List.exists_mem_of_ne_nil _ (draft.producers_ne_nil member)
  obtain ⟨node, found, _⟩ := mem_writers.mp source
  obtain ⟨slot', type', applied⟩ := draft.term_of_producer source found
  rw [term] at applied
  refine ⟨p, source, node, found, ?_⟩
  injection applied with _ same
  exact same.symm

/-- **Inputs that a term starts from are read**, if what produces its variable is scheduled. -/
theorem exists_reader_of_uses (draft : Draft V name) {order : List NodeId}
    (scheduled : draft.graph.schedule = .ok order) {u : Variable} {t : Term} (uses : t.Uses u)
    {v : Variable} (term : draft.term v = t)
    (produced : ∀ p ∈ draft.graph.producers v, p ∈ order) :
    draft.graph.resolve v = u ∨ ∃ n ∈ order, ∃ node, draft.graph.node? n = some node ∧
      ∃ w ∈ node.reads, draft.graph.resolve w = u := by
  induction uses generalizing v with
  | input => exact .inl (draft.resolve_eq_of_term term)
  | argument member uses ih =>
      obtain ⟨p, source, node, found, same⟩ := draft.exists_producer_of_term term
      rw [← same] at member
      obtain ⟨⟨slot, operand⟩, input, rfl⟩ := List.mem_map.mp member
      cases operand with
      | literal text => cases uses
      | read w =>
          have reads : w ∈ node.reads := List.mem_filterMap.mpr ⟨_, input, rfl⟩
          have among := produced p source
          -- What produces an argument is scheduled as well.
          have before : ∀ q ∈ draft.graph.producers w, q ∈ order := by
            intro q feeds
            by_cases equal : q = p
            · rw [equal]
              exact among
            · exact mem_order_of_dependsOn draft.builtin?_isSome scheduled among
                ⟨equal, node, found, w, reads, feeds⟩
          rcases ih rfl before with same | reader
          · exact .inr ⟨p, among, node, found, w, reads, same⟩
          · exact .inr reader

/-- Inputs that a root depends on are read by scheduled nodes. -/
theorem exists_reader_of_root (draft : Draft V name) {order : List NodeId}
    (scheduled : draft.graph.schedule = .ok order) {root : Variable}
    (member : root ∈ draft.graph.requiredRoots) (settled : draft.graph.resolve root = root)
    {u : Variable} (uses : (draft.term root).Uses u) (other : root ≠ u) :
    ∃ node ∈ order.filterMap draft.graph.resolvedNode?, u ∈ node.reads := by
  have produced : ∀ p ∈ draft.graph.producers root, p ∈ order :=
    fun p source => mem_order_of_root draft.builtin?_isSome scheduled member source
  rcases draft.exists_reader_of_uses scheduled uses rfl produced with same | reader
  · exact absurd (settled.symm.trans same) other
  · obtain ⟨n, among, node, found, w, reads, rfl⟩ := reader
    refine ⟨node.mapReads draft.graph.resolve, ?_, Node.mem_reads_mapReads.mpr ⟨w, reads, rfl⟩⟩
    exact List.mem_filterMap.mpr ⟨n, among, Option.map_eq_some_iff.mpr ⟨node, found, rfl⟩⟩

/-- What a node produces starts from what it reads. -/
theorem uses_of_reads (draft : Draft V name) {v w u : Variable} {p : NodeId} {node : Node}
    (source : p ∈ draft.graph.producers v) (found : draft.graph.node? p = some node)
    (reads : w ∈ node.reads) (uses : (draft.term w).Uses u) : (draft.term v).Uses u := by
  obtain ⟨slot, type, applied⟩ := draft.term_of_producer source found
  obtain ⟨⟨input, operand⟩, member, same⟩ := List.mem_filterMap.mp reads
  cases operand with
  | literal text => cases same
  | read other =>
      cases same
      rw [applied]
      exact .argument (List.mem_map_of_mem member) uses

/-- **Inputs that are read are needed**: some output that has to be delivered starts from
them. -/
theorem exists_root_of_reader (draft : Draft V name) {order : List NodeId}
    (scheduled : draft.graph.schedule = .ok order) {node : Node}
    (member : node ∈ order.filterMap draft.graph.resolvedNode?) {u : Variable}
    (reads : u ∈ node.reads) (input : Readable V.stage u) :
    ∃ root ∈ draft.graph.requiredRoots, (draft.term root).Uses u := by
  obtain ⟨n, among, resolved⟩ := List.mem_filterMap.mp member
  obtain ⟨stored, found, rfl⟩ := Option.map_eq_some_iff.mp resolved
  obtain ⟨w, read, stands⟩ := Node.mem_reads_mapReads.mp reads
  have leaf : (draft.term w).Uses u := by
    rw [← draft.term_resolve, stands, draft.term_of_readable input]
    exact .input
  rw [schedule_eq_foldlM draft.builtin?_isSome] at scheduled
  obtain ⟨root, required, p, source, reaches⟩ := (mem_of_foldlM scheduled n).mp among
  refine ⟨root, required, ?_⟩
  clear required
  -- Along dependencies, from the node that reads the input up to the one that produces the
  -- root.
  induction reaches using ReflTransGen.head_induction_on generalizing root with
  | refl => exact draft.uses_of_reads source found read leaf
  | head depends _ ih =>
      obtain ⟨_, above, foundAbove, x, readsAbove, feeds⟩ := depends
      exact draft.uses_of_reads source foundAbove readsAbove (ih x feeds)

end Draft

end Wire
end ShaderLoom
