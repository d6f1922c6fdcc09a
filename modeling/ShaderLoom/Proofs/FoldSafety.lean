import ShaderLoom.Proofs.RequestedProducers
import ShaderLoom.Proofs.Unfolding

/-!
# When readers of an alias see what was requested

A request that is folded into an earlier node leaves an alias behind, and whoever reads the
alias reads an output of that node instead.  This is right as long as the node is the only one
to write the output and does not read what it writes: a schedule carries it out after everything
that it reads was written, so that its output goes on being what the request would compute.

Nothing makes sure of that.  A node that rewrites one of its inputs has the same operation and
inputs as a request that only reads it, and the request is folded all the same; and what an
alias stands for may be rewritten later (`StageGraph.alias_of_rewritten`).  Two rules for
requests are enough to be safe: nodes write neither aliases nor what these stand for, and
requests are only folded into nodes that are alone in writing the outputs joined and read
nothing that they write.  Other variables may have several writers, and nodes that rewrite their
own inputs are allowed.

## Main definitions

* `StageGraph.harmless` — a request that obeys the rules
* `StageGraph.Sole` — a variable is written once, by a node that reads nothing that it writes
* `StageGraph.Folded` — the request behind an alias

## Main results

* `StageGraph.joined_add` — aliases stand for such variables after a request
* `StageGraph.execute_of_sole` — such variables hold the result of their node from then on
* `StageGraph.alias_sound` — readers of an alias see what was requested
-/

namespace ShaderLoom

universe u

/-! ## Carrying out nodes -/

namespace Interpretation

variable {D : Type u} (I : Interpretation D)

theorem execute_concat (front : List Node) (node : Node) :
    I.execute (front ++ [node]) = I.step (I.execute front) node := by
  rw [execute, List.foldl_append]
  rfl

/-- Further nodes leave alone what they do not write. -/
theorem execute_append_of_notMem (front : List Node) {back : List Node} {v : Variable}
    (free : ∀ node ∈ back, v ∉ node.writes) :
    I.execute (front ++ back) v = I.execute front v := by
  induction back using List.reverseRecOn with
  | nil => rw [List.append_nil]
  | append_singleton back node ih =>
      rw [← List.append_assoc, execute_concat, I.step_of_notMem (free node
        (List.mem_append_right _ (List.mem_singleton_self node)))]
      exact ih fun other member => free other (List.mem_append_left _ member)

/-- A node puts the value of a slot into a variable that fills no other slot. -/
theorem step_of_count {store : Variable → D} {node : Node} {slot : String} {v : Variable}
    (once : node.writes.count v = 1) (member : (slot, v) ∈ node.outputs) :
    I.step store node v = I.result store node slot v.type := by
  unfold step
  rw [Node.writes] at once
  generalize I.result store node = result
  generalize node.outputs = outputs at once member
  induction outputs using List.reverseRecOn with
  | nil => cases member
  | append_singleton outputs last ih =>
      rw [List.map_append, List.count_append, List.map_singleton] at once
      rw [List.foldl_append, List.foldl_cons, List.foldl_nil]
      by_cases here : last.2 = v
      · -- The last slot is the only one, so the value in it is the one that stays.
        rw [here, List.count_singleton_self, Nat.add_eq_right, List.count_eq_zero] at once
        rcases List.mem_append.mp member with early | late
        · exact absurd (List.mem_map_of_mem early) once
        · rw [← List.mem_singleton.mp late]
          exact Function.update_self _ _ _
      · rw [List.count_singleton, beq_false_of_ne here] at once
        rw [Function.update_of_ne (Ne.symm here)]
        refine ih once ((List.mem_append.mp member).resolve_right ?_)
        rw [List.mem_singleton]
        rintro rfl
        exact here rfl

end Interpretation

namespace StageGraph

open Schedule

variable {graph : StageGraph}

/-! ## Variables that are written once -/

/-- A variable is written by one node, in one slot, and the node reads nothing that it
writes. -/
def Sole (graph : StageGraph) (v : Variable) (id : NodeId) (node : Node) : Prop :=
  graph.writers v = [id] ∧ graph.node? id = some node ∧
    ∀ u ∈ node.reads, graph.resolve u ∉ node.writes

theorem Sole.count_writes {v : Variable} {id : NodeId} {node : Node}
    (sole : graph.Sole v id node) : node.writes.count v = 1 := by
  obtain ⟨alone, found, _⟩ := sole
  have total : (graph.nodes.flatMap Node.writes).count v = 1 := by
    rw [← length_writers, alone, List.length_singleton]
  have member : node ∈ graph.nodes := List.mem_of_getElem? found
  have part : node.writes.count v ≤ (graph.nodes.flatMap Node.writes).count v :=
    (List.sublist_flatten_of_mem (List.mem_map_of_mem member)).count_le v
  have written : v ∈ node.writes := by
    have writer : id ∈ graph.writers v := alone ▸ List.mem_singleton_self id
    obtain ⟨other, same, writes⟩ := mem_writers.mp writer
    rw [← node?, found] at same
    cases same
    exact writes
  have positive := List.count_pos_iff.mpr written
  omega

section Execution

variable {D : Type u} (I : Interpretation D) {order front back : List NodeId}

/-- Nodes whose positions are not those of writers leave a variable alone. -/
theorem notMem_writes_of_resolvedNode? {positions : List NodeId} {v : Variable}
    (free : ∀ n ∈ positions, n ∉ graph.writers v) :
    ∀ node ∈ positions.filterMap graph.resolvedNode?, v ∉ node.writes := by
  intro node member writes
  obtain ⟨n, position, resolved⟩ := List.mem_filterMap.mp member
  obtain ⟨wired, found, rfl⟩ := Option.map_eq_some_iff.mp resolved
  exact free n position (mem_writers.mpr ⟨wired, found, writes⟩)

/-- **Sole outputs last.**  As soon as its node was carried out, a variable that is written once
holds what the node computes from the variables that it reads, as they are now. -/
theorem execute_of_sole (settled : Settled graph.dependencies order)
    {v : Variable} {id : NodeId} {node : Node} (sole : graph.Sole v id node) {slot : String}
    (output : (slot, v) ∈ node.outputs) (split : order = front ++ back) (done : id ∈ front) :
    I.execute (front.filterMap graph.resolvedNode?) v =
      I.result (I.execute (front.filterMap graph.resolvedNode?)) (node.mapReads graph.resolve)
        slot v.type := by
  have ⟨alone, found, apart⟩ := sole
  obtain ⟨early, late, rfl⟩ := List.append_of_mem done
  have nodup := split ▸ settled.nodup
  have nodupFront := nodup.of_append_left
  have ready : ∀ p ∈ graph.dependencies id, p ∈ early :=
    settled.behind (split.trans (by rw [List.append_assoc, List.cons_append]))
  -- The nodes after this one write neither its output nor anything that it reads.
  have once : ∀ n ∈ late, n ≠ id := by
    rintro n member rfl
    exact (List.nodup_cons.mp nodupFront.of_append_right).1 member
  have unwritten : ∀ n ∈ late, n ∉ graph.writers v := by
    intro n member writes
    rw [alone, List.mem_singleton] at writes
    exact once n member writes
  have unread : ∀ u ∈ node.reads, ∀ n ∈ late, n ∉ graph.writers (graph.resolve u) := by
    intro u reads n member writes
    have depends : graph.DependsOn id n := ⟨once n member, node, found, u, reads, writes⟩
    rw [← needs_dependencies] at depends
    exact List.disjoint_of_nodup_append nodupFront (ready n depends)
      (List.mem_cons_of_mem _ member)
  have nodes : (early ++ id :: late).filterMap graph.resolvedNode? =
      (early.filterMap graph.resolvedNode? ++ [node.mapReads graph.resolve]) ++
        late.filterMap graph.resolvedNode? := by
    have carried : graph.resolvedNode? id = some (node.mapReads graph.resolve) := by
      rw [resolvedNode?, found, Option.map_some]
    rw [List.filterMap_append, List.filterMap_cons_some carried, List.append_assoc,
      List.singleton_append]
  have filled : (node.mapReads graph.resolve).writes.count v = 1 := sole.count_writes
  rw [nodes, I.execute_append_of_notMem _ (notMem_writes_of_resolvedNode? unwritten),
    I.execute_concat, I.step_of_count filled output]
  refine I.result_congr ?_ slot v.type
  intro w reads
  obtain ⟨u, read, rfl⟩ := Node.mem_reads_mapReads.mp reads
  have kept : graph.resolve u ∉ (node.mapReads graph.resolve).writes := apart u read
  rw [I.execute_append_of_notMem _ (notMem_writes_of_resolvedNode? (unread u read)),
    I.execute_concat, I.step_of_notMem kept]

end Execution

/-! ## Requests that obey the rules -/

/-- Whether a request obeys the rules.  If it becomes a node, it writes no alias and nothing
that an alias stands for.  If it is folded, then for every alias that it makes, the earlier node
is alone in writing the variable joined and reads nothing that it writes, and the request does
not read the alias. -/
def harmless (graph : StageGraph) (node : Node) : Bool :=
  let request := node.mapReads graph.resolve
  match graph.twin? request with
  | none =>
    request.writes.all fun v => graph.aliases.all fun entry =>
      v != entry.1 && v != graph.resolve entry.1
  | some (earlier, id) =>
    (newAliases request earlier).all fun entry =>
      graph.writers entry.2 == [id] && !request.reads.contains entry.1 &&
        earlier.reads.all fun u => !earlier.writes.contains (graph.resolve u)

/-- What a request that obeys the rules can do. -/
theorem harmless_cases {node : Node} (obeyed : graph.harmless node = true) :
    (∃ earlier id, graph.node? id = some earlier ∧
        graph.canFold (node.mapReads graph.resolve) earlier = true ∧
        graph.add node = (id, { graph with
          aliases := newAliases (node.mapReads graph.resolve) earlier ++ graph.aliases
          folded := graph.folded ++ [node.operation] }) ∧
        ∀ entry ∈ newAliases (node.mapReads graph.resolve) earlier,
          graph.writers entry.2 = [id] ∧ entry.1 ∉ earlier.reads ∧
            ∀ u ∈ earlier.reads, graph.resolve u ∉ earlier.writes) ∨
      (graph.add node = (graph.nodes.length,
          { graph with nodes := graph.nodes ++ [node.mapReads graph.resolve] }) ∧
        ∀ v ∈ node.writes, ∀ entry ∈ graph.aliases, v ≠ entry.1 ∧ v ≠
          graph.resolve entry.1) := by
  unfold harmless at obeyed
  unfold add
  dsimp only at obeyed ⊢
  cases twin : graph.twin? (node.mapReads graph.resolve) with
  | none =>
      rw [twin] at obeyed
      refine .inr ⟨rfl, fun v output entry member => ?_⟩
      have apart := List.all_eq_true.mp (List.all_eq_true.mp obeyed v output) entry member
      simpa only [Bool.and_eq_true, bne_iff_ne] using apart
  | some pair =>
      obtain ⟨earlier, id⟩ := pair
      obtain ⟨found, _, inputs, folds⟩ := twin?_eq_some twin
      rw [twin] at obeyed
      refine .inl ⟨earlier, id, found, folds, rfl, fun entry member => ?_⟩
      have same : earlier.reads = (node.mapReads graph.resolve).reads := by
        rw [Node.reads, Node.reads, inputs]
      have joined := List.all_eq_true.mp obeyed entry member
      simp only [Bool.and_eq_true, beq_iff_eq, List.all_eq_true, Bool.not_eq_true',
        List.contains_eq_mem, decide_eq_false_iff_not] at joined
      exact ⟨joined.1.1, same ▸ joined.1.2, joined.2⟩

/-- Every alias stands for a variable that is written once. -/
def Joined (graph : StageGraph) : Prop :=
  ∀ fresh old, graph.aliases.lookup fresh = some old → ∃ id node, graph.Sole old id node

section Step

variable {node : Node} (laws : AliasLaws graph) (unwritten : Unwritten graph)
  (obeyed : graph.harmless node = true)

include unwritten obeyed

theorem unwritten_add_of_harmless : Unwritten (graph.add node).2 := by
  refine unwritten.add fun stored v output => ?_
  rcases harmless_cases obeyed with ⟨_, id, found, _, added, _⟩ | ⟨_, apart⟩
  · rw [added] at stored
    exact absurd stored (Nat.ne_of_lt (List.getElem?_eq_some_iff.mp found).1)
  · rw [List.lookup_eq_none_iff]
    intro entry member
    rw [bne_iff_ne]
    exact (apart v output entry member).1

include laws

/-- What variables resolve to after a request: new aliases stand for what they were joined with,
and all else is as it was. -/
theorem resolve_add_of_harmless {v : Variable} :
    (graph.add node).2.resolve v = graph.resolve v ∨
      ∃ old, (graph.add node).2.resolve v = old ∧
        ∃ earlier id, graph.node? id = some earlier ∧ graph.writers old = [id] ∧
          v ∉ earlier.reads := by
  have lawsAfter := aliasLaws_add laws node
  have unwrittenAfter := unwritten_add_of_harmless unwritten obeyed
  rcases harmless_cases obeyed with ⟨earlier, id, found, folds, added, safe⟩ | ⟨added, _⟩
  · rw [added] at lawsAfter unwrittenAfter ⊢
    cases new : (newAliases (node.mapReads graph.resolve) earlier).lookup v with
    | some old =>
        obtain ⟨alone, unread, _⟩ := safe _ (Association.mem_of_lookup new)
        refine .inr ⟨old, unwrittenAfter.resolve_of_lookup lawsAfter ?_, earlier,
          id, found, alone, unread⟩
        rw [List.lookup_append, new, Option.some_or]
    | none =>
        refine .inl ?_
        cases before : graph.aliases.lookup v with
        | none =>
            rw [resolve_of_lookup_none before]
            refine resolve_of_lookup_none ?_
            rw [List.lookup_append, new, before, Option.none_or]
        | some old =>
            rw [unwritten.resolve_of_lookup laws before]
            refine unwrittenAfter.resolve_of_lookup lawsAfter ?_
            rw [List.lookup_append, new, before, Option.none_or]
  · rw [added]
    exact .inl rfl

/-- No request makes a node read what it writes: a request that would is not folded. -/
theorem apart_add_of_harmless {id : NodeId} {wired : Node} (found : graph.node? id = some wired)
    (apart : ∀ u ∈ wired.reads, graph.resolve u ∉ wired.writes) :
    ∀ u ∈ wired.reads, (graph.add node).2.resolve u ∉ wired.writes := by
  intro u reads writes
  rcases resolve_add_of_harmless laws unwritten obeyed (v := u) with
    same | ⟨old, leads, earlier, other, present, alone, unread⟩
  · exact apart u reads (same ▸ writes)
  · -- The node that the new alias was folded into is the only writer, so it is this one.
    have writer : id ∈ graph.writers old := mem_writers.mpr ⟨wired, found, leads ▸ writes⟩
    rw [alone, List.mem_singleton] at writer
    rw [← writer, found] at present
    cases present
    exact unread reads

/-- **Aliases go on standing for variables that are written once.** -/
theorem joined_add (joined : Joined graph) : Joined (graph.add node).2 := by
  intro fresh old found
  rcases harmless_cases obeyed with ⟨earlier, id, present, folds, added, safe⟩ | ⟨added, free⟩
  · have before : ∃ n wired, graph.Sole old n wired := by
      rw [added, List.lookup_append] at found
      cases new : (newAliases (node.mapReads graph.resolve) earlier).lookup fresh with
      | some other =>
          rw [new, Option.some_or, Option.some.injEq] at found
          subst found
          obtain ⟨alone, _, apart⟩ := safe _ (Association.mem_of_lookup new)
          exact ⟨id, earlier, alone, present, apart⟩
      | none =>
          rw [new, Option.none_or] at found
          exact joined fresh old found
    obtain ⟨n, wired, alone, wiredAt, apart⟩ := before
    have apartAfter := apart_add_of_harmless laws unwritten obeyed wiredAt apart
    rw [added] at apartAfter ⊢
    exact ⟨n, wired, alone, wiredAt, apartAfter⟩
  · rw [added] at found
    obtain ⟨n, wired, alone, wiredAt, apart⟩ := joined fresh old found
    have untouched : old ∉ node.writes := by
      intro output
      refine (free old output (fresh, old) (Association.mem_of_lookup found)).2 ?_
      exact (unwritten.resolve_of_lookup laws found).symm
    have apartAfter := apart_add_of_harmless laws unwritten obeyed wiredAt apart
    rw [added] at apartAfter ⊢
    refine ⟨n, wired, ?_, ?_, apartAfter⟩
    · rw [writers_concat, Node.writes_mapReads, List.count_eq_zero.mpr untouched, alone]
      rfl
    · exact (List.getElem?_append_left (List.getElem?_eq_some_iff.mp wiredAt).1).trans wiredAt

end Step

/-- Along edits that obey the rules, aliases stand for variables that are written once. -/
theorem joined_build (stage : Stage) (name : String) {edits : List Edit}
    (obeyed : checked harmless (new stage name) edits = true) :
    Unwritten (build stage name edits) ∧ Joined (build stage name edits) := by
  have along : AliasLaws (build stage name edits) ∧ Unwritten (build stage name edits) ∧
      Joined (build stage name edits) := by
    have start : Unwritten (new stage name) ∧ Joined (new stage name) :=
      ⟨List.forall_mem_nil _, fun fresh old found => by cases found⟩
    refine checked_induction
      (motive := fun graph => AliasLaws graph ∧ Unwritten graph ∧ Joined graph) ?_
      ⟨aliasLaws_new stage name, start⟩ obeyed
    rintro graph change ⟨laws, unwritten, joined⟩ passed
    refine ⟨aliasLaws_edit laws change, ?_⟩
    rcases edit_cases graph change with ⟨node, rfl⟩ | ⟨_, nodes, aliases⟩
    · exact ⟨unwritten_add_of_harmless unwritten passed,
        joined_add laws unwritten passed joined⟩
    · refine ⟨fun entry member => ?_, fun fresh old found => ?_⟩
      · rw [writers_congr nodes]
        exact unwritten entry (aliases ▸ member)
      · rw [aliases] at found
        obtain ⟨id, node, alone, present, apart⟩ := joined fresh old found
        refine ⟨id, node, (writers_congr nodes old).trans alone, ?_, ?_⟩
        · rw [node?, nodes]
          exact present
        · rw [funext fun u => show (graph.edit change).resolve u = graph.resolve u by
            rw [resolve, resolve, aliases]]
          exact apart
  exact along.2

/-! ## The request behind an alias -/

/-- A request that was made to a graph and folded, and the earlier node: in one slot, the
request has the alias and the node what the alias stands for. -/
structure Folded (asked : StageGraph) (request earlier : Node) (slot : String)
    (fresh old : Variable) : Prop where
  output : (slot, fresh) ∈ request.outputs
  joins : (slot, old) ∈ earlier.outputs
  type : fresh.type = old.type
  operation : earlier.operation = request.operation
  inputs : earlier.inputs = (request.mapReads asked.resolve).inputs

theorem nodes_prefix_edit (graph : StageGraph) (change : Edit) :
    graph.nodes <+: (graph.edit change).nodes := by
  rcases edit_cases graph change with ⟨node, rfl⟩ | ⟨_, nodes, _⟩
  · rcases add_cases graph node with ⟨_, _, _, _, _, _, added⟩ | added
    · rw [edit, added]
    · rw [edit, added]
      exact List.prefix_append _ _
  · rw [nodes]

/-- Every alias goes back to a request that was folded into a node of the graph. -/
theorem exists_folded (stage : Stage) (name : String) {edits : List Edit} {fresh old : Variable}
    (member : (fresh, old) ∈ (build stage name edits).aliases) :
    ∃ front request back id earlier slot, edits = front ++ .request request :: back ∧
      (build stage name edits).node? id = some earlier ∧
      Folded (build stage name front) request earlier slot fresh old := by
  induction edits using List.reverseRecOn with
  | nil => cases member
  | append_singleton edits change ih =>
      have kept : ∀ id earlier, (build stage name edits).node? id = some earlier →
          (build stage name (edits ++ [change])).node? id = some earlier := by
        intro id earlier found
        obtain ⟨more, grown⟩ := nodes_prefix_edit (build stage name edits) change
        rw [build_concat, node?, ← grown]
        exact (List.getElem?_append_left (List.getElem?_eq_some_iff.mp found).1).trans found
      have past (before : (fresh, old) ∈ (build stage name edits).aliases) :
          ∃ front request back id earlier slot,
            edits ++ [change] = front ++ .request request :: back ∧
            (build stage name (edits ++ [change])).node? id = some earlier ∧
            Folded (build stage name front) request earlier slot fresh old := by
        obtain ⟨front, request, back, id, earlier, slot, rfl, found, folded⟩ := ih before
        exact ⟨front, request, back ++ [change], id, earlier, slot,
          by rw [List.append_assoc, List.cons_append], kept id earlier found, folded⟩
      rw [build_concat] at member
      rcases edit_cases (build stage name edits) change with ⟨node, rfl⟩ | ⟨_, _, aliases⟩
      · rcases add_cases (build stage name edits) node with
          ⟨earlier, id, found, operation, inputs, folds, added⟩ | added
        · rw [edit, added] at member
          rcases List.mem_append.mp member with new | before
          · obtain ⟨_, _, _, slot, output, joins, type⟩ := mem_newAliases folds new
            exact ⟨edits, node, [], id, earlier, slot, rfl, kept id earlier found,
              output, joins, type, operation, inputs⟩
          · exact past before
        · rw [edit, added] at member
          exact past member
      · exact past (aliases ▸ member)

/-- The node that a request was folded into computes what the request would, wherever its inputs
are redirected. -/
theorem Folded.result_eq {D : Type u} (I : Interpretation D) {asked : StageGraph}
    {request earlier : Node} {slot : String} {fresh old : Variable}
    (folded : Folded asked request earlier slot fresh old) (store : Variable → D)
    (f : Variable → Variable) :
    I.result store (earlier.mapReads f) slot old.type =
      I.result store ((request.mapReads asked.resolve).mapReads f) slot fresh.type := by
  rw [Interpretation.result, Interpretation.result, Node.mapReads, Node.mapReads, folded.inputs,
    folded.type]
  dsimp only
  rw [folded.operation]
  rfl

/-! ## Readers of an alias -/

/-- **Readers of an alias see what was requested.**  Let all requests obey the rules, and let a
variable be an alias in force.  It stands for a variable with one producer, which does not read
it.  The alias goes back to a request that was folded into this producer.  Whenever a schedule
comes to a node that reads the alias, what is read instead is what the request would compute at
this point from its inputs, under every reading of nodes. -/
theorem alias_sound {D : Type u} (I : Interpretation D) (stage : Stage) (name : String)
    (edits : List Edit) (obeyed : checked harmless (new stage name) edits = true)
    (fresh old : Variable)
    (inForce : (build stage name edits).aliases.lookup fresh = some old) :
    let graph := build stage name edits
    graph.resolve fresh = old ∧
    ∃ id node, graph.producers old = [id] ∧ graph.node? id = some node ∧
      (∀ u ∈ node.reads, graph.resolve u ≠ old) ∧
      ∃ front request back slot, edits = front ++ .request request :: back ∧
        (slot, fresh) ∈ request.outputs ∧ (slot, old) ∈ node.outputs ∧
        ∀ order, graph.schedule = .ok order →
          ∀ before reader after, order = before ++ reader :: after →
            (∃ consumer, graph.node? reader = some consumer ∧
              ∃ u ∈ consumer.reads, graph.resolve u = graph.resolve fresh) →
            let store := I.execute (before.filterMap graph.resolvedNode?)
            let redirected :=
              (request.mapReads (build stage name front).resolve).mapReads graph.resolve
            store (graph.resolve fresh) = I.result store redirected slot fresh.type := by
  intro graph
  have laws := aliasLaws_build stage name edits
  obtain ⟨unwritten, joined⟩ := joined_build stage name obeyed
  obtain ⟨id, node, sole⟩ := joined fresh old inForce
  have ⟨alone, found, apart⟩ := sole
  have stands : graph.resolve fresh = old := unwritten.resolve_of_lookup laws inForce
  have produced : graph.producers old = [id] := by
    rw [producers, ← stands, laws.resolve_resolve, stands]
    exact alone
  obtain ⟨front, request, back, other, earlier, slot, split, present, folded⟩ :=
    exists_folded stage name (Association.mem_of_lookup inForce)
  -- The node behind the alias writes what it stands for, so it is the only one that does.
  have writer : other ∈ graph.writers old :=
    mem_writers.mpr ⟨earlier, present, Node.mem_writes folded.joins⟩
  rw [show graph.writers old = [id] from alone, List.mem_singleton] at writer
  rw [writer, found, Option.some.injEq] at present
  subst present
  have unread : ∀ u ∈ node.reads, graph.resolve u ≠ old := fun u reads same =>
    apart u reads (same ▸ Node.mem_writes folded.joins)
  refine ⟨stands, id, node, produced, found, unread, front, request, back, slot, split,
    folded.output, folded.joins, ?_⟩
  rintro order scheduled before reader after ordered ⟨consumer, consumes, u, reads, leads⟩
  rw [schedule_eq_foldlM (builtin?_build stage name edits)] at scheduled
  have settled := (foldlM_scheduleRoot_grown Settled.nil scheduled).2.settled
  have later : reader ≠ id := by
    rintro rfl
    rw [found, Option.some.injEq] at consumes
    subst consumes
    exact unread u reads (leads.trans stands)
  have depends : graph.DependsOn reader id := by
    refine ⟨later.symm, consumer, consumes, u, reads, ?_⟩
    rw [producers, leads, stands]
    exact alone ▸ List.mem_singleton_self id
  rw [← needs_dependencies] at depends
  have done : id ∈ before := settled.behind ordered id depends
  intro store redirected
  rw [stands, ← folded.result_eq I store graph.resolve]
  exact execute_of_sole I settled sole folded.joins ordered done

/-- Takes the absolute value of a direction. -/
def rectifying (source target : Variable) : Node :=
  { operation := .call "abs" none, inputs := [("x", .read source)],
    outputs := [("out", target)] }

/-- Makes the color of a fragment from two directions. -/
def coloring (left right : Variable) : Node :=
  { operation := .call "vec4" none, inputs := [("x", .read left), ("y", .read right)],
    outputs := [("out", { name := fragColorName, type := .vec4, storage := .builtin })] }

/-- The color is requested first.  The direction `t` is written and then rewritten in place, and
the request for `c` is folded into the one for `a`. -/
def besideRewrites : List Edit :=
  [.request (coloring (computed "c") (computed "t")),
    .request (copying (supplied "first") (computed "t")),
    .request (rectifying (computed "t") (computed "t")),
    .request (normalizing (supplied "first") (computed "a")),
    .request (normalizing (supplied "first") (computed "c"))]

/-- An alias is safe beside a variable with two writers, one of which reads it. -/
theorem alias_sound_besideRewrites :
    let graph := build .fragment "demo" besideRewrites
    checked harmless (new .fragment "demo") besideRewrites = true ∧
      graph.aliases.lookup (computed "c") = some (computed "a") ∧
      graph.producers (computed "t") = [1, 2] ∧ graph.schedule = .ok [3, 1, 2, 0] ∧
      ∃ front request back slot, besideRewrites = front ++ .request request :: back ∧
        (slot, computed "c") ∈ request.outputs ∧
        let store := nesting.execute ([3, 1, 2].filterMap graph.resolvedNode?)
        let redirected :=
          (request.mapReads (build .fragment "demo" front).resolve).mapReads graph.resolve
        store (graph.resolve (computed "c")) =
          nesting.result store redirected slot (computed "c").type := by
  intro graph
  have obeyed : checked harmless (new .fragment "demo") besideRewrites = true := by decide
  have inForce : graph.aliases.lookup (computed "c") = some (computed "a") := by decide
  have scheduled : graph.schedule = .ok [3, 1, 2, 0] := by decide
  refine ⟨obeyed, inForce, by decide, scheduled, ?_⟩
  obtain ⟨_, _, _, _, _, _, front, request, back, slot, split, output, _, sees⟩ :=
    alias_sound nesting .fragment "demo" besideRewrites obeyed _ _ inForce
  refine ⟨front, request, back, slot, split, output, sees _ scheduled [3, 1, 2] 0 [] rfl ?_⟩
  exact ⟨coloring (computed "c") (computed "t"), by decide, computed "c", by decide, rfl⟩

/-- The direction `t` is rewritten in place, and the same computation is requested once more. -/
def rewrittenInPlace : List Edit :=
  [.request (copying (supplied "first") (computed "t")),
    .request (rectifying (computed "t") (computed "t")),
    .request (rectifying (computed "t") (computed "c")),
    .request (coloring (computed "c") (computed "c"))]

/-- The direction `a` is rewritten after another one has become its alias. -/
def rewrittenLater : List Edit :=
  [.request (normalizing (supplied "first") (computed "a")),
    .request (normalizing (supplied "first") (computed "c")),
    .request (copying (supplied "second") (computed "a"))]

/-- A request for the absolute value of `t` is folded into the node that replaces `t` by its
absolute value: a reader of `c` sees one application of a function where the request asks for
two.  And an alias goes on standing for `a` after a second node has written `a`. -/
theorem alias_of_rewritten :
    let graph := build .fragment "demo" rewrittenInPlace
    let store := nesting.execute ([0, 1].filterMap graph.resolvedNode?)
    let later := build .fragment "demo" rewrittenLater
    (graph.aliases.lookup (computed "c") = some (computed "t") ∧
      graph.producers (computed "t") = [0, 1] ∧
      graph.node? 1 = some (rectifying (computed "t") (computed "t")) ∧
      graph.schedule = .ok [0, 1, 2] ∧
      store (graph.resolve (computed "c")) = 2 ∧
      nesting.result store (rectifying (computed "t") (computed "c")) "out" .vec3 = 3) ∧
    later.aliases.lookup (computed "c") = some (computed "a") ∧
      later.producers (computed "a") = [0, 1] := by
  decide

end StageGraph
end ShaderLoom
