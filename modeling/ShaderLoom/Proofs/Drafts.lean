import ShaderLoom.Proofs.Coalescing
import ShaderLoom.Proofs.Vocabulary

/-!
# Graphs under construction

Wiring a stage edits a graph.  To reason about it, the graph is remembered together with the
edits that built it, and with what is known about them: a `Draft`.

In a draft, all declared variables belong to a vocabulary, and temporaries have plain names.
Every request is complete and simple.  It reads declared inputs of the stage and what earlier
requests write; it writes variables that nothing has written before and that are no inputs.  So
every variable that has a value stands for a term, and keeps standing for it whatever is
requested later (`Causal.termOf_eq`).  What is shared stands for what the vocabulary says.  What
the stage has to deliver is written.

## Main definitions

* `Causal` — requests compute from what was there before
* `termOf` — what a variable stands for
* `Draft` — a graph under construction with what is known about it

## Main results

* `Causal.acyclic` — requests have no cycles
* `Causal.termOf_eq` — terms persist
* `Sound.concat_quiet`, `Sound.concat_request` — one more edit
-/

namespace ShaderLoom
namespace Wire

open Relation StageGraph

variable {V : Vocabulary} {name : String} {edits : List Edit}

/-! ## Requests and what they compute -/

/-- The variables that requests among edits write. -/
def written (edits : List Edit) : List Variable :=
  (requested edits).flatMap Node.writes

theorem mem_written {node : Node} (member : node ∈ requested edits) {v : Variable}
    (writes : v ∈ node.writes) : v ∈ written edits :=
  List.mem_flatMap.mpr ⟨node, member, writes⟩

theorem requested_subset {edits later : List Edit} (grows : edits <+: later) :
    requested edits ⊆ requested later := by
  obtain ⟨more, rfl⟩ := grows
  intro node member
  rw [requested, List.filterMap_append]
  exact List.mem_append_left _ member

theorem written_subset {edits later : List Edit} (grows : edits <+: later) :
    written edits ⊆ written later := by
  intro v member
  obtain ⟨node, among, writes⟩ := List.mem_flatMap.mp member
  exact mem_written (requested_subset grows among) writes

/-- Whether a variable has a value at some point of the construction. -/
def Available (V : Vocabulary) (name : String) (edits : List Edit) (v : Variable) : Prop :=
  v ∈ (build V.stage name edits).table.symbols ∧ (Readable V.stage v ∨ v ∈ written edits)

/-- Requests among edits compute from what was there before. -/
structure Causal (V : Vocabulary) (name : String) (edits : List Edit) : Prop where
  /-- What is written is in the table and no input. -/
  writes : ∀ v ∈ written edits, v ∈ (build V.stage name edits).table.symbols ∧
    ¬ Readable V.stage v
  distinct : (written edits).Nodup
  /-- What a request reads is an input or written before it. -/
  ordered : ∀ front request back, requested edits = front ++ request :: back →
    ∀ v ∈ request.reads, v ∈ (build V.stage name edits).table.symbols ∧
      (Readable V.stage v ∨ v ∈ front.flatMap Node.writes)

namespace Causal

/-- Requests have no cycle: what is read was written before. -/
theorem acyclic (causal : Causal V name edits) (v : Variable) :
    ¬ TransGen (Interpretation.Feeds (requested edits)) v v := by
  -- A variable that is written ranks by its position, an input below all of them.
  let rank : Variable → Nat := fun v =>
    if v ∈ written edits then (written edits).idxOf v + 1 else 0
  refine Interpretation.acyclic_of_rank rank ?_ v
  intro request member u reads w writes
  obtain ⟨front, back, split⟩ := List.append_of_mem member
  have all : written edits = front.flatMap Node.writes ++ (request.writes ++
      back.flatMap Node.writes) := by
    rw [written, split, List.flatMap_append, List.flatMap_cons]
  have inside : w ∈ written edits := by
    rw [all]
    exact List.mem_append_right _ (List.mem_append_left _ writes)
  have distinct := causal.distinct
  rw [all] at distinct
  have later : (front.flatMap Node.writes).length ≤ (written edits).idxOf w := by
    have absent : w ∉ front.flatMap Node.writes := fun early =>
      List.disjoint_of_nodup_append distinct early (List.mem_append_left _ writes)
    rw [all, List.idxOf_append_of_notMem absent]
    exact Nat.le_add_right _ _
  dsimp only [rank]
  rw [if_pos inside]
  rcases (causal.ordered front request back split u reads).2 with readable | early
  · rw [if_neg fun inside => (causal.writes u inside).2 readable]
    exact Nat.succ_pos _
  · have before : (written edits).idxOf u < (front.flatMap Node.writes).length := by
      rw [all, List.idxOf_append_of_mem early]
      exact List.idxOf_lt_length_of_mem early
    rw [if_pos (by rw [all]; exact List.mem_append_left _ early)]
    omega

/-- Values that obey the equations of the requests are determined by the inputs. -/
theorem eq_of_solves {D : Type} {I : Interpretation D} (causal : Causal V name edits)
    {value other : Variable → D}
    (solves : ∀ request ∈ requested edits, ∀ slot v, (slot, v) ∈ request.outputs →
      value v = I.result value request slot v.type)
    (solvesToo : ∀ request ∈ requested edits, ∀ slot v, (slot, v) ∈ request.outputs →
      other v = I.result other request slot v.type)
    (inputs : ∀ v, Readable V.stage v → value v = other v) :
    ∀ v ∈ written edits, value v = other v := by
  -- Request by request, in order: what a request reads was settled before.
  have settled : ∀ front back, requested edits = front ++ back →
      ∀ v ∈ front.flatMap Node.writes, value v = other v := by
    intro front
    induction front using List.reverseRecOn with
    | nil => exact fun _ _ v member => absurd member List.not_mem_nil
    | append_singleton front request ih =>
        intro back split v member
        rw [List.append_assoc, List.singleton_append] at split
        rw [List.flatMap_append, List.flatMap_singleton] at member
        rcases List.mem_append.mp member with early | now
        · exact ih _ split v early
        · obtain ⟨⟨slot, w⟩, output, rfl⟩ := List.mem_map.mp now
          have among : request ∈ requested edits := by
            rw [split]
            exact List.mem_append_right _ List.mem_cons_self
          rw [solves request among slot w output, solvesToo request among slot w output]
          refine I.result_congr (fun u reads => ?_) slot w.type
          rcases (causal.ordered front request back split u reads).2 with readable | before
          · exact inputs u readable
          · exact ih _ split u before
  exact settled _ [] (List.append_nil _).symm

end Causal

/-- What a variable stands for: its unfolding through requests. -/
def termOf (edits : List Edit) (v : Variable) : Term :=
  Term.free.meaning (requested edits) v

namespace Causal

theorem unfolding (causal : Causal V name edits) :
    Term.free.Unfolding (requested edits) (termOf edits) :=
  Term.free.unfolding_meaning causal.distinct causal.acyclic

/-- Inputs stand for themselves. -/
theorem termOf_of_readable (causal : Causal V name edits) {v : Variable}
    (readable : Readable V.stage v) : termOf edits v = .input v := by
  refine causal.unfolding.input v fun request member writes => ?_
  exact (causal.writes v (mem_written member writes)).2 readable

/-- **Terms persist**: what has a value keeps it. -/
theorem termOf_eq (causal : Causal V name edits) {later : List Edit}
    (causalLater : Causal V name later) (grows : edits <+: later) {v : Variable}
    (available : Available V name edits v) : termOf later v = termOf edits v := by
  have inputs : ∀ v, Readable V.stage v → termOf later v = termOf edits v := by
    intro v readable
    rw [causalLater.termOf_of_readable readable, causal.termOf_of_readable readable]
  rcases available.2 with readable | member
  · exact inputs v readable
  · refine causal.eq_of_solves ?_ causal.unfolding.output inputs v member
    exact fun request among =>
      causalLater.unfolding.output request (requested_subset grows among)

end Causal

/-! ## Drafts -/

/-- What is known about the edits of a draft. -/
structure Sound (V : Vocabulary) (name : String) (edits : List Edit) : Prop
    extends Causal V name edits where
  /-- Variables are built in, temporaries, or belong to the vocabulary. -/
  known : ∀ v ∈ (build V.stage name edits).table.symbols, v ∈ builtins V.stage ∨
    (v.storage = .temporary ∧ isPlain v.name = true ∧ v.arrayLength = none) ∨ V.contains v
  complete : ∀ request ∈ requested edits, request.Complete
  simple : ∀ request ∈ requested edits, request.Simple
  /-- What is shared has a value and stands for what the vocabulary says. -/
  shared : ∀ entry ∈ (build V.stage name edits).memo, Available V name edits entry.2 ∧
    V.shares entry.1 = some (termOf edits entry.2)
  delivered : ∀ v ∈ demanded edits, v ∈ written edits ∧ v.storage ≠ .temporary

/-- A graph under construction: the edits so far and what is known about them. -/
structure Draft (V : Vocabulary) (name : String) where
  edits : List Edit
  sound : Sound V name edits

namespace Draft

/-- The graph of a draft. -/
def graph (draft : Draft V name) : StageGraph :=
  build V.stage name draft.edits

/-- What a variable of a draft stands for. -/
def term (draft : Draft V name) (v : Variable) : Term :=
  termOf draft.edits v

/-- The outputs of the stage that have been written, in order. -/
def outputs (draft : Draft V name) : List Variable :=
  (written draft.edits).filter fun v => v.storage != .temporary

/-- The outputs of the stage that are declared, in order. -/
def targets (draft : Draft V name) : List Variable :=
  draft.graph.table.symbols.filter fun v =>
    v.storage != .temporary && !decide (Readable V.stage v)

theorem mem_targets {draft : Draft V name} {v : Variable} : v ∈ draft.targets ↔
    v ∈ draft.graph.table.symbols ∧ v.storage ≠ .temporary ∧ ¬ Readable V.stage v := by
  rw [targets, List.mem_filter, Bool.and_eq_true, bne_iff_ne, Bool.not_eq_true',
    decide_eq_false_iff_not]

/-- Whether a variable has a value. -/
def Has (draft : Draft V name) (v : Variable) : Prop :=
  Available V name draft.edits v

/-- A temporary that nothing has written. -/
def Fresh (draft : Draft V name) (v : Variable) : Prop :=
  v.storage = .temporary ∧ v ∈ draft.graph.table.symbols ∧ v ∉ written draft.edits

/-- One draft goes on from another. -/
def Leads (earlier later : Draft V name) : Prop :=
  earlier.edits <+: later.edits

theorem Leads.refl (draft : Draft V name) : draft.Leads draft :=
  List.prefix_refl _

theorem Leads.trans {first second third : Draft V name} (early : first.Leads second)
    (late : second.Leads third) : first.Leads third :=
  List.IsPrefix.trans early late

/-- A draft with one more edit. -/
def concat (draft : Draft V name) (change : Edit)
    (sound : Sound V name (draft.edits ++ [change])) : Draft V name :=
  ⟨draft.edits ++ [change], sound⟩

theorem graph_concat (draft : Draft V name) {change : Edit}
    (sound : Sound V name (draft.edits ++ [change])) :
    (draft.concat change sound).graph = draft.graph.edit change :=
  build_concat V.stage name draft.edits change

theorem leads_concat (draft : Draft V name) {change : Edit}
    (sound : Sound V name (draft.edits ++ [change])) :
    draft.Leads (draft.concat change sound) :=
  List.prefix_append _ _

/-- The draft without edits. -/
def empty (V : Vocabulary) (name : String) : Draft V name where
  edits := []
  sound := by
    refine ⟨⟨List.forall_mem_nil _, List.nodup_nil, ?_⟩, ?_, List.forall_mem_nil _,
      List.forall_mem_nil _, List.forall_mem_nil _, List.forall_mem_nil _⟩
    · intro front request back split
      have empty : ([] : List Node) = front ++ request :: back := split
      simp at empty
    · intro v member
      exact .inl member

end Draft

/-! ## One more edit -/

/-- Edits append variables to the table. -/
theorem symbols_edit (graph : StageGraph) (change : Edit) :
    graph.table.symbols <+: (graph.edit change).table.symbols := by
  cases change with
  | declare v =>
      dsimp only [edit, SymbolTable.declare]
      cases graph.table.find? v.name with
      | none => exact List.prefix_append _ _
      | some existing =>
          dsimp only
          split
          · rename_i accepted
            split at accepted <;> cases accepted
            exact List.prefix_refl _
          · exact List.prefix_refl _
  | temporary type base => exact List.prefix_append _ _
  | request node =>
      rcases add_cases graph node with ⟨_, _, _, _, _, _, added⟩ | added <;>
        · rw [edit, added]
  | root v =>
      dsimp only [edit, addRoot]
      split <;> exact List.prefix_refl _
  | share key v => exact List.prefix_refl _

theorem symbols_build_grows {edits later : List Edit} (stage : Stage) (name : String)
    (grows : edits <+: later) :
    (build stage name edits).table.symbols <+: (build stage name later).table.symbols := by
  obtain ⟨more, rfl⟩ := grows
  induction more using List.reverseRecOn with
  | nil => rw [List.append_nil]
  | append_singleton more change ih =>
      rw [← List.append_assoc, build_concat]
      exact ih.trans (symbols_edit _ change)

theorem Available.mono {later : List Edit} {v : Variable} (available : Available V name edits v)
    (grows : edits <+: later) : Available V name later v :=
  ⟨(symbols_build_grows V.stage name grows).subset available.1,
    available.2.imp_right fun member => written_subset grows member⟩

theorem requested_concat_quiet (edits : List Edit) {change : Edit}
    (quiet : change.request? = none) : requested (edits ++ [change]) = requested edits := by
  rw [requested_concat, quiet, Option.toList_none, List.append_nil]

theorem written_concat_quiet (edits : List Edit) {change : Edit}
    (quiet : change.request? = none) : written (edits ++ [change]) = written edits := by
  rw [written, requested_concat_quiet edits quiet]
  rfl

theorem written_concat_request (edits : List Edit) (node : Node) :
    written (edits ++ [.request node]) = written edits ++ node.writes := by
  rw [written, requested_concat, List.flatMap_append]
  exact congrArg _ (List.flatMap_singleton _ _)

/-- An edit that requests nothing keeps requests causal. -/
theorem Causal.concat_quiet (causal : Causal V name edits) {change : Edit}
    (quiet : change.request? = none) : Causal V name (edits ++ [change]) := by
  have grows := (symbols_edit (build V.stage name edits) change).subset
  have requests := requested_concat_quiet edits quiet
  refine ⟨?_, ?_, ?_⟩
  · rw [written_concat_quiet edits quiet, build_concat]
    exact fun v member => ⟨grows (causal.writes v member).1, (causal.writes v member).2⟩
  · rw [written_concat_quiet edits quiet]
    exact causal.distinct
  · rw [requests, build_concat]
    intro front request back split v read
    obtain ⟨declared, before⟩ := causal.ordered front request back split v read
    exact ⟨grows declared, before⟩

/-- A request keeps requests causal, if it reads what is available and writes what nothing has
written. -/
theorem Causal.concat_request (causal : Causal V name edits) {node : Node}
    (reads : ∀ v ∈ node.reads, Available V name edits v)
    (writes : ∀ v ∈ node.writes, v ∈ (build V.stage name edits).table.symbols ∧
      ¬ Readable V.stage v)
    (distinct : (written edits ++ node.writes).Nodup) :
    Causal V name (edits ++ [.request node]) := by
  have grows := (symbols_edit (build V.stage name edits) (.request node)).subset
  have requests : requested (edits ++ [.request node]) = requested edits ++ [node] :=
    requested_concat edits (.request node)
  refine ⟨?_, ?_, ?_⟩
  · rw [written_concat_request, build_concat]
    intro v member
    rcases List.mem_append.mp member with old | new
    · exact ⟨grows (causal.writes v old).1, (causal.writes v old).2⟩
    · exact ⟨grows (writes v new).1, (writes v new).2⟩
  · rw [written_concat_request]
    exact distinct
  · intro front request back split v read
    rw [requests] at split
    rw [build_concat]
    -- The request at the split is the new one, or one of the earlier ones.
    rcases List.eq_nil_or_concat back with rfl | ⟨back, last, rfl⟩
    · obtain ⟨rfl, ends⟩ := List.append_inj' split rfl
      cases ends
      exact ⟨grows (reads v read).1, (reads v read).2⟩
    · rw [List.concat_eq_append, ← List.cons_append, ← List.append_assoc] at split
      obtain ⟨declared, before⟩ :=
        causal.ordered front request back (List.append_inj' split rfl).1 v read
      exact ⟨grows declared, before⟩

/-- What is shared goes on to stand for what the vocabulary says. -/
theorem Sound.shared_mono (sound : Sound V name edits) {later : List Edit}
    (causal : Causal V name later) (grows : edits <+: later) {entry : String × Variable}
    (member : entry ∈ (build V.stage name edits).memo) :
    Available V name later entry.2 ∧ V.shares entry.1 = some (termOf later entry.2) := by
  obtain ⟨available, stands⟩ := sound.shared entry member
  exact ⟨available.mono grows,
    stands.trans (congrArg some (sound.toCausal.termOf_eq causal grows available).symm)⟩

/-- An edit that requests nothing keeps a draft sound, if the variables that it adds are known,
the results that it shares are available and stand for what the vocabulary says, and the roots
that it marks are written. -/
theorem Sound.concat_quiet (sound : Sound V name edits) {change : Edit}
    (quiet : change.request? = none)
    (known : ∀ v ∈ ((build V.stage name edits).edit change).table.symbols,
      v ∈ (build V.stage name edits).table.symbols ∨
        (v.storage = .temporary ∧ isPlain v.name = true ∧ v.arrayLength = none) ∨ V.contains v)
    (shared : ∀ entry ∈ ((build V.stage name edits).edit change).memo,
      entry ∈ (build V.stage name edits).memo ∨
        (Available V name edits entry.2 ∧ V.shares entry.1 = some (termOf edits entry.2)))
    (delivered : ∀ v ∈ change.root?, v ∈ written edits ∧ v.storage ≠ .temporary) :
    Sound V name (edits ++ [change]) := by
  have same := written_concat_quiet edits quiet
  have grows : edits <+: edits ++ [change] := List.prefix_append _ _
  have causal := sound.toCausal.concat_quiet quiet
  have requests := requested_concat_quiet edits quiet
  refine ⟨causal, ?_, ?_, ?_, ?_, ?_⟩
  · intro v member
    rw [build_concat] at member
    rcases known v member with old | new
    · exact sound.known v old
    · exact .inr new
  · rw [requests]
    exact sound.complete
  · rw [requests]
    exact sound.simple
  · intro entry member
    rw [build_concat] at member
    rcases shared entry member with old | ⟨available, stands⟩
    · exact sound.shared_mono causal grows old
    · rw [termOf, requests]
      exact ⟨available.mono grows, stands⟩
  · intro v member
    rw [demanded_concat] at member
    rw [same]
    rcases List.mem_append.mp member with old | new
    · exact sound.delivered v old
    · exact delivered v (Option.mem_toList.mp new)

/-- A request keeps a draft sound, if it is complete and simple, reads what is available and
writes what nothing has written. -/
theorem Sound.concat_request (sound : Sound V name edits) {node : Node}
    (complete : node.Complete) (simple : node.Simple)
    (reads : ∀ v ∈ node.reads, Available V name edits v)
    (writes : ∀ v ∈ node.writes, v ∈ (build V.stage name edits).table.symbols ∧
      ¬ Readable V.stage v)
    (distinct : (written edits ++ node.writes).Nodup) :
    Sound V name (edits ++ [.request node]) := by
  have causal := sound.toCausal.concat_request reads writes distinct
  have requests : requested (edits ++ [.request node]) = requested edits ++ [node] :=
    requested_concat edits (.request node)
  have table : ((build V.stage name edits).edit (.request node)).table =
      (build V.stage name edits).table ∧
      ((build V.stage name edits).edit (.request node)).memo =
        (build V.stage name edits).memo := by
    rcases add_cases (build V.stage name edits) node with ⟨_, _, _, _, _, _, added⟩ | added <;>
      · rw [edit, added]
        exact ⟨rfl, rfl⟩
  refine ⟨causal, ?_, ?_, ?_, ?_, ?_⟩
  · rw [build_concat, table.1]
    exact sound.known
  · intro request member
    rw [requests] at member
    rcases List.mem_append.mp member with old | new
    · exact sound.complete request old
    · rw [List.mem_singleton.mp new]
      exact complete
  · intro request member
    rw [requests] at member
    rcases List.mem_append.mp member with old | new
    · exact sound.simple request old
    · rw [List.mem_singleton.mp new]
      exact simple
  · intro entry member
    rw [build_concat, table.2] at member
    exact sound.shared_mono causal (List.prefix_append _ _) member
  · intro v member
    have same : demanded (edits ++ [.request node]) = demanded edits := by
      rw [demanded_concat]
      exact List.append_nil _
    rw [same] at member
    rw [written_concat_request]
    exact ⟨List.mem_append_left _ (sound.delivered v member).1, (sound.delivered v member).2⟩

/-! ## What stays true -/

namespace Draft

/-- Tables only grow. -/
theorem Leads.symbols_grow {draft later : Draft V name} (leads : draft.Leads later) :
    draft.graph.table.symbols <+: later.graph.table.symbols :=
  symbols_build_grows V.stage name leads

/-- Roots stay roots. -/
theorem Leads.roots_subset {draft later : Draft V name} (leads : draft.Leads later) :
    draft.graph.roots ⊆ later.graph.roots := by
  obtain ⟨more, extended⟩ := leads
  rw [Draft.graph, Draft.graph, ← extended]
  clear extended
  induction more using List.reverseRecOn with
  | nil => rw [List.append_nil]; exact List.Subset.refl _
  | append_singleton more change ih =>
      rw [← List.append_assoc, build_concat]
      exact List.Subset.trans ih (roots_edit _ change)

/-- What has a value keeps having one. -/
theorem Has.mono {earlier later : Draft V name} {v : Variable} (has : earlier.Has v)
    (leads : earlier.Leads later) : later.Has v :=
  Available.mono has leads

theorem has_of_written {draft : Draft V name} {v : Variable}
    (member : v ∈ written draft.edits) : draft.Has v :=
  ⟨(draft.sound.writes v member).1, .inr member⟩

/-- The declared variables of a draft have names of letters, digits and underscores. -/
class Spelled (draft : Draft V name) : Prop where
  spelled : ∀ v ∈ draft.graph.table.symbols, V.contains v →
    v.name.toList.all Node.isSlotPart = true

/-- Then all its variables have names that stay names. -/
theorem isLasting_name (draft : Draft V name) [declared : draft.Spelled] {v : Variable}
    (member : v ∈ draft.graph.table.symbols) : isLasting v.name = true := by
  have provided : ∀ stage, ∀ w ∈ builtins stage, isLasting w.name = true := by
    intro stage
    cases stage <;> decide +kernel
  rcases draft.sound.known v member with builtin | ⟨_, plain, _⟩ | contained
  · exact provided V.stage v builtin
  · exact isLasting_of_isPlain plain
  · exact isLasting_of_isReserved (V.reserved v contained)
      (declared.spelled v member contained)

theorem isSlotPart_name (draft : Draft V name) [draft.Spelled] :
    ∀ v ∈ draft.graph.table.symbols, v.name.toList.all Node.isSlotPart = true := by
  intro v member
  exact Glsl.all_isSlotPart_of_isIdentifier
    (isIdentifier_of_isLasting (draft.isLasting_name member))

theorem unfolding_term (draft : Draft V name) :
    Term.free.Unfolding (requested draft.edits) draft.term :=
  draft.sound.toCausal.unfolding

/-- Inputs stand for themselves. -/
theorem term_of_readable (draft : Draft V name) {v : Variable} (readable : Readable V.stage v) :
    draft.term v = .input v :=
  draft.sound.toCausal.termOf_of_readable readable

/-- A variable stands for what it is an alias of. -/
theorem term_resolve (draft : Draft V name) (v : Variable) :
    draft.term (draft.graph.resolve v) = draft.term v :=
  (consistent_build V.stage name draft.unfolding_term.output).value_resolve v

theorem term_eq_of_leads {earlier later : Draft V name} {v : Variable} (has : earlier.Has v)
    (leads : earlier.Leads later) : later.term v = earlier.term v :=
  earlier.sound.toCausal.termOf_eq later.sound.toCausal leads has

end Draft

end Wire
end ShaderLoom
