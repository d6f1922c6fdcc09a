import ShaderLoom.Proofs.Drafts
import ShaderLoom.Proofs.FreshNames

/-!
# A logic of wiring

`Yields` is the judgment about a step of wiring: carried out on a draft, it succeeds, leads to a
draft that goes on from the first, writes the given outputs of the stage besides temporaries,
declares no further outputs, and establishes a postcondition.  There is one rule for each
primitive step and one for sequencing.

## Main definitions

* `Yields` — the judgment about steps

## Main results

* `Yields.bind` — sequencing
* `yields_declare`, `yields_temporary`, `yields_add_fresh`, `yields_add_output`, `yields_share`,
  `yields_root` — the primitive steps
-/

namespace ShaderLoom
namespace Wire

open StageGraph

/-! ## Steps -/

section Steps

variable {V : Vocabulary} {name : String} {α β : Type}

/-- A step succeeds on a draft.  It leads to a draft in which the given outputs of the stage
have been written besides temporaries, no other outputs have been declared, and the
postcondition holds.
-/
def Yields (step : Wire α) (draft : Draft V name) (added : List Variable)
    (post : α → Draft V name → Prop) : Prop :=
  ∃ value later, step.on draft.graph = (.ok value, later.graph) ∧ draft.Leads later ∧
    later.outputs = draft.outputs ++ added ∧ later.targets = draft.targets ∧ post value later

theorem on_bind_ok {step : Wire α} {next : α → Wire β} {graph after : StageGraph} {value : α}
    (done : step.on graph = (.ok value, after)) :
    (step >>= next).on graph = (next value).on after := by
  unfold on at done ⊢
  simp only [ExceptT.run, StateT.run] at done ⊢
  change (do let r ← step graph; ExceptT.bindCont next r.1 r.2 : Id _) = _
  rw [done]
  rfl

theorem on_get_bind {next : StageGraph → Wire β} (graph : StageGraph) :
    (MonadState.get >>= next).on graph = (next graph).on graph :=
  rfl

/-- **Sequencing**: the second step starts from the draft that the first one leads to. -/
theorem Yields.bind {step : Wire α} {next : α → Wire β} {draft : Draft V name}
    {added more : List Variable} {post : α → Draft V name → Prop}
    {last : β → Draft V name → Prop} (first : Yields step draft added post)
    (second : ∀ value later, draft.Leads later → later.outputs = draft.outputs ++ added →
      post value later → Yields (next value) later more last) :
    Yields (step >>= next) draft (added ++ more) last := by
  obtain ⟨value, middle, done, leads, outputs, targets, holds⟩ := first
  obtain ⟨result, later, doneNext, leadsNext, outputsNext, targetsNext, holdsNext⟩ :=
    second value middle leads outputs holds
  refine ⟨result, later, ?_, leads.trans leadsNext, ?_, targetsNext.trans targets, holdsNext⟩
  · rw [on_bind_ok done, doneNext]
  · rw [outputsNext, outputs, List.append_assoc]

theorem Yields.pure {draft : Draft V name} {post : α → Draft V name → Prop} {value : α}
    (holds : post value draft) : Yields (Pure.pure value) draft [] post :=
  ⟨value, draft, rfl, .refl draft, (List.append_nil _).symm, rfl, holds⟩

/-- Looking at the graph changes nothing. -/
theorem Yields.get {next : StageGraph → Wire β} {draft : Draft V name} {added : List Variable}
    {post : β → Draft V name → Prop} (then_ : Yields (next draft.graph) draft added post) :
    Yields (MonadState.get >>= next) draft added post :=
  then_

theorem Yields.imp {step : Wire α} {draft : Draft V name} {added : List Variable}
    {post weaker : α → Draft V name → Prop} (yields : Yields step draft added post)
    (implies : ∀ value later, draft.Leads later → post value later → weaker value later) :
    Yields step draft added weaker := by
  obtain ⟨value, later, done, leads, outputs, targets, holds⟩ := yields
  exact ⟨value, later, done, leads, outputs, targets, implies value later leads holds⟩

/-! ## Variables -/

theorem outputs_eq_of_written {draft later : Draft V name}
    (same : written later.edits = written draft.edits) :
    later.outputs = draft.outputs ++ [] := by
  rw [Draft.outputs, same, List.append_nil]
  rfl

/-- A built-in variable has no reserved name. -/
theorem isReserved_builtin {stage : Stage} {v : Variable} (member : v ∈ builtins stage) :
    isReserved v.name = false := by
  have opens : ∀ name ∈ [positionName, pointSizeName, fragColorName],
      isReserved name = false := by
    decide +kernel
  refine opens v.name ?_
  cases stage <;> simp only [builtins, List.mem_cons, List.not_mem_nil, or_false] at member
  · rcases member with rfl | rfl <;> simp
  · subst member
    simp

theorem targets_eq_of_symbols {draft later : Draft V name}
    (same : later.graph.table.symbols = draft.graph.table.symbols) :
    later.targets = draft.targets := by
  rw [Draft.targets, same]
  rfl

/-- **Variables of the vocabulary can be declared.** -/
theorem exists_declare (draft : Draft V name) {v : Variable} (contained : V.contains v) :
    ∃ later : Draft V name, (declare v).on draft.graph = (.ok v, later.graph) ∧
      draft.Leads later ∧ written later.edits = written draft.edits ∧
        v ∈ later.graph.table.symbols ∧
          (later.graph.table.symbols = draft.graph.table.symbols ∨
            later.graph.table.symbols = draft.graph.table.symbols ++ [v]) := by
  -- A variable of that name can only be the variable itself.
  have accepted : ∃ table, draft.graph.table.declare v = .ok table ∧ v ∈ table.symbols ∧
      (table.symbols = draft.graph.table.symbols ∨
        table.symbols = draft.graph.table.symbols ++ [v]) := by
    rw [SymbolTable.declare]
    cases found : draft.graph.table.find? v.name with
    | none => exact ⟨_, rfl, List.mem_append_right _ (List.mem_singleton_self v), .inr rfl⟩
    | some existing =>
        obtain ⟨member, same⟩ := SymbolTable.find?_eq_some found
        have equal : existing = v := by
          rcases draft.sound.known existing member with builtin | ⟨_, plain, _⟩ | inside
          · have plain := isReserved_builtin builtin
            rw [same, V.reserved v contained] at plain
            cases plain
          · have plain := isReserved_of_isPlain plain
            rw [same, V.reserved v contained] at plain
            cases plain
          · exact V.unique existing v inside contained same
        subst equal
        dsimp only
        rw [if_pos rfl]
        exact ⟨_, rfl, member, .inl rfl⟩
  obtain ⟨table, declared, member, symbols⟩ := accepted
  have edited : draft.graph.edit (.declare v) = { draft.graph with table } := by
    dsimp only [edit]
    rw [declared]
  have sound : Sound V name (draft.edits ++ [.declare v]) := by
    have graph : (build V.stage name draft.edits).edit (.declare v) =
        { build V.stage name draft.edits with table } := edited
    refine draft.sound.concat_quiet rfl ?_ ?_ ?_
    · rw [graph]
      intro w inside
      rcases symbols with same | more
      · exact .inl (same ▸ inside)
      · rcases List.mem_append.mp (more ▸ inside) with old | new
        · exact .inl old
        · rw [List.mem_singleton.mp new]
          exact .inr (.inr contained)
    · rw [graph]
      exact fun entry inside => .inl inside
    · intro w none
      cases none
  refine ⟨draft.concat _ sound, ?_, draft.leads_concat sound,
    written_concat_quiet _ rfl, ?_, ?_⟩
  · rw [draft.graph_concat, edited, declare, on_get_bind, declared]
    rfl
  · rw [draft.graph_concat, edited]
    exact member
  · rw [draft.graph_concat, edited]
    exact symbols

/-- **Inputs can be declared**, and have values from then on. -/
theorem yields_declare (draft : Draft V name) {v : Variable} (contained : V.contains v)
    (readable : Readable V.stage v) :
    Yields (declare v) draft [] fun w later =>
      w = v ∧ later.Has v ∧ written later.edits = written draft.edits := by
  obtain ⟨later, done, leads, same, member, symbols⟩ := exists_declare draft contained
  refine ⟨v, later, done, leads, outputs_eq_of_written same, ?_, rfl,
    ⟨member, .inl readable⟩, same⟩
  rcases symbols with same | more
  · exact targets_eq_of_symbols same
  · rw [Draft.targets, more, List.filter_append, List.filter_cons_of_neg (by simp [readable]),
      List.filter_nil, List.append_nil]
    rfl

/-- Outputs can be declared as well. -/
theorem exists_declare_output (draft : Draft V name) {v : Variable} (contained : V.contains v)
    (external : v.storage ≠ .temporary) (output : ¬ Readable V.stage v)
    (new : v ∉ draft.targets) :
    ∃ later : Draft V name, (declare v).on draft.graph = (.ok v, later.graph) ∧
      draft.Leads later ∧ written later.edits = written draft.edits ∧
        v ∈ later.graph.table.symbols ∧ later.targets = draft.targets ++ [v] := by
  have target : (v.storage != .temporary && !decide (Readable V.stage v)) = true := by
    rw [decide_eq_false output, Bool.not_false, Bool.and_true, bne_iff_ne]
    exact external
  obtain ⟨later, done, leads, same, member, symbols⟩ := exists_declare draft contained
  refine ⟨later, done, leads, same, member, ?_⟩
  rcases symbols with same | more
  · rw [same] at member
    exact absurd (List.mem_filter.mpr ⟨member, target⟩) new
  · rw [Draft.targets, more, List.filter_append]
    exact congrArg _ (List.filter_cons_of_pos target)

/-- **Temporaries are fresh**, if the names that are asked for are plain. -/
theorem yields_temporary (draft : Draft V name) (type : DataType) (base : Option String)
    (plain : isPlain (base.getD "tmp") = true) :
    Yields (temporary type base) draft [] fun v later => later.Fresh v ∧ v.type = type := by
  have plainName : isPlain (draft.graph.table.fresh type base).1.name = true := by
    change isPlain (draft.graph.table.nameFresh base).1 = true
    rcases draft.graph.table.nameFresh_eq base with same | ⟨n, same⟩
    · rw [same]
      exact plain
    · rw [same, SymbolTable.numbered]
      exact isPlain_append_toString (isPlain_append plain rfl) n
  have sound : Sound V name (draft.edits ++ [.temporary type base]) := by
    refine draft.sound.concat_quiet rfl ?_ (fun entry inside => .inl inside) ?_
    · intro w inside
      rcases List.mem_append.mp inside with old | new
      · exact .inl old
      · rw [List.mem_singleton.mp new]
        exact .inr (.inl ⟨rfl, plainName, rfl⟩)
    · intro w none
      cases none
  have same : written (draft.edits ++ [.temporary type base]) = written draft.edits :=
    written_concat_quiet _ rfl
  refine ⟨(draft.graph.table.fresh type base).1, draft.concat _ sound, ?_,
    draft.leads_concat sound, outputs_eq_of_written same, ?_, ⟨rfl, ?_, ?_⟩, rfl⟩
  · rw [draft.graph_concat]
    rfl
  · rw [Draft.targets, draft.graph_concat]
    exact (List.filter_append _ _).trans (List.append_nil _)
  · rw [draft.graph_concat]
    exact List.mem_append_right _ (List.mem_singleton_self _)
  · -- What is written is in the table, where the name was free.
    change _ ∉ written (draft.edits ++ [.temporary type base])
    rw [same]
    intro member
    refine draft.graph.table.nameFresh_not_mem base ?_
    exact List.mem_map.mpr ⟨_, (draft.sound.writes _ member).1, rfl⟩

/-- A temporary for which a name is asked. -/
theorem yields_named (draft : Draft V name) (type : DataType) {base : String}
    (plain : isPlain base = true) :
    Yields (temporary type (some base)) draft [] fun v later => later.Fresh v ∧ v.type = type :=
  yields_temporary draft type (some base) plain

theorem Draft.Fresh.of_written {draft later : Draft V name} {v : Variable}
    (fresh : draft.Fresh v) (leads : draft.Leads later)
    (same : written later.edits = written draft.edits) : later.Fresh v := by
  refine ⟨fresh.1, leads.symbols_grow.subset fresh.2.1, ?_⟩
  rw [same]
  exact fresh.2.2

/-- An output of the stage that has not been written. -/
structure Draft.Pending (draft : Draft V name) (out : Variable) : Prop where
  member : out ∈ draft.graph.table.symbols
  output : ¬ Readable V.stage out
  external : out.storage ≠ .temporary
  unwritten : out ∉ draft.outputs

theorem Draft.Pending.mono {draft later : Draft V name} {out : Variable}
    (pending : draft.Pending out) (leads : draft.Leads later)
    (same : later.outputs = draft.outputs ++ []) : later.Pending out := by
  refine ⟨leads.symbols_grow.subset pending.member, pending.output, pending.external, ?_⟩
  rw [same, List.append_nil]
  exact pending.unwritten

/-! ## Nodes -/

/-- An operand is at hand: a variable that has a value, or an expression without effects. -/
def Draft.Ready (draft : Draft V name) : Operand → Prop
  | .read v => draft.Has v
  | .literal text => Glsl.Silent text

/-- All inputs are at hand. -/
def Draft.Supplies (draft : Draft V name) (inputs : List (String × Operand)) : Prop :=
  ∀ entry ∈ inputs, draft.Ready entry.2

theorem Draft.supplies_nil (draft : Draft V name) : draft.Supplies [] :=
  List.forall_mem_nil _

theorem Draft.supplies_cons {draft : Draft V name} {v : Variable} (has : draft.Has v)
    {inputs : List (String × Operand)} (rest : draft.Supplies inputs) (slot : String) :
    draft.Supplies ((slot, .read v) :: inputs) :=
  List.forall_mem_cons.mpr ⟨has, rest⟩

/-- Inputs that are at hand can be read. -/
theorem Draft.Supplies.has {draft : Draft V name} {node : Node}
    (supplies : draft.Supplies node.inputs) {v : Variable} (reads : v ∈ node.reads) :
    draft.Has v := by
  obtain ⟨⟨slot, operand⟩, member, source⟩ := List.mem_filterMap.mp reads
  cases operand with
  | read w =>
      cases source
      exact supplies _ member
  | literal text => cases source

/-- Variables in numbered slots. -/
def numberedInputs (slot : Nat → String) (vs : List Variable) : List (String × Operand) :=
  vs.zipIdx.map fun entry => (slot entry.2, .read entry.1)

theorem map_fst_numberedInputs (slot : Nat → String) (vs : List Variable) :
    (numberedInputs slot vs).map Prod.fst = (List.range vs.length).map slot := by
  rw [numberedInputs, List.map_map, List.range_eq_range', ← List.zipIdx_map_snd, List.map_map]
  rfl

/-- A request that a draft supplies leads to a draft. -/
theorem yields_add (draft : Draft V name) {node : Node} (complete : node.Complete)
    (simple : node.Simple) (supplies : draft.Supplies node.inputs)
    (writes : ∀ v ∈ node.writes, v ∈ draft.graph.table.symbols ∧ ¬ Readable V.stage v)
    (distinct : (written draft.edits ++ node.writes).Nodup) :
    Yields (add node) draft (node.writes.filter fun v => v.storage != .temporary) fun _ later =>
      node ∈ requested later.edits := by
  have sound : Sound V name (draft.edits ++ [.request node]) :=
    draft.sound.concat_request complete simple (fun _ reads => supplies.has reads)
      writes distinct
  have all : written (draft.edits ++ [.request node]) = written draft.edits ++ node.writes :=
    written_concat_request _ node
  have symbols : (draft.graph.edit (.request node)).table.symbols =
      draft.graph.table.symbols := by
    rcases add_cases draft.graph node with ⟨_, _, _, _, _, _, added⟩ | added <;>
      rw [edit, added]
  refine ⟨(), draft.concat _ sound, ?_, draft.leads_concat sound, ?_, ?_, ?_⟩
  · rw [draft.graph_concat]
    rfl
  · change (written (draft.edits ++ [.request node])).filter _ = _
    rw [all, List.filter_append]
    rfl
  · refine targets_eq_of_symbols ?_
    rw [draft.graph_concat, symbols]
  · change node ∈ requested (draft.edits ++ [.request node])
    rw [requested_concat]
    exact List.mem_append_right _ (List.mem_singleton_self node)

theorem nodup_append_singleton {written : List Variable} {v : Variable} (nodup : written.Nodup)
    (new : v ∉ written) : (written ++ [v]).Nodup := by
  rw [List.nodup_append]
  refine ⟨nodup, List.nodup_singleton v, ?_⟩
  intro a member b single equal
  rw [List.mem_singleton] at single
  exact new (single ▸ equal ▸ member)

section OneOutput

variable {draft : Draft V name} {operation : Operation} {inputs : List (String × Operand)}
  {slot : String} {out : Variable}
  (complete : Node.Complete { operation, inputs, outputs := [(slot, out)] })
  (worded : Node.Worded { operation, inputs, outputs := [(slot, out)] } operation)
  (supplies : draft.Supplies inputs)
include complete worded supplies

/-- A node that writes a fresh temporary. -/
theorem yields_add_fresh (fresh : draft.Fresh out) :
    Yields (add { operation, inputs, outputs := [(slot, out)] }) draft [] fun _ later =>
      { operation, inputs, outputs := [(slot, out)] } ∈ requested later.edits := by
  have none : [out].filter (fun v => v.storage != .temporary) = [] := by
    simp [fresh.1]
  have simple : Node.Simple { operation, inputs, outputs := [(slot, out)] } :=
    .of_output rfl (fun _ _ member => supplies _ member) worded
  have yields := yields_add draft complete simple supplies (by
      intro v member
      rw [List.mem_singleton.mp member]
      exact ⟨fresh.2.1, not_readable_of_temporary fresh.1⟩)
    (nodup_append_singleton draft.sound.distinct fresh.2.2)
  change Yields _ draft ([out].filter fun v => v.storage != .temporary) _ at yields
  rw [none] at yields
  exact yields

/-- A node that writes an output of the stage. -/
theorem yields_add_output (pending : draft.Pending out) :
    Yields (add { operation, inputs, outputs := [(slot, out)] }) draft [out] fun _ later =>
      { operation, inputs, outputs := [(slot, out)] } ∈ requested later.edits := by
  have all : [out].filter (fun v => v.storage != .temporary) = [out] := by
    simp [pending.external]
  have unwritten : out ∉ written draft.edits := by
    intro already
    refine pending.unwritten (List.mem_filter.mpr ⟨already, ?_⟩)
    rw [bne_iff_ne]
    exact pending.external
  have simple : Node.Simple { operation, inputs, outputs := [(slot, out)] } :=
    .of_output rfl (fun _ _ member => supplies _ member) worded
  have yields := yields_add draft complete simple supplies (by
      intro v single
      rw [List.mem_singleton.mp single]
      exact ⟨pending.member, pending.output⟩)
    (nodup_append_singleton draft.sound.distinct unwritten)
  change Yields _ draft ([out].filter fun v => v.storage != .temporary) _ at yields
  rw [all] at yields
  exact yields

end OneOutput

/-- What a request writes has a value. -/
theorem Draft.has_of_requested {draft : Draft V name} {operation : Operation}
    {inputs : List (String × Operand)} {slot : String} {out : Variable}
    (member : { operation, inputs, outputs := [(slot, out)] } ∈ requested draft.edits) :
    draft.Has out :=
  has_of_written (mem_written member (List.mem_singleton_self out))

/-- What a written variable resolves to is written. -/
theorem Draft.resolve_mem_written (draft : Draft V name) {v : Variable}
    (member : v ∈ written draft.edits) : draft.graph.resolve v ∈ written draft.edits := by
  have accounted : draft.graph.Accounted (requested draft.edits) :=
    accounted_build V.stage name draft.sound.distinct
  have laws : AliasLaws draft.graph := aliasLaws_build V.stage name draft.edits
  rcases laws.resolve_cases v with same | ⟨_, node, present, writes⟩
  · rw [same]
    exact member
  · exact accounted.mem_iff.mp
      (List.mem_append_right _ (List.mem_flatMap.mpr ⟨node, present, writes⟩))

/-! ## Sharing, roots and built-in outputs -/

/-- A result can be shared under a key that stands for it. -/
theorem yields_share (draft : Draft V name) {key : String} {v : Variable} (has : draft.Has v)
    (stands : V.shares key = some (draft.term v)) :
    Yields (do modify fun graph => graph.setMemo key v; return v) draft [] fun w _ =>
      w = v := by
  have sound : Sound V name (draft.edits ++ [.share key v]) := by
    refine draft.sound.concat_quiet rfl (fun w inside => .inl inside) ?_ ?_
    · intro entry inside
      rcases List.mem_cons.mp inside with rfl | old
      · exact .inr ⟨has, stands⟩
      · exact .inl old
    · intro w none
      cases none
  have same : written (draft.edits ++ [.share key v]) = written draft.edits :=
    written_concat_quiet _ rfl
  refine ⟨v, draft.concat _ sound, ?_, draft.leads_concat sound,
    outputs_eq_of_written same, ?_, rfl⟩
  · rw [draft.graph_concat]
    rfl
  · refine targets_eq_of_symbols ?_
    rw [draft.graph_concat]
    rfl

/-- Steps that only the vertex stage may take. -/
theorem on_requireVertex (draft : Draft V name) (vertex : V.stage = .vertex) {step : Wire α}
    (helper : String) :
    (do requireVertex helper; step : Wire α).on draft.graph = step.on draft.graph := by
  have stage : draft.graph.stage = .vertex := by
    rw [Draft.graph, build_stage, vertex]
  have passes : (Wire.requireVertex helper).on draft.graph = (.ok (), draft.graph) := by
    rw [Wire.requireVertex, on_get_bind, StageGraph.requireVertex, if_pos stage]
    rfl
  exact on_bind_ok passes

theorem Yields.requireVertex {draft : Draft V name} (vertex : V.stage = .vertex) {step : Wire α}
    {added : List Variable} {post : α → Draft V name → Prop}
    (yields : Yields step draft added post) (helper : String) :
    Yields (do requireVertex helper; step) draft added post := by
  obtain ⟨value, later, done, rest⟩ := yields
  exact ⟨value, later, (on_requireVertex draft vertex helper).trans done, rest⟩

/-- An output that has been written can be marked as a root. -/
theorem yields_root (draft : Draft V name) {v : Variable} (output : v ∈ draft.outputs) :
    Yields (root v) draft [] fun _ later => v ∈ later.graph.roots := by
  have member := (List.mem_filter.mp output).1
  have external : v.storage ≠ .temporary := bne_iff_ne.mp (List.mem_filter.mp output).2
  have memo : (draft.graph.edit (.root v)).memo = draft.graph.memo ∧
      (draft.graph.edit (.root v)).table = draft.graph.table := by
    dsimp only [edit, addRoot]
    split <;> exact ⟨rfl, rfl⟩
  have sound : Sound V name (draft.edits ++ [.root v]) := by
    refine draft.sound.concat_quiet rfl ?_ ?_ ?_
    · intro w inside
      refine .inl ?_
      change w ∈ (draft.graph.edit (.root v)).table.symbols at inside
      rw [memo.2] at inside
      exact inside
    · intro entry inside
      refine .inl ?_
      change entry ∈ (draft.graph.edit (.root v)).memo at inside
      rw [memo.1] at inside
      exact inside
    · intro w same
      cases same
      exact ⟨member, external⟩
  have same : written (draft.edits ++ [.root v]) = written draft.edits :=
    written_concat_quiet _ rfl
  refine ⟨(), draft.concat _ sound, ?_, draft.leads_concat sound,
    outputs_eq_of_written same, ?_, ?_⟩
  · rw [draft.graph_concat]
    rfl
  · refine targets_eq_of_symbols ?_
    rw [draft.graph_concat, memo.2]
  · have laws : AliasLaws draft.graph := aliasLaws_build V.stage name draft.edits
    have marked := resolve_mem_roots draft.graph v
    rw [laws.resolve_of_storage external] at marked
    change v ∈ (draft.concat _ sound).graph.roots
    rw [draft.graph_concat]
    exact marked

/-- A built-in output of the stage is found in every draft. -/
theorem Draft.builtin?_of_mem (draft : Draft V name) {v : Variable}
    (member : v ∈ builtins V.stage) (storage : v.storage = .builtin) :
    draft.graph.builtin? v.name = some v := by
  have found : draft.graph.table.find? v.name = some v := find?_builtin member draft.edits
  rw [builtin?, found, Option.filter_some, storage]
  rfl

/-- It can be written once. -/
theorem Draft.builtin?_eq (draft : Draft V name) {v : Variable} (member : v ∈ builtins V.stage)
    (storage : v.storage = .builtin) (unwritten : v ∉ draft.outputs) :
    draft.graph.builtin? v.name = some v ∧ draft.Pending v := by
  have found : draft.graph.table.find? v.name = some v := find?_builtin member draft.edits
  refine ⟨draft.builtin?_of_mem member storage, (SymbolTable.find?_eq_some found).1, ?_, ?_,
    unwritten⟩
  · rw [Readable, storage]
    rintro (attr | uniform | ⟨varying, _⟩)
    · cases attr
    · cases uniform
    · cases varying
  · rw [storage]
    decide

/-! ## Constructions that both stages use -/

/-- Code that is written out assigns a calm and quiet expression to the output. -/
theorem worded_inlineCode (body : String) {code slot : String}
    {inputs : List (String × Operand)} {out : Variable}
    (spelled : code = "%" ++ slot ++ " = " ++ body ++ ";") (free : slot ∉ inputs.map Prod.fst)
    (fits : slot ≠ "" ∧ slot.toList.all Node.isSlotPart = true ∧ Text.Calm body ∧
      Node.isQuiet slot.toList none ' ' [] body.toList = true) :
    Node.Worded { operation := .inlineCode code, inputs, outputs := [(slot, out)] }
      (.inlineCode code) := by
  refine ⟨slot, body.toList, rfl, free, fits.1, fits.2.1, ?_, fits.2.2⟩
  rw [spelled]
  simp

end Steps

end Wire
end ShaderLoom
