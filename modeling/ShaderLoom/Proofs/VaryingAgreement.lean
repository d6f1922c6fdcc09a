import ShaderLoom.Proofs.Generation

/-!
# Both stages agree on varyings

The vertex stage hands over exactly what the fragment stage reads.  The graphs list the same
varyings with the same types in the same order; in the vertex graph each of them is a root with
a producer.  In the generated sources, the same varyings are declared on both sides, so a
program can be linked.

What is declared is what scheduled nodes use, so the graphs alone do not decide it.  In the
vertex stage a varying is used since it is a root.  In the fragment stage it is used since the
color depends on it: a varying is only declared where the color needs it (`Fragment.Demands`),
and then the color, as a term, starts from it (`Fragment.uses_colorTerm`).

## Main definitions

* `StageSource.declared` — the declarations of a source for some storages

## Main results

* `RenderState.Wired.reads_iff_writes` — the fragment stage reads what the vertex stage writes
* `RenderState.varyings_agree` — both stages agree on varyings
-/

namespace ShaderLoom

/-! ## Declarations of a storage -/

/-- Whether a statement declares a variable of a storage at global scope. -/
def Storage.declares (storage : Storage) (text : String) : Bool :=
  storage.qualifier?.any fun qualifier => (qualifier.toList ++ [' ']).isPrefixOf text.toList

/-- The declarations of a source that are for variables of some storages. -/
def StageSource.declared (source : StageSource) (storages : List Storage) : List String :=
  source.declarations.filter fun text => storages.any fun storage => storage.declares text

/-- A declaration tells the storage of its variable. -/
theorem Storage.declares_iff {storage : Storage} (isGlobal : storage.isGlobal = true)
    {v : Variable} {text : String} (declared : v.declaration? = some text) :
    storage.declares text = true ↔ v.storage = storage := by
  have tells : storage.declares text = decide (v.storage = storage) := by
    rw [Storage.declares, Variable.toList_declaration declared]
    cases stored : v.storage with
    | builtin =>
        rw [Variable.declaration?, stored] at declared
        cases declared
    | attr | uniform | varying =>
        cases storage with
        | temporary | builtin => cases isGlobal
        | _ => rfl
    | temporary =>
        -- No type is spelled like a qualifier.
        cases storage with
        | temporary | builtin => cases isGlobal
        | _ => cases v.type <;> rfl
  rw [tells, decide_eq_true_iff]

namespace Compiler

/-- The declarations of varyings are those of the varyings that are used. -/
theorem mem_declared_varying {compiler : Compiler} {stage : Stage} {name : String}
    {nodes : List Node} {source : StageSource}
    (done : compiler.compileNodes stage name nodes = .ok source) {text : String} :
    text ∈ source.declared [.varying] ↔
      ∃ v ∈ usedVariables nodes, v.storage = .varying ∧ v.declaration? = some text := by
  rw [StageSource.declared, List.mem_filter, List.any_cons, List.any_nil, Bool.or_false,
    declarations_of_compileNodes done, List.mem_filterMap]
  constructor
  · rintro ⟨⟨v, listed, declared⟩, varying⟩
    exact ⟨v, (mem_variablesOf.mp listed).1,
      (Storage.declares_iff rfl declared).mp varying, declared⟩
  · rintro ⟨v, used, varying, declared⟩
    have stored : v.storage ∈ declaredStorages := by
      rw [varying]
      decide
    exact ⟨⟨v, mem_variablesOf.mpr ⟨used, stored⟩, declared⟩,
      (Storage.declares_iff rfl declared).mpr varying⟩

end Compiler

/-! ## Varyings of both stages -/

namespace RenderState
namespace Wired

open Wire

variable {state : RenderState} {name : String} (wired : state.Wired name) {v : Variable}

/-- The varyings of the vertex stage are those of the fragment stage. -/
theorem ofStorage_varying_eq : wired.vertex.graph.table.ofStorage .varying =
    wired.fragment.graph.table.ofStorage .varying := by
  -- Varyings are outputs of the vertex stage, and the other outputs are built in.
  have outputs : wired.vertex.graph.table.ofStorage .varying =
      wired.vertex.targets.filter fun v => v.storage == .varying := by
    rw [Draft.targets, List.filter_filter, SymbolTable.ofStorage]
    refine List.filter_congr fun v _ => ?_
    by_cases varying : v.storage = .varying
    · have output : ¬ Readable (Vertex.vocabulary state).stage v :=
        not_readable_of_varying varying
      simp [varying, output]
    · simp [varying]
  have varyings : (wired.fragment.graph.table.ofStorage .varying).filter
      (fun v => v.storage == .varying) = wired.fragment.graph.table.ofStorage .varying := by
    rw [SymbolTable.ofStorage, List.filter_filter]
    refine List.filter_congr fun v _ => ?_
    rw [Bool.and_self]
  rw [outputs, wired.declared, List.filter_append, varyings]
  rfl

omit wired in
/-- A varying that some scheduled node uses is declared. -/
theorem mem_varyings_of_used {V : Vocabulary} {draft : Draft V name} {order : List NodeId}
    (varying : v.storage = .varying)
    (used : v ∈ Compiler.usedVariables (order.filterMap draft.graph.resolvedNode?)) :
    v ∈ draft.graph.table.ofStorage .varying :=
  List.mem_filter.mpr ⟨draft.used_subset_symbols used, beq_iff_eq.mpr varying⟩

section Nodes

variable {vertexOrder fragmentOrder : List NodeId}

/-- The vertex stage writes the varyings. -/
theorem exists_writer (scheduled : wired.vertex.graph.schedule = .ok vertexOrder)
    (member : v ∈ wired.fragment.graph.table.ofStorage .varying) :
    ∃ node ∈ vertexOrder.filterMap wired.vertex.graph.resolvedNode?, v ∈ node.writes := by
  have external : v.storage ≠ .temporary := by
    rw [beq_iff_eq.mp (List.mem_filter.mp member).2]
    decide
  have root := (wired.delivered v member).2
  exact StageGraph.exists_writer_of_root wired.vertex.builtin?_isSome scheduled
    (wired.vertex.mem_requiredRoots external (.inr root))
    (wired.vertex.laws.resolve_of_storage external)

/-- The fragment stage reads the varyings that it needs: the color depends on them. -/
theorem exists_reader_of_demands (scheduled : wired.fragment.graph.schedule = .ok fragmentOrder)
    (demands : Fragment.Demands state v) :
    ∃ node ∈ fragmentOrder.filterMap wired.fragment.graph.resolvedNode?, v ∈ node.reads := by
  have external : Fragment.fragColor.storage ≠ .temporary := by decide
  refine wired.fragment.exists_reader_of_root scheduled wired.fragColor_required
    (wired.fragment.laws.resolve_of_storage external) ?_ ?_
  · rw [wired.color]
    exact .argument List.mem_cons_self (Fragment.uses_colorTerm demands)
  · rintro rfl
    have varies := congrArg Variable.storage demands.interface.eq_varying
    cases varies

/-- It reads all varyings that it declares. -/
theorem exists_reader (scheduled : wired.fragment.graph.schedule = .ok fragmentOrder)
    (member : v ∈ wired.fragment.graph.table.ofStorage .varying) :
    ∃ node ∈ fragmentOrder.filterMap wired.fragment.graph.resolvedNode?, v ∈ node.reads :=
  wired.exists_reader_of_demands scheduled
    (Fragment.demands_of_mem_varyings wired.fragment member)

/-- It declares all varyings that it needs. -/
theorem mem_varyings_of_demands (demands : Fragment.Demands state v) :
    v ∈ wired.fragment.graph.table.ofStorage .varying := by
  obtain ⟨order, scheduled⟩ := wired.fragment.exists_schedule wired.fragmentFinished
  obtain ⟨node, member, reads⟩ := wired.exists_reader_of_demands scheduled demands
  exact mem_varyings_of_used (congrArg Variable.storage demands.interface.eq_varying)
    (mem_usedVariables.mpr ⟨node, member, .inl reads⟩)

/-- **The fragment stage reads the varyings that the vertex stage writes.** -/
theorem reads_iff_writes (vertex : wired.vertex.graph.schedule = .ok vertexOrder)
    (fragment : wired.fragment.graph.schedule = .ok fragmentOrder)
    (varying : v.storage = .varying) :
    (∃ node ∈ fragmentOrder.filterMap wired.fragment.graph.resolvedNode?, v ∈ node.reads) ↔
      ∃ node ∈ vertexOrder.filterMap wired.vertex.graph.resolvedNode?, v ∈ node.writes := by
  constructor
  · rintro ⟨node, member, reads⟩
    have used := mem_usedVariables.mpr ⟨node, member, .inl reads⟩
    exact wired.exists_writer vertex (mem_varyings_of_used varying used)
  · rintro ⟨node, member, writes⟩
    have used := mem_usedVariables.mpr ⟨node, member, .inr writes⟩
    have declared := mem_varyings_of_used varying used
    rw [wired.ofStorage_varying_eq] at declared
    exact wired.exists_reader fragment declared

/-- Both stages use the same varyings. -/
theorem used_iff_used (vertex : wired.vertex.graph.schedule = .ok vertexOrder)
    (fragment : wired.fragment.graph.schedule = .ok fragmentOrder)
    (varying : v.storage = .varying) :
    v ∈ Compiler.usedVariables (vertexOrder.filterMap wired.vertex.graph.resolvedNode?) ↔
      v ∈ Compiler.usedVariables
        (fragmentOrder.filterMap wired.fragment.graph.resolvedNode?) := by
  constructor
  · intro used
    have declared := mem_varyings_of_used varying used
    rw [wired.ofStorage_varying_eq] at declared
    obtain ⟨node, member, reads⟩ := wired.exists_reader fragment declared
    exact mem_usedVariables.mpr ⟨node, member, .inl reads⟩
  · intro used
    obtain ⟨node, member, writes⟩ :=
      wired.exists_writer vertex (mem_varyings_of_used varying used)
    exact mem_usedVariables.mpr ⟨node, member, .inr writes⟩

/-- Both sources declare the same varyings. -/
theorem mem_declared_varying_iff {compiler : Compiler} {sources : SourcePair}
    (compiled : compiler.compileStages
      { vertex := wired.vertex.graph, fragment := wired.fragment.graph } = .ok sources)
    {text : String} : text ∈ sources.vertex.declared [.varying] ↔
      text ∈ sources.fragment.declared [.varying] := by
  obtain ⟨compiledVertex, compiledFragment⟩ := Compiler.compile_of_compileStages compiled
  obtain ⟨vertexOrder, vertex, vertexDone⟩ := Compiler.exists_of_compile compiledVertex
  obtain ⟨fragmentOrder, fragment, fragmentDone⟩ := Compiler.exists_of_compile compiledFragment
  rw [Compiler.mem_declared_varying vertexDone, Compiler.mem_declared_varying fragmentDone]
  constructor
  · rintro ⟨v, used, varying, declared⟩
    exact ⟨v, (wired.used_iff_used vertex fragment varying).mp used, varying, declared⟩
  · rintro ⟨v, used, varying, declared⟩
    exact ⟨v, (wired.used_iff_used vertex fragment varying).mpr used, varying, declared⟩

end Nodes

end Wired

/-- **Both stages agree on varyings.**  For every valid render state, the graphs of both stages
list the same varyings, with the same types and in the same order, and in the vertex graph each
of them is a root with a producer.  The nodes that the fragment stage is made of read exactly
those varyings that the nodes of the vertex stage write.  Both graphs can be compiled with the
built-in snippets; and with any snippets, if they are compiled, both sources declare the same
varyings. -/
theorem varyings_agree {state : RenderState} (valid : state.validate = .ok ()) (name : String) :
    ∃ stages, state.stages name = .ok stages ∧
      stages.vertex.varyings = stages.fragment.varyings ∧
      (∀ v ∈ stages.vertex.table.ofStorage .varying,
        v ∈ stages.vertex.roots ∧ stages.vertex.producers v ≠ []) ∧
      (∃ vertexNodes fragmentNodes, Compiler.scheduledNodes stages.vertex = .ok vertexNodes ∧
        Compiler.scheduledNodes stages.fragment = .ok fragmentNodes ∧
        ∀ v, v.storage = .varying → ((∃ node ∈ fragmentNodes, v ∈ node.reads) ↔
          ∃ node ∈ vertexNodes, v ∈ node.writes)) ∧
      (∀ registry settings, ∃ sources,
        Compiler.compileStages { registry, settings } stages = .ok sources) ∧
      ∀ compiler sources, Compiler.compileStages compiler stages = .ok sources → ∀ text,
        text ∈ sources.vertex.declared [.varying] ↔
          text ∈ sources.fragment.declared [.varying] := by
  obtain ⟨wired⟩ := state.nonempty_wired valid name
  obtain ⟨vertexOrder, vertex⟩ := wired.vertex.exists_schedule wired.vertexFinished
  obtain ⟨fragmentOrder, fragment⟩ := wired.fragment.exists_schedule wired.fragmentFinished
  refine ⟨_, wired.stages, ?_, ?_, ⟨vertexOrder.filterMap wired.vertex.graph.resolvedNode?,
    fragmentOrder.filterMap wired.fragment.graph.resolvedNode?, ?_, ?_, ?_⟩, ?_, ?_⟩
  · rw [StageGraph.varyings, StageGraph.varyings, wired.ofStorage_varying_eq]
  · intro v member
    rw [wired.ofStorage_varying_eq] at member
    obtain ⟨output, root⟩ := wired.delivered v member
    exact ⟨root, wired.vertex.producers_ne_nil (List.mem_filter.mp output).1⟩
  · rw [Compiler.scheduledNodes, vertex]
    rfl
  · rw [Compiler.scheduledNodes, fragment]
    rfl
  · intro v varying
    exact wired.reads_iff_writes vertex fragment varying
  · intro registry settings
    exact wired.exists_compileStages rfl
  · intro compiler sources compiled text
    exact wired.mem_declared_varying_iff compiled

/-- A render state that asks for nearly everything. -/
def lavish : RenderState where
  skin := some { boneCount := 20 }
  morph := some { targetCount := 4, targetNames := ["Vertex", "Normal"] }
  pointSize := true
  streams := ⟨255⟩
  lights := [{ kind := .spot, castsShadow := true }, { kind := .hemi, castsShadow := false }]
  shadow := some .pcf
  textures := [{ unit := 0, texcoord := 2 }]

/-- Five varyings are handed over, and the vertex stage declares what the fragment stage
does. -/
theorem varyings_agree_lavish : lavish.validate = .ok () ∧
    ∃ stages, lavish.stages "lavish" = .ok stages ∧
      stages.vertex.varyings = [("vVertexColor", .vec4), ("vTexCoord2", .vec2),
        ("vViewNormal", .vec3), ("vViewVertex", .vec4), ("vModelVertex", .vec4)] ∧
      (∀ v ∈ stages.vertex.table.ofStorage .varying,
        v ∈ stages.vertex.roots ∧ stages.vertex.producers v ≠ []) ∧
      ∃ sources, Compiler.compileStages {} stages = .ok sources ∧
        ∀ text, text ∈ sources.vertex.declared [.varying] ↔
          text ∈ sources.fragment.declared [.varying] := by
  have valid : lavish.validate = .ok () := rfl
  obtain ⟨stages, found, same, roots, _, compiles, declared⟩ := varyings_agree valid "lavish"
  obtain ⟨sources, compiled⟩ := compiles {} {}
  refine ⟨valid, stages, found, ?_, roots, sources, compiled, declared _ _ compiled⟩
  have listed : (lavish.stages "lavish").toOption.map (fun stages => stages.fragment.varyings) =
      some [("vVertexColor", .vec4), ("vTexCoord2", .vec2), ("vViewNormal", .vec3),
        ("vViewVertex", .vec4), ("vModelVertex", .vec4)] := by decide +kernel
  rw [found] at listed
  rw [same]
  exact Option.some.inj listed

end RenderState
end ShaderLoom
