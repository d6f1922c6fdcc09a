import ShaderLoom.Proofs.Compilation
import ShaderLoom.Proofs.FragmentWiring
import ShaderLoom.Proofs.VertexWiring
import ShaderLoom.Stage.Pair

/-!
# Render states have shaders

With the built-in snippets, generating the shaders of a render state fails in one case only: too
many morph targets.  Neither the registry of custom kinds nor the settings matter.

The wiring of both stages ends in finished drafts (`RenderState.Wired`), which have schedules.
All scheduled nodes are complete, so they can be written in GLSL, and what they contribute fits
the frame.

## Main definitions

* `RenderState.Wired` — the drafts of both stages, and what they owe each other

## Main results

* `Wire.Draft.exists_compile` — finished drafts can be compiled
* `RenderState.nonempty_wired` — both stages of valid render states can be wired
* `Compiler.exists_generate_iff` — which render states have shaders
-/

namespace ShaderLoom

/-! ## Compiling drafts -/

namespace Wire

/-- **Finished drafts can be compiled** with the built-in snippets. -/
theorem Draft.exists_compile {V : Vocabulary} {name : String} (draft : Draft V name)
    (finished : draft.Finished) {compiler : Compiler} (plain : compiler.library = {}) :
    ∃ source, compiler.compile draft.graph = .ok source := by
  obtain ⟨order, scheduled⟩ := draft.exists_schedule finished
  have complete : ∀ node ∈ order.filterMap draft.graph.resolvedNode?, node.Complete :=
    fun _ member => draft.complete_of_scheduled member
  refine Compiler.exists_compile plain ?_ complete
  rw [Compiler.scheduledNodes, scheduled]
  rfl

/-- Every draft has to deliver the mandatory outputs of its stage. -/
theorem Draft.mem_requiredRoots_of_builtin {V : Vocabulary} {name : String}
    (draft : Draft V name) {v : Variable} (provided : v ∈ StageGraph.builtins V.stage)
    (mandatory : v.name ∈ StageGraph.mandatory V.stage) : v ∈ draft.graph.requiredRoots := by
  have storage : v.storage = .builtin := by
    have all : ∀ stage, ∀ w ∈ StageGraph.builtins stage, w.storage = .builtin := by
      intro stage
      cases stage <;> decide
    exact all V.stage v provided
  have stage : draft.graph.stage = V.stage := StageGraph.build_stage V.stage name draft.edits
  refine draft.mem_requiredRoots (by rw [storage]; decide) (.inl ?_)
  rw [stage]
  exact List.mem_filterMap.mpr ⟨v.name, mandatory, draft.builtin?_of_mem provided storage⟩

end Wire

/-! ## Render states -/

namespace Fragment

open Wire

/-- The varyings that the fragment stage declares are those that it needs. -/
theorem demands_of_mem_varyings {state : RenderState} {name : String}
    (draft : Draft (vocabulary state) name) {v : Variable}
    (member : v ∈ draft.graph.table.ofStorage .varying) : Demands state v := by
  obtain ⟨declared, varying⟩ := List.mem_filter.mp member
  have varying : v.storage = .varying := beq_iff_eq.mp varying
  rcases draft.sound.known v declared with builtin | ⟨temporary, _⟩ | contained
  · rw [List.mem_singleton.mp builtin] at varying
    cases varying
  · rw [temporary] at varying
    cases varying
  · cases contained with
    | varying demands => exact demands
    | _ => cases varying

end Fragment

namespace RenderState

open Wire

/-- The drafts of both stages of a render state.  The vertex stage is complete for the varyings
of the fragment stage, in their order, and the fragment stage is finished and computes its
color. -/
structure Wired (state : RenderState) (name : String) where
  vertex : Draft (Vertex.vocabulary state) name
  fragment : Draft (Fragment.vocabulary state) name
  stages : state.stages name = .ok { vertex := vertex.graph, fragment := fragment.graph }
  vertexComplete : Vertex.Complete vertex (fragment.graph.table.ofStorage .varying)
  fragmentFinished : fragment.Finished
  color : fragment.term Fragment.fragColor =
    .apply .assign [("in", Fragment.colorTerm state)] "out" .vec4

/-- **Both stages of a valid render state can be wired.** -/
theorem nonempty_wired {state : RenderState} (valid : state.validate = .ok ()) (name : String) :
    Nonempty (state.Wired name) := by
  obtain ⟨_, fragment, wiredFragment, _, outputsFragment, _, holds⟩ :=
    Fragment.yields_main state name
  have interface : ∀ v ∈ fragment.graph.table.ofStorage .varying, Interface v :=
    fun v member => (Fragment.demands_of_mem_varyings fragment member).interface
  have distinct : (fragment.graph.table.ofStorage .varying).Nodup :=
    (StageGraph.nodup_names_build .fragment name fragment.edits).of_map.filter _
  obtain ⟨vertex, wiredVertex, _, complete⟩ :=
    Vertex.exists_main valid (Draft.empty (Vertex.vocabulary state) name) rfl rfl
      interface distinct
  refine ⟨⟨vertex, fragment, ?_, complete, ?_, holds.2⟩⟩
  · have first : state.wireFragment name = (.ok (), fragment.graph) := wiredFragment
    have second : state.wireVertex name fragment.graph.varyings = (.ok (), vertex.graph) :=
      wiredVertex
    simp only [RenderState.stages, valid, first, second, bind, Except.bind]
    rfl
  · intro v member
    rw [outputsFragment]
    exact member

namespace Wired

variable {state : RenderState} {name : String} (wired : state.Wired name)

theorem vertexFinished : wired.vertex.Finished := by
  intro v member
  rw [wired.vertexComplete.outputs]
  refine List.mem_append_left _ ?_
  simpa [StageGraph.builtins, Vertex.vocabulary, Vocabulary.classified, Vertex.sizeOfPoints,
    Vertex.clipPosition, or_comm] using member

/-- The vertex stage declares the varyings of the fragment stage. -/
theorem declared : wired.vertex.targets =
    [Vertex.clipPosition, Vertex.sizeOfPoints] ++
    wired.fragment.graph.table.ofStorage .varying :=
  wired.vertexComplete.targets

/-- It delivers them. -/
theorem delivered : ∀ v ∈ wired.fragment.graph.table.ofStorage .varying,
    v ∈ wired.vertex.outputs ∧ v ∈ wired.vertex.graph.roots := by
  intro v member
  refine ⟨?_, (wired.vertexComplete.varyings v member).1⟩
  rw [wired.vertexComplete.outputs]
  exact List.mem_append_right _ member

/-- The names of the vertex stage are spelled like names, since its varyings are those that the
fragment stage needs. -/
instance : wired.vertex.Spelled where
  spelled := by
    rintro v member (interface | input)
    · have varies : v.storage = .varying := congrArg Variable.storage interface.eq_varying
      have target : v ∈ wired.vertex.targets :=
        Draft.mem_targets.mpr ⟨member, by simp [varies], not_readable_of_varying varies⟩
      rw [wired.declared] at target
      rcases List.mem_append.mp target with builtin | demanded
      · have provided : ∀ w ∈ [Vertex.clipPosition, Vertex.sizeOfPoints],
            w.storage = .builtin := by
          decide
        rw [provided v builtin] at varies
        cases varies
      · exact (Fragment.demands_of_mem_varyings wired.fragment demanded).spelled
    · exact input.spelled

/-- The position is a root of the vertex stage. -/
theorem clipPosition_required : Vertex.clipPosition ∈ wired.vertex.graph.requiredRoots := by
  have provided : Vertex.clipPosition ∈ StageGraph.builtins .vertex := by decide
  have mandatory : Vertex.clipPosition.name ∈ StageGraph.mandatory .vertex := by decide
  exact wired.vertex.mem_requiredRoots_of_builtin provided mandatory

/-- The color is a root of the fragment stage. -/
theorem fragColor_required : Fragment.fragColor ∈ wired.fragment.graph.requiredRoots := by
  have provided : Fragment.fragColor ∈ StageGraph.builtins .fragment := by decide
  have mandatory : Fragment.fragColor.name ∈ StageGraph.mandatory .fragment := by decide
  exact wired.fragment.mem_requiredRoots_of_builtin provided mandatory

/-- The shaders of a render state are those of its wired stages. -/
theorem generate_eq (compiler : Compiler) : compiler.generate state name =
    compiler.compileStages
      { vertex := wired.vertex.graph, fragment := wired.fragment.graph } := by
  rw [Compiler.generate, wired.stages]
  rfl

/-- Wired stages can be compiled. -/
theorem exists_compileStages {compiler : Compiler} (plain : compiler.library = {}) :
    ∃ sources, compiler.compileStages
      { vertex := wired.vertex.graph, fragment := wired.fragment.graph } = .ok sources := by
  obtain ⟨vertexSource, compiledVertex⟩ :=
    wired.vertex.exists_compile wired.vertexFinished plain
  obtain ⟨fragmentSource, compiledFragment⟩ :=
    wired.fragment.exists_compile wired.fragmentFinished plain
  refine ⟨{ vertex := vertexSource, fragment := fragmentSource }, ?_⟩
  rw [Compiler.compileStages, compiledVertex, compiledFragment]
  rfl

end Wired

end RenderState

namespace Compiler

/-- Both stages of a pair are compiled on their own. -/
theorem compile_of_compileStages {compiler : Compiler} {stages : Stages} {sources : SourcePair}
    (compiled : compiler.compileStages stages = .ok sources) :
    compiler.compile stages.vertex = .ok sources.vertex ∧
      compiler.compile stages.fragment = .ok sources.fragment := by
  obtain ⟨vertexSource, compiledVertex, compiled⟩ := exists_of_bind_eq_ok compiled
  obtain ⟨fragmentSource, compiledFragment, compiled⟩ := exists_of_bind_eq_ok compiled
  cases compiled
  exact ⟨compiledVertex, compiledFragment⟩

/-- **Valid render states have shaders**, whatever the registry, the settings and the name. -/
theorem exists_generate {compiler : Compiler} (plain : compiler.library = {})
    {state : RenderState} (valid : state.validate = .ok ()) (name : String) :
    ∃ sources, compiler.generate state name = .ok sources := by
  obtain ⟨wired⟩ := state.nonempty_wired valid name
  rw [wired.generate_eq]
  exact wired.exists_compileStages plain

/-- Other render states have none. -/
theorem generate_of_invalid {compiler : Compiler} {state : RenderState} {cause : Error}
    (invalid : state.validate = .error cause) (name : String) :
    compiler.generate state name = .error cause := by
  simp only [generate, RenderState.stages, invalid, bind, Except.bind]

/-- A render state is refused for its morph targets only. -/
theorem validate_eq_error_iff {state : RenderState} {cause : Error} :
    state.validate = .error cause ↔ ∃ morph, state.morph = some morph ∧
      4 < morph.targetCount ∧ cause = .tooManyMorphTargets morph.targetCount := by
  rw [RenderState.validate]
  cases state.morph with
  | none => simp
  | some morph =>
      by_cases many : maxMorphTargets < morph.targetCount
      · have many' : 4 < morph.targetCount := many
        simp [many, many', eq_comm]
      · have few : ¬ 4 < morph.targetCount := many
        simp [many, few]

/-- **Which render states have shaders.**  With the built-in snippets, both stages of a render
state can be wired and compiled if and only if there is no morphing or no more than four
targets, whatever the registry, the settings and the name.  Otherwise the number of targets is
the error, and there is no other. -/
theorem exists_generate_iff (registry : Registry) (settings : Settings) (state : RenderState)
    (name : String) :
    ((∃ sources, Compiler.generate { registry, settings } state name = .ok sources) ↔
      ∀ morph ∈ state.morph, morph.targetCount ≤ 4) ∧
    ∀ cause, Compiler.generate { registry, settings } state name = .error cause ↔
      ∃ morph, state.morph = some morph ∧ 4 < morph.targetCount ∧
        cause = .tooManyMorphTargets morph.targetCount := by
  cases checked : state.validate with
  | ok =>
      have generates : ∃ sources,
          Compiler.generate { registry, settings } state name = .ok sources :=
        exists_generate rfl checked name
      obtain ⟨sources, generated⟩ := generates
      have few : ∀ morph ∈ state.morph, morph.targetCount ≤ 4 := by
        intro morph asked
        by_contra many
        have refused := validate_eq_error_iff.mpr ⟨morph, asked, UInt32.not_le.mp many, rfl⟩
        rw [checked] at refused
        cases refused
      refine ⟨⟨fun _ => few, fun _ => ⟨sources, generated⟩⟩, fun cause => ⟨?_, ?_⟩⟩
      · intro failed
        rw [generated] at failed
        cases failed
      · rintro ⟨morph, asked, many, _⟩
        exact absurd (few morph asked) (UInt32.not_le.mpr many)
  | error reason =>
      have failed : Compiler.generate { registry, settings } state name = .error reason :=
        generate_of_invalid checked name
      obtain ⟨morph, asked, many, rfl⟩ := validate_eq_error_iff.mp checked
      refine ⟨⟨?_, ?_⟩, fun cause => ⟨?_, ?_⟩⟩
      · rintro ⟨sources, generated⟩
        rw [failed] at generated
        cases generated
      · intro few
        exact absurd (few morph asked) (UInt32.not_le.mpr many)
      · intro same
        rw [failed] at same
        cases same
        exact ⟨morph, asked, many, rfl⟩
      · rintro ⟨other, given, _, rfl⟩
        rw [asked] at given
        cases given
        exact failed

end Compiler

end ShaderLoom
