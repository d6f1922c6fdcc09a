import ShaderLoom.Proofs.VertexWiring

/-!
# The order of constructions does not matter

The constructions of the vertex stage call each other and share their results, so what a call
adds to the graph depends on what was built before: names are numbered otherwise, and requests
are folded into other nodes.  What a call returns does not depend on it.  After any calls in any
order, every construction gives a variable that unfolds to its term, and so do the outputs of
the whole stage.

## Main definitions

* `StageGraph.Unfolds` — a variable of a graph unfolds to a term

## Main results

* `Vertex.denotes_calls` — calls one after another
* `Vertex.unfolds_in_any_order` — results do not depend on the order of calls
-/

namespace ShaderLoom

/-- A variable unfolds to a term, through aliases and the only producer of each variable. -/
def StageGraph.Unfolds (graph : StageGraph) (v : Variable) (t : Term) : Prop :=
  graph.term? (graph.nodes.length + 1) v = some t

theorem Wire.Draft.Holds.unfolds {V : Vocabulary} {name : String} {draft : Draft V name}
    {v : Variable} {t : Term} (holds : draft.Holds v t) : draft.graph.Unfolds v t :=
  (draft.term?_eq v).trans (congrArg some holds.2)

namespace Vertex

open Wire

/-- A varying of the vertex stage, by its name and type. -/
def varyingVariable (entry : String × DataType) : Variable :=
  { name := entry.1, type := entry.2, storage := .varying }

variable {state : RenderState} {name : String}

/-- **Calls one after another** give variables for their terms. -/
theorem denotes_calls (valid : state.validate = .ok ()) (draft : Draft (vocabulary state) name)
    (calls : List Transform) :
    Yields (calls.mapM (Transform.wire state)) draft [] fun results later =>
      List.Forall₂ later.Holds results (calls.map (Transform.term state)) :=
  denotes_mapM fun call _ later _ => denotes_transform valid later call

/-- The stage is wired for varyings that are given by their names and types. -/
theorem exists_main_of_known (valid : state.validate = .ok ())
    {draft : Draft (vocabulary state) name} (unwritten : draft.outputs = [])
    (undeclared : draft.targets = [clipPosition, sizeOfPoints])
    {requested : List (String × DataType)}
    (known : ∀ entry ∈ requested, knownVarying? entry.1 = some entry.2)
    (distinct : (requested.map Prod.fst).Nodup) : ∃ later : Draft (vocabulary state) name,
      (main state requested).on draft.graph = (.ok (), later.graph) ∧ draft.Leads later ∧
        Complete later (requested.map varyingVariable) := by
  have interface : ∀ v ∈ requested.map varyingVariable, Interface v := by
    intro v member
    obtain ⟨entry, among, rfl⟩ := List.mem_map.mp member
    exact interface_iff.mpr (known entry among)
  have apart : (requested.map varyingVariable).Nodup := by
    refine List.Nodup.of_map Variable.name ?_
    rw [List.map_map]
    exact distinct
  have same : ((requested.map varyingVariable).map fun v => (v.name, v.type)) = requested := by
    rw [List.map_map]
    exact List.map_id _
  have wired := exists_main valid draft unwritten undeclared interface apart
  rwa [same] at wired

/-- **The order of constructions does not matter.**  For every valid render state and any calls
of constructions in the vertex stage, in any order and any number of times, all of them succeed,
and every result unfolds to the term of its construction: attributes are morphed where the
active morph names their stream and skinned where there are bones; normals and tangents that
were changed are brought back to unit length, tangents with the handedness of the attribute;
matrices take the results to view space and to model space.  So does the result of any further
call.

The whole stage can then be wired for all varyings that it knows, if their names are distinct:
the clip position becomes the projection of the position in view space, or a billboard at the
attribute itself, and every varying carries what its name says. -/
theorem unfolds_in_any_order (valid : state.validate = .ok ()) (name : String)
    (calls : List Transform) :
    ∃ results graph,
      (calls.mapM (Transform.wire state)).on (StageGraph.new .vertex name) =
        (.ok results, graph) ∧
      List.Forall₂ graph.Unfolds results (calls.map (Transform.term state)) ∧
      (∀ call : Transform, ∃ v after, (call.wire state).on graph = (.ok v, after) ∧
        after.Unfolds v (call.term state)) ∧
      ∀ requested : List (String × DataType),
        (∀ entry ∈ requested, knownVarying? entry.1 = some entry.2) →
        (requested.map Prod.fst).Nodup →
          ∃ final, (main state requested).on graph = (.ok (), final) ∧
            List.Forall₂ final.Unfolds results (calls.map (Transform.term state)) ∧
            final.Unfolds clipPosition (positionTerm state) ∧
            final.Unfolds sizeOfPoints (pointSizeTerm state) ∧
            ∀ entry ∈ requested, varyingVariable entry ∈ final.roots ∧
              ∃ t, varyingTerm? state entry.1 = some t ∧
              final.Unfolds (varyingVariable entry) t := by
  obtain ⟨results, draft, called, _, outputs, targets, holds⟩ :=
    denotes_calls valid (Draft.empty (vocabulary state) name) calls
  refine ⟨results, draft.graph, called, holds.imp fun _ _ => Draft.Holds.unfolds, ?_, ?_⟩
  · intro call
    obtain ⟨v, later, done, _, _, _, stands⟩ := denotes_transform valid draft call
    exact ⟨v, later.graph, done, stands.unfolds⟩
  · intro requested known distinct
    obtain ⟨later, done, leads, complete⟩ :=
      exists_main_of_known valid outputs targets known distinct
    refine ⟨later.graph, done, ?_, complete.position.unfolds, complete.size.unfolds, ?_⟩
    · exact holds.imp fun _ _ stands => (stands.mono leads).unfolds
    · intro entry member
      obtain ⟨root, t, carried, stands⟩ := complete.varyings _ (List.mem_map_of_mem member)
      exact ⟨root, t, carried, stands.unfolds⟩

/-- A render state that morphs and skins tangents. -/
def twisted : RenderState where
  skin := some { boneCount := 2 }
  morph := some { targetCount := 3, targetNames := ["Tangent"] }

/-- A tangent that is morphed and skinned, asked for before and after its parts, and a varying
whose number is written with a sign. -/
theorem unfolds_in_any_order_twisted : twisted.validate = .ok () ∧
    ∃ results graph, ([.inSpace .view .tangent, .morph .tangent, .targetWeights "Vertex",
        .inSpace .view .tangent].mapM (Transform.wire twisted)).on (StageGraph.new .vertex "") =
          (.ok results, graph) ∧
      ∃ final, (main twisted [("vTexCoord+1", .vec2), ("vModelTangent", .vec4)]).on graph =
          (.ok (), final) ∧
        final.Unfolds { name := "vTexCoord+1", type := .vec2, storage := .varying }
          (copyTerm (.attr .vec2 "TexCoord1") .vec2) ∧
        final.Unfolds { name := "vModelTangent", type := .vec4, storage := .varying }
          (copyTerm (spaceTerm twisted .model .tangent) .vec4) := by
  have valid : twisted.validate = .ok () := rfl
  obtain ⟨results, graph, called, _, _, wires⟩ := unfolds_in_any_order valid ""
    [.inSpace .view .tangent, .morph .tangent, .targetWeights "Vertex", .inSpace .view .tangent]
  have known : ∀ entry ∈ [("vTexCoord+1", DataType.vec2), ("vModelTangent", .vec4)],
      knownVarying? entry.1 = some entry.2 := by decide +kernel
  obtain ⟨final, done, _, _, _, varyings⟩ := wires _ known (by decide)
  refine ⟨valid, results, graph, called, final, done, ?_, ?_⟩
  · obtain ⟨_, t, carried, unfolds⟩ := varyings ("vTexCoord+1", .vec2) List.mem_cons_self
    cases carried
    exact unfolds
  · obtain ⟨_, t, carried, unfolds⟩ := varyings ("vModelTangent", .vec4)
      (List.mem_cons_of_mem _ List.mem_cons_self)
    cases carried
    exact unfolds

end Vertex
end ShaderLoom
