import ShaderLoom.Proofs.DeclarationOrder
import ShaderLoom.Proofs.TypedTerms
import ShaderLoom.Proofs.VaryingAgreement

/-!
# Helper calls match their definitions

The statements of a stage call functions that the language does not provide, and the helpers of
the stage define them.  In the shaders of a valid render state both sides agree.  Each such call
is answered by one definition, with parameters of the types of its arguments and a result of the
type of the variable that it assigns; and no helper is there that nothing calls.

Helpers are collected along with the statements, so what needs an argument is that no function
is defined twice.  Within a render state, a helper is determined by the name of any function
that it defines (`HelperFunction.eq_of_name`): there is one technique for shadows, one number of
bones and one number of morph targets.

## Main definitions

* `StageSource.definitions` — the functions that the helpers of a stage define
* `StageSource.HelpersMatch` — calls and definitions of a stage agree

## Main results

* `Wire.Draft.helpersMatch` — they do in every stage whose outputs are well typed
* `RenderState.helpers_match` — they do in both stages of every valid render state
-/

namespace ShaderLoom

/-- The functions that the helpers of a stage define, in order. -/
def StageSource.definitions (source : StageSource) : List Glsl.Signature :=
  source.helpers.flatMap fun helper => (Glsl.definitions? helper).getD []

/-- The helpers of a stage match what its statements call. -/
structure StageSource.HelpersMatch (graph : StageGraph) (source : StageSource) : Prop where
  /-- No two helpers are the same text. -/
  distinct : source.helpers.Nodup
  /-- Every helper consists of definitions, one of them of a function that a statement calls. -/
  called : ∀ helper ∈ source.helpers, ∃ signatures, Glsl.definitions? helper = some signatures ∧
    ∃ signature ∈ signatures, ∃ statement ∈ source.statements,
      signature.name ∈ Glsl.foreignCallees statement
  /-- What a statement calls is provided by the language or defined once, and then the statement
  is a call that agrees with the definition. -/
  defined : ∀ statement ∈ source.statements, ∀ function ∈ Glsl.foreignCallees statement,
    ∃ signature, source.definitions.filter (fun other => other.name == function) = [signature] ∧
      Glsl.Calls graph.table.symbols signature statement
  /-- Statement by statement, these are the calls of the nodes. -/
  nodes : ∃ nodes, Compiler.scheduledNodes graph = .ok nodes ∧
    List.Forall₂ (fun node statement =>
      Glsl.foreignCallees statement = node.operation.function?.toList) nodes source.statements

/-- What the statements call, one after the other, is what the nodes call. -/
theorem StageSource.HelpersMatch.flatMap_foreignCallees {graph : StageGraph}
    {source : StageSource} (agrees : source.HelpersMatch graph) :
    ∃ nodes, Compiler.scheduledNodes graph = .ok nodes ∧
      source.statements.flatMap Glsl.foreignCallees =
        nodes.flatMap fun node => node.operation.function?.toList := by
  obtain ⟨nodes, scheduled, calls⟩ := agrees.nodes
  refine ⟨nodes, scheduled, ?_⟩
  clear scheduled
  generalize source.statements = statements at calls
  induction calls with
  | nil => rfl
  | cons first _ ih => rw [List.flatMap_cons, List.flatMap_cons, first, ih]

/-! ## Names of functions -/

namespace HelperFunction

/-- The snippet that defines a function, by the first letter of its name; the last one tells
shadows from lights. -/
def snippetOf (name : String) : String :=
  match Wire.opening name, Wire.closing name with
  | ['c', _], some 'w' => "shadow"
  | ['c', _], _ => "lighting"
  | ['m', _], _ => "morphing"
  | ['b', _], _ => "billboard"
  | _, _ => "skinning"

theorem snippetOf_name (function : HelperFunction) : ∀ signature ∈ function.signatures,
    snippetOf signature.name = function.helper.snippet := by
  have literal : snippetOf "computeShadow" = "shadow" ∧ snippetOf "getBoneMat4" = "skinning" ∧
      snippetOf "skeletalTransform" = "skinning" ∧ snippetOf "billboard" = "billboard" := by
    decide +kernel
  obtain ⟨shadow, bone, skinning, billboard⟩ := literal
  cases function with
  | light kind => cases kind <;> decide +kernel
  | shadow technique => exact List.forall_mem_singleton.mpr shadow
  | skinning bones =>
      exact List.forall_mem_cons.mpr ⟨bone, List.forall_mem_singleton.mpr skinning⟩
  | morphing targets =>
      have opens : Wire.opening "morphTransform" = ['m', 'o'] := rfl
      have named : Wire.opening ("morphTransform" ++ toString targets) = ['m', 'o'] :=
        Wire.opening_append opens _
      refine List.forall_mem_singleton.mpr ?_
      change snippetOf ("morphTransform" ++ toString targets) = "morphing"
      rw [snippetOf, named]
      rfl
  | billboard => exact List.forall_mem_singleton.mpr billboard

theorem nodup_names (function : HelperFunction) :
    (function.signatures.map Glsl.Signature.name).Nodup := by
  cases function with
  | skinning bones => exact (by decide : ["getBoneMat4", "skeletalTransform"].Nodup)
  | _ => exact List.nodup_singleton _

variable {state : RenderState} {a b : HelperFunction}

/-- A render state calls one function of a snippet, except for lights. -/
theorem eq_of_snippet (mayA : state.MayCall a) (mayB : state.MayCall b)
    (same : a.helper.snippet = b.helper.snippet) :
    a = b ∨ ∃ first second, a = light first ∧ b = light second := by
  cases a <;> cases b <;> simp [helper] at same
  -- Two functions of one kind remain, and the render state settles what they are made for.
  case light.light first second => exact .inr ⟨first, second, rfl, rfl⟩
  case shadow.shadow => exact .inl (congrArg shadow (Option.some.inj (mayA.symm.trans mayB)))
  case skinning.skinning => exact .inl (congrArg skinning (mayA.trans mayB.symm))
  case morphing.morphing =>
      obtain ⟨morph, active, rfl⟩ := mayA
      obtain ⟨other, activeToo, rfl⟩ := mayB
      rw [Option.some.inj (active.symm.trans activeToo)]
      exact .inl rfl
  case billboard.billboard => exact .inl rfl

/-- **The name of a function determines the helper**, within a render state. -/
theorem eq_of_name (mayA : state.MayCall a) (mayB : state.MayCall b) {s t : Glsl.Signature}
    (memberA : s ∈ a.signatures) (memberB : t ∈ b.signatures) (same : s.name = t.name) :
    a = b := by
  have snippets : a.helper.snippet = b.helper.snippet := by
    rw [← a.snippetOf_name s memberA, ← b.snippetOf_name t memberB, same]
  rcases eq_of_snippet mayA mayB snippets with equal | ⟨first, second, rfl, rfl⟩
  · exact equal
  · cases List.mem_singleton.mp memberA
    cases List.mem_singleton.mp memberB
    have distinct : ∀ first second : LightKind, first.function = second.function →
        first = second := by
      rintro (_ | _ | _ | _) (_ | _ | _ | _) <;> decide +kernel
    rw [distinct first second same]

/-- So does the helper. -/
theorem eq_of_helper (mayA : state.MayCall a) (mayB : state.MayCall b)
    (same : a.helper = b.helper) : a = b := by
  have snippets := congrArg Helper.snippet same
  rcases eq_of_snippet mayA mayB snippets with equal | ⟨first, second, rfl, rfl⟩
  · exact equal
  · have distinct : ∀ first second : LightKind, (light first).helper = (light second).helper →
        first = second := by
      rintro (_ | _ | _ | _) (_ | _ | _ | _) <;> decide +kernel
    rw [distinct first second same]

end HelperFunction

/-! ## Helpers and their texts -/

/-- A text consists of the definitions of a function that the shaders of a render state may
call. -/
def RenderState.Defines (state : RenderState) (helper : Helper) (text : String) : Prop :=
  ∃ function, state.MayCall function ∧ helper = function.helper ∧
    Glsl.definitions? text = some function.signatures

/-- **Different helpers define different functions.** -/
theorem RenderState.nodup_definitions {state : RenderState} {helpers : List Helper}
    {texts : List String} (defines : List.Forall₂ state.Defines helpers texts)
    (distinct : helpers.Nodup) : texts.Nodup ∧
      ((texts.flatMap fun text => (Glsl.definitions? text).getD []).map
        Glsl.Signature.name).Nodup := by
  induction defines with
  | nil => exact ⟨.nil, .nil⟩
  | @cons helper text helpers texts first rest ih =>
      obtain ⟨new, later⟩ := List.nodup_cons.mp distinct
      obtain ⟨textsDistinct, namesDistinct⟩ := ih later
      obtain ⟨function, may, rfl, defined⟩ := first
      -- A name that is defined again would be defined by the same helper.
      have apart : ∀ other ∈ texts, ∀ s ∈ function.signatures,
          ∀ t ∈ (Glsl.definitions? other).getD [], s.name ≠ t.name := by
        intro other member s memberS t memberT same
        obtain ⟨_, among, again, mayToo, rfl, definedToo⟩ :=
          exists_of_mem_forall₂ rest other member
        rw [definedToo, Option.getD_some] at memberT
        rw [HelperFunction.eq_of_name may mayToo memberS memberT same] at new
        exact new among
      refine ⟨List.nodup_cons.mpr ⟨fun member => ?_, textsDistinct⟩, ?_⟩
      · have defines := function.signature_mem_signatures
        refine apart text member _ defines _ ?_ rfl
        rw [defined]
        exact defines
      · rw [List.flatMap_cons, defined, Option.getD_some, List.map_append]
        refine List.Nodup.append function.nodup_names namesDistinct ?_
        intro name here there
        obtain ⟨s, memberS, rfl⟩ := List.mem_map.mp here
        obtain ⟨t, memberT, same⟩ := List.mem_map.mp there
        obtain ⟨other, member, among⟩ := List.mem_flatMap.mp memberT
        exact apart other member s memberS t among same.symm

/-- Where names are distinct, each is that of one signature. -/
theorem Glsl.filter_name_eq {signatures : List Glsl.Signature}
    (distinct : (signatures.map Glsl.Signature.name).Nodup) {signature : Glsl.Signature}
    (member : signature ∈ signatures) :
    signatures.filter (fun other => other.name == signature.name) = [signature] := by
  induction signatures with
  | nil => cases member
  | cons first rest ih =>
      obtain ⟨new, later⟩ := List.nodup_cons.mp distinct
      rcases List.mem_cons.mp member with rfl | among
      · rw [List.filter_cons, if_pos (beq_self_eq_true _), List.filter_eq_nil_iff.mpr]
        intro other behind same
        exact new (List.mem_map.mpr ⟨other, behind, beq_iff_eq.mp same⟩)
      · rw [List.filter_cons_of_neg, ih later among]
        intro same
        exact new (List.mem_map.mpr ⟨signature, among, (beq_iff_eq.mp same).symm⟩)

/-! ## Statements and their calls -/

namespace Node

variable {state : RenderState} {symbols : List Variable} {nodes : List Node}
  {parts : List Lowered} (voices : List.Forall₂ (Voices state symbols) nodes parts)
include voices

/-- Statement by statement, what is called is what the nodes call. -/
theorem forall₂_foreignCallees : List.Forall₂ (fun node statement =>
    Glsl.foreignCallees statement = node.operation.function?.toList) nodes
      (parts.flatMap Lowered.statements) := by
  induction voices with
  | nil => exact .nil
  | cons first _ ih =>
      obtain ⟨function?, _, called, statement, speaks⟩ := first
      rw [List.flatMap_cons, speaks.statements]
      refine .cons ?_ ih
      rw [speaks.callees, called]

/-- Every helper is for a call. -/
theorem exists_call_of_helper {helper : Helper}
    (member : helper ∈ parts.flatMap Lowered.helpers) :
    ∃ function, state.MayCall function ∧ helper = function.helper ∧
      ∃ statement ∈ parts.flatMap Lowered.statements,
        function.signature.name ∈ Glsl.foreignCallees statement := by
  obtain ⟨part, among, inside⟩ := List.mem_flatMap.mp member
  obtain ⟨_, _, function?, may, _, statement, speaks⟩ := exists_of_mem_forall₂ voices part among
  rw [speaks.helpers, Option.mem_toList] at inside
  obtain ⟨function, rfl, rfl⟩ := Option.map_eq_some_iff.mp inside
  refine ⟨function, may function rfl, rfl, statement, ?_, ?_⟩
  · exact List.mem_flatMap.mpr
      ⟨part, among, by rw [speaks.statements]; exact List.mem_cons_self⟩
  · rw [speaks.callees]
    exact List.mem_cons_self

/-- Every call comes with a helper. -/
theorem exists_helper_of_call {statement : String}
    (member : statement ∈ parts.flatMap Lowered.statements) {callee : String}
    (called : callee ∈ Glsl.foreignCallees statement) :
    ∃ function, state.MayCall function ∧ function.signature.name = callee ∧
      function.helper ∈ parts.flatMap Lowered.helpers ∧
      Glsl.Calls symbols function.signature statement := by
  obtain ⟨part, among, inside⟩ := List.mem_flatMap.mp member
  obtain ⟨_, _, function?, may, _, spoken, speaks⟩ := exists_of_mem_forall₂ voices part among
  rw [speaks.statements] at inside
  cases List.mem_singleton.mp inside
  rw [speaks.callees, Option.mem_toList] at called
  obtain ⟨function, rfl, rfl⟩ := Option.map_eq_some_iff.mp called
  refine ⟨function, may function rfl, rfl, ?_, speaks.calls function rfl⟩
  exact List.mem_flatMap.mpr ⟨part, among, by rw [speaks.helpers]; exact List.mem_cons_self⟩

end Node

/-! ## Stages -/

namespace Compiler

variable {compiler : Compiler} {state : RenderState}

/-- Rendered helpers define their functions. -/
theorem forall₂_defines (plain : compiler.library = {})
    (bounded : ∀ function, state.MayCall function → function.Bounded) {helpers : List Helper}
    {texts : List String} (rendered : helpers.mapM compiler.renderHelper = .ok texts)
    (known : ∀ helper ∈ helpers,
      ∃ function, state.MayCall function ∧ helper = function.helper) :
    List.Forall₂ state.Defines helpers texts := by
  refine forall₂_imp_of_mem (fun helper member text done => ?_) (forall₂_of_mapM rendered)
  obtain ⟨function, may, rfl⟩ := known helper member
  have defined := HelperFunction.definitions?_of_render (bounded function may) plain done
  exact ⟨function, may, rfl, defined⟩

/-- **Helpers match the statements they were collected with.** -/
theorem helpersMatch_of_voices (plain : compiler.library = {})
    (bounded : ∀ function, state.MayCall function → function.Bounded) {graph : StageGraph}
    {nodes : List Node} (scheduled : scheduledNodes graph = .ok nodes) {stage : Stage}
    {name : String} {source : StageSource}
    (done : compiler.compileNodes stage name nodes = .ok source)
    (voices : ∀ node ∈ nodes, ∀ lowered, node.lower compiler.registry = .ok lowered →
      node.Voices state graph.table.symbols lowered) : source.HelpersMatch graph := by
  obtain ⟨parts, lowers, statements, rendered, _⟩ := exists_of_compileNodes done
  have voices : List.Forall₂ (Node.Voices state graph.table.symbols) nodes parts :=
    forall₂_imp_of_mem voices (forall₂_of_mapM lowers)
  have defines : List.Forall₂ state.Defines (parts.flatMap Lowered.helpers).eraseDups
      source.helpers := by
    refine forall₂_defines plain bounded rendered fun helper member => ?_
    obtain ⟨function, may, same, _⟩ :=
      Node.exists_call_of_helper voices (List.mem_eraseDups.mp member)
    exact ⟨function, may, same⟩
  obtain ⟨distinct, names⟩ := state.nodup_definitions defines (nodup_eraseDups _)
  refine ⟨distinct, fun text member => ?_, fun statement member callee called => ?_,
    nodes, scheduled, statements ▸ Node.forall₂_foreignCallees voices⟩
  · obtain ⟨helper, among, function, may, rfl, defined⟩ :=
      exists_of_mem_forall₂ defines text member
    obtain ⟨same, mayToo, equal, called⟩ :=
      Node.exists_call_of_helper voices (List.mem_eraseDups.mp among)
    cases HelperFunction.eq_of_helper may mayToo equal
    rw [statements]
    exact ⟨_, defined, function.signature, function.signature_mem_signatures, called⟩
  · rw [statements] at member
    obtain ⟨function, may, rfl, needed, calls⟩ :=
      Node.exists_helper_of_call voices member called
    refine ⟨function.signature, Glsl.filter_name_eq names ?_, calls⟩
    obtain ⟨text, among, same, mayToo, equal, defined⟩ :=
      exists_of_mem_forall₂ defines.flip _ (List.mem_eraseDups.mpr needed)
    cases HelperFunction.eq_of_helper may mayToo equal
    refine List.mem_flatMap.mpr ⟨text, among, ?_⟩
    rw [defined]
    exact function.signature_mem_signatures

end Compiler

namespace Wire
namespace Draft

variable {V : Vocabulary} {name : String} (draft : Draft V name) [draft.Spelled] [draft.Single]
  {state : RenderState} (bounded : ∀ function, state.MayCall function → function.Bounded)
  (roots : ∀ root ∈ draft.graph.requiredRoots, (draft.term root).Sound state)
include bounded roots

/-- Scheduled nodes call what their operations say, with arguments of the right types. -/
theorem voices_of_scheduled {order : List NodeId} (scheduled : draft.graph.schedule = .ok order)
    {registry : Registry} : ∀ node ∈ order.filterMap draft.graph.resolvedNode?, ∀ lowered,
      node.lower registry = .ok lowered →
      node.Voices state draft.graph.table.symbols lowered := by
  intro node member lowered done
  have simple := draft.simple_of_scheduled member
  obtain ⟨⟨slot, out⟩, output⟩ := simple.output
  have writes : out ∈ node.writes := by
    rw [Node.writes, output]
    exact List.mem_cons_self
  have declared := draft.writes_subset_symbols member writes
  exact (draft.applies_of_scheduled scheduled roots member output).lower bounded
    draft.isSlotPart_name simple output declared
    (Single.single out declared (draft.not_readable_of_writes member writes)) done

/-- **Helper calls match their definitions** in every stage whose outputs are well typed. -/
theorem helpersMatch {compiler : Compiler} (plain : compiler.library = {})
    {source : StageSource} (compiled : compiler.compile draft.graph = .ok source) :
    source.HelpersMatch draft.graph := by
  obtain ⟨order, scheduled, done⟩ := Compiler.exists_of_compile compiled
  have nodes : Compiler.scheduledNodes draft.graph =
      .ok (order.filterMap draft.graph.resolvedNode?) := by
    rw [Compiler.scheduledNodes, scheduled]
    rfl
  exact Compiler.helpersMatch_of_voices plain bounded nodes done
    (draft.voices_of_scheduled bounded roots scheduled)

end Draft
end Wire

namespace RenderState

theorem bounded_of_mayCall {state : RenderState} (valid : state.validate = .ok ()) :
    ∀ function, state.MayCall function → function.Bounded := by
  rintro function may targets rfl
  obtain ⟨morph, active, rfl⟩ := may
  exact Vertex.targetCount_le valid active

/-- **Helper calls match their definitions.**  Both stages of a valid render state can be wired,
and compiled with the built-in snippets, whatever the registry and the settings.  In each stage
the texts of the helpers are distinct, and each of them consists of definitions, one of them of
a function that a statement calls.  Every function that a statement calls and that the language
does not provide is defined by the helpers exactly once.  The statement then assigns what the
function gives to a variable of the type of its result, and passes as many arguments as there
are parameters, in order and of their types.  The functions called are those of the nodes,
statement by statement.  The names of a table are distinct, so that they tell the types of
variables. -/
theorem helpers_match {state : RenderState} (valid : state.validate = .ok ()) (name : String) :
    ∃ stages, state.stages name = .ok stages ∧
      stages.vertex.table.names.Nodup ∧ stages.fragment.table.names.Nodup ∧
      ∀ registry settings, ∃ sources,
        Compiler.compileStages { registry, settings } stages = .ok sources ∧
        sources.vertex.HelpersMatch stages.vertex ∧
        sources.fragment.HelpersMatch stages.fragment := by
  obtain ⟨wired⟩ := state.nonempty_wired valid name
  refine ⟨_, wired.stages, StageGraph.nodup_names_build _ _ _,
    StageGraph.nodup_names_build _ _ _, fun registry settings => ?_⟩
  have plain : ({ registry, settings } : Compiler).library = {} := rfl
  obtain ⟨sources, compiled⟩ := wired.exists_compileStages plain
  obtain ⟨vertex, fragment⟩ := Compiler.compile_of_compileStages compiled
  have bounded := bounded_of_mayCall valid
  exact ⟨sources, compiled, wired.vertex.helpersMatch bounded wired.sound_vertex plain vertex,
    wired.fragment.helpersMatch bounded wired.sound_fragment plain fragment⟩

/-- Positions and normals are morphed by calls of one function, which is defined once. -/
theorem helpers_match_lavish : lavish.validate = .ok () ∧
    ∃ stages, lavish.stages "lavish" = .ok stages ∧
      ∃ sources, Compiler.compileStages {} stages = .ok sources ∧
        sources.vertex.HelpersMatch stages.vertex ∧
        sources.fragment.HelpersMatch stages.fragment ∧
        sources.vertex.statements.flatMap Glsl.foreignCallees =
          ["skeletalTransform", "morphTransform4", "morphTransform4"] ∧
        sources.fragment.statements.flatMap Glsl.foreignCallees =
          ["computeSpotLight", "computeShadow", "computeHemiLight"] := by
  have valid : lavish.validate = .ok () := rfl
  obtain ⟨stages, found, _, _, compiles⟩ := helpers_match valid "lavish"
  obtain ⟨sources, compiled, vertex, fragment⟩ := compiles [] {}
  refine ⟨valid, stages, found, sources, compiled, vertex, fragment, ?_⟩
  obtain ⟨vertexNodes, vertexScheduled, vertexCalls⟩ := vertex.flatMap_foreignCallees
  obtain ⟨fragmentNodes, fragmentScheduled, fragmentCalls⟩ := fragment.flatMap_foreignCallees
  have listed : (lavish.stages "lavish").toOption.map (fun stages =>
      [stages.vertex, stages.fragment].map fun graph =>
        (Compiler.scheduledNodes graph).toOption.map fun nodes =>
          nodes.flatMap fun node => node.operation.function?.toList) =
      some [some ["skeletalTransform", "morphTransform4", "morphTransform4"],
        some ["computeSpotLight", "computeShadow", "computeHemiLight"]] := by
    decide +kernel
  rw [found] at listed
  simp only [Except.toOption, Option.map_some, List.map_cons, List.map_nil, vertexScheduled,
    fragmentScheduled, Option.some.injEq, List.cons.injEq, and_true] at listed
  rw [vertexCalls, fragmentCalls]
  exact listed

end RenderState

end ShaderLoom
