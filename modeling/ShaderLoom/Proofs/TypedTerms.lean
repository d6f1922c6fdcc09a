import ShaderLoom.Proofs.CallStatements
import ShaderLoom.Proofs.Generation

/-!
# The terms of render states are well typed

Every operation in the terms that the stages of a render state compute is applied to operands of
the right types (`Applies`), all the way down to the inputs.  This is seen from the terms alone,
part by part.  Since a scheduled node computes a part of the term of some output, it carries
over to scheduled nodes, whose operands are variables in place of terms
(`Wire.Draft.applies_of_scheduled`).

## Main definitions

* `Term.Every` — properties of all operations in a term
* `Term.Typed` — well-typed terms of a type

## Main results

* `Fragment.typed_colorTerm`, `Vertex.typed_positionTerm`, `Vertex.typed_varyingTerm` — the
  outputs of both stages
* `Wire.Draft.applies_of_scheduled` — scheduled nodes are applied to operands of the right types
-/

namespace ShaderLoom

open Glsl (Familiar)

/-! ## Terms -/

namespace Term

/-- All operations in a term have a property. -/
inductive Every (holds : Operation → List (String × Term) → DataType → Prop) : Term → Prop
  | input (v : Variable) : Every holds (.input v)
  | literal (text : String) : Every holds (.literal text)
  | apply {operation : Operation} {arguments : List (String × Term)} {slot : String}
      {type : DataType} (here : holds operation arguments type)
      (inside : ∀ argument ∈ arguments, Every holds argument.2) :
    Every holds (.apply operation arguments slot type)

/-- A term is the value of a variable of a type. -/
def Stands (t : Term) (type : DataType) : Prop :=
  t.type? = some type ∧ ∀ v, t = .input v → v.arrayLength = none

/-- A term is an expression that calls nothing but what the language provides. -/
def Utters (t : Term) : Prop :=
  ∃ text, t = .literal text ∧ Familiar text

/-- All operations in a term are applied to operands of the right types. -/
def Sound (state : RenderState) (t : Term) : Prop :=
  t.Every (Applies state Stands Utters)

/-- Such a term that is the value of a variable of a type. -/
structure Typed (state : RenderState) (t : Term) (type : DataType) : Prop where
  sound : t.Sound state
  stands : t.Stands type

variable {state : RenderState}

theorem typed_input {v : Variable} (single : v.arrayLength = none) :
    (Term.input v).Typed state v.type := by
  refine ⟨.input v, rfl, fun w same => ?_⟩
  cases same
  exact single

theorem typed_attr (type : DataType) (name : String) : (attr type name).Typed state type :=
  typed_input rfl

theorem typed_uniform (type : DataType) (name : String) :
    (uniform type name).Typed state type :=
  typed_input rfl

theorem typed_varying (type : DataType) (name : String) :
    (varying type name).Typed state type :=
  typed_input rfl

/-- Both operands of an operation have types. -/
theorem typed_pair {a b : String × Term} {s t : DataType} (first : a.2.Typed state s)
    (second : b.2.Typed state t) : ∀ argument ∈ [a, b], ∃ type, argument.2.Typed state type :=
  List.forall_mem_cons.mpr ⟨⟨s, first⟩, List.forall_mem_singleton.mpr ⟨t, second⟩⟩

section Apply

variable {operation : Operation} {arguments : List (String × Term)} {slot : String}
  {type : DataType}

theorem typed_apply (applies : Applies state Stands Utters operation arguments type)
    (inside : ∀ argument ∈ arguments, argument.2.Sound state) :
    (apply operation arguments slot type).Typed state type :=
  ⟨.apply applies inside, rfl, fun _ same => by cases same⟩

theorem typed_plain (plain : operation.isPlain = true)
    (known : ∀ argument ∈ arguments, ∃ type, argument.2.Typed state type) :
    (apply operation arguments slot type).Typed state type := by
  refine typed_apply (.plain plain fun argument member => ?_) fun argument member => ?_
  · obtain ⟨type, typed⟩ := known argument member
    exact .inr ⟨type, typed.stands⟩
  · obtain ⟨type, typed⟩ := known argument member
    exact typed.sound

theorem typed_code {code : String} (familiar : Node.isFamiliar false [] code.toList = true)
    (known : ∀ argument ∈ arguments, ∃ type, argument.2.Typed state type) :
    (apply (.inlineCode code) arguments slot type).Typed state type := by
  refine typed_apply (.code familiar fun argument member => ?_) fun argument member => ?_
  · obtain ⟨type, typed⟩ := known argument member
    exact ⟨type, typed.stands⟩
  · obtain ⟨type, typed⟩ := known argument member
    exact typed.sound

theorem typed_call {function : HelperFunction} (may : state.MayCall function)
    (types : List.Forall₂ (fun argument => argument.2.Typed state) arguments
      function.signature.parameters) :
    (apply (.call function.signature.name (some function.helper)) arguments slot
      function.signature.result).Typed state function.signature.result := by
  refine typed_apply (.call may (types.imp fun _ _ typed => typed.stands)) ?_
  generalize function.signature.parameters = parameters at types
  induction types with
  | nil => exact List.forall_mem_nil _
  | cons first _ ih => exact List.forall_mem_cons.mpr ⟨first.sound, ih⟩

end Apply

theorem typed_product {a b : Term} {s t : DataType} (first : a.Typed state s)
    (second : b.Typed state t) (type : DataType) : (product a b type).Typed state type :=
  typed_code (by decide) (typed_pair first second)

theorem typed_normalized {vector : Term} {t : DataType} (typed : vector.Typed state t)
    (type : DataType) : (normalized vector type).Typed state type :=
  typed_plain rfl (List.forall_mem_singleton.mpr ⟨t, typed⟩)

end Term

/-! ## The fragment stage -/

namespace Fragment

open Term

variable (state : RenderState)

theorem typed_sampleTerm (texture : Texture) : (sampleTerm texture).Typed state .vec4 :=
  typed_plain rfl (typed_pair (typed_uniform _ _) (typed_varying _ _))

theorem typed_baseTerm : (baseTerm state).Typed state .vec4 := by
  rw [baseTerm]
  split
  · exact typed_product (typed_uniform _ _) (typed_varying _ _) _
  · exact typed_uniform _ _

theorem typed_texturedTerm {color : Term} (typed : color.Typed state .vec4)
    (textures : List Texture) : (texturedTerm color textures).Typed state .vec4 := by
  induction textures generalizing color with
  | nil => exact typed
  | cons texture textures ih =>
      exact ih (typed_product typed (typed_sampleTerm state texture) _)

theorem typed_normalTerm : normalTerm.Typed state .vec3 :=
  typed_normalized (typed_varying _ _) _

/-- A light is computed from operands of the types that its function takes. -/
theorem typed_diffuseTerm (index : Nat) (kind : LightKind) :
    (diffuseTerm index kind).Typed state .vec3 := by
  have may : state.MayCall (.light kind) := trivial
  refine typed_call may (.cons (typed_normalTerm state) (.cons (typed_varying _ _) ?_))
  rw [List.forall₂_map_left_iff, List.forall₂_map_right_iff]
  exact List.forall₂_same.mpr fun parameter _ => typed_uniform _ _

/-- A shadow is computed by the technique that the render state receives. -/
theorem typed_shadowTerm {technique : ShadowTechnique}
    (receives : state.shadow = some technique) (index : Nat) :
    (shadowTerm index technique).Typed state .float := by
  have may : state.MayCall (.shadow technique) := receives
  refine typed_call may (.cons (typed_uniform _ _) (.cons ?_
    (.cons (typed_uniform _ _) (.cons (typed_uniform _ _) .nil))))
  exact typed_plain rfl (typed_pair (typed_uniform _ _) (typed_varying _ _))

theorem typed_lightTerm (light : Light) (index : Nat) :
    (lightTerm state.shadow light index).Typed state .vec3 := by
  rw [lightTerm]
  split
  · cases receives : state.shadow with
    | none => exact typed_diffuseTerm state index light.kind
    | some technique =>
        exact typed_product (typed_diffuseTerm state index light.kind)
          (typed_shadowTerm state receives index) _
  · exact typed_diffuseTerm state index light.kind

/-- The code of a sum has no parenthesis, however many lights there are. -/
theorem typed_lightSumTerm : (lightSumTerm state).Typed state .vec3 := by
  refine typed_code (Node.isFamiliar_of_not_mem ?_ false []) fun argument member => ?_
  · simp only [String.toList_append, List.mem_append, not_or]
    refine ⟨⟨by decide, Text.not_mem_intercalate (by decide) fun text among => ?_⟩, by decide⟩
    obtain ⟨argument, member, rfl⟩ := List.mem_map.mp among
    obtain ⟨entry, _, rfl⟩ := List.mem_map.mp member
    rw [String.toList_append, List.mem_append, not_or]
    exact ⟨by decide, fun opens =>
      Text.ne_of_isSlotPart (isSlotPart_lightSlot entry.2 '(' opens) (by decide) rfl⟩
  · obtain ⟨⟨term, position⟩, among, rfl⟩ := List.mem_map.mp member
    obtain ⟨⟨light, index⟩, _, rfl⟩ := List.mem_map.mp (List.fst_mem_of_mem_zipIdx among)
    exact ⟨.vec3, typed_lightTerm state light index⟩

theorem typed_litTerm {color sum : Term} (colored : color.Typed state .vec4)
    (summed : sum.Typed state .vec3) : (litTerm color sum).Typed state .vec4 :=
  typed_code (by decide +kernel) (typed_pair colored summed)

/-- **The color of a fragment is well typed.** -/
theorem typed_colorTerm : (colorTerm state).Typed state .vec4 := by
  have textured := typed_texturedTerm state (typed_baseTerm state) state.activeTextures
  rw [colorTerm]
  split
  · exact textured
  · exact typed_litTerm state textured (typed_lightSumTerm state)

end Fragment

/-! ## The vertex stage -/

namespace Vertex

open Term

variable (state : RenderState)

theorem typed_weightsTerm (stream : String) : (weightsTerm stream).Typed state .vec4 := by
  rw [weightsTerm]
  split
  · exact typed_code (by decide +kernel) (List.forall_mem_singleton.mpr ⟨_, typed_uniform _ _⟩)
  · exact typed_uniform _ _

/-- Streams are morphed towards as many targets as the active morph has. -/
theorem mayCall_morphing {stream : String} {count : Nat}
    (counted : targetCount? state stream = some count) : state.MayCall (.morphing count) := by
  obtain ⟨morph, active, rfl⟩ := Option.map_eq_some_iff.mp counted
  exact ⟨morph, (Option.filter_eq_some_iff.mp active).1, rfl⟩

theorem typed_raw (quantity : Quantity) :
    (Term.input quantity.raw).Typed state quantity.type :=
  typed_input rfl

/-- What is morphed has three or four components, and so have the targets. -/
theorem stands_vec3_or_vec4 {quantity : Quantity} {t : Term}
    (typed : t.Typed state quantity.type) : t.Stands .vec3 ∨ t.Stands .vec4 := by
  cases quantity with
  | vertex => exact .inl typed.stands
  | normal => exact .inl typed.stands
  | tangent => exact .inr typed.stands

theorem typed_morphTerm (quantity : Quantity) :
    ∃ type, (morphTerm state quantity).Typed state type := by
  rw [morphTerm]
  split
  · exact ⟨_, typed_raw state quantity⟩
  · rename_i count counted
    have raw := typed_raw state quantity
    have weights := typed_weightsTerm state quantity.stream
    have targets : ∀ argument ∈ (List.range count).map fun i =>
        (s!"target{i}", attr quantity.type s!"{quantity.stream}_{i}"),
        argument.1 ≠ "weights" ∧ argument.2.Typed state quantity.type := by
      intro argument member
      obtain ⟨i, _, rfl⟩ := List.mem_map.mp member
      exact ⟨Node.target_ne_weights i, typed_attr _ _⟩
    refine ⟨.vec3, typed_apply (.morphing (mayCall_morphing state counted) ?_ ?_) ?_⟩
    · have other : "vertex" ≠ "weights" := by decide
      refine List.forall_mem_cons.mpr ⟨fun same => absurd same other,
        List.forall_mem_cons.mpr ⟨fun _ => weights.stands, fun argument member same => ?_⟩⟩
      exact absurd same (targets argument member).1
    · refine List.forall_mem_cons.mpr ⟨fun _ => stands_vec3_or_vec4 state raw,
        List.forall_mem_cons.mpr ⟨fun other => absurd rfl other, fun argument member _ => ?_⟩⟩
      exact stands_vec3_or_vec4 state (targets argument member).2
    · exact List.forall_mem_cons.mpr ⟨raw.sound, List.forall_mem_cons.mpr
        ⟨weights.sound, fun argument member => (targets argument member).2.sound⟩⟩

/-- The palette of the bones is an array, and the only operand that need not be a vector. -/
theorem typed_boneTerm : (boneTerm state).Typed state .mat4 := by
  have vectors : ∀ name, (attr .vec4 name).Typed state .vec4 := typed_attr .vec4
  refine typed_apply (.skinning rfl ?_) ?_
  · refine List.forall_mem_cons.mpr ⟨fun _ => (vectors _).stands, List.forall_mem_cons.mpr
      ⟨fun _ => (vectors _).stands, List.forall_mem_singleton.mpr fun other =>
        absurd rfl other⟩⟩
  · exact List.forall_mem_cons.mpr ⟨(vectors _).sound, List.forall_mem_cons.mpr
      ⟨(vectors _).sound, List.forall_mem_singleton.mpr (.input _)⟩⟩

theorem typed_skinTerm (quantity : Quantity) :
    ∃ type, (skinTerm state quantity).Typed state type := by
  rw [skinTerm]
  split
  · obtain ⟨_, morphed⟩ := typed_morphTerm state quantity
    have plain : quantity.skinning.isPlain = true := by cases quantity <;> rfl
    exact ⟨.vec3, typed_plain plain (typed_pair (typed_boneTerm state) morphed)⟩
  · exact typed_morphTerm state quantity

theorem typed_handedTerm {direction : Term} {type : DataType}
    (typed : direction.Typed state type) : (handedTerm direction).Typed state .vec4 :=
  typed_plain rfl (typed_pair (typed_normalized typed _) (typed_raw state .tangent))

theorem typed_localTerm (quantity : Quantity) :
    ∃ type, (localTerm state quantity).Typed state type := by
  obtain ⟨type, typed⟩ := typed_skinTerm state quantity
  cases quantity with
  | vertex => exact ⟨type, typed⟩
  | normal =>
      rw [localTerm]
      split
      · exact ⟨_, typed_normalized typed _⟩
      · exact ⟨_, typed_raw state .normal⟩
  | tangent =>
      rw [localTerm]
      split
      · exact ⟨_, typed_handedTerm state typed⟩
      · exact ⟨_, typed_raw state .tangent⟩

theorem typed_directionTerm (space : Space) {direction : Term} {type : DataType}
    (typed : direction.Typed state type) : (directionTerm space direction).Typed state .vec3 :=
  typed_plain rfl (typed_pair (typed_uniform _ _) typed)

theorem typed_spaceTerm (space : Space) (quantity : Quantity) :
    ∃ type, (spaceTerm state space quantity).Typed state type := by
  obtain ⟨type, typed⟩ := typed_localTerm state quantity
  cases quantity with
  | vertex =>
      exact ⟨.vec4, typed_plain rfl (typed_pair (typed_uniform _ _) typed)⟩
  | normal => exact ⟨_, typed_normalized (typed_directionTerm state space typed) _⟩
  | tangent => exact ⟨_, typed_handedTerm state (typed_directionTerm state space typed)⟩

theorem typed_copyTerm {source : Term} (known : ∃ type, source.Typed state type)
    (type : DataType) : (copyTerm source type).Typed state type :=
  typed_plain rfl (List.forall_mem_singleton.mpr known)

/-- **The clip position is well typed**, as a billboard too. -/
theorem typed_positionTerm : (positionTerm state).Typed state .vec4 := by
  rw [positionTerm]
  split
  · have vertex := typed_raw state .vertex
    have matrices : ∀ name, (uniform .mat4 name).Typed state .mat4 := typed_uniform .mat4
    refine typed_apply (.billboard ?_ ?_) ?_
    · exact List.forall_mem_cons.mpr ⟨fun _ => vertex.stands, List.forall_mem_cons.mpr
        ⟨fun same => absurd same (by decide), List.forall_mem_singleton.mpr
          fun same => absurd same (by decide)⟩⟩
    · exact List.forall_mem_cons.mpr ⟨fun other => absurd rfl other, List.forall_mem_cons.mpr
        ⟨fun _ => (matrices _).stands, List.forall_mem_singleton.mpr
          fun _ => (matrices _).stands⟩⟩
    · exact List.forall_mem_cons.mpr ⟨vertex.sound, List.forall_mem_cons.mpr
        ⟨(matrices _).sound, List.forall_mem_singleton.mpr (matrices _).sound⟩⟩
  · obtain ⟨_, viewed⟩ := typed_spaceTerm state .view .vertex
    exact typed_plain rfl (typed_pair (typed_uniform _ _) viewed)

theorem typed_pointSizeTerm : (pointSizeTerm state).Typed state .float := by
  rw [pointSizeTerm]
  split
  · exact typed_copyTerm state ⟨_, typed_uniform _ _⟩ _
  · have utters : (Term.literal "1.0").Utters := 
      ⟨"1.0", rfl, (List.forall_mem_nil _ : ∀ function ∈ [], function ∈ Glsl.provided)⟩
    exact typed_apply (.plain rfl (List.forall_mem_singleton.mpr (.inl utters)))
      (List.forall_mem_singleton.mpr (.literal _))

theorem typed_vertexColorTerm : vertexColorTerm.Typed state .vec4 :=
  typed_code (by decide +kernel) (typed_pair (typed_uniform _ _) (typed_attr _ _))

/-- **What varyings carry is well typed.** -/
theorem typed_varyingTerm {varying : String} {t : Term}
    (carried : varyingTerm? state varying = some t) : ∃ type, t.Typed state type := by
  have copies : ∀ space quantity type,
      (copyTerm (spaceTerm state space quantity) type).Typed state type :=
    fun space quantity => typed_copyTerm state (typed_spaceTerm state space quantity)
  have colored := typed_vertexColorTerm state
  rw [varyingTerm?] at carried
  iterate 6
    split at carried
    · cases carried
      exact ⟨_, copies _ _ _⟩
  split at carried
  · cases carried
    exact ⟨_, colored⟩
  · obtain ⟨set, _, rfl⟩ := Option.map_eq_some_iff.mp carried
    exact ⟨_, typed_copyTerm state ⟨_, typed_attr _ _⟩ _⟩

end Vertex

/-! ## Scheduled nodes -/

namespace Wire
namespace Draft

open StageGraph Relation

variable {V : Vocabulary} {name : String} (draft : Draft V name)

section Every

variable {holds : Operation → List (String × Term) → DataType → Prop}

/-- What a node reads is a part of what it produces. -/
theorem every_of_reads {v w : Variable} {p : NodeId} {node : Node}
    (source : p ∈ draft.graph.producers v) (found : draft.graph.node? p = some node)
    (reads : w ∈ node.reads) (every : (draft.term v).Every holds) :
    (draft.term w).Every holds := by
  obtain ⟨slot, type, applied⟩ := draft.term_of_producer source found
  obtain ⟨⟨input, operand⟩, member, same⟩ := List.mem_filterMap.mp reads
  cases operand with
  | literal text => cases same
  | read other =>
      cases same
      rw [applied] at every
      cases every with
      | apply _ inside => exact inside _ (List.mem_map_of_mem member)

/-- A node reads the same terms when its variables are replaced by what they are aliases of. -/
theorem map_inputs_mapReads (node : Node) :
    (node.mapReads draft.graph.resolve).inputs.map (fun entry =>
      (entry.1, Term.free.operand draft.term entry.2)) =
        node.inputs.map fun entry => (entry.1, Term.free.operand draft.term entry.2) := by
  have consistent : Consistent Term.free draft.term draft.graph :=
    consistent_build V.stage name draft.unfolding_term.output
  have same := consistent.result_mapReads node "" .float
  injection same

/-- **What holds throughout the terms of the outputs holds of scheduled nodes.** -/
theorem holds_of_scheduled {order : List NodeId} (scheduled : draft.graph.schedule = .ok order)
    (roots : ∀ root ∈ draft.graph.requiredRoots, (draft.term root).Every holds) {node : Node}
    (member : node ∈ order.filterMap draft.graph.resolvedNode?) {slot : String} {out : Variable}
    (output : node.outputs = [(slot, out)]) :
    holds node.operation
      (node.inputs.map fun entry => (entry.1, Term.free.operand draft.term entry.2))
        out.type := by
  obtain ⟨n, among, resolved⟩ := List.mem_filterMap.mp member
  obtain ⟨stored, found, rfl⟩ := Option.map_eq_some_iff.mp resolved
  rw [schedule_eq_foldlM draft.builtin?_isSome] at scheduled
  obtain ⟨root, required, p, source, reaches⟩ := (mem_of_foldlM scheduled n).mp among
  -- Along dependencies, from the node that produces the root down to this one.
  have part : ∃ v, n ∈ draft.graph.producers v ∧ (draft.term v).Every holds := by
    clear found among member resolved
    induction reaches with
    | refl => exact ⟨root, source, roots root required⟩
    | tail _ depends ih =>
        obtain ⟨v, produces, every⟩ := ih
        obtain ⟨_, above, found, w, reads, feeds⟩ := depends
        exact ⟨w, feeds, draft.every_of_reads produces found reads every⟩
  obtain ⟨v, produces, every⟩ := part
  obtain ⟨slot', type, applied⟩ := draft.term_of_producer produces found
  have typed : out.type = type := by
    obtain ⟨_, present, writes⟩ := mem_writers.mp produces
    rw [← node?, found] at present
    cases present
    have single : stored.outputs = [(slot, out)] := output
    rw [Node.writes, single, List.map_singleton, List.mem_singleton] at writes
    have same := draft.type?_term (draft.graph.resolve v)
    rw [draft.term_resolve, applied, writes] at same
    exact (Option.some.inj same).symm
  rw [draft.map_inputs_mapReads, typed]
  rw [applied] at every
  cases every with
  | apply here _ => exact here

end Every

/-- Variables that are no inputs hold single values. -/
class Single (draft : Draft V name) : Prop where
  single : ∀ v ∈ draft.graph.table.symbols, ¬ Readable V.stage v → v.arrayLength = none

/-- What stands for a value of a type is a variable of that type. -/
theorem carries_of_stands [flat : draft.Single] {operand : Operand} {type : DataType}
    (known : ∀ v, operand = .read v → v ∈ draft.graph.table.symbols)
    (stands : (Term.free.operand draft.term operand).Stands type) :
    operand.Carries draft.graph.table.symbols type := by
  obtain ⟨typed, input⟩ := stands
  cases operand with
  | literal text => cases typed
  | read v =>
      have declared := known v rfl
      have same : some v.type = some type := (draft.type?_term v).symm.trans typed
      refine ⟨v, declared, rfl, ?_, Option.some.inj same⟩
      by_cases readable : Readable V.stage v
      · exact input v (draft.term_of_readable readable)
      · exact flat.single v declared readable

/-- Only expressions stand for expressions. -/
theorem utters_of_utters {operand : Operand}
    (utters : (Term.free.operand draft.term operand).Utters) : operand.Utters := by
  obtain ⟨text, literal, familiar⟩ := utters
  cases operand with
  | literal other =>
      cases literal
      exact ⟨text, rfl, familiar⟩
  | read v =>
      have typed := draft.type?_term v
      rw [show draft.term v = .literal text from literal] at typed
      cases typed

/-- **Scheduled nodes are applied to operands of the right types**, if the outputs are well
typed. -/
theorem applies_of_scheduled [draft.Single] {state : RenderState} {order : List NodeId}
    (scheduled : draft.graph.schedule = .ok order)
    (roots : ∀ root ∈ draft.graph.requiredRoots, (draft.term root).Sound state) {node : Node}
    (member : node ∈ order.filterMap draft.graph.resolvedNode?) {slot : String} {out : Variable}
    (output : node.outputs = [(slot, out)]) :
    Applies state (Operand.Carries draft.graph.table.symbols) Operand.Utters node.operation
      node.inputs out.type := by
  refine Applies.of_map (fun entry among type stands => ?_) (fun entry _ utters => ?_)
    (draft.holds_of_scheduled scheduled roots member output)
  · refine draft.carries_of_stands (fun v same => ?_) stands
    refine draft.reads_subset_symbols member (List.mem_filterMap.mpr ⟨entry, among, ?_⟩)
    rw [same]
    rfl
  · exact draft.utters_of_utters utters

end Draft
end Wire

/-! ## The stages of render states -/

namespace RenderState.Wired

open Wire

variable {state : RenderState} {name : String} (wired : state.Wired name)

/-- Nothing in the fragment stage is an array. -/
instance : wired.fragment.Single where
  single := by
    have provided : ∀ v ∈ StageGraph.builtins .fragment, v.arrayLength = none := by decide
    intro v member _
    rcases wired.fragment.sound.known v member with builtin | ⟨_, _, flat⟩ | declares
    · exact provided v builtin
    · exact flat
    · cases declares with
      | varying demands => exact congrArg Variable.arrayLength demands.interface.eq_varying
      | _ => rfl

/-- The only array of the vertex stage is the palette of the bones, which is an input. -/
instance : wired.vertex.Single where
  single := by
    have provided : ∀ v ∈ StageGraph.builtins .vertex, v.arrayLength = none := by decide
    intro v member output
    rcases wired.vertex.sound.known v member with builtin | ⟨_, _, flat⟩ | interface | input
    · exact provided v builtin
    · exact flat
    · exact congrArg Variable.arrayLength interface.eq_varying
    · cases input with
      | palette => exact absurd (.inr (.inl rfl)) output
      | _ => rfl

/-- **The fragment stage has one output, the color, and it is well typed.** -/
theorem sound_fragment : ∀ root ∈ wired.fragment.graph.requiredRoots,
    (wired.fragment.term root).Sound state := by
  intro root required
  have output := wired.fragment.requiredRoots_subset_outputs wired.fragmentFinished required
  obtain ⟨written, external⟩ := List.mem_filter.mp output
  obtain ⟨declared, unread⟩ := wired.fragment.sound.writes root written
  rcases wired.fragment.sound.known root declared with builtin | ⟨temporary, _⟩ | declares
  · rw [List.mem_singleton.mp builtin]
    change (wired.fragment.term Fragment.fragColor).Sound state
    rw [wired.color]
    have colored := Fragment.typed_colorTerm state
    exact (Term.typed_plain rfl (List.forall_mem_singleton.mpr ⟨_, colored⟩)).sound
  · exact absurd temporary (bne_iff_ne.mp external)
  -- All other variables of the stage are inputs.
  · refine absurd ?_ unread
    cases declares with
    | varying demands =>
        exact .inr (.inr ⟨congrArg Variable.storage demands.interface.eq_varying, rfl⟩)
    | _ => exact .inr (.inl rfl)

/-- **The outputs of the vertex stage are well typed.** -/
theorem sound_vertex : ∀ root ∈ wired.vertex.graph.requiredRoots,
    (wired.vertex.term root).Sound state := by
  intro root required
  have complete := wired.vertexComplete
  have output := wired.vertex.requiredRoots_subset_outputs wired.vertexFinished required
  rw [complete.outputs] at output
  rcases List.mem_append.mp output with builtin | varying
  · rcases List.mem_cons.mp builtin with rfl | position
    · rw [complete.size.2]
      exact (Vertex.typed_pointSizeTerm state).sound
    · rw [List.mem_singleton.mp position, complete.position.2]
      exact (Vertex.typed_positionTerm state).sound
  · obtain ⟨_, t, carried, holds⟩ := complete.varyings root varying
    obtain ⟨type, typed⟩ := Vertex.typed_varyingTerm state carried
    rw [holds.2]
    exact typed.sound

end RenderState.Wired
end ShaderLoom
