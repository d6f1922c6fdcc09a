import ShaderLoom.Proofs.DeclaredVariables
import ShaderLoom.Proofs.SharedBlocks

/-!
# Uniform blocks match the generated shaders

The uniforms of lights, morph weights and bones are described twice: by the blocks that hold
their default values, and by the wiring of the stages that read them.  Both descriptions agree.

The color of a fragment is a term, and its leaves among the uniforms of lights are the
parameters of the active lights, each under the index of its light
(`Fragment.uses_colorTerm_iff`).  The outputs of the vertex stage are terms as well, and they
start from morph weights only under an active morph with targets, and from a bone palette only
under an active skin (`Vertex.Supplied`).  On the other side, blocks are shared between render
states, which is not noticed since the key of a block tells its contents
(`UniformTable.blocksAfter_eq`).

## Main definitions

* `Fragment.LightUniform`, `Vertex.FeatureUniform` — the uniforms of the features, as variables
* `UniformDescriptor.variable` — the variable that a descriptor is for

## Main results

* `RenderState.nodup_names_uniformBlocks` — descriptors have distinct names
* `RenderState.uniforms_agree` — the blocks match the generated shaders
-/

namespace ShaderLoom

open Wire (opening opening_append Readable)

/-! ## Uniforms of lights -/

namespace Fragment

/-- The uniforms of the active lights. -/
def LightUniform (state : RenderState) (v : Variable) : Prop :=
  ∃ index light, state.activeLights[index]? = some light ∧
    ∃ parameter ∈ light.kind.parameters,
      v = { name := lightUniform index parameter.1, type := parameter.2, storage := .uniform }

/-- How the uniform of a light is spelled. -/
theorem toList_lightUniform (index : Nat) (parameter : String) :
    (lightUniform index parameter).toList =
      "uLight".toList ++ (Nat.toDigits 10 index ++ '_' :: parameter.toList) := by
  rw [← Nat.toList_repr]
  simp [lightUniform, toString]

theorem opening_of_starts {name : String} (starts : "uLight".toList <+: name.toList) :
    opening name = ['u', 'L'] := by
  obtain ⟨rest, spelled⟩ := starts
  rw [opening, ← spelled]
  rfl

theorem starts_lightUniform (index : Nat) (parameter : String) :
    "uLight".toList <+: (lightUniform index parameter).toList := by
  rw [toList_lightUniform]
  exact List.prefix_append _ _

theorem LightUniform.starts {state : RenderState} {v : Variable}
    (isLight : LightUniform state v) :
    v.storage = .uniform ∧ "uLight".toList <+: v.name.toList := by
  obtain ⟨index, light, _, parameter, _, rfl⟩ := isLight
  exact ⟨rfl, starts_lightUniform index parameter.1⟩

/-- The uniform of a light tells the index and the parameter. -/
theorem lightUniform_inj {i j : Nat} {p q : String}
    (same : lightUniform i p = lightUniform j q) : i = j ∧ p = q := by
  have letters := congrArg String.toList same
  rw [toList_lightUniform, toList_lightUniform] at letters
  have digits (n : Nat) : ∀ c ∈ Nat.toDigits 10 n, c.isDigit = true :=
    fun _ member => Text.isDigit_of_mem_toDigits member
  obtain ⟨indices, rest⟩ :=
    Text.append_inj_of_kind (digits i) (digits j) (by decide) (by decide)
    (List.append_cancel_left letters)
  exact ⟨Text.toDigits_inj indices, String.toList_inj.mp (List.cons.inj rest).2⟩

/-! ### Leaves of the color -/

/-- Terms that start from no uniform of a light. -/
def Unlit (t : Term) : Prop :=
  ∀ v, t.Uses v → opening v.name ≠ ['u', 'L']

theorem unlit_input {v : Variable} (other : opening v.name ≠ ['u', 'L']) :
    Unlit (.input v) := by
  intro w uses
  rw [Term.uses_input.mp uses]
  exact other

theorem unlit_apply {operation : Operation} {arguments : List (String × Term)} {slot : String}
    {type : DataType} (all : ∀ argument ∈ arguments, Unlit argument.2) :
    Unlit (.apply operation arguments slot type) := by
  intro v uses
  obtain ⟨argument, member, uses⟩ := Term.uses_apply.mp uses
  exact all argument member v uses

/-- Names that open with a stem of another kind. -/
theorem opening_ne_of_stem (stem : String) {c d : Char} (opens : opening stem = [c, d])
    (other : [c, d] ≠ ['u', 'L']) (more : String) : opening (stem ++ more) ≠ ['u', 'L'] := by
  rw [opening_append opens more]
  exact other

theorem unlit_sampleTerm (texture : Texture) : Unlit (sampleTerm texture) := by
  refine unlit_apply (List.forall_mem_cons.mpr ⟨?_, List.forall_mem_singleton.mpr ?_⟩)
  · exact unlit_input (opening_ne_of_stem "Texture" rfl (by decide) _)
  · exact unlit_input (opening_ne_of_stem "vTexCoord" rfl (by decide) _)

theorem unlit_baseTerm (state : RenderState) : Unlit (baseTerm state) := by
  have material : Unlit (.uniform .vec4 "uMaterialColor") := unlit_input (by decide)
  unfold baseTerm
  split
  · refine unlit_apply (List.forall_mem_cons.mpr ⟨material, List.forall_mem_singleton.mpr ?_⟩)
    exact unlit_input (by decide)
  · exact material

theorem unlit_texturedTerm {color : Term} (unlit : Unlit color) (textures : List Texture) :
    Unlit (texturedTerm color textures) := by
  induction textures generalizing color with
  | nil => exact unlit
  | cons texture textures ih =>
      refine ih (unlit_apply (List.forall_mem_cons.mpr ⟨unlit, ?_⟩))
      exact List.forall_mem_singleton.mpr (unlit_sampleTerm texture)

theorem unlit_shadowTerm (index : Nat) (technique : ShadowTechnique) :
    Unlit (shadowTerm index technique) := by
  have field (type : DataType) (name : String) :
      Unlit (.uniform type ("uShadow" ++ toString index ++ name)) := by
    refine unlit_input ?_
    rw [String.append_assoc]
    exact opening_ne_of_stem "uShadow" rfl (by decide) _
  refine unlit_apply ?_
  simp only [List.forall_mem_cons, List.not_mem_nil, false_imp_iff, implies_true, and_true]
  refine ⟨field _ "_depthMap", unlit_apply ?_, field _ "_texelSize", field _ "_bias"⟩
  refine List.forall_mem_cons.mpr ⟨field _ "_matrix", List.forall_mem_singleton.mpr ?_⟩
  exact unlit_input (by decide)

/-- The diffuse part of a light starts from its parameters. -/
theorem uses_diffuseTerm_iff {index : Nat} {kind : LightKind} {v : Variable}
    (lit : opening v.name = ['u', 'L']) :
    (diffuseTerm index kind).Uses v ↔ ∃ parameter ∈ kind.parameters, v =
      { name := lightUniform index parameter.1, type := parameter.2,
        storage := .uniform } := by
  have normal : Unlit normalTerm :=
    unlit_apply (List.forall_mem_singleton.mpr (unlit_input (by decide)))
  have position : Unlit (.varying .vec4 "vViewVertex") := unlit_input (by decide)
  rw [diffuseTerm, Term.uses_apply]
  constructor
  · rintro ⟨argument, member, uses⟩
    rcases List.mem_cons.mp member with rfl | member
    · exact absurd lit (normal v uses)
    · rcases List.mem_cons.mp member with rfl | member
      · exact absurd lit (position v uses)
      · obtain ⟨parameter, among, rfl⟩ := List.mem_map.mp member
        exact ⟨parameter, among, Term.uses_input.mp uses⟩
  · rintro ⟨parameter, among, rfl⟩
    refine ⟨_, List.mem_cons_of_mem _ (List.mem_cons_of_mem _ (List.mem_map_of_mem among)), ?_⟩
    exact .input

theorem uses_lightTerm_iff {shadow : Option ShadowTechnique} {light : Light} {index : Nat}
    {v : Variable} (lit : opening v.name = ['u', 'L']) :
    (lightTerm shadow light index).Uses v ↔ (diffuseTerm index light.kind).Uses v := by
  refine ⟨fun uses => ?_, uses_lightTerm⟩
  unfold lightTerm at uses
  split at uses
  · cases shadow with
    | none => exact uses
    | some technique =>
        obtain ⟨argument, member, uses⟩ := Term.uses_apply.mp uses
        rcases List.mem_cons.mp member with rfl | member
        · exact uses
        · rw [List.mem_singleton.mp member] at uses
          exact absurd lit (unlit_shadowTerm index technique v uses)
  · exact uses

theorem uses_lightSumTerm_iff {state : RenderState} {v : Variable}
    (lit : opening v.name = ['u', 'L']) :
    (lightSumTerm state).Uses v ↔ LightUniform state v := by
  constructor
  · intro uses
    obtain ⟨argument, member, uses⟩ := Term.uses_apply.mp uses
    obtain ⟨⟨t, position⟩, among, rfl⟩ := List.mem_map.mp member
    obtain ⟨⟨light, index⟩, active, rfl⟩ := List.mem_map.mp (List.fst_mem_of_mem_zipIdx among)
    refine ⟨index, light, List.mk_mem_zipIdx_iff_getElem?.mp active, ?_⟩
    exact (uses_diffuseTerm_iff lit).mp ((uses_lightTerm_iff lit).mp uses)
  · rintro ⟨index, light, active, parameter⟩
    have among : (light, index) ∈ state.activeLights.zipIdx :=
      List.mk_mem_zipIdx_iff_getElem?.mpr active
    refine uses_sumTerm (List.mem_map.mpr ⟨_, among, rfl⟩) ?_
    exact (uses_lightTerm_iff lit).mpr ((uses_diffuseTerm_iff lit).mpr parameter)

/-- **The uniforms of lights that the color starts from** are those of the active lights. -/
theorem uses_colorTerm_iff {state : RenderState} {v : Variable}
    (lit : opening v.name = ['u', 'L']) : (colorTerm state).Uses v ↔ LightUniform state v := by
  have textured := unlit_texturedTerm (unlit_baseTerm state) state.activeTextures
  constructor
  · intro uses
    unfold colorTerm at uses
    split at uses
    · exact absurd lit (textured v uses)
    · obtain ⟨argument, member, uses⟩ := Term.uses_apply.mp uses
      rcases List.mem_cons.mp member with rfl | member
      · exact absurd lit (textured v uses)
      · rw [List.mem_singleton.mp member] at uses
        exact (uses_lightSumTerm_iff lit).mp uses
  · intro uniform
    refine uses_colorTerm_of_parts (.inr ⟨?_, (uses_lightSumTerm_iff lit).mpr uniform⟩)
    obtain ⟨index, light, active, _⟩ := uniform
    exact List.ne_nil_of_mem (List.mem_of_getElem? active)

end Fragment

/-! ## Uniforms of morphs and skins -/

namespace Vertex

/-- The names of the uniforms of morphs and skins. -/
def featureNames : List String :=
  ["uTargetWeights", "uBones"]

/-- The uniforms of the active skin and of an active morph that names a quantity. -/
inductive FeatureUniform (state : RenderState) : Variable → Prop
  | weights {morph : Morph} {quantity : Quantity} (active : state.activeMorph = some morph)
      (named : morph.hasTarget quantity.stream = true) :
    FeatureUniform state { name := "uTargetWeights", type := .vec4, storage := .uniform }
  | palette {skin : Skin} (active : state.activeSkin = some skin) :
    FeatureUniform state (palette state)

/-- Terms that start from weights and palettes only where the feature is active. -/
def Supplied (state : RenderState) (t : Term) : Prop :=
  ∀ v, t.Uses v → v.storage = .uniform → v.name ∈ featureNames → FeatureUniform state v

variable {state : RenderState}

theorem supplied_apply {operation : Operation} {arguments : List (String × Term)}
    {slot : String} {type : DataType}
    (all : ∀ argument ∈ arguments, Supplied state argument.2) :
    Supplied state (.apply operation arguments slot type) := by
  intro v uses
  obtain ⟨argument, member, uses⟩ := Term.uses_apply.mp uses
  exact all argument member v uses

theorem supplied_single {operation : Operation} {t : Term} {input slot : String}
    {type : DataType} (supplied : Supplied state t) :
    Supplied state (.apply operation [(input, t)] slot type) :=
  supplied_apply (List.forall_mem_singleton.mpr supplied)

theorem supplied_pair {operation : Operation} {s t : Term} {first second slot : String}
    {type : DataType} (suppliedS : Supplied state s) (suppliedT : Supplied state t) :
    Supplied state (.apply operation [(first, s), (second, t)] slot type) :=
  supplied_apply (List.forall_mem_cons.mpr ⟨suppliedS, List.forall_mem_singleton.mpr suppliedT⟩)

theorem supplied_attr (type : DataType) (name : String) : Supplied state (.attr type name) := by
  intro v uses uniform
  rw [Term.uses_input.mp uses] at uniform
  cases uniform

theorem supplied_uniform (type : DataType) {name : String} (other : name ∉ featureNames) :
    Supplied state (.uniform type name) := by
  intro v uses _ listed
  rw [Term.uses_input.mp uses] at listed
  exact absurd listed other

theorem supplied_raw (quantity : Quantity) : Supplied state (.input quantity.raw) :=
  supplied_attr quantity.type quantity.stream

theorem supplied_weightsTerm {morph : Morph} {quantity : Quantity}
    (active : state.activeMorph = some morph) (named : morph.hasTarget quantity.stream = true) :
    Supplied state (weightsTerm quantity.stream) := by
  have weights : Supplied state (.uniform .vec4 "uTargetWeights") := by
    intro v uses _ _
    rw [Term.uses_input.mp uses]
    exact .weights active named
  unfold weightsTerm
  split
  · exact supplied_single weights
  · exact weights

theorem supplied_morphTerm (quantity : Quantity) :
    Supplied state (morphTerm state quantity) := by
  unfold morphTerm
  split
  · exact supplied_raw quantity
  · rename_i counted
    obtain ⟨morph, found, _⟩ := Option.map_eq_some_iff.mp counted
    obtain ⟨active, named⟩ := Option.filter_eq_some_iff.mp found
    refine supplied_apply (List.forall_mem_cons.mpr ⟨supplied_raw quantity,
      List.forall_mem_cons.mpr ⟨supplied_weightsTerm active named, ?_⟩⟩)
    intro target member
    obtain ⟨index, _, rfl⟩ := List.mem_map.mp member
    exact supplied_attr _ _

theorem supplied_boneTerm {skin : Skin} (active : state.activeSkin = some skin) :
    Supplied state (boneTerm state) := by
  have bones : Supplied state (.input (palette state)) := by
    intro v uses _ _
    rw [Term.uses_input.mp uses]
    exact .palette active
  exact supplied_apply (List.forall_mem_cons.mpr ⟨supplied_attr _ _,
    List.forall_mem_cons.mpr ⟨supplied_attr _ _, List.forall_mem_singleton.mpr bones⟩⟩)

theorem supplied_skinTerm (quantity : Quantity) : Supplied state (skinTerm state quantity) := by
  unfold skinTerm
  split
  · rename_i skinned
    obtain ⟨skin, active⟩ := Option.isSome_iff_exists.mp skinned
    exact supplied_pair (supplied_boneTerm active) (supplied_morphTerm quantity)
  · exact supplied_morphTerm quantity

theorem supplied_handedTerm {direction : Term} (supplied : Supplied state direction) :
    Supplied state (handedTerm direction) :=
  supplied_pair (supplied_single supplied) (supplied_raw .tangent)

theorem supplied_localTerm (quantity : Quantity) :
    Supplied state (localTerm state quantity) := by
  have skinned : Supplied state (skinTerm state quantity) := supplied_skinTerm quantity
  cases quantity with
  | vertex => exact skinned
  | normal =>
      rw [localTerm]
      split
      · exact supplied_single skinned
      · exact supplied_raw .normal
  | tangent =>
      rw [localTerm]
      split
      · exact supplied_handedTerm skinned
      · exact supplied_raw .tangent

theorem supplied_spaceTerm (space : Space) (quantity : Quantity) :
    Supplied state (spaceTerm state space quantity) := by
  have point : Supplied state (.uniform .mat4 space.pointMatrix) :=
    supplied_uniform _ (by cases space <;> decide)
  have direction : Supplied state (directionTerm space (localTerm state quantity)) :=
    supplied_pair (supplied_uniform _ (by cases space <;> decide)) (supplied_localTerm quantity)
  cases quantity with
  | vertex => exact supplied_pair point (supplied_localTerm .vertex)
  | normal => exact supplied_single direction
  | tangent => exact supplied_handedTerm direction

theorem supplied_positionTerm : Supplied state (positionTerm state) := by
  have matrix {name : String} (other : name ∉ featureNames) :
      Supplied state (.uniform .mat4 name) :=
    supplied_uniform _ other
  unfold positionTerm
  split
  · exact supplied_apply
      (List.forall_mem_cons.mpr ⟨supplied_raw .vertex, List.forall_mem_cons.mpr
        ⟨matrix (by decide), List.forall_mem_singleton.mpr (matrix (by decide))⟩⟩)
  · exact supplied_pair (matrix (by decide)) (supplied_spaceTerm .view .vertex)

theorem supplied_pointSizeTerm : Supplied state (pointSizeTerm state) := by
  refine supplied_single ?_
  split
  · exact supplied_uniform _ (by decide)
  · exact fun v uses => absurd uses Term.not_uses_literal

/-- Whatever varyings are called, they carry supplied terms. -/
theorem supplied_of_varyingTerm? {name : String} {t : Term}
    (carried : varyingTerm? state name = some t) : Supplied state t := by
  have copied (space : Space) (quantity : Quantity) (type : DataType) :
      Supplied state (copyTerm (spaceTerm state space quantity) type) :=
    supplied_single (supplied_spaceTerm space quantity)
  unfold varyingTerm? at carried
  split_ifs at carried with viewVertex viewNormal viewTangent modelVertex modelNormal
    modelTangent color
  · cases carried
    exact copied .view .vertex _
  · cases carried
    exact copied .view .normal _
  · cases carried
    exact copied .view .tangent _
  · cases carried
    exact copied .model .vertex _
  · cases carried
    exact copied .model .normal _
  · cases carried
    exact copied .model .tangent _
  · cases carried
    exact supplied_pair (supplied_uniform _ (by decide)) (supplied_attr _ _)
  · obtain ⟨set, _, rfl⟩ := Option.map_eq_some_iff.mp carried
    exact supplied_single (supplied_attr _ _)

end Vertex

/-! ## Declared uniforms -/

namespace RenderState.Wired

open Wire Vertex

variable {state : RenderState} {name : String} (wired : state.Wired name) {compiler : Compiler}
  {source : StageSource} {v : Variable}

/-- The fragment stage has to deliver the color and nothing else. -/
theorem mem_requiredRoots_fragment {root : Variable} :
    root ∈ wired.fragment.graph.requiredRoots ↔ root = Fragment.fragColor := by
  constructor
  · intro required
    have output := wired.fragment.requiredRoots_subset_outputs wired.fragmentFinished required
    obtain ⟨written, external⟩ := List.mem_filter.mp output
    obtain ⟨present, unreadable⟩ := wired.fragment.sound.writes root written
    rcases wired.fragment.sound.known root present with builtin | ⟨temporary, _⟩ | declares
    · exact List.mem_singleton.mp builtin
    · exact absurd temporary (bne_iff_ne.mp external)
    · exact absurd declares.readable unreadable
  · rintro rfl
    exact wired.fragColor_required

/-- **The fragment source declares the uniforms of the active lights.** -/
theorem declaresVariable_iff_lightUniform
    (compiled : compiler.compile wired.fragment.graph = .ok source)
    (uniform : v.storage = .uniform) (lit : opening v.name = ['u', 'L']) :
    source.DeclaresVariable v ↔ Fragment.LightUniform state v := by
  rw [wired.fragment.declaresVariable_iff wired.fragmentFinished compiled (.inr (.inl uniform)),
    ← Fragment.uses_colorTerm_iff lit]
  simp [wired.mem_requiredRoots_fragment, wired.color]

/-- What the vertex stage has to deliver is supplied. -/
theorem supplied_of_required {root : Variable}
    (required : root ∈ wired.vertex.graph.requiredRoots) :
    Supplied state (wired.vertex.term root) := by
  have complete := wired.vertexComplete
  have output := wired.vertex.requiredRoots_subset_outputs wired.vertexFinished required
  rw [complete.outputs] at output
  rcases List.mem_append.mp output with builtin | varying
  · rcases List.mem_cons.mp builtin with rfl | clip
    · rw [complete.size.2]
      exact supplied_pointSizeTerm
    · rw [List.mem_singleton.mp clip, complete.position.2]
      exact supplied_positionTerm
  · obtain ⟨t, carried, holds⟩ := (complete.varyings root varying).2
    rw [holds.2]
    exact supplied_of_varyingTerm? carried

/-- **The vertex source declares weights and palettes only for active features.** -/
theorem featureUniform_of_declares (compiled : compiler.compile wired.vertex.graph = .ok source)
    (uniform : v.storage = .uniform) (declares : source.DeclaresVariable v)
    (named : v.name ∈ featureNames) : FeatureUniform state v := by
  rw [wired.vertex.declaresVariable_iff wired.vertexFinished compiled (.inr (.inl uniform))]
    at declares
  obtain ⟨root, required, uses⟩ := declares
  exact wired.supplied_of_required required v uses uniform named

/-- The palette of an active skin is declared, unless a billboard takes the place of the
geometry. -/
theorem declares_palette (compiled : compiler.compile wired.vertex.graph = .ok source)
    (solid : state.billboard = false) (skinned : state.activeSkin.isSome = true) :
    source.DeclaresVariable (palette state) := by
  rw [wired.vertex.declaresVariable_iff wired.vertexFinished compiled (.inr (.inl rfl))]
  refine ⟨clipPosition, wired.clipPosition_required, ?_⟩
  rw [wired.vertexComplete.position.2]
  simp [positionTerm, solid, spaceTerm, localTerm, skinTerm, skinned, boneTerm]

/-- The weights of a morph of positions are declared, unless a billboard takes the place of the
geometry. -/
theorem declares_weights (compiled : compiler.compile wired.vertex.graph = .ok source)
    (solid : state.billboard = false) {count : Nat}
    (morphed : targetCount? state Quantity.vertex.stream = some count) :
    source.DeclaresVariable
      { name := "uTargetWeights", type := .vec4, storage := .uniform } := by
  rw [wired.vertex.declaresVariable_iff wired.vertexFinished compiled (.inr (.inl rfl))]
  refine ⟨clipPosition, wired.clipPosition_required, ?_⟩
  rw [wired.vertexComplete.position.2]
  have weights : (skinTerm state .vertex).Uses
      { name := "uTargetWeights", type := .vec4, storage := .uniform } := by
    rw [skinTerm, morphTerm, morphed]
    split <;> simp [weightsTerm, Quantity.stream, Term.uniform]
  simp [positionTerm, solid, spaceTerm, localTerm, weights]

end RenderState.Wired

/-! ## Descriptors -/

/-- The variable that a descriptor is for. -/
def UniformDescriptor.variable (descriptor : UniformDescriptor) : Variable :=
  { name := descriptor.name, type := descriptor.type, storage := .uniform }

/-- Blocks of lights. -/
def UniformBlock.IsLight (block : UniformBlock) : Prop :=
  ∃ kind : LightKind, block.key.family = kind.family

/-- The parameters of a light and their default values have the same names and types. -/
theorem LightKind.parameters_eq (kind : LightKind) :
    kind.parameters = kind.defaults.map fun entry => (entry.1, entry.2.type) := by
  cases kind <;> rfl

/-- The descriptors of a light are for its uniforms. -/
theorem Light.exists_descriptor_iff {light : Light} {index : Nat} {v : Variable} :
    (∃ descriptor ∈ (light.uniformBlock index).descriptors, v = descriptor.variable) ↔
      ∃ parameter ∈ light.kind.parameters,
        v = { name := Fragment.lightUniform index parameter.1, type := parameter.2,
              storage := .uniform } := by
  rw [light.kind.parameters_eq]
  constructor
  · rintro ⟨descriptor, member, rfl⟩
    obtain ⟨entry, among, rfl⟩ := List.mem_map.mp member
    exact ⟨_, List.mem_map_of_mem among, rfl⟩
  · rintro ⟨parameter, member, rfl⟩
    obtain ⟨entry, among, rfl⟩ := List.mem_map.mp member
    exact ⟨_, List.mem_map_of_mem among, rfl⟩

namespace RenderState

variable (state : RenderState)

/-- The names of the descriptors of all blocks. -/
theorem map_name_descriptors :
    (state.uniformBlocks.flatMap UniformBlock.descriptors).map UniformDescriptor.name =
      (state.activeMorph.map fun _ => "uTargetWeights").toList ++
        (state.activeSkin.map fun _ => "uBones").toList ++
          state.activeLights.zipIdx.flatMap fun entry =>
            (entry.1.kind.defaults.map Prod.fst).map (Fragment.lightUniform entry.2) := by
  have lights :
      ((state.activeLights.zipIdx.map fun entry => entry.1.uniformBlock entry.2).flatMap
        UniformBlock.descriptors).map UniformDescriptor.name =
        state.activeLights.zipIdx.flatMap fun entry =>
          (entry.1.kind.defaults.map Prod.fst).map (Fragment.lightUniform entry.2) := by
    rw [List.flatMap_map, List.map_flatMap]
    refine List.flatMap_congr fun entry _ => ?_
    simp [Light.uniformBlock]
  change ((_ ++ _ ++ state.activeLights.zipIdx.map fun entry =>
    entry.1.uniformBlock entry.2).flatMap _).map _ = _
  rw [List.flatMap_append, List.flatMap_append, List.map_append, List.map_append, lights]
  cases state.activeMorph <;> cases state.activeSkin <;> rfl

/-- The uniforms of lights have distinct names: the index is part of the name. -/
theorem nodup_names_lights (lights : List Light) : (lights.zipIdx.flatMap fun entry =>
    (entry.1.kind.defaults.map Prod.fst).map (Fragment.lightUniform entry.2)).Nodup := by
  rw [List.nodup_flatMap]
  constructor
  · intro entry _
    have parameters : (entry.1.kind.defaults.map Prod.fst).Nodup := by
      cases entry.1.kind <;> decide
    exact parameters.map fun _ _ same => (Fragment.lightUniform_inj same).2
  · have indices : (lights.zipIdx.map Prod.snd).Nodup := by
      rw [List.zipIdx_map_snd]
      exact List.nodup_range'
    refine (List.pairwise_map.mp indices).imp ?_
    intro first second different name memberFirst memberSecond
    obtain ⟨p, _, rfl⟩ := List.mem_map.mp memberFirst
    obtain ⟨q, _, same⟩ := List.mem_map.mp memberSecond
    exact different (Fragment.lightUniform_inj same).1.symm

/-- **Descriptors have distinct names.** -/
theorem nodup_names_uniformBlocks :
    ((state.uniformBlocks.flatMap UniformBlock.descriptors).map
      UniformDescriptor.name).Nodup := by
  rw [map_name_descriptors, List.nodup_append]
  refine ⟨?_, nodup_names_lights _, ?_⟩
  · cases state.activeMorph <;> cases state.activeSkin <;> simp
  · intro feature member name among
    rintro rfl
    obtain ⟨entry, _, named⟩ := List.mem_flatMap.mp among
    obtain ⟨parameter, _, rfl⟩ := List.mem_map.mp named
    have lit := Fragment.opening_of_starts (Fragment.starts_lightUniform entry.2 parameter)
    have others : ∀ name ∈ Vertex.featureNames, opening name ≠ ['u', 'L'] := by decide
    refine others _ ?_ lit
    simp only [List.mem_append, Option.mem_toList, Option.map_eq_some_iff] at member
    rcases member with ⟨_, _, same⟩ | ⟨_, _, same⟩
    · rw [← same]
      decide
    · rw [← same]
      decide

variable {state}

/-- The descriptors of lights are for the uniforms of the active lights. -/
theorem exists_lightDescriptor_iff {v : Variable} :
    (∃ block ∈ state.uniformBlocks, block.IsLight ∧
      ∃ descriptor ∈ block.descriptors, v = descriptor.variable) ↔
        Fragment.LightUniform state v := by
  constructor
  · rintro ⟨block, member, ⟨kind, family⟩, described⟩
    simp only [uniformBlocks, List.mem_append, Option.mem_toList, Option.map_eq_some_iff,
      List.mem_map] at member
    rcases member with (⟨morph, _, rfl⟩ | ⟨skin, _, rfl⟩) | ⟨⟨light, index⟩, active, rfl⟩
    · exact absurd family.symm kind.family_ne.1
    · exact absurd family.symm kind.family_ne.2
    · exact ⟨index, light, List.mk_mem_zipIdx_iff_getElem?.mp active,
        Light.exists_descriptor_iff.mp described⟩
  · rintro ⟨index, light, active, parameter⟩
    have among : (light, index) ∈ state.activeLights.zipIdx :=
      List.mk_mem_zipIdx_iff_getElem?.mpr active
    refine ⟨light.uniformBlock index,
      List.mem_append_right _ (List.mem_map.mpr ⟨_, among, rfl⟩), ⟨light.kind, rfl⟩,
      Light.exists_descriptor_iff.mpr parameter⟩

/-- The weights of an active morph have their descriptor. -/
theorem mem_descriptors_of_activeMorph {morph : Morph}
    (active : state.activeMorph = some morph) :
    { name := "uTargetWeights", default := .vec4 (Vector.replicate 4 Binary32.zero) } ∈
      state.uniformBlocks.flatMap UniformBlock.descriptors := by
  refine List.mem_flatMap.mpr ⟨morph.uniformBlock, ?_, List.mem_singleton_self _⟩
  simp [uniformBlocks, active]

/-- The palette of an active skin has its descriptor, with a row for each element. -/
theorem exists_rows_of_activeSkin {skin : Skin} (active : state.activeSkin = some skin)
    (fits : skin.boneCount.toNat * 3 < UInt32.size) :
    ∃ rows, { name := "uBones", default := .vec4Array rows } ∈
        state.uniformBlocks.flatMap UniformBlock.descriptors ∧
      (Vertex.palette state).arrayLength = some rows.length := by
  refine ⟨_, List.mem_flatMap.mpr ⟨skin.uniformBlock, ?_, List.mem_singleton_self _⟩, ?_⟩
  · simp [uniformBlocks, active]
  · have rows : (List.replicate skin.boneCount.toNat restingBone).flatten.length =
        skin.boneCount.toNat * 3 := by
      simp [restingBone]
    have whole : skin.paletteSize.toNat = skin.boneCount.toNat * 3 := by
      rw [Skin.paletteSize, UInt32.toNat_mul]
      exact Nat.mod_eq_of_lt fits
    simp [Vertex.palette, Vertex.paletteLength, active, whole, rows]

/-- Every uniform of a feature has its descriptor. -/
theorem exists_descriptor
    (fits : ∀ skin, state.skin = some skin → skin.boneCount.toNat * 3 < UInt32.size)
    {v : Variable} (feature : Vertex.FeatureUniform state v) :
    ∃ descriptor ∈ state.uniformBlocks.flatMap UniformBlock.descriptors,
      descriptor.name = v.name ∧ descriptor.type = v.type ∧
        (v.name = "uBones" → ∃ rows, descriptor.default = .vec4Array rows ∧
          v.arrayLength = some rows.length) := by
  cases feature with
  | weights active _ =>
      refine ⟨_, mem_descriptors_of_activeMorph active, rfl, rfl, fun named => ?_⟩
      exact absurd named (by decide)
  | palette active =>
      have kept := fits _ (Option.filter_eq_some_iff.mp active).1
      obtain ⟨rows, member, long⟩ := exists_rows_of_activeSkin active kept
      exact ⟨_, member, rfl, rfl, fun _ => ⟨rows, rfl, long⟩⟩

/-- **Uniform blocks match the generated shaders.**  Whatever render states were served before,
the descriptors in the blocks for a valid one have distinct names.  Its shaders can be generated
with the built-in snippets; and with any snippets, if they are generated, the fragment source
declares as uniforms of lights exactly the variables that the descriptors of lights are for.  If
the vertex source declares weights or a palette, there is exactly one descriptor of the name and
the type, and the default of a palette has as many rows as the declared array has elements. -/
theorem uniforms_agree (valid : state.validate = .ok ())
    (fits : ∀ skin, state.skin = some skin → skin.boneCount.toNat * 3 < UInt32.size)
    (name : String) (earlier : List RenderState) :
    (((UniformTable.blocksAfter earlier state).flatMap UniformBlock.descriptors).map
      UniformDescriptor.name).Nodup ∧
    (∀ registry settings, ∃ sources,
      Compiler.generate { registry, settings } state name = .ok sources) ∧
    ∀ compiler sources, Compiler.generate compiler state name = .ok sources →
      (∀ v : Variable, (v.storage = .uniform ∧ "uLight".toList <+: v.name.toList ∧
          sources.fragment.DeclaresVariable v) ↔
        ∃ block ∈ UniformTable.blocksAfter earlier state, block.IsLight ∧
          ∃ descriptor ∈ block.descriptors, v = descriptor.variable) ∧
      ∀ v : Variable, v.storage = .uniform → sources.vertex.DeclaresVariable v →
        v.name = "uTargetWeights" ∨ v.name = "uBones" →
          ∃ descriptor,
            (∀ other, (other ∈ (UniformTable.blocksAfter earlier state).flatMap
                UniformBlock.descriptors ∧ other.name = v.name ∧ other.type = v.type) ↔
              other = descriptor) ∧
            (v.name = "uBones" → ∃ rows, descriptor.default = .vec4Array rows ∧
              v.arrayLength = some rows.length) := by
  rw [UniformTable.blocksAfter_eq]
  have distinct := state.nodup_names_uniformBlocks
  obtain ⟨wired⟩ := state.nonempty_wired valid name
  refine ⟨distinct, fun registry settings => Compiler.exists_generate rfl valid name, ?_⟩
  intro compiler sources generated
  rw [wired.generate_eq] at generated
  obtain ⟨vertex, fragment⟩ := Compiler.compile_of_compileStages generated
  refine ⟨fun v => ?_, fun v uniform declares named => ?_⟩
  · rw [exists_lightDescriptor_iff]
    constructor
    · rintro ⟨uniform, starts, declares⟩
      have lit := Fragment.opening_of_starts starts
      exact (wired.declaresVariable_iff_lightUniform fragment uniform lit).mp declares
    · intro isLight
      obtain ⟨uniform, starts⟩ := isLight.starts
      have lit := Fragment.opening_of_starts starts
      exact ⟨uniform, starts,
        (wired.declaresVariable_iff_lightUniform fragment uniform lit).mpr isLight⟩
  · have listed : v.name ∈ Vertex.featureNames := by simpa [Vertex.featureNames] using named
    obtain ⟨descriptor, member, sameName, sameType, rows⟩ :=
      exists_descriptor fits (wired.featureUniform_of_declares vertex uniform declares listed)
    refine ⟨descriptor, fun other => ⟨?_, ?_⟩, rows⟩
    · rintro ⟨among, named, -⟩
      exact List.inj_on_of_nodup_map distinct among member (named.trans sameName.symm)
    · rintro rfl
      exact ⟨member, sameName, sameType⟩

/-- A spot light, a hemisphere light and twenty bones, after a render state with the same lights
in another order and fewer bones: the last parameters of both lights are declared, a third light
is not, and the palette has sixty rows. -/
theorem uniforms_agree_lavish : lavish.validate = .ok () ∧
    (∀ skin, lavish.skin = some skin → skin.boneCount.toNat * 3 < UInt32.size) ∧
    ∃ sources, Compiler.generate {} lavish "lavish" = .ok sources ∧
      sources.fragment.DeclaresVariable
        { name := "uLight0_cosCutoff", type := .float, storage := .uniform } ∧
      sources.fragment.DeclaresVariable
        { name := "uLight1_groundColor", type := .vec3, storage := .uniform } ∧
      ¬ sources.fragment.DeclaresVariable
        { name := "uLight2_color", type := .vec3, storage := .uniform } ∧
      sources.vertex.DeclaresVariable
        { name := "uBones", type := .vec4, storage := .uniform, arrayLength := some 60 } ∧
      ∃ descriptor ∈ lavish.uniformBlocks.flatMap UniformBlock.descriptors,
        descriptor.name = "uBones" ∧
          ∃ rows, descriptor.default = .vec4Array rows ∧ 60 = rows.length := by
  have valid : lavish.validate = .ok () := rfl
  have fits : ∀ skin, lavish.skin = some skin → skin.boneCount.toNat * 3 < UInt32.size := by
    rintro _ ⟨⟩
    decide
  obtain ⟨_, generates, agree⟩ := uniforms_agree valid fits "lavish"
    [{ lavish with lights := lavish.lights.reverse, skin := some { boneCount := 3 } }]
  obtain ⟨sources, generated⟩ := generates {} {}
  obtain ⟨lights, features⟩ := agree _ _ generated
  rw [UniformTable.blocksAfter_eq] at lights features
  have bones : sources.vertex.DeclaresVariable
      { name := "uBones", type := .vec4, storage := .uniform, arrayLength := some 60 } := by
    obtain ⟨wired⟩ := lavish.nonempty_wired valid "lavish"
    have compiled := generated
    rw [wired.generate_eq] at compiled
    exact wired.declares_palette (Compiler.compile_of_compileStages compiled).1 rfl rfl
  refine ⟨valid, fits, sources, generated, ?_, ?_, ?_, bones, ?_⟩
  · exact ((lights _).mpr ⟨_, List.mem_of_getElem? (i := 2) rfl, ⟨.spot, rfl⟩, _,
      List.mem_of_getElem? (i := 3) rfl, rfl⟩).2.2
  · exact ((lights _).mpr ⟨_, List.mem_of_getElem? (i := 3) rfl, ⟨.hemi, rfl⟩, _,
      List.mem_of_getElem? (i := 2) rfl, rfl⟩).2.2
  · intro declares
    obtain ⟨block, member, -, descriptor, among, same⟩ :=
      (lights _).mp ⟨rfl, by decide, declares⟩
    have named : ∀ block ∈ lavish.uniformBlocks, ∀ descriptor ∈ block.descriptors,
        descriptor.name ≠ "uLight2_color" := by decide
    exact named block member descriptor among (congrArg Variable.name same).symm
  · obtain ⟨descriptor, single, palette⟩ := features _ rfl bones (.inr rfl)
    obtain ⟨member, sameName, -⟩ := (single descriptor).mpr rfl
    obtain ⟨rows, default, long⟩ := palette rfl
    exact ⟨descriptor, member, sameName, rows, default, Option.some.inj long⟩

end RenderState
end ShaderLoom
