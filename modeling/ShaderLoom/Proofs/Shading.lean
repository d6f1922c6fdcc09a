import ShaderLoom.Proofs.Terms
import ShaderLoom.Wiring.Fragment

/-!
# The color of a fragment, as a term

How a fragment is shaded, written down without any wiring: the color of the material, multiplied
by the color of the vertex and by the samples of the active textures in their order, and lit by
the sum of what the active lights contribute, each of them multiplied by its shadow if it casts
one that a technique receives.

The term says which varyings the stage has to be given: those that are its leaves.  They are
listed in `Fragment.Demands`.

## Main definitions

* `Fragment.sampleTerm`, `Fragment.lightTerm`, `Fragment.sumTerm` — the parts of the color
* `Fragment.colorTerm` — the color
* `Fragment.Demands` — the varyings that the stage needs

## Main results

* `Fragment.uses_colorTerm` — the color depends on all of them
-/

namespace ShaderLoom
namespace Fragment

/-! ## Terms -/

/-- The sample of a texture at its coordinates. -/
def sampleTerm (texture : Texture) : Term :=
  .apply .textureSample
    [("sampler", .uniform .sampler2D s!"Texture{texture.unit.toNat}"),
      ("uv", .varying .vec2 s!"vTexCoord{texture.texcoord.toNat}")]
    "color" .vec4

/-- The color of the material and the vertex. -/
def baseTerm (state : RenderState) : Term :=
  if state.streams.contains Streams.color then
    .product (.uniform .vec4 "uMaterialColor") (.varying .vec4 "vVertexColor") .vec4
  else .uniform .vec4 "uMaterialColor"

/-- A color multiplied by the samples of textures, in their order. -/
def texturedTerm (color : Term) (textures : List Texture) : Term :=
  textures.foldl (fun color texture => .product color (sampleTerm texture) .vec4) color

/-- The normal of the fragment. -/
def normalTerm : Term :=
  .normalized (.varying .vec3 "vViewNormal") .vec3

/-- The diffuse contribution of a light: the function of its kind on the normal, the position
and the uniforms of the light. -/
def diffuseTerm (index : Nat) (kind : LightKind) : Term :=
  .apply
    (.call kind.function (some { snippet := "lighting", parameters := [("kind", kind.word)] }))
    (("normal", normalTerm) :: ("viewVertex", .varying .vec4 "vViewVertex") ::
      kind.parameters.map fun parameter =>
        (parameter.1, .uniform parameter.2 s!"uLight{index}_{parameter.1}"))
    "result" .vec3

/-- The visibility of a light. -/
def shadowTerm (index : Nat) (technique : ShadowTechnique) : Term :=
  .apply (.call "computeShadow"
      (some { snippet := "shadow", parameters := [("technique", technique.word)] }))
    [("depthMap", .uniform .sampler2D s!"uShadow{index}_depthMap"),
      ("shadowVertex",
        .apply (.transformPoint false)
          [("matrix", .uniform .mat4 s!"uShadow{index}_matrix"),
            ("vec", .varying .vec4 "vModelVertex")]
          "vec" .vec4),
      ("texelSize", .uniform .vec2 s!"uShadow{index}_texelSize"),
      ("bias", .uniform .float s!"uShadow{index}_bias")]
    "result" .float

/-- What a light contributes: its diffuse part, multiplied by its shadow if it casts one and a
technique is set. -/
def lightTerm (shadow : Option ShadowTechnique) (light : Light) (index : Nat) : Term :=
  if light.castsShadow then
    shadow.elim (diffuseTerm index light.kind) fun technique =>
      .product (diffuseTerm index light.kind) (shadowTerm index technique) .vec3
  else diffuseTerm index light.kind

/-- A sum of terms.  The code adds up exactly the slots that the terms fill. -/
def sumTerm (terms : List Term) : Term :=
  let arguments := terms.zipIdx.map fun entry => (s!"light{entry.2}", entry.1)
  let slots := arguments.map fun argument => "%" ++ argument.1
  .apply (.inlineCode ("%out = " ++ " + ".intercalate slots ++ ";")) arguments "out" .vec3

/-- A color lit by a sum of lights; its fourth component stays. -/
def litTerm (color sum : Term) : Term :=
  .apply (.inlineCode "%out = vec4(%color.rgb * %diffuse, %color.a);")
    [("color", color), ("diffuse", sum)] "out" .vec4

/-- The sum of what the active lights contribute, by their positions. -/
def lightSumTerm (state : RenderState) : Term :=
  sumTerm (state.activeLights.zipIdx.map fun entry => lightTerm state.shadow entry.1 entry.2)

/-- The color of the fragment. -/
def colorTerm (state : RenderState) : Term :=
  if state.activeLights.isEmpty then texturedTerm (baseTerm state) state.activeTextures
  else litTerm (texturedTerm (baseTerm state) state.activeTextures) (lightSumTerm state)

/-! ## Varyings -/

/-- The varyings that the fragment stage of a render state needs. -/
inductive Demands (state : RenderState) : Variable → Prop
  | vertexColor (colored : state.streams.contains Streams.color = true) :
    Demands state { name := "vVertexColor", type := .vec4, storage := .varying }
  | texcoord {texture : Texture} (active : texture ∈ state.activeTextures) :
    Demands state
      { name := s!"vTexCoord{texture.texcoord.toNat}", type := .vec2, storage := .varying }
  | viewNormal (lit : state.activeLights ≠ []) :
    Demands state { name := "vViewNormal", type := .vec3, storage := .varying }
  | viewVertex (lit : state.activeLights ≠ []) :
    Demands state { name := "vViewVertex", type := .vec4, storage := .varying }
  | modelVertex {light : Light} (active : light ∈ state.activeLights)
      (casts : light.castsShadow = true) {technique : ShadowTechnique}
      (receives : state.shadow = some technique) :
    Demands state { name := "vModelVertex", type := .vec4, storage := .varying }

variable {v : Variable}

theorem uses_product_left {a b : Term} {type : DataType} (uses : a.Uses v) :
    (Term.product a b type).Uses v :=
  .argument List.mem_cons_self uses

theorem uses_product_right {a b : Term} {type : DataType} (uses : b.Uses v) :
    (Term.product a b type).Uses v :=
  .argument (List.mem_cons_of_mem _ List.mem_cons_self) uses

/-- Textures are multiplied onto a color, so nothing gets lost. -/
theorem uses_texturedTerm {color : Term} {textures : List Texture}
    (uses : color.Uses v ∨ ∃ texture ∈ textures, (sampleTerm texture).Uses v) :
    (texturedTerm color textures).Uses v := by
  induction textures generalizing color with
  | nil =>
      rcases uses with uses | ⟨_, member, _⟩
      · exact uses
      · cases member
  | cons first textures ih =>
      refine ih ?_
      rcases uses with uses | ⟨texture, member, uses⟩
      · exact .inl (uses_product_left uses)
      · rcases List.mem_cons.mp member with rfl | later
        · exact .inl (uses_product_right uses)
        · exact .inr ⟨texture, later, uses⟩

theorem uses_sumTerm {terms : List Term} {t : Term} (member : t ∈ terms) (uses : t.Uses v) :
    (sumTerm terms).Uses v := by
  obtain ⟨index, bound, rfl⟩ := List.mem_iff_getElem.mp member
  have position : (terms[index], index) ∈ terms.zipIdx :=
    List.mk_mem_zipIdx_iff_getElem?.mpr (List.getElem?_eq_getElem bound)
  exact .argument (List.mem_map_of_mem position) uses

/-- A light contributes its diffuse part, whether it casts a shadow or not. -/
theorem uses_lightTerm {shadow : Option ShadowTechnique} {light : Light} {index : Nat}
    (uses : (diffuseTerm index light.kind).Uses v) : (lightTerm shadow light index).Uses v := by
  rw [lightTerm]
  split
  · cases shadow with
    | none => exact uses
    | some technique => exact uses_product_left uses
  · exact uses

theorem uses_lightSumTerm {state : RenderState} {light : Light}
    (active : light ∈ state.activeLights)
    (uses : ∀ index, (lightTerm state.shadow light index).Uses v) :
    (lightSumTerm state).Uses v := by
  obtain ⟨index, bound, rfl⟩ := List.mem_iff_getElem.mp active
  refine uses_sumTerm
    (List.mem_map.mpr ⟨(state.activeLights[index], index), ?_, rfl⟩) (uses index)
  exact List.mk_mem_zipIdx_iff_getElem?.mpr (List.getElem?_eq_getElem bound)

/-- The color goes on from what the textures give, and from the sum of the lights where there
are any. -/
theorem uses_colorTerm_of_parts {state : RenderState}
    (uses : (texturedTerm (baseTerm state) state.activeTextures).Uses v ∨
      state.activeLights ≠ [] ∧ (lightSumTerm state).Uses v) : (colorTerm state).Uses v := by
  rw [colorTerm]
  split
  · rename_i dark
    rcases uses with uses | ⟨lit, _⟩
    · exact uses
    · exact absurd (List.isEmpty_iff.mp dark) lit
  · rcases uses with uses | ⟨_, uses⟩
    · exact .argument List.mem_cons_self uses
    · exact .argument (List.mem_cons_of_mem _ List.mem_cons_self) uses

/-- **The color depends on all varyings that the stage needs.** -/
theorem uses_colorTerm {state : RenderState} (demands : Demands state v) :
    (colorTerm state).Uses v := by
  refine uses_colorTerm_of_parts ?_
  cases demands with
  | vertexColor colored =>
      refine .inl (uses_texturedTerm (.inl ?_))
      rw [baseTerm, if_pos colored]
      exact uses_product_right .input
  | texcoord active =>
      refine .inl (uses_texturedTerm (.inr ⟨_, active, ?_⟩))
      exact .argument (List.mem_cons_of_mem _ List.mem_cons_self) .input
  | viewNormal lit =>
      obtain ⟨light, active⟩ := List.exists_mem_of_ne_nil _ lit
      refine .inr ⟨lit, uses_lightSumTerm active fun index => uses_lightTerm ?_⟩
      exact .argument List.mem_cons_self (.argument List.mem_cons_self .input)
  | viewVertex lit =>
      obtain ⟨light, active⟩ := List.exists_mem_of_ne_nil _ lit
      refine .inr ⟨lit, uses_lightSumTerm active fun index => uses_lightTerm ?_⟩
      exact .argument (List.mem_cons_of_mem _ List.mem_cons_self) .input
  | modelVertex active casts receives =>
      refine .inr ⟨List.ne_nil_of_mem active, uses_lightSumTerm active fun index => ?_⟩
      rw [lightTerm, if_pos casts, receives]
      refine uses_product_right (.argument (List.mem_cons_of_mem _ List.mem_cons_self) ?_)
      exact .argument (List.mem_cons_of_mem _ List.mem_cons_self) .input

end Fragment
end ShaderLoom
