import ShaderLoom.Proofs.Shading
import ShaderLoom.Proofs.Unfolding
import ShaderLoom.Wiring.Stages

/-!
# The fragment stage can be wired

Whatever a render state asks for, the fragment stage is wired without an error.  The color of
the fragment is the only output that is written, and it unfolds to `Fragment.colorTerm`.

The variables that the stage declares are listed in `Fragment.Declares`; the varyings among them
are those that the color needs.  Many variables are numbered, by a light, a texture unit or a
set of coordinates.  Still a name tells the type and the storage of its variable: its first two
characters and its last one suffice (`Fragment.classify`).  So no two constructions ask for
variables of one name that differ.

## Main definitions

* `Interface` — the varyings between the stages
* `Fragment.Declares`, `Fragment.vocabulary` — the variables of the fragment stage

## Main results

* `Fragment.yields_main` — the fragment stage can be wired
* `Fragment.term?_fragColor` — the color of the fragment is what shading says
-/

namespace ShaderLoom

/-- The varyings that the vertex stage can hand to the fragment stage. -/
inductive Interface : Variable → Prop
  | viewVertex : Interface { name := "vViewVertex", type := .vec4, storage := .varying }
  | viewNormal : Interface { name := "vViewNormal", type := .vec3, storage := .varying }
  | viewTangent : Interface { name := "vViewTangent", type := .vec4, storage := .varying }
  | modelVertex : Interface { name := "vModelVertex", type := .vec4, storage := .varying }
  | modelNormal : Interface { name := "vModelNormal", type := .vec3, storage := .varying }
  | modelTangent : Interface { name := "vModelTangent", type := .vec4, storage := .varying }
  | vertexColor : Interface { name := "vVertexColor", type := .vec4, storage := .varying }
  | texcoord {name : String} {set : UInt32} (numbered : texcoordSet? name = some set) :
    Interface { name, type := .vec2, storage := .varying }

theorem Interface.eq_varying {v : Variable} (interface : Interface v) :
    v = { name := v.name, type := v.type, storage := .varying } := by
  cases interface <;> rfl

open Wire

theorem texcoordSet?_eq (set : UInt32) : texcoordSet? s!"vTexCoord{set.toNat}" = some set := by
  have spelled : s!"vTexCoord{set.toNat}".toList =
      "vTexCoord".toList ++ (toString set.toNat).toList :=
    String.toList_append
  rw [texcoordSet?, spelled, if_pos (List.isPrefixOf_iff_prefix.mpr (List.prefix_append _ _)),
    List.drop_left]
  exact Text.readDecimal32_toString set

/-- The names of texture coordinates open in the same way. -/
theorem opening_of_texcoordSet? {name : String} {set : UInt32}
    (numbered : texcoordSet? name = some set) : opening name = ['v', 'T'] := by
  rw [texcoordSet?] at numbered
  split at numbered
  · rename_i starts
    obtain ⟨more, spelled⟩ := List.isPrefixOf_iff_prefix.mp starts
    rw [opening, ← spelled]
    rfl
  · cases numbered

namespace Fragment

/-! ## Variables -/

/-- The vertex stage can deliver what the fragment stage needs. -/
theorem Demands.interface {state : RenderState} {v : Variable} (demands : Demands state v) :
    Interface v := by
  cases demands with
  | vertexColor => exact .vertexColor
  | @texcoord texture => exact .texcoord (texcoordSet?_eq texture.texcoord)
  | viewNormal => exact .viewNormal
  | viewVertex => exact .viewVertex
  | modelVertex => exact .modelVertex

theorem Demands.spelled {state : RenderState} {v : Variable} (demands : Demands state v) :
    v.name.toList.all Node.isSlotPart = true := by
  cases demands with
  | @texcoord texture =>
      have letters : "vTexCoord".toList.all Node.isSlotPart = true := rfl
      exact Text.all_isSlotPart_append letters
        (Text.all_isSlotPart_toString texture.texcoord.toNat)
  | _ => rfl

/-- The variables that the fragment stage of a render state declares. -/
inductive Declares (state : RenderState) : Variable → Prop
  | varying {v : Variable} (demands : Demands state v) : Declares state v
  | materialColor :
    Declares state { name := "uMaterialColor", type := .vec4, storage := .uniform }
  | texture (unit : UInt32) :
    Declares state { name := s!"Texture{unit.toNat}", type := .sampler2D, storage := .uniform }
  | light (index : Nat) {kind : LightKind} {parameter : String × DataType}
      (member : parameter ∈ kind.parameters) :
    Declares state
      { name := lightUniform index parameter.1, type := parameter.2, storage := .uniform }
  | shadowMatrix (index : Nat) :
    Declares state { name := s!"uShadow{index}_matrix", type := .mat4, storage := .uniform }
  | shadowMap (index : Nat) :
    Declares state
      { name := s!"uShadow{index}_depthMap", type := .sampler2D, storage := .uniform }
  | shadowTexel (index : Nat) :
    Declares state { name := s!"uShadow{index}_texelSize", type := .vec2, storage := .uniform }
  | shadowBias (index : Nat) :
    Declares state { name := s!"uShadow{index}_bias", type := .float, storage := .uniform }

/-- A name tells its variable. -/
def classify : Classifier
  | ['T', _], _ => (.sampler2D, .uniform, none)
  | ['v', 'T'], _ => (.vec2, .varying, none)
  | ['v', _], some 'l' => (.vec3, .varying, none)
  | ['v', _], _ => (.vec4, .varying, none)
  | ['u', 'M'], _ => (.vec4, .uniform, none)
  | ['u', 'L'], some 'f' => (.float, .uniform, none)
  | ['u', 'L'], _ => (.vec3, .uniform, none)
  | _, some 'x' => (.mat4, .uniform, none)
  | _, some 'p' => (.sampler2D, .uniform, none)
  | _, some 'e' => (.vec2, .uniform, none)
  | _, _ => (.float, .uniform, none)

/-- The last character of a parameter of a light tells its type. -/
theorem classify_parameter (kind : LightKind) : ∀ parameter ∈ kind.parameters,
    ∃ c, closing parameter.1 = some c ∧
      classify ['u', 'L'] (some c) = (parameter.2, .uniform, none) := by
  have last : ∀ parameter ∈ kind.parameters, (closing parameter.1).any
      (fun c => classify ['u', 'L'] (some c) == (parameter.2, .uniform, none)) = true := by
    cases kind <;> decide +kernel
  intro parameter member
  obtain ⟨c, closes, same⟩ := (Option.any_eq_true _ _).mp (last parameter member)
  exact ⟨c, closes, beq_iff_eq.mp same⟩

theorem classify_tells {state : RenderState} (v : Variable) (declares : Declares state v) :
    classify.Tells v := by
  have shadow : ∀ (index : Nat) {field : String} {c : Char} {type : DataType},
      closing field = some c → classify ['u', 'S'] (some c) = (type, .uniform, none) →
        classify.Tells { name := s!"uShadow{index}{field}", type, storage := .uniform } := by
    intro index field c type closes same
    have opens : opening "uShadow" = ['u', 'S'] := rfl
    have closes := closing_append closes ("uShadow" ++ toString index)
    refine Classifier.tells_of_opening (opening_append (opening_append opens _) _) rfl ?_
    exact closes ▸ same
  cases declares with
  | varying demands =>
      cases demands.interface with
      | texcoord numbered =>
          exact Classifier.tells_of_opening (opening_of_texcoordSet? numbered) rfl rfl
      | _ => exact ⟨by decide +kernel, by decide +kernel⟩
  | materialColor => exact ⟨by decide +kernel, by decide +kernel⟩
  | texture unit =>
      have opens : opening "Texture" = ['T', 'e'] := rfl
      exact Classifier.tells_of_opening (opening_append opens _) rfl rfl
  | @light index kind parameter member =>
      obtain ⟨c, closes, same⟩ := classify_parameter kind parameter member
      have opens : opening "uLight" = ['u', 'L'] := rfl
      have opens := opening_append (opening_append (opening_append opens (toString index)) "_")
        parameter.1
      have closes := closing_append closes ("uLight" ++ toString index ++ "_")
      exact Classifier.tells_of_opening opens rfl (closes ▸ same)
  | shadowMatrix index => exact shadow index (c := 'x') rfl rfl
  | shadowMap index => exact shadow index (c := 'p') rfl rfl
  | shadowTexel index => exact shadow index (c := 'e') rfl rfl
  | shadowBias index => exact shadow index (c := 's') rfl rfl

/-- Names consist of letters, digits and underscores. -/
theorem spelled_of_declares {state : RenderState} (v : Variable) (declares : Declares state v) :
    v.name.toList.all Node.isSlotPart = true := by
  have numbered : ∀ {stem : String} (n : Nat) {field : String},
      stem.toList.all Node.isSlotPart = true → field.toList.all Node.isSlotPart = true →
        (stem ++ toString n ++ field).toList.all Node.isSlotPart = true := by
    intro stem n field letters more
    exact Text.all_isSlotPart_append
      (Text.all_isSlotPart_append letters (Text.all_isSlotPart_toString n)) more
  have parameters : ∀ kind : LightKind, ∀ parameter ∈ kind.parameters,
      parameter.1.toList.all Node.isSlotPart = true := by
    intro kind
    cases kind <;> decide +kernel
  cases declares with
  | varying demands => exact demands.spelled
  | materialColor => rfl
  | texture unit =>
      have letters : "Texture".toList.all Node.isSlotPart = true := rfl
      exact Text.all_isSlotPart_append letters (Text.all_isSlotPart_toString unit.toNat)
  | @light index kind parameter member =>
      exact Text.all_isSlotPart_append (numbered index rfl rfl)
        (parameters kind parameter member)
  | shadowMatrix index => exact numbered index rfl rfl
  | shadowMap index => exact numbered index rfl rfl
  | shadowTexel index => exact numbered index rfl rfl
  | shadowBias index => exact numbered index rfl rfl

/-- The variables of the fragment stage.  Its constructions share nothing. -/
def vocabulary (state : RenderState) : Vocabulary :=
  .classified .fragment (Declares state) classify classify_tells fun _ => none

/-! ## Constructions -/

variable {state : RenderState} {name : String}

theorem Declares.readable {v : Variable} (declares : Declares state v) :
    Readable .fragment v := by
  cases declares with
  | varying demands => cases demands <;> exact .inr (.inr ⟨rfl, rfl⟩)
  | _ => exact .inr (.inl rfl)

instance (draft : Draft (vocabulary state) name) : draft.Spelled :=
  ⟨fun v _ declares => spelled_of_declares v declares⟩

/-- All declared variables are inputs of the stage. -/
theorem yields_input (draft : Draft (vocabulary state) name) {v : Variable}
    (declares : Declares state v) :
    Yields (declare v) draft [] fun w later => w = v ∧ later.Holds v (.input v) := by
  refine (yields_declare draft declares declares.readable).imp ?_
  rintro _ later _ ⟨rfl, has, _⟩
  exact ⟨rfl, Draft.holds_of_readable has declares.readable⟩

theorem denotes_textureSample (draft : Draft (vocabulary state) name) {texture : Texture}
    (active : texture ∈ state.activeTextures) :
    Denotes (textureSample texture.unit texture.texcoord) draft (sampleTerm texture) := by
  have plain : isPlain "textureColor" = true := rfl
  refine (yields_input draft (.texture texture.unit)).bind ?_
  rintro _ first _ _ ⟨rfl, sampler⟩
  refine (yields_input first (.varying (.texcoord active))).bind ?_
  rintro _ second leads₂ _ ⟨rfl, coordinates⟩
  refine (yields_named second .vec4 (isPlain_append_toString plain _)).bind ?_
  intro out third leads₃ _ fresh
  refine denotes_node ?_ trivial ?_ fresh
  · exact Node.Complete.of_slots (List.Subset.refl _) (List.Subset.refl _) nofun trivial
  · exact Draft.fills_cons (sampler.mono (leads₂.trans leads₃))
      (Draft.fills_cons (coordinates.mono leads₃) third.fills_nil "uv") "sampler"

theorem denotes_texturedColor {draft : Draft (vocabulary state) name}
    {color : Variable} {t : Term} (holds : draft.Holds color t) {texture : Texture}
    (active : texture ∈ state.activeTextures) :
    Denotes (texturedColor color texture) draft (.product t (sampleTerm texture) .vec4) := by
  refine (denotes_textureSample draft active).bind ?_
  intro sample later leads _ holdsSample
  exact denotes_multiply later (holds.mono leads) holdsSample .vec4 rfl

/-- Textures are multiplied onto a color one after the other. -/
theorem denotes_textures {draft : Draft (vocabulary state) name} {color : Variable} {t : Term}
    (holds : draft.Holds color t) :
    Denotes (state.activeTextures.foldlM texturedColor color) draft
      (texturedTerm t state.activeTextures) := by
  have step : ∀ {v : Variable} {t : Term} {draft : Draft (vocabulary state) name},
      ∀ texture ∈ state.activeTextures, draft.Holds v t →
        Denotes (texturedColor v texture) draft (.product t (sampleTerm texture) .vec4) :=
    fun _ active holds => denotes_texturedColor holds active
  exact denotes_foldlM step holds

theorem denotes_baseColor (draft : Draft (vocabulary state) name) :
    Denotes (baseColor state) draft (baseTerm state) := by
  refine (yields_input draft .materialColor).bind ?_
  rintro _ first _ _ ⟨rfl, material⟩
  rw [baseTerm]
  split
  · rename_i colored
    refine (yields_input first (.varying (.vertexColor colored))).bind ?_
    rintro _ second leads _ ⟨rfl, color⟩
    exact denotes_multiply second (material.mono leads) color .vec4 rfl
  · exact Yields.pure material

/-! ## Lights and shadows -/

theorem renderable_lighting (kind : String) :
    Helper.Renderable { snippet := "lighting", parameters := [("kind", kind)] } := by
  have known : ("lighting", Snippet.lighting) ∈ Snippet.builtin := by simp [Snippet.builtin]
  exact Helper.renderable_of_fits known (fits_ofText Template.Fits.nil (by decide) kind)

theorem renderable_shadow (technique : String) :
    Helper.Renderable { snippet := "shadow", parameters := [("technique", technique)] } := by
  have known : ("shadow", Snippet.shadow) ∈ Snippet.builtin := by simp [Snippet.builtin]
  exact Helper.renderable_of_fits known (fits_ofText Template.Fits.nil (by decide) technique)

/-- A call is complete if its helper can be supplied. -/
theorem complete_call {function : String} {helper : Helper} (renderable : helper.Renderable)
    (inputs : List (String × Operand)) (outputs : List (String × Variable)) :
    Node.Complete { operation := .call function (some helper), inputs, outputs } := by
  refine Node.Complete.of_slots (List.nil_subset _) (List.nil_subset _) nofun ?_
  intro required member
  cases member
  exact renderable

/-- The functions of lights are words, and lights are from the stock. -/
theorem worded_light (kind : LightKind) (inputs : List (String × Operand))
    (outputs : List (String × Variable)) :
    Node.Worded
      { operation := .call kind.function
          (some { snippet := "lighting", parameters := [("kind", kind.word)] }),
            inputs, outputs }
      (.call kind.function
        (some { snippet := "lighting", parameters := [("kind", kind.word)] })) := by
  refine ⟨by cases kind <;> rfl, ?_⟩
  intro required member
  cases member
  exact .lighting kind

theorem worded_shadow (technique : ShadowTechnique) (inputs : List (String × Operand))
    (outputs : List (String × Variable)) :
    Node.Worded
      { operation := .call "computeShadow"
          (some { snippet := "shadow", parameters := [("technique", technique.word)] })
        inputs, outputs }
      (.call "computeShadow"
        (some { snippet := "shadow", parameters := [("technique", technique.word)] })) := by
  refine ⟨rfl, ?_⟩
  intro required member
  cases member
  exact .shadow technique

theorem yields_lightInputs (draft : Draft (vocabulary state) name) (index : Nat)
    (kind : LightKind) : Yields (lightInputs index kind) draft [] fun inputs later =>
      later.Fills inputs (kind.parameters.map fun parameter =>
        (parameter.1, .uniform parameter.2 s!"uLight{index}_{parameter.1}")) := by
  -- The parameters are declared one after the other.
  have each : ∀ {parameters : List (String × DataType)} (draft : Draft (vocabulary state) name),
      (∀ parameter ∈ parameters, parameter ∈ kind.parameters) →
        Yields (parameters.mapM fun parameter => do
          let v ← uniform parameter.2 (lightUniform index parameter.1)
          return (parameter.1, Operand.read v)) draft [] fun inputs later =>
            later.Fills inputs (parameters.map fun parameter =>
              (parameter.1, .uniform parameter.2 s!"uLight{index}_{parameter.1}")) := by
    intro parameters
    induction parameters with
    | nil => exact fun draft _ => Yields.pure draft.fills_nil
    | cons parameter parameters ih =>
        intro draft known
        rw [List.mapM_cons, bind_assoc]
        refine (yields_input draft (.light index (known parameter List.mem_cons_self))).bind ?_
        rintro _ first _ _ ⟨rfl, holds⟩
        rw [pure_bind]
        refine (ih first fun other member =>
          known other (List.mem_cons_of_mem _ member)).bind ?_
        intro inputs second leads _ fills
        exact Yields.pure (Draft.fills_cons (holds.mono leads) fills parameter.1)
  exact each draft fun _ member => member

theorem denotes_lightContribution (draft : Draft (vocabulary state) name) (index : Nat)
    (light : Light) {normal viewVertex : Variable} (holdsNormal : draft.Holds normal normalTerm)
    (holdsVertex : draft.Holds viewVertex (.varying .vec4 "vViewVertex")) :
    Denotes (lightContribution index light normal viewVertex) draft
      (diffuseTerm index light.kind) := by
  have plain : isPlain "lightDiffuse" = true := rfl
  refine (yields_lightInputs draft index light.kind).bind ?_
  intro inputs first leads _ fills
  refine (yields_named first .vec3 (isPlain_append_toString plain _)).bind ?_
  intro out second leads' _ fresh
  refine denotes_node (complete_call (renderable_lighting _) _ _)
    (worded_light light.kind _ _) ?_ fresh
  have goes := leads.trans leads'
  exact Draft.fills_cons (holdsNormal.mono goes)
    (Draft.fills_cons (holdsVertex.mono goes) (fills.mono leads') "viewVertex") "normal"

theorem denotes_shadowFactor (draft : Draft (vocabulary state) name) (index : Nat)
    {light : Light} (active : light ∈ state.activeLights) (casts : light.castsShadow = true)
    {technique : ShadowTechnique} (receives : state.shadow = some technique) :
    Denotes (shadowFactor index technique) draft (shadowTerm index technique) := by
  have plainVertex : isPlain "shadowVertex" = true := rfl
  have plainShadow : isPlain "shadow" = true := rfl
  refine (yields_input draft (.varying (.modelVertex active casts receives))).bind ?_
  rintro _ first _ _ ⟨rfl, vertex⟩
  refine (yields_input first (.shadowMatrix index)).bind ?_
  rintro _ second leads₂ _ ⟨rfl, matrix⟩
  refine (yields_input second (.shadowMap index)).bind ?_
  rintro _ third leads₃ _ ⟨rfl, depthMap⟩
  refine (yields_input third (.shadowTexel index)).bind ?_
  rintro _ fourth leads₄ _ ⟨rfl, texelSize⟩
  refine (yields_input fourth (.shadowBias index)).bind ?_
  rintro _ fifth leads₅ _ ⟨rfl, bias⟩
  refine (yields_named fifth .vec4 (isPlain_append_toString plainVertex _)).bind ?_
  rintro shadowVertex sixth leads₆ _ ⟨freshVertex, typed⟩
  have goes₃ := leads₃.trans (leads₄.trans (leads₅.trans leads₆))
  have fills := Draft.fills_cons (matrix.mono goes₃)
    (Draft.fills_cons (vertex.mono (leads₂.trans goes₃)) sixth.fills_nil "vec") "matrix"
  refine (yields_add_fresh ?_ ?_ fills.supplies freshVertex).bind ?_
  · exact Node.Complete.of_slots (List.Subset.refl _) (List.Subset.refl _) nofun trivial
  · trivial
  intro _ seventh leads₇ _ requested
  have transformed := Draft.holds_of_requested requested (fills.mono leads₇)
  rw [typed] at transformed
  refine (yields_named seventh .float (isPlain_append_toString plainShadow _)).bind ?_
  intro out eighth leads₈ _ fresh
  refine denotes_node (complete_call (renderable_shadow _) _ _)
    (worded_shadow technique _ _) ?_ fresh
  have goes₅ := leads₆.trans (leads₇.trans leads₈)
  have goes₄ := leads₅.trans goes₅
  exact Draft.fills_cons (depthMap.mono (leads₄.trans goes₄))
    (Draft.fills_cons (transformed.mono leads₈)
      (Draft.fills_cons (texelSize.mono goes₄)
        (Draft.fills_cons (bias.mono goes₅) eighth.fills_nil "bias") "texelSize")
      "shadowVertex") "depthMap"

theorem denotes_shadowedContribution (draft : Draft (vocabulary state) name)
    {normal viewVertex : Variable} (holdsNormal : draft.Holds normal normalTerm)
    (holdsVertex : draft.Holds viewVertex (.varying .vec4 "vViewVertex")) {light : Light}
    (active : light ∈ state.activeLights) (index : Nat) :
    Denotes (shadowedContribution state normal viewVertex light index) draft
      (lightTerm state.shadow light index) := by
  refine (denotes_lightContribution draft index light holdsNormal holdsVertex).bind ?_
  intro diffuse first _ _ holdsDiffuse
  rw [lightTerm]
  cases receives : state.shadow with
  | none =>
      rw [Option.elim_none, ite_self]
      exact Yields.pure holdsDiffuse
  | some technique =>
      cases casts : light.castsShadow with
      | false => exact Yields.pure holdsDiffuse
      | true =>
          refine (denotes_shadowFactor first index active casts receives).bind ?_
          intro factor second leads _ holdsFactor
          exact denotes_multiply second (holdsDiffuse.mono leads) holdsFactor .vec3 rfl

/-! ## The sum of the lights -/

/-- The slot of a contribution. -/
def lightSlot (index : Nat) : String :=
  s!"light{index}"

theorem isSlotPart_lightSlot (index : Nat) : ∀ c ∈ (lightSlot index).toList,
    Node.isSlotPart c = true := by
  have letters : "light".toList.all Node.isSlotPart = true := rfl
  exact List.all_eq_true.mp
    (Text.all_isSlotPart_append letters (Text.all_isSlotPart_toString index))

theorem opening_lightSlot (index : Nat) : opening (lightSlot index) = ['l', 'i'] := by
  have opens : opening "light" = ['l', 'i'] := rfl
  exact opening_append opens (toString index)

theorem lightSlot_ne (index : Nat) : lightSlot index ≠ "out" := by
  intro same
  have opens := opening_lightSlot index
  rw [same] at opens
  exact absurd opens (by decide)

/-- A sum of slots mentions nothing but them. -/
theorem mem_of_mentioned_sum : ∀ {words : List (List Char)},
    (∀ word ∈ words, ∀ c ∈ word, Node.isSlotPart c = true) →
      ∀ slot ∈ Node.mentioned none
        ([' ', '+', ' '].intercalate (words.map fun word => '%' :: word) ++ [';']),
        slot ∈ words := by
  intro words
  induction words with
  | nil => exact fun _ slot member => absurd member List.not_mem_nil
  | cons word words ih =>
      intro parts slot member
      have first := parts word List.mem_cons_self
      cases words with
      | nil =>
          rw [List.map_singleton, List.intercalate_singleton,
            Node.mentioned_word first (by decide) (by decide)] at member
          exact member
      | cons next words =>
          rw [List.map_cons, List.map_cons, List.intercalate_cons_cons, List.append_assoc,
            List.append_assoc] at member
          change slot ∈ Node.mentioned none ('%' :: word ++ ' ' :: (['+', ' '] ++ _)) at member
          rw [Node.mentioned_word first (by decide) (by decide),
            Node.mentioned_append (by decide)] at member
          rcases List.mem_cons.mp member with rfl | later
          · exact List.mem_cons_self
          · refine List.mem_cons_of_mem _ (ih ?_ slot later)
            exact fun other among => parts other (List.mem_cons_of_mem _ among)

/-- A sum of slots is quiet. -/
theorem isQuiet_sum {output : List Char} : ∀ {words : List (List Char)},
    (∀ word ∈ words, word ≠ [] ∧ word ≠ output ∧ ∀ c ∈ word, Node.isSlotPart c = true) →
      ∀ before, Node.isQuiet output none before []
        ([' ', '+', ' '].intercalate (words.map fun word => '%' :: word)) = true := by
  intro words
  induction words with
  | nil => exact fun _ before => rfl
  | cons word words ih =>
      intro slots before
      obtain ⟨⟨some, other, parts⟩, later⟩ := List.forall_mem_cons.mp slots
      have allowed : (!word.isEmpty && word != output) = true := by simp [some, other]
      cases words with
      | nil =>
          rw [List.map_singleton, List.intercalate_singleton, ← List.append_nil ('%' :: word),
            Node.isQuiet_slot parts, Node.isQuiet, List.reverse_reverse, List.isEmpty_reverse]
          exact allowed
      | cons next words =>
          rw [List.map_cons, List.map_cons, List.intercalate_cons_cons, List.append_assoc,
            Node.isQuiet_slot parts]
          have step : ∀ rest, Node.isQuiet output (.some word.reverse) before []
              ([' ', '+', ' '] ++ rest) = ((!word.reverse.isEmpty &&
                word.reverse.reverse != output) && true &&
                  Node.isQuiet output none ' ' [] rest) :=
            fun _ => rfl
          rw [step, List.reverse_reverse, List.isEmpty_reverse, allowed]
          exact ih later ' '

theorem toList_sum (count : Nat) :
    (" + ".intercalate ((List.range count).map fun i => s!"%light{i}")).toList =
      [' ', '+', ' '].intercalate (((List.range count).map fun i => (lightSlot i).toList).map
        fun word => '%' :: word) := by
  have terms : (String.toList ∘ fun i : Nat => "%light" ++ toString i) =
      ((fun word => '%' :: word) ∘ fun i => (lightSlot i).toList) := by
    funext i
    change ("%light" ++ toString i).toList = '%' :: ("light" ++ toString i).toList
    rw [String.toList_append, String.toList_append]
    rfl
  rw [String.toList_intercalate, List.map_map, List.map_map]
  exact congrArg _ (congrArg (fun f => (List.range count).map f) terms)

/-- The code of a sum mentions its result and its terms. -/
theorem mem_of_mentioned_sumCode {count : Nat} {slot : List Char}
    (member : slot ∈ Node.mentioned none (sumCode count).toList) :
    slot = "out".toList ∨ slot ∈ (List.range count).map fun i => (lightSlot i).toList := by
  have spelled : (sumCode count).toList = '%' :: "out".toList ++ ' ' :: (['=', ' '] ++
      ([' ', '+', ' '].intercalate (((List.range count).map fun i => (lightSlot i).toList).map
        fun word => '%' :: word) ++ [';'])) := by
    change (("%out = " ++ " + ".intercalate ((List.range count).map fun i =>
      s!"%light{i}")) ++ ";").toList = _
    rw [String.toList_append, String.toList_append, toList_sum, List.append_assoc]
    rfl
  have letters : ∀ c ∈ "out".toList, Node.isSlotPart c = true :=
    List.all_eq_true.mp rfl
  rw [spelled, Node.mentioned_word letters (by decide) (by decide),
    Node.mentioned_append (by decide)] at member
  rcases List.mem_cons.mp member with rfl | term
  · exact .inl rfl
  · refine .inr (mem_of_mentioned_sum ?_ slot term)
    intro word among
    obtain ⟨i, _, rfl⟩ := List.mem_map.mp among
    exact isSlotPart_lightSlot i

theorem complete_sum (contributions : List Variable) (out : Variable) :
    Node.Complete { operation := .inlineCode (sumCode contributions.length)
                    inputs := numberedInputs lightSlot contributions
                    outputs := [("out", out)] } := by
  refine Node.Complete.of_code rfl ?_
  intro slot member
  rw [Node.Answers, Node.inputNames, map_fst_numberedInputs]
  rcases mem_of_mentioned_sumCode member with rfl | term
  · rw [String.ofList_toList]
    exact .inr (.inr (List.mem_singleton_self _))
  · obtain ⟨i, among, rfl⟩ := List.mem_map.mp term
    rw [String.ofList_toList]
    exact .inr (.inl (List.mem_map_of_mem among))

/-- The code of a sum assigns the sum of its slots. -/
theorem worded_sum (contributions : List Variable) (out : Variable) :
    Node.Worded { operation := .inlineCode (sumCode contributions.length)
                  inputs := numberedInputs lightSlot contributions
                  outputs := [("out", out)] } (.inlineCode (sumCode contributions.length)) := by
  refine worded_inlineCode
    (" + ".intercalate ((List.range contributions.length).map fun i => s!"%light{i}")) rfl ?_
    ⟨by decide, rfl, ?_, ?_⟩
  · rw [map_fst_numberedInputs]
    intro member
    obtain ⟨index, _, same⟩ := List.mem_map.mp member
    exact lightSlot_ne index same
  · refine Text.calm_intercalate rfl fun text member => ?_
    obtain ⟨index, _, rfl⟩ := List.mem_map.mp member
    exact .append rfl (Text.calm_toString index)
  · rw [toList_sum]
    refine isQuiet_sum (fun word member => ?_) ' '
    obtain ⟨index, _, rfl⟩ := List.mem_map.mp member
    refine ⟨?_, fun same => lightSlot_ne index (String.toList_inj.mp same),
      isSlotPart_lightSlot index⟩
    intro empty
    have opens := opening_lightSlot index
    rw [opening, empty] at opens
    cases opens

/-- The code of a sum adds up the slots of its terms. -/
theorem sumTerm_eq {ts : List Term} {count : Nat} (length : ts.length = count) :
    sumTerm ts = .apply (.inlineCode (sumCode count))
      (ts.zipIdx.map fun entry => (lightSlot entry.2, entry.1)) "out" .vec3 := by
  have slots : (ts.zipIdx.map fun entry => (lightSlot entry.2, entry.1)).map
      (fun argument => "%" ++ argument.1) = (List.range count).map fun i => s!"%light{i}" := by
    rw [List.map_map, List.range_eq_range', ← length, ← List.zipIdx_map_snd, List.map_map]
    refine List.map_congr_left fun entry _ => ?_
    change "%" ++ ("light" ++ toString entry.2) = "%light" ++ toString entry.2
    rw [← String.append_assoc]
    rfl
  have code : sumCode count = "%out = " ++ " + ".intercalate
      ((ts.zipIdx.map fun entry => (lightSlot entry.2, entry.1)).map
        fun argument => "%" ++ argument.1) ++ ";" := by
    rw [slots]
    rfl
  rw [code]
  rfl

theorem denotes_litColor {draft : Draft (vocabulary state) name} {color : Variable} {t : Term}
    (holds : draft.Holds color t) (lit : state.activeLights ≠ []) :
    Denotes (litColor state color) draft (litTerm t (lightSumTerm state)) := by
  refine (yields_input draft (.varying (.viewNormal lit))).bind ?_
  rintro _ first leads₁ _ ⟨rfl, viewNormal⟩
  refine (denotes_normalize first viewNormal rfl rfl).bind ?_
  intro normal second leads₂ _ holdsNormal
  refine (yields_input second (.varying (.viewVertex lit))).bind ?_
  rintro _ third leads₃ _ ⟨rfl, viewVertex⟩
  -- Every light adds a contribution that stays available.
  have contributions : Yields (state.activeLights.zipIdx.mapM fun entry =>
      shadowedContribution state normal
        { name := "vViewVertex", type := .vec4, storage := .varying }
        entry.1 entry.2) third [] fun vs later =>
          List.Forall₂ later.Holds vs (state.activeLights.zipIdx.map fun entry =>
            lightTerm state.shadow entry.1 entry.2) := by
    refine denotes_mapM ?_
    rintro ⟨light, index⟩ member later leads
    exact denotes_shadowedContribution later (holdsNormal.mono (leads₃.trans leads))
      (viewVertex.mono leads) (List.fst_mem_of_mem_zipIdx member) index
  refine contributions.bind ?_
  intro contributions fourth leads₄ _ holdsAll
  refine (yields_named fourth .vec3 rfl).bind ?_
  intro out fifth leads₅ _ freshSum
  have fills := (Draft.fills_numberedInputs holdsAll lightSlot).mono leads₅
  have sums : Denotes (node (.inlineCode (sumCode contributions.length))
      (numberedInputs lightSlot contributions) "out" out) fifth (lightSumTerm state) := by
    rw [lightSumTerm, sumTerm_eq holdsAll.length_eq.symm]
    exact denotes_node (complete_sum contributions out) (worded_sum contributions out)
      fills freshSum
  refine sums.bind ?_
  intro sum sixth leads₆ _ holdsSum
  refine (yields_named sixth .vec4 rfl).bind ?_
  intro lit seventh leads₇ _ freshLit
  have goes := leads₁.trans (leads₂.trans (leads₃.trans (leads₄.trans
    (leads₅.trans (leads₆.trans leads₇)))))
  refine denotes_node ?_ ?_ ?_ freshLit
  · exact Node.Complete.of_spells rfl (Snippet.spells_literal rfl)
      ["color", "diffuse", "out"] rfl (by decide)
  · exact worded_inlineCode "vec4(%color.rgb * %diffuse, %color.a)" rfl (by simp)
      ⟨by decide, rfl, rfl, rfl⟩
  · exact Draft.fills_cons (holds.mono goes) (Draft.fills_cons (holdsSum.mono leads₇)
      seventh.fills_nil "diffuse") "color"

/-! ## The whole stage -/

/-- The color of the fragment. -/
def fragColor : Variable :=
  { name := StageGraph.fragColorName, type := .vec4, storage := .builtin }

/-- The color of the fragment can be assigned while no output has been written. -/
theorem yields_fragColor {draft : Draft (vocabulary state) name} {color : Variable} {t : Term}
    (holds : draft.Holds color t) (empty : draft.outputs = []) :
    draft.graph.builtin? StageGraph.fragColorName = some fragColor ∧
      Yields (assign color fragColor) draft [fragColor] fun _ later =>
        later.Holds fragColor (.apply .assign [("in", t)] "out" .vec4) := by
  have unwritten : fragColor ∉ draft.outputs := by
    rw [empty]
    exact List.not_mem_nil
  obtain ⟨found, pending⟩ := draft.builtin?_eq (List.mem_singleton_self fragColor) rfl unwritten
  exact ⟨found, yields_assign holds pending⟩

/-- **The fragment stage can be wired** for every render state.  The color of the fragment is
the output that it writes, and it is what shading says. -/
theorem yields_main (state : RenderState) (name : String) :
    Yields (main state) (Draft.empty (vocabulary state) name) [fragColor] fun _ later =>
      later.Holds fragColor (.apply .assign [("in", colorTerm state)] "out" .vec4) := by
  change Yields (baseColor state >>= _) _ ([] ++ [fragColor]) _
  refine Yields.bind (denotes_baseColor (Draft.empty (vocabulary state) name)) ?_
  intro base first _ outputs₁ holdsBase
  refine Yields.bind (denotes_textures holdsBase) ?_
  intro textured second _ outputs₂ holdsTextured
  have empty : second.outputs = [] := by
    rw [outputs₂, outputs₁]
    rfl
  dsimp only
  rw [colorTerm]
  split
  · obtain ⟨found, yields⟩ := yields_fragColor holdsTextured empty
    rw [pure_bind]
    refine Yields.get ?_
    rw [found]
    exact yields
  · rename_i lit
    have lit : state.activeLights ≠ [] := fun dark => lit (List.isEmpty_iff.mpr dark)
    refine (denotes_litColor holdsTextured lit).bind ?_
    intro color third _ outputs₃ holdsColor
    rw [empty] at outputs₃
    obtain ⟨found, yields⟩ := yields_fragColor holdsColor outputs₃
    refine Yields.get ?_
    rw [found]
    exact yields

/-- **The graph of the fragment stage computes the color that shading asks for.**  The stage is
wired without an error for every render state, and the built-in color unfolds, through aliases
and the only producer of each variable, to a copy of `colorTerm`: the color of the material,
multiplied by the color of the vertex where there is one and by the samples of all active
textures in order, and lit by the sum of all active lights in order, shadowed where a light
casts a shadow and a technique is set. -/
theorem term?_fragColor (state : RenderState) (name : String) :
    ∃ graph, state.wireFragment name = (.ok (), graph) ∧
      graph.term? (graph.nodes.length + 1) fragColor =
        some (.apply .assign [("in", colorTerm state)] "out" .vec4) := by
  obtain ⟨_, draft, wired, _, _, _, holds⟩ := yields_main state name
  refine ⟨draft.graph, wired, ?_⟩
  rw [draft.term?_eq, holds.2]

end Fragment
end ShaderLoom
