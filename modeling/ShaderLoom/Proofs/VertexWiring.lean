import ShaderLoom.Proofs.FragmentWiring
import ShaderLoom.Proofs.Transforms

/-!
# The vertex stage can be wired

A render state with few enough morph targets has a vertex stage: it is wired without an error
for all varyings that a fragment stage may ask for, and it writes the size of points, the clip
position and exactly these varyings, each once.  What it writes stands for what it should.

Attributes and uniforms are inputs of the stage and can be read at any time.  Varyings are its
outputs.  Intermediate values are shared between the constructions that ask for them, so each
construction is followed on an arbitrary draft, in which any of its parts may have been built
before.  It denotes the same term in all of them.

## Main definitions

* `Vertex.Input`, `Vertex.vocabulary` — the variables of the vertex stage
* `Vertex.Complete` — drafts of wired stages

## Main results

* `Vertex.interface_iff` — the varyings between the stages are known with their types
* `Vertex.denotes_transform` — what constructions denote
* `Vertex.exists_main` — the vertex stage can be wired
-/

namespace ShaderLoom
namespace Vertex

open Wire

/-! ## Variables -/

/-- The attributes and uniforms of the vertex stage. -/
inductive Input (state : RenderState) : Variable → Prop
  | stream (quantity : Quantity) : Input state quantity.raw
  | target (quantity : Quantity) (index : Nat) :
    Input state
      { name := s!"{quantity.stream}_{index}", type := quantity.type, storage := .attr }
  | weights : Input state { name := "Weights", type := .vec4, storage := .attr }
  | bones : Input state { name := "Bones", type := .vec4, storage := .attr }
  | color : Input state { name := "Color", type := .vec4, storage := .attr }
  | texcoord (set : UInt32) :
    Input state { name := s!"TexCoord{set.toNat}", type := .vec2, storage := .attr }
  | targetWeights : Input state { name := "uTargetWeights", type := .vec4, storage := .uniform }
  | palette : Input state (palette state)
  | pointMatrix (space : Space) :
    Input state { name := space.pointMatrix, type := .mat4, storage := .uniform }
  | directionMatrix (space : Space) :
    Input state { name := space.directionMatrix, type := .mat4, storage := .uniform }
  | projection : Input state { name := "uProjectionMatrix", type := .mat4, storage := .uniform }
  | pointSize : Input state { name := "uPointSize", type := .float, storage := .uniform }
  | colorEnabled : Input state
      { name := "uArrayColorEnabled", type := .float, storage := .uniform }

/-- A name tells its variable. -/
def classify (palette : Nat) : Classifier
  | ['V', _], _ => (.vec3, .attr, none)
  | ['N', _], _ => (.vec3, .attr, none)
  | ['T', 'a'], _ => (.vec4, .attr, none)
  | ['T', _], _ => (.vec2, .attr, none)
  | ['v', 'T'], _ => (.vec2, .varying, none)
  | ['v', _], some 'l' => (.vec3, .varying, none)
  | ['v', _], _ => (.vec4, .varying, none)
  | ['u', 'T'], _ => (.vec4, .uniform, none)
  | ['u', 'B'], _ => (.vec4, .uniform, some palette)
  | ['u', 'M'], _ => (.mat4, .uniform, none)
  | ['u', 'A'], _ => (.float, .uniform, none)
  | ['u', _], some 'x' => (.mat4, .uniform, none)
  | ['u', _], _ => (.float, .uniform, none)
  | _, _ => (.vec4, .attr, none)

theorem classify_tells (state : RenderState) (v : Variable)
    (contained : Interface v ∨ Input state v) : (classify (paletteLength state)).Tells v := by
  -- The last character is needed only where the first two do not decide.
  have ends : ∀ {v : Variable} {c d e : Char}, opening v.name = [c, d] →
      closing v.name = some e → isReservedOpening c d = true →
        classify (paletteLength state) [c, d] (some e) = (v.type, v.storage, v.arrayLength) →
          (classify (paletteLength state)).Tells v :=
    fun opens closes reserved same => Classifier.tells_of_opening opens reserved (closes ▸ same)
  have vertex : opening "Vertex" = ['V', 'e'] := rfl
  have normal : opening "Normal" = ['N', 'o'] := rfl
  have tangent : opening "Tangent" = ['T', 'a'] := rfl
  rcases contained with interface | input
  · cases interface with
    | viewVertex =>
        exact ends (c := 'v') (d := 'V') (e := 'x') rfl rfl rfl rfl
    | viewNormal =>
        exact ends (c := 'v') (d := 'V') (e := 'l') rfl rfl rfl rfl
    | viewTangent =>
        exact ends (c := 'v') (d := 'V') (e := 't') rfl rfl rfl rfl
    | modelVertex =>
        exact ends (c := 'v') (d := 'M') (e := 'x') rfl rfl rfl rfl
    | modelNormal =>
        exact ends (c := 'v') (d := 'M') (e := 'l') rfl rfl rfl rfl
    | modelTangent =>
        exact ends (c := 'v') (d := 'M') (e := 't') rfl rfl rfl rfl
    | vertexColor =>
        exact ends (c := 'v') (d := 'V') (e := 'r') rfl rfl rfl rfl
    | texcoord numbered =>
        exact Classifier.tells_of_opening (opening_of_texcoordSet? numbered) rfl rfl
  · cases input with
    | stream quantity =>
        cases quantity with
        | vertex => exact Classifier.tells_of_opening vertex rfl rfl
        | normal => exact Classifier.tells_of_opening normal rfl rfl
        | tangent => exact Classifier.tells_of_opening tangent rfl rfl
    | target quantity index =>
        have opens : ∀ {name c d}, opening name = [c, d] →
            opening s!"{name}_{index}" = [c, d] :=
          fun opens => opening_append (opening_append opens _) _
        cases quantity with
        | vertex => exact Classifier.tells_of_opening (opens vertex) rfl rfl
        | normal => exact Classifier.tells_of_opening (opens normal) rfl rfl
        | tangent => exact Classifier.tells_of_opening (opens tangent) rfl rfl
    | weights =>
        have opens : opening "Weights" = ['W', 'e'] := rfl
        exact Classifier.tells_of_opening opens rfl rfl
    | bones =>
        have opens : opening "Bones" = ['B', 'o'] := rfl
        exact Classifier.tells_of_opening opens rfl rfl
    | color =>
        have opens : opening "Color" = ['C', 'o'] := rfl
        exact Classifier.tells_of_opening opens rfl rfl
    | texcoord set =>
        have opens : opening "TexCoord" = ['T', 'e'] := rfl
        exact Classifier.tells_of_opening (opening_append opens _) rfl rfl
    | targetWeights =>
        have opens : opening "uTargetWeights" = ['u', 'T'] := rfl
        exact Classifier.tells_of_opening opens rfl rfl
    | palette =>
        have opens : opening "uBones" = ['u', 'B'] := rfl
        exact Classifier.tells_of_opening opens rfl rfl
    | pointMatrix space =>
        have opens : opening space.pointMatrix = ['u', 'M'] := by cases space <;> rfl
        exact Classifier.tells_of_opening opens rfl rfl
    | directionMatrix space =>
        have opens : opening space.directionMatrix = ['u', 'M'] := by cases space <;> rfl
        exact Classifier.tells_of_opening opens rfl rfl
    | projection =>
        exact ends (c := 'u') (d := 'P') (e := 'x') rfl rfl rfl rfl
    | pointSize =>
        exact ends (c := 'u') (d := 'P') (e := 'e') rfl rfl rfl rfl
    | colorEnabled =>
        have opens : opening "uArrayColorEnabled" = ['u', 'A'] := rfl
        exact Classifier.tells_of_opening opens rfl rfl

/-- The names of inputs consist of letters, digits and underscores. -/
theorem Input.spelled {state : RenderState} {v : Variable} (input : Input state v) :
    v.name.toList.all Node.isSlotPart = true := by
  have streams : ∀ quantity : Quantity, quantity.stream.toList.all Node.isSlotPart = true := by
    intro quantity
    cases quantity <;> rfl
  cases input with
  | stream quantity => exact streams quantity
  | target quantity index =>
      exact Text.all_isSlotPart_append (Text.all_isSlotPart_append (streams quantity) rfl)
        (Text.all_isSlotPart_toString index)
  | texcoord set =>
      have letters : "TexCoord".toList.all Node.isSlotPart = true := rfl
      exact Text.all_isSlotPart_append letters (Text.all_isSlotPart_toString set.toNat)
  | pointMatrix space => cases space <;> rfl
  | directionMatrix space => cases space <;> rfl
  | palette =>
      have letters : "uBones".toList.all Node.isSlotPart = true := rfl
      exact letters
  | _ => rfl

/-- The variables of the vertex stage, and what its constructions share. -/
def vocabulary (state : RenderState) : Vocabulary :=
  .classified .vertex (fun v => Interface v ∨ Input state v) (classify (paletteLength state))
    (classify_tells state) (sharedTerm? state)

section Constructions

variable {state : RenderState} {name : String}

theorem Input.readable {v : Variable} (input : Input state v) : Readable .vertex v := by
  cases input <;> first | exact .inl rfl | exact .inr (.inl rfl)

/-- Inputs have values once they are declared. -/
theorem yields_input (draft : Draft (vocabulary state) name) {v : Variable}
    (input : Input state v) : Yields (declare v) draft [] fun w later =>
      w = v ∧ later.Holds v (.input v) ∧ written later.edits = written draft.edits := by
  refine (yields_declare draft (.inr input) input.readable).imp ?_
  rintro _ later _ ⟨rfl, has, same⟩
  exact ⟨rfl, Draft.holds_of_readable has input.readable, same⟩

/-! ## Morphing -/

theorem denotes_targetWeights (draft : Draft (vocabulary state) name) (stream : String) :
    Denotes (targetWeights stream) draft (weightsTerm stream) := by
  refine Yields.requireVertex rfl ?_ _
  refine (yields_input draft .targetWeights).bind ?_
  rintro _ first _ _ ⟨rfl, weights, _⟩
  rw [weightsTerm]
  split
  · refine denotes_shared rfl ?_
    refine (yields_named first .vec4 rfl).bind ?_
    intro out second leads _ fresh
    refine denotes_kept ?_ ?_ ?_ fresh
    · exact Node.Complete.of_spells rfl
        (((Snippet.spells_literal rfl).append (Snippet.spells_literal rfl)).append
          (Snippet.spells_literal rfl)) ["wts", "output"] rfl (by decide)
    · exact worded_inlineCode
        "%wts / max(1.0, abs(%wts.x) + abs(%wts.y) + abs(%wts.z) + abs(%wts.w))" rfl (by simp)
        ⟨by decide, rfl, rfl, by decide +kernel⟩
    · exact Draft.fills_cons (weights.mono leads) second.fills_nil "wts"
  · exact Yields.pure weights

/-- Declaring morph targets writes nothing, so what is fresh stays fresh. -/
theorem yields_morphTargets {draft : Draft (vocabulary state) name} (quantity : Quantity)
    {out : Variable} (fresh : draft.Fresh out) (count : Nat) :
    Yields (morphTargets quantity.stream quantity.type count) draft [] fun targets later =>
      List.Forall₂ later.Holds targets ((List.range count).map fun index =>
        .attr quantity.type s!"{quantity.stream}_{index}") ∧ later.Fresh out := by
  refine yields_mapM fresh ?_
  intro index _ later _ stillFresh
  refine (yields_input later (.target quantity index)).imp ?_
  rintro _ after leads ⟨rfl, holds, same⟩
  exact ⟨holds, stillFresh.of_written leads same⟩

/-- The slot of a morph target. -/
def targetSlot (index : Nat) : String :=
  s!"target{index}"

/-- A morphing operation with few targets has all that it needs. -/
theorem complete_morphing {count : Nat} (few : count ≤ 4)
    {targets : List Variable} (length : targets.length = count) (input weights : Operand)
    (out : Variable) :
    Node.Complete { operation := .morphing count
                    inputs := ("vertex", input) :: ("weights", weights) ::
                      numberedInputs targetSlot targets
                    outputs := [("result", out)] } := by
  refine Node.Complete.of_slots ?_ (List.Subset.refl _) nofun (Nat.le_trans few (by decide))
  have names : (numberedInputs targetSlot targets).map Prod.fst =
      (List.range count).map targetSlot := by
    rw [map_fst_numberedInputs, length]
  change "vertex" :: "weights" :: (List.range count).map targetSlot ⊆
    "vertex" :: "weights" :: (numberedInputs targetSlot targets).map Prod.fst
  rw [names]
  exact List.Subset.refl _

/-- Valid render states have few morph targets. -/
theorem targetCount_le (valid : state.validate = .ok ()) {morph : Morph}
    (active : state.activeMorph = some morph) : morph.targetCount.toNat ≤ 4 := by
  have asked : state.morph = some morph := (Option.filter_eq_some_iff.mp active).1
  rw [RenderState.validate, asked] at valid
  dsimp only at valid
  split at valid
  · cases valid
  · rename_i few
    exact UInt32.le_iff_toNat_le.mp (UInt32.not_lt.mp few)

theorem denotes_morphStream (valid : state.validate = .ok ())
    (draft : Draft (vocabulary state) name) (quantity : Quantity) {base : String}
    (plain : isPlain base = true) :
    Denotes (morphStream state quantity.stream quantity.type base) draft
      (morphTerm state quantity) := by
  refine (yields_input draft (.stream quantity)).bind ?_
  rintro _ first _ _ ⟨rfl, raw, _⟩
  rw [morphTerm, targetCount?]
  cases active : state.activeMorph.filter fun morph => morph.hasTarget quantity.stream with
  | none => exact Yields.pure raw
  | some morph =>
      have few := targetCount_le valid (Option.filter_eq_some_iff.mp active).1
      refine (denotes_targetWeights first quantity.stream).bind ?_
      intro weights second leads₂ _ holdsWeights
      refine (yields_named second .vec3 plain).bind ?_
      rintro out third leads₃ _ ⟨fresh, typed⟩
      refine (yields_morphTargets quantity fresh morph.targetCount.toNat).bind ?_
      rintro targets fourth leads₄ _ ⟨holdsTargets, stillFresh⟩
      have length : targets.length = morph.targetCount.toNat := by
        rw [holdsTargets.length_eq, List.length_map, List.length_range]
      have goes := leads₃.trans leads₄
      have complete := complete_morphing few length (.read quantity.raw) (.read weights) out
      refine denotes_node complete few ?_ ⟨stillFresh, typed⟩
      exact Draft.fills_cons (raw.mono (leads₂.trans goes))
        (Draft.fills_cons (holdsWeights.mono goes)
          (Draft.fills_range holdsTargets targetSlot) "weights") "vertex"

theorem denotes_morph (valid : state.validate = .ok ()) (draft : Draft (vocabulary state) name)
    (quantity : Quantity) :
    Denotes ((Transform.morph quantity).wire state) draft (morphTerm state quantity) := by
  cases quantity with
  | vertex =>
      exact Yields.requireVertex rfl
        (denotes_shared rfl (denotes_morphStream valid draft .vertex rfl)) _
  | normal =>
      exact Yields.requireVertex rfl
        (denotes_shared rfl (denotes_morphStream valid draft .normal rfl)) _
  | tangent =>
      exact Yields.requireVertex rfl
        (denotes_shared rfl (denotes_morphStream valid draft .tangent rfl)) _

/-! ## Skinning -/

theorem denotes_boneMatrix (draft : Draft (vocabulary state) name) :
    Denotes (boneMatrix state) draft (boneTerm state) := by
  refine Yields.requireVertex rfl (denotes_shared rfl ?_) _
  refine (yields_input draft .weights).bind ?_
  rintro _ first _ _ ⟨rfl, weights, _⟩
  refine (yields_input first .bones).bind ?_
  rintro _ second leads₂ _ ⟨rfl, bones, _⟩
  refine (yields_input second .palette).bind ?_
  rintro _ third leads₃ _ ⟨rfl, palette, _⟩
  refine (yields_named third .mat4 rfl).bind ?_
  intro out fourth leads₄ _ fresh
  refine denotes_kept ?_ ?_ ?_ fresh
  · exact Node.Complete.of_slots (List.Subset.refl _) (List.Subset.refl _) nofun trivial
  · exact ⟨_, rfl, rfl, rfl⟩
  · have goes := leads₃.trans leads₄
    exact Draft.fills_cons (weights.mono (leads₂.trans goes))
      (Draft.fills_cons (bones.mono goes)
        (Draft.fills_cons (palette.mono leads₄) fourth.fills_nil "matrixPalette") "bonesIndex")
      "weights"

/-- The product of a matrix and a vector in a new temporary, as a point or as a direction. -/
theorem denotes_product (draft : Draft (vocabulary state) name) {operation : Operation}
    {matrix vector : Variable} {s t : Term}
    (complete : ∀ out, Node.Complete
      { operation, inputs := [("matrix", .read matrix), ("vec", .read vector)],
        outputs := [("vec", out)] })
    (worded : ∀ out, Node.Worded
      { operation, inputs := [("matrix", .read matrix), ("vec", .read vector)],
        outputs := [("vec", out)] } operation)
    (holdsMatrix : draft.Holds matrix s) (holdsVector : draft.Holds vector t) (type : DataType)
    {base : Option String} (plain : isPlain (base.getD "tmp") = true) :
    Denotes (do
      let out ← temporary type base
      node operation [("matrix", .read matrix), ("vec", .read vector)] "vec" out) draft
      (.apply operation [("matrix", s), ("vec", t)] "vec" type) := by
  refine (yields_temporary draft type base plain).bind ?_
  intro out later leads _ fresh
  refine denotes_node (complete out) (worded out) ?_ fresh
  exact Draft.fills_cons (holdsMatrix.mono leads)
    (Draft.fills_cons (holdsVector.mono leads) later.fills_nil "vec") "matrix"

theorem complete_transformPoint (inverse : Bool) (matrix vector out : Variable) :
    Node.Complete { operation := .transformPoint inverse
                    inputs := [("matrix", .read matrix), ("vec", .read vector)]
                    outputs := [("vec", out)] } :=
  Node.Complete.of_slots (List.Subset.refl _) (List.Subset.refl _) nofun trivial

theorem complete_transformDirection (inverse : Bool) (matrix vector out : Variable) :
    Node.Complete { operation := .transformDirection inverse
                    inputs := [("matrix", .read matrix), ("vec", .read vector)]
                    outputs := [("vec", out)] } :=
  Node.Complete.of_slots (List.Subset.refl _) (List.Subset.refl _) nofun trivial

theorem denotes_skinDirection (draft : Draft (vocabulary state) name)
    {input : Variable} {t : Term} (holds : draft.Holds input t) {base : String}
    (plain : isPlain base = true) : Denotes (skinDirection state input base) draft
      (if state.activeSkin.isSome then
        .apply (.transformDirection true) [("matrix", boneTerm state), ("vec", t)] "vec" .vec3
      else t) := by
  rw [skinDirection]
  cases state.activeSkin with
  | none => exact Yields.pure holds
  | some skin =>
      refine (denotes_boneMatrix draft).bind ?_
      intro matrix later leads _ holdsMatrix
      exact denotes_product later (complete_transformDirection true matrix input)
        (fun _ => trivial) holdsMatrix (holds.mono leads) .vec3 plain

theorem denotes_skin (valid : state.validate = .ok ()) (draft : Draft (vocabulary state) name)
    (quantity : Quantity) :
    Denotes ((Transform.skin quantity).wire state) draft (skinTerm state quantity) := by
  cases quantity with
  | vertex =>
      refine Yields.requireVertex rfl (denotes_shared rfl ?_) _
      refine (denotes_morph valid draft .vertex).bind ?_
      intro input first _ _ holds
      rw [skinTerm]
      cases state.activeSkin with
      | none => exact Yields.pure holds
      | some skin =>
          refine (denotes_boneMatrix first).bind ?_
          intro matrix second leads _ holdsMatrix
          exact denotes_product second (complete_transformPoint true matrix input)
            (fun _ => trivial) holdsMatrix (holds.mono leads) .vec3 rfl
  | normal =>
      refine Yields.requireVertex rfl (denotes_shared rfl ?_) _
      refine (denotes_morph valid draft .normal).bind ?_
      intro input later _ _ holds
      exact denotes_skinDirection later holds rfl
  | tangent =>
      refine Yields.requireVertex rfl (denotes_shared rfl ?_) _
      refine (denotes_morph valid draft .tangent).bind ?_
      intro input later _ _ holds
      exact denotes_skinDirection later holds rfl

/-! ## Local space -/

theorem denotes_normalizeWithAlpha (draft : Draft (vocabulary state) name)
    {vector alpha : Variable} {t : Term} (holds : draft.Holds vector t)
    (typed : vector.type = .vec3) (holdsAlpha : draft.Holds alpha (.input Quantity.tangent.raw))
    {base : String} (plain : isPlain base = true) :
    Denotes (normalizeWithAlpha vector alpha base) draft (handedTerm t) := by
  refine (denotes_normalize draft holds typed rfl).bind ?_
  intro unit first leads _ holdsUnit
  refine (yields_named first .vec4 plain).bind ?_
  intro out second leads' _ fresh
  refine denotes_node ?_ trivial ?_ fresh
  · exact Node.Complete.of_slots (List.Subset.refl _) (List.Subset.refl _) nofun trivial
  · exact Draft.fills_cons (holdsUnit.mono leads')
      (Draft.fills_cons (holdsAlpha.mono (leads.trans leads')) second.fills_nil "alpha") "color"

/-- A skinned quantity is the attribute itself only where it was not changed. -/
theorem eq_raw_iff {draft : Draft (vocabulary state) name} {v : Variable} {quantity : Quantity}
    (holds : draft.Holds v (skinTerm state quantity)) :
    v = quantity.raw ↔ isDeformed state quantity = false := by
  rw [← skinTerm_eq_iff, ← holds.2]
  constructor
  · rintro rfl
    exact draft.term_of_readable (.inl rfl)
  · exact draft.eq_of_term_eq_input

/-- Only what was changed needs more wiring. -/
theorem denotes_unless_raw {draft : Draft (vocabulary state) name} {v : Variable}
    {quantity : Quantity} (holds : draft.Holds v (skinTerm state quantity))
    {wire : Wire Variable} {t : Term}
    (changed : isDeformed state quantity = true → Denotes wire draft t) :
    Denotes (if v = quantity.raw then pure v else wire) draft
      (if isDeformed state quantity then t else .input quantity.raw) := by
  cases deformed : isDeformed state quantity with
  | false =>
      rw [if_pos ((eq_raw_iff holds).mpr deformed)]
      rw [(skinTerm_eq_iff state quantity).mpr deformed] at holds
      exact Yields.pure holds
  | true =>
      rw [if_neg fun same => by simp [(eq_raw_iff holds).mp same] at deformed]
      exact changed deformed

theorem denotes_inLocal (valid : state.validate = .ok ())
    (draft : Draft (vocabulary state) name) (quantity : Quantity) :
    Denotes ((Transform.inLocal quantity).wire state) draft (localTerm state quantity) := by
  cases quantity with
  | vertex => exact Yields.requireVertex rfl (denotes_skin valid draft .vertex) _
  | normal =>
      refine Yields.requireVertex rfl (denotes_shared rfl ?_) _
      refine (denotes_skin valid draft .normal).bind ?_
      intro normal first _ _ holds
      refine (yields_input first (.stream .normal)).bind ?_
      rintro _ second leads _ ⟨rfl, _, _⟩
      have holds := holds.mono leads
      refine denotes_unless_raw holds fun deformed => ?_
      exact denotes_normalize second holds (holds.type_eq (type?_skinTerm deformed)) rfl
  | tangent =>
      refine Yields.requireVertex rfl (denotes_shared rfl ?_) _
      refine (denotes_skin valid draft .tangent).bind ?_
      intro tangent first _ _ holds
      refine (yields_input first (.stream .tangent)).bind ?_
      rintro _ second leads _ ⟨rfl, raw, _⟩
      have holds := holds.mono leads
      refine denotes_unless_raw holds fun deformed => ?_
      exact denotes_normalizeWithAlpha second holds
        (holds.type_eq (type?_skinTerm deformed)) raw rfl

/-! ## Model and view space -/

theorem denotes_transformPoint (draft : Draft (vocabulary state) name) (space : Space)
    {vector : Variable} {t : Term} (holds : draft.Holds vector t) {base : String}
    (plain : isPlain base = true) :
    Denotes (transformPoint space.pointMatrix vector base) draft
      (.apply (.transformPoint false)
        [("matrix", .uniform .mat4 space.pointMatrix), ("vec", t)] "vec" .vec4) := by
  refine (yields_input draft (.pointMatrix space)).bind ?_
  rintro _ later leads _ ⟨rfl, matrix, _⟩
  exact denotes_product later (complete_transformPoint false _ vector) (fun _ => trivial) matrix
    (holds.mono leads) .vec4 plain

theorem denotes_transformDirection (draft : Draft (vocabulary state) name) (space : Space)
    {vector : Variable} {t : Term} (holds : draft.Holds vector t) :
    Denotes (transformDirection space.directionMatrix vector) draft
      (directionTerm space t) := by
  refine (yields_input draft (.directionMatrix space)).bind ?_
  rintro _ later leads _ ⟨rfl, matrix, _⟩
  exact denotes_product later (complete_transformDirection false _ vector)
    (fun _ => trivial) matrix (holds.mono leads) .vec3 rfl

/-- A position in another space. -/
theorem denotes_vertexIn (valid : state.validate = .ok ())
    (draft : Draft (vocabulary state) name) (space : Space) {base : String}
    (plain : isPlain base = true) : Denotes (do
      let vertex ← localVertex state
      transformPoint space.pointMatrix vertex base) draft (spaceTerm state space .vertex) := by
  refine (denotes_inLocal valid draft .vertex).bind ?_
  intro vertex later _ _ holds
  exact denotes_transformPoint later space holds plain

/-- A normal in another space, of unit length. -/
theorem denotes_normalIn (valid : state.validate = .ok ())
    (draft : Draft (vocabulary state) name) (space : Space) {base : String}
    (plain : isPlain base = true) : Denotes (do
      let normal ← localNormal state
      let direction ← transformDirection space.directionMatrix normal
      normalize direction (some base)) draft (spaceTerm state space .normal) := by
  refine (denotes_inLocal valid draft .normal).bind ?_
  intro normal first _ _ holds
  refine (denotes_transformDirection first space holds).bind ?_
  intro direction second _ _ holdsDirection
  exact denotes_normalize second holdsDirection (holdsDirection.type_eq rfl) plain

/-- A tangent in another space, of unit length and with the handedness of the attribute. -/
theorem denotes_tangentIn (valid : state.validate = .ok ())
    (draft : Draft (vocabulary state) name) (space : Space) {base : String}
    (plain : isPlain base = true) : Denotes (do
      let tangent ← localTangent state
      let direction ← transformDirection space.directionMatrix tangent
      let handedness ← attr .vec4 "Tangent"
      normalizeWithAlpha direction handedness base) draft (spaceTerm state space .tangent) := by
  refine (denotes_inLocal valid draft .tangent).bind ?_
  intro tangent first _ _ holds
  refine (denotes_transformDirection first space holds).bind ?_
  intro direction second _ _ holdsDirection
  refine (yields_input second (.stream .tangent)).bind ?_
  rintro _ third leads _ ⟨rfl, raw, _⟩
  exact denotes_normalizeWithAlpha third (holdsDirection.mono leads)
    (holdsDirection.type_eq rfl) raw plain

theorem denotes_inSpace (valid : state.validate = .ok ())
    (draft : Draft (vocabulary state) name) (space : Space) (quantity : Quantity) :
    Denotes ((Transform.inSpace space quantity).wire state) draft
      (spaceTerm state space quantity) := by
  cases space <;> cases quantity
  case view.vertex =>
    exact Yields.requireVertex rfl
      (denotes_shared rfl (denotes_vertexIn valid draft .view rfl)) _
  case view.normal =>
    exact Yields.requireVertex rfl
      (denotes_shared rfl (denotes_normalIn valid draft .view rfl)) _
  case view.tangent =>
    exact Yields.requireVertex rfl
      (denotes_shared rfl (denotes_tangentIn valid draft .view rfl)) _
  case model.vertex =>
    exact Yields.requireVertex rfl
      (denotes_shared rfl (denotes_vertexIn valid draft .model rfl)) _
  case model.normal =>
    exact Yields.requireVertex rfl
      (denotes_shared rfl (denotes_normalIn valid draft .model rfl)) _
  case model.tangent =>
    exact Yields.requireVertex rfl
      (denotes_shared rfl (denotes_tangentIn valid draft .model rfl)) _

/-- **What constructions denote** does not depend on what has been built before. -/
theorem denotes_transform (valid : state.validate = .ok ())
    (draft : Draft (vocabulary state) name) (call : Transform) :
    Denotes (call.wire state) draft (call.term state) := by
  cases call with
  | targetWeights stream => exact denotes_targetWeights draft stream
  | morph quantity => exact denotes_morph valid draft quantity
  | boneMatrix => exact denotes_boneMatrix draft
  | skin quantity => exact denotes_skin valid draft quantity
  | inLocal quantity => exact denotes_inLocal valid draft quantity
  | inSpace space quantity => exact denotes_inSpace valid draft space quantity

/-! ## Outputs -/

/-- The clip position. -/
def clipPosition : Variable :=
  { name := StageGraph.positionName, type := .vec4, storage := .builtin }

/-- The size of points. -/
def sizeOfPoints : Variable :=
  { name := StageGraph.pointSizeName, type := .float, storage := .builtin }

theorem yields_pointSize (draft : Draft (vocabulary state) name)
    (unwritten : sizeOfPoints ∉ draft.outputs) :
    Yields (pointSize state) draft [sizeOfPoints] fun _ later =>
      later.Holds sizeOfPoints (pointSizeTerm state) := by
  have builtin : sizeOfPoints ∈ StageGraph.builtins .vertex :=
    List.mem_cons_of_mem _ List.mem_cons_self
  obtain ⟨found, pending⟩ := draft.builtin?_eq builtin rfl unwritten
  replace found : draft.graph.builtin? StageGraph.pointSizeName = some sizeOfPoints := found
  refine Yields.requireVertex rfl (Yields.get ?_) _
  rw [found, pointSizeTerm]
  dsimp only
  split
  · refine (yields_input draft .pointSize).bind ?_
    rintro _ later leads same ⟨rfl, size, _⟩
    exact yields_assign size (pending.mono leads same)
  · have fills : draft.Fills [("in", .literal DataType.float.one)] [("in", .literal "1.0")] :=
      ⟨List.forall_mem_singleton.mpr
        (show Glsl.Silent DataType.float.one from Glsl.silent_one), rfl⟩
    refine yields_output ?_ trivial fills pending
    exact Node.Complete.of_slots (List.Subset.refl _) (List.Subset.refl _) nofun trivial

theorem yields_position (valid : state.validate = .ok ())
    (draft : Draft (vocabulary state) name) (unwritten : clipPosition ∉ draft.outputs) :
    Yields (position state) draft [clipPosition] fun _ later =>
      later.Holds clipPosition (positionTerm state) := by
  have builtin : clipPosition ∈ StageGraph.builtins .vertex := List.mem_cons_self
  obtain ⟨found, pending⟩ := draft.builtin?_eq builtin rfl unwritten
  replace found : draft.graph.builtin? StageGraph.positionName = some clipPosition := found
  refine Yields.requireVertex rfl (Yields.get ?_) _
  rw [found, positionTerm]
  dsimp only
  split
  · refine (yields_input draft (.stream .vertex)).bind ?_
    rintro _ first leads₁ same₁ ⟨rfl, vertex, _⟩
    refine (yields_input first (.pointMatrix .view)).bind ?_
    rintro _ second leads₂ same₂ ⟨rfl, modelView, _⟩
    refine (yields_input second .projection).bind ?_
    rintro _ third leads₃ same₃ ⟨rfl, projection, _⟩
    have pending := ((pending.mono leads₁ same₁).mono leads₂ same₂).mono leads₃ same₃
    have matrices := Draft.fills_cons (modelView.mono leads₃)
      (Draft.fills_cons projection third.fills_nil "ProjectionMatrix") "ModelViewMatrix"
    have fills := Draft.fills_cons (vertex.mono (leads₂.trans leads₃)) matrices "Vertex"
    refine yields_output ?_ trivial fills pending
    exact Node.Complete.of_slots (List.Subset.refl _) (List.Subset.refl _) nofun trivial
  · refine (yields_input draft .projection).bind ?_
    rintro _ first leads₁ same₁ ⟨rfl, projection, _⟩
    refine (denotes_inSpace valid first .view .vertex).bind ?_
    intro vertex second leads₂ same₂ holdsVertex
    have pending := (pending.mono leads₁ same₁).mono leads₂ same₂
    have fills := Draft.fills_cons (projection.mono leads₂)
      (Draft.fills_cons holdsVertex second.fills_nil "vec") "matrix"
    exact yields_output (complete_transformPoint false _ vertex _) trivial fills pending

/-! ## Varyings -/

/-- The names of texture coordinates are none that open in another way. -/
theorem texcoord_not_mem {name : String} {set : UInt32}
    (numbered : texcoordSet? name = some set) {others : List String}
    (differ : ∀ other ∈ others, opening other ≠ ['v', 'T']) : name ∉ others :=
  fun member => differ name member (opening_of_texcoordSet? numbered)

/-- Nor are they the names of other varyings. -/
theorem ne_of_texcoordSet? {name : String} {set : UInt32}
    (numbered : texcoordSet? name = some set) :
    name ≠ "vViewVertex" ∧ name ≠ "vViewNormal" ∧ name ≠ "vViewTangent" ∧
      name ≠ "vModelVertex" ∧ name ≠ "vModelNormal" ∧ name ≠ "vModelTangent" ∧
      name ≠ "vVertexColor" := by
  have others : name ∉ ["vViewVertex", "vViewNormal", "vViewTangent", "vModelVertex",
      "vModelNormal", "vModelTangent", "vVertexColor"] :=
    texcoord_not_mem numbered (by decide +kernel)
  simpa using others

/-- **The varyings between the stages** are known with their types, and no others are. -/
theorem interface_iff {name : String} {type : DataType} :
    Interface { name, type, storage := .varying } ↔ knownVarying? name = some type := by
  constructor
  · intro interface
    cases interface with
    | texcoord numbered =>
        rw [knownVarying?, if_neg (texcoord_not_mem numbered (by decide +kernel)),
          if_neg (texcoord_not_mem numbered (by decide +kernel)), numbered]
        rfl
    | _ => rfl
  · intro known
    rw [knownVarying?] at known
    split at known
    · rename_i member
      cases known
      simp only [List.mem_cons, List.not_mem_nil, or_false] at member
      rcases member with rfl | rfl | rfl | rfl | rfl
      · exact .viewVertex
      · exact .modelVertex
      · exact .viewTangent
      · exact .modelTangent
      · exact .vertexColor
    · split at known
      · rename_i member
        cases known
        simp only [List.mem_cons, List.not_mem_nil, or_false] at member
        rcases member with rfl | rfl
        · exact .viewNormal
        · exact .modelNormal
      · obtain ⟨set, numbered, rfl⟩ := Option.map_eq_some_iff.mp known
        exact .texcoord numbered

/-- Texture coordinates carry the set of their number. -/
theorem varyingTerm?_of_texcoordSet? {name : String} {set : UInt32}
    (numbered : texcoordSet? name = some set) : varyingTerm? state name =
      some (copyTerm (.attr .vec2 s!"TexCoord{set.toNat}") .vec2) := by
  obtain ⟨h₁, h₂, h₃, h₄, h₅, h₆, h₇⟩ := ne_of_texcoordSet? numbered
  rw [varyingTerm?, if_neg h₁, if_neg h₂, if_neg h₃, if_neg h₄, if_neg h₅, if_neg h₆, if_neg h₇,
    numbered]
  rfl

theorem yields_vertexColor (draft : Draft (vocabulary state) name) {out : Variable}
    (pending : draft.Pending out) (typed : out.type = .vec4) :
    Yields (vertexColor out) draft [out] fun _ later => later.Holds out vertexColorTerm := by
  refine (yields_input draft .colorEnabled).bind ?_
  rintro _ first leads₁ same₁ ⟨rfl, enabled, _⟩
  refine (yields_input first .color).bind ?_
  rintro _ second leads₂ same₂ ⟨rfl, color, _⟩
  have pending := (pending.mono leads₁ same₁).mono leads₂ same₂
  have fills := Draft.fills_cons (enabled.mono leads₂)
    (Draft.fills_cons color second.fills_nil "acolor") "venabled"
  refine (yields_output ?_ ?_ fills pending).imp ?_
  · exact Node.Complete.of_spells rfl (Snippet.spells_literal rfl)
      ["venabled", "acolor", "vcolor"]
      rfl (by decide)
  · exact worded_inlineCode "%venabled == 1.0 ? %acolor : vec4(1.0, 1.0, 1.0, 1.0)" rfl
      (by simp) ⟨by decide, rfl, rfl, rfl⟩
  · intro _ _ _ holds
    rw [typed] at holds
    exact holds

/-- An output of the stage carries what its name says. -/
def Carries (draft : Draft (vocabulary state) name) (v : Variable) : Prop :=
  ∃ t, varyingTerm? state v.name = some t ∧ draft.Holds v t

/-- A value that is built and then copied into an output of the stage. -/
theorem yields_varyingOf (valid : state.validate = .ok ())
    (draft : Draft (vocabulary state) name) (space : Space) (quantity : Quantity)
    {out : Variable} (pending : draft.Pending out) (carried : varyingTerm? state out.name =
      some (copyTerm (spaceTerm state space quantity) out.type)) :
    Yields (do Wire.assign (← (Transform.inSpace space quantity).wire state) out) draft [out]
      fun _ later => Carries later out := by
  refine Yields.bind (denotes_inSpace valid draft space quantity) ?_
  intro v later leads same holds
  exact (yields_assign holds (pending.mono leads same)).imp fun _ _ _ holds =>
    ⟨_, carried, holds⟩

theorem yields_varyingValue (valid : state.validate = .ok ())
    (draft : Draft (vocabulary state) name) {out : Variable} (interface : Interface out)
    (pending : draft.Pending out) :
    Yields (varyingValue state out.name out) draft [out] fun _ later => Carries later out := by
  cases interface with
  | viewVertex => exact yields_varyingOf valid draft .view .vertex pending rfl
  | viewNormal => exact yields_varyingOf valid draft .view .normal pending rfl
  | viewTangent => exact yields_varyingOf valid draft .view .tangent pending rfl
  | modelVertex => exact yields_varyingOf valid draft .model .vertex pending rfl
  | modelNormal => exact yields_varyingOf valid draft .model .normal pending rfl
  | modelTangent => exact yields_varyingOf valid draft .model .tangent pending rfl
  | vertexColor =>
      exact (yields_vertexColor draft pending rfl).imp fun _ _ _ holds => ⟨_, rfl, holds⟩
  | @texcoord varyingName set numbered =>
      obtain ⟨h₁, h₂, h₃, h₄, h₅, h₆, h₇⟩ := ne_of_texcoordSet? numbered
      dsimp only [varyingValue]
      rw [if_neg h₄, if_neg h₅, if_neg h₆, if_neg h₁, if_neg h₂, if_neg h₃, if_neg h₇, numbered]
      refine (yields_input draft (.texcoord set)).bind ?_
      rintro _ later leads same ⟨rfl, coordinates, _⟩
      exact (yields_assign coordinates (pending.mono leads same)).imp
        fun _ _ _ holds => ⟨_, varyingTerm?_of_texcoordSet? numbered, holds⟩

/-- A step succeeds on a draft, and declares, writes and marks as roots the given outputs of the
stage, which carry what their names say. -/
def Delivers (step : Wire Unit) (draft : Draft (vocabulary state) name)
    (added : List Variable) : Prop :=
  ∃ later : Draft (vocabulary state) name, step.on draft.graph = (.ok (), later.graph) ∧
    draft.Leads later ∧ later.outputs = draft.outputs ++ added ∧
      later.targets = draft.targets ++ added ∧
        ∀ v ∈ added, v ∈ later.graph.roots ∧ Carries later v

theorem delivers_varying (valid : state.validate = .ok ())
    (draft : Draft (vocabulary state) name) {v : Variable} (interface : Interface v)
    (unwritten : v ∉ draft.outputs) (undeclared : v ∉ draft.targets) :
    Delivers (varying state v.name v.type) draft [v] := by
  have varies := interface.eq_varying
  have storage : v.storage = .varying := congrArg Variable.storage varies
  have declared : Wire.varying v.type v.name = declare v := congrArg declare varies.symm
  have known : knownVarying? v.name = some v.type := interface_iff.mp (varies ▸ interface)
  have output : ¬ Readable .vertex v := not_readable_of_varying storage
  have external : v.storage ≠ .temporary := by
    rw [storage]
    decide
  obtain ⟨first, done, leads, same, member, targets⟩ :=
    exists_declare_output draft (.inl interface) external output undeclared
  have outputs : first.outputs = draft.outputs := by
    rw [Draft.outputs, same]
    rfl
  have pending : first.Pending v := ⟨member, output, external, outputs ▸ unwritten⟩
  -- The value is wired and then marked as a root.
  have rest : Yields (do varyingValue state v.name v; root v) first ([v] ++ []) fun _ later =>
      v ∈ later.graph.roots ∧ Carries later v := by
    refine (yields_varyingValue valid first interface pending).bind ?_
    rintro _ second _ outputs ⟨t, carried, holds⟩
    have among : v ∈ second.outputs := by
      rw [outputs]
      exact List.mem_append_right _ (List.mem_singleton_self v)
    exact (yields_root second among).imp fun _ _ leads marked =>
      ⟨marked, t, carried, holds.mono leads⟩
  obtain ⟨_, later, doneRest, leadsRest, outputsRest, targetsRest, marked⟩ := rest
  refine ⟨later, ?_, leads.trans leadsRest, ?_, ?_, List.forall_mem_singleton.mpr marked⟩
  · rw [varying, known]
    dsimp only
    rw [if_neg (not_not_intro rfl), declared]
    exact (on_bind_ok done).trans doneRest
  · rw [outputsRest, outputs]
    rfl
  · rw [targetsRest, targets]

/-- Varyings are wired one after the other. -/
theorem delivers_varyings (valid : state.validate = .ok ()) {requested : List Variable}
    (draft : Draft (vocabulary state) name) (interface : ∀ v ∈ requested, Interface v)
    (distinct : (draft.outputs ++ requested).Nodup)
    (undeclared : (draft.targets ++ requested).Nodup) :
    Delivers (varyings state (requested.map fun v => (v.name, v.type))) draft requested := by
  have each : Delivers ((requested.map fun v => (v.name, v.type)).forM fun entry =>
      varying state entry.1 entry.2) draft requested := by
    induction requested generalizing draft with
    | nil =>
        exact ⟨draft, rfl, .refl draft, (List.append_nil _).symm, (List.append_nil _).symm,
          List.forall_mem_nil _⟩
    | cons v requested ih =>
        have unwritten : v ∉ draft.outputs := fun already =>
          List.disjoint_of_nodup_append distinct already List.mem_cons_self
        have new : v ∉ draft.targets := fun already =>
          List.disjoint_of_nodup_append undeclared already List.mem_cons_self
        obtain ⟨first, done, leads, outputs, targets, marked⟩ :=
          delivers_varying valid draft (interface v List.mem_cons_self) unwritten new
        obtain ⟨later, doneRest, leadsRest, outputsRest, targetsRest, markedRest⟩ :=
          ih first (fun w member => interface w (List.mem_cons_of_mem _ member))
            (by rw [outputs, List.append_assoc]; exact distinct)
            (by rw [targets, List.append_assoc]; exact undeclared)
        refine ⟨later, ?_, leads.trans leadsRest, ?_, ?_, ?_⟩
        · exact (on_bind_ok done).trans doneRest
        · rw [outputsRest, outputs, List.append_assoc]
          rfl
        · rw [targetsRest, targets, List.append_assoc]
          rfl
        · obtain ⟨root, t, carried, holds⟩ := marked v (List.mem_singleton_self v)
          exact List.forall_mem_cons.mpr
            ⟨⟨leadsRest.roots_subset root, t, carried, holds.mono leadsRest⟩, markedRest⟩
  obtain ⟨later, done, rest⟩ := each
  exact ⟨later, (on_requireVertex draft rfl _).trans done, rest⟩

/-! ## The whole stage -/

/-- A draft of the whole stage: the size of points, the clip position and the requested varyings
are written and stand for what they should, and the varyings are roots. -/
structure Complete (draft : Draft (vocabulary state) name) (requested : List Variable) :
    Prop where
  outputs : draft.outputs = [sizeOfPoints, clipPosition] ++ requested
  targets : draft.targets = [clipPosition, sizeOfPoints] ++ requested
  size : draft.Holds sizeOfPoints (pointSizeTerm state)
  position : draft.Holds clipPosition (positionTerm state)
  varyings : ∀ v ∈ requested, v ∈ draft.graph.roots ∧ Carries draft v

/-- **The vertex stage can be wired** for every valid render state and all varyings that it can
deliver, whatever constructions have been built before. -/
theorem exists_main (valid : state.validate = .ok ()) (draft : Draft (vocabulary state) name)
    (unwritten : draft.outputs = []) (undeclared : draft.targets = [clipPosition, sizeOfPoints])
    {requested : List Variable} (interface : ∀ v ∈ requested, Interface v)
    (distinct : requested.Nodup) :
    ∃ later : Draft (vocabulary state) name,
      (main state (requested.map fun v => (v.name, v.type))).on draft.graph =
          (.ok (), later.graph) ∧ draft.Leads later ∧ Complete later requested := by
  have fixed : Yields (do pointSize state; position state) draft
      ([sizeOfPoints] ++ [clipPosition]) fun _ later =>
        later.Holds sizeOfPoints (pointSizeTerm state) ∧
          later.Holds clipPosition (positionTerm state) := by
    refine (yields_pointSize draft (by simp [unwritten])).bind ?_
    intro _ first _ outputs sized
    have apart : clipPosition ∉ first.outputs := by
      rw [outputs, unwritten]
      decide
    exact (yields_position valid first apart).imp fun _ _ leads projected =>
      ⟨sized.mono leads, projected⟩
  obtain ⟨_, first, done, leads, outputs, targets, sized, projected⟩ := fixed
  replace outputs : first.outputs = [sizeOfPoints, clipPosition] := by
    rw [outputs, unwritten]
    rfl
  rw [undeclared] at targets
  -- Varyings are no built-in outputs.
  have apart : ∀ {provided : List Variable}, provided.Nodup →
      (∀ v ∈ provided, v.storage = .builtin) → (provided ++ requested).Nodup := by
    intro provided nodup builtin
    refine List.nodup_append.mpr ⟨nodup, distinct, ?_⟩
    intro w member v among same
    have varying : v.storage = .varying := by cases interface v among <;> rfl
    rw [← same, builtin w member] at varying
    cases varying
  obtain ⟨later, doneRest, leadsRest, outputsRest, targetsRest, marked⟩ :=
    delivers_varyings valid first interface
      (by rw [outputs]; exact apart (by decide) (by decide))
      (by rw [targets]; exact apart (by decide) (by decide))
  refine ⟨later, ?_, leads.trans leadsRest, outputs ▸ outputsRest, targets ▸ targetsRest,
    sized.mono leadsRest, projected.mono leadsRest, marked⟩
  have order : main state (requested.map fun v => (v.name, v.type)) = (do
      requireVertex "declare_vertex_main"
      (do pointSize state; position state : Wire Unit)
      varyings state (requested.map fun v => (v.name, v.type))) := by
    rw [main, bind_assoc]
  rw [order]
  refine (on_requireVertex draft rfl _).trans ?_
  exact (on_bind_ok done).trans doneRest

end Constructions

end Vertex
end ShaderLoom
