import ShaderLoom.Proofs.Encoding
import ShaderLoom.Proofs.StreamBits
import ShaderLoom.Stage.Pair

/-!
# Equal fingerprints mean equal shaders

Shaders are cached under the digest of the canonical bytes, while they are generated from the
render state itself: its streams, its shadow technique and its morph targets are looked at in
many places of the wiring.  So the cache is sound only if nothing that is looked at is missing
from the bytes.

The bytes determine the active features (`RenderState.Agree`).  This module follows the wiring
from the bottom up and shows that each construction is the same for render states that agree.
Three places look at the raw render state and need an argument:

* the color and position streams are asked for directly, and survive in the effective streams;
* morphing asks whether a stream is among the target names, which the canonical names also tell;
* a light that casts a shadow looks at the shadow technique itself, which then is the active
  one.

## Main results

* `RenderState.Agree.stages_eq` — render states that agree have the same stage graphs
* `RenderState.canonicalBytes_sound` — the same canonical bytes, the same shaders
-/

namespace ShaderLoom

/-! ## Streams -/

namespace RenderState

/-- The position and color streams survive in the effective streams. -/
theorem effectiveStreams_contains (state : RenderState) {wanted : Streams}
    (low : wanted = Streams.position ∨ wanted = Streams.color) :
    state.effectiveStreams.contains wanted = state.streams.contains wanted := by
  obtain ⟨k, single, kept⟩ : ∃ k, wanted.bits.toNat = 1 <<< k ∧ (k = 0 ∨ k = 3) := by
    rcases low with rfl | rfl
    · exact ⟨0, rfl, .inl rfl⟩
    · exact ⟨3, rfl, .inr rfl⟩
  rw [Bool.eq_iff_iff, Streams.contains_flag single, Streams.contains_flag single,
    bit_effectiveStreams]
  constructor
  · rintro (⟨there, _⟩ | ⟨_, rfl⟩ | ⟨texture, _, rfl⟩)
    · exact there
    · omega
    · omega
  · exact fun there => .inl ⟨there, kept⟩

/-! ## What agreeing render states have in common -/

/-- Only the active morph can be refused. -/
theorem validate_eq (state : RenderState) :
    state.validate = match state.activeMorph.map Encoding.morphView with
      | none => .ok ()
      | some (count, _) =>
        if maxMorphTargets < count then .error (.tooManyMorphTargets count) else .ok () := by
  unfold validate activeMorph
  cases state.morph with
  | none => rfl
  | some morph =>
      by_cases active : 0 < morph.targetCount
      · simp [Option.filter, active, Encoding.morphView]
      · have small : ¬ maxMorphTargets < morph.targetCount := by
          intro large
          exact active (UInt32.lt_trans (by decide) large)
        simp [Option.filter, active, small]

namespace Agree

variable {a b : RenderState}

theorem contains (agree : Agree a b) {wanted : Streams}
    (low : wanted = Streams.position ∨ wanted = Streams.color) :
    a.streams.contains wanted = b.streams.contains wanted := by
  rw [← effectiveStreams_contains a low, ← effectiveStreams_contains b low, agree.streams]

theorem isDegenerate_eq (agree : Agree a b) : a.isDegenerate = b.isDegenerate := by
  rw [isDegenerate, isDegenerate, agree.contains (.inl rfl)]

theorem validate_eq (agree : Agree a b) : a.validate = b.validate := by
  rw [RenderState.validate_eq, RenderState.validate_eq, agree.morph]

/-- The number of targets of the active morph, if it has targets for a stream. -/
theorem morphCount_eq (agree : Agree a b) (stream : String) :
    (a.activeMorph.filter fun morph => morph.hasTarget stream).map Morph.targetCount =
      (b.activeMorph.filter fun morph => morph.hasTarget stream).map Morph.targetCount := by
  have views := agree.morph
  cases morphA : a.activeMorph with
  | none =>
      cases morphB : b.activeMorph with
      | none => rfl
      | some morph => rw [morphA, morphB] at views; cases views
  | some morph =>
      cases morphB : b.activeMorph with
      | none => rw [morphA, morphB] at views; cases views
      | some morph' =>
          rw [morphA, morphB] at views
          obtain ⟨counts, names⟩ := Prod.mk.inj (Option.some.inj views)
          have targets := Morph.hasTarget_eq_of_canonicalNames_eq names stream
          simp only [Option.filter, targets]
          split <;> simp [counts]

theorem variantName_eq (agree : Agree a b) : a.variantName = b.variantName := by
  have parts : a.variantParts = b.variantParts := by
    have views := agree.morph
    unfold variantParts
    rw [agree.skin, agree.lights, agree.shadow, agree.textures, agree.billboard,
      agree.pointSize]
    cases morphA : a.activeMorph with
    | none =>
        cases morphB : b.activeMorph with
        | none => rfl
        | some morph => rw [morphA, morphB] at views; cases views
    | some morph =>
        cases morphB : b.activeMorph with
        | none => rw [morphA, morphB] at views; cases views
        | some morph' =>
            rw [morphA, morphB] at views
            obtain ⟨counts, _⟩ := Prod.mk.inj (Option.some.inj views)
            simp only [counts]
  rw [variantName, variantName, parts]

/-! ## The fragment stage -/

/-- For a light that casts a shadow the technique itself is the active one. -/
theorem activeShadow_eq_shadow {state : RenderState} {light : Light}
    (active : light ∈ state.activeLights) (casts : light.castsShadow = true) :
    state.activeShadow = state.shadow := by
  have some_casts : state.activeLights.any (fun light => light.castsShadow) = true :=
    List.any_eq_true.mpr ⟨light, active, casts⟩
  unfold activeShadow receivesShadows
  rw [some_casts]
  cases state.shadow <;> rfl

theorem shadowedContribution_eq (agree : Agree a b) (normal viewVertex : Variable)
    {light : Light} (active : light ∈ a.activeLights) (index : Nat) :
    Fragment.shadowedContribution a normal viewVertex light index =
      Fragment.shadowedContribution b normal viewVertex light index := by
  unfold Fragment.shadowedContribution
  cases casts : light.castsShadow with
  | false => cases a.shadow <;> cases b.shadow <;> rfl
  | true =>
      have shadows : a.shadow = b.shadow := by
        rw [← activeShadow_eq_shadow active casts,
          ← activeShadow_eq_shadow (agree.lights ▸ active) casts, agree.shadow]
      rw [shadows]

theorem contributions_eq (agree : Agree a b) (normal viewVertex : Variable) :
    (a.activeLights.zipIdx.mapM fun (light, index) =>
        Fragment.shadowedContribution a normal viewVertex light index) =
      (b.activeLights.zipIdx.mapM fun (light, index) =>
        Fragment.shadowedContribution b normal viewVertex light index) := by
  rw [← agree.lights]
  have pointwise : ∀ entries : List (Light × Nat),
      (∀ entry ∈ entries, entry.1 ∈ a.activeLights) →
      (entries.mapM fun (light, index) =>
          Fragment.shadowedContribution a normal viewVertex light index) =
        (entries.mapM fun (light, index) =>
          Fragment.shadowedContribution b normal viewVertex light index) := by
    intro entries active
    induction entries with
    | nil => rfl
    | cons entry rest ih =>
        obtain ⟨light, index⟩ := entry
        have first : light ∈ a.activeLights := active (light, index) List.mem_cons_self
        rw [List.mapM_cons, List.mapM_cons,
          ih fun entry member => active entry (List.mem_cons_of_mem _ member)]
        simp only [agree.shadowedContribution_eq normal viewVertex first]
  apply pointwise
  rintro ⟨light, index⟩ member
  exact (List.mem_zipIdx' member).2 ▸ List.getElem_mem _

theorem litColor_eq (agree : Agree a b) (color : Variable) :
    Fragment.litColor a color = Fragment.litColor b color := by
  unfold Fragment.litColor
  simp only [agree.contributions_eq]

/-- Render states that agree wire the same fragment stage. -/
theorem fragmentMain_eq (agree : Agree a b) : Fragment.main a = Fragment.main b := by
  have base : Fragment.baseColor a = Fragment.baseColor b := by
    unfold Fragment.baseColor
    rw [agree.contains (.inr rfl)]
  unfold Fragment.main
  simp only [base, agree.textures, agree.lights, agree.litColor_eq]

/-! ## The vertex stage -/

theorem morphStream_eq (agree : Agree a b) (stream : String) (type : DataType) (name : String) :
    Vertex.morphStream a stream type name = Vertex.morphStream b stream type name := by
  have counts := agree.morphCount_eq stream
  unfold Vertex.morphStream
  cases morphA : a.activeMorph.filter fun morph => morph.hasTarget stream with
  | none =>
      cases morphB : b.activeMorph.filter fun morph => morph.hasTarget stream with
      | none => rfl
      | some morph => rw [morphA, morphB] at counts; cases counts
  | some morph =>
      cases morphB : b.activeMorph.filter fun morph => morph.hasTarget stream with
      | none => rw [morphA, morphB] at counts; cases counts
      | some morph' =>
          rw [morphA, morphB] at counts
          simp only [Option.some.inj counts]

theorem boneMatrix_eq (agree : Agree a b) : Vertex.boneMatrix a = Vertex.boneMatrix b := by
  unfold Vertex.boneMatrix
  rw [agree.skin]

theorem skinVertex_eq (agree : Agree a b) : Vertex.skinVertex a = Vertex.skinVertex b := by
  unfold Vertex.skinVertex Vertex.morphVertex
  rw [agree.skin, agree.morphStream_eq, agree.boneMatrix_eq]

theorem skinDirection_eq (agree : Agree a b) (input : Variable) (name : String) :
    Vertex.skinDirection a input name = Vertex.skinDirection b input name := by
  unfold Vertex.skinDirection
  rw [agree.skin, agree.boneMatrix_eq]

theorem localNormal_eq (agree : Agree a b) : Vertex.localNormal a = Vertex.localNormal b := by
  unfold Vertex.localNormal Vertex.skinNormal Vertex.morphNormal
  simp only [agree.morphStream_eq, agree.skinDirection_eq]

theorem localTangent_eq (agree : Agree a b) :
    Vertex.localTangent a = Vertex.localTangent b := by
  unfold Vertex.localTangent Vertex.skinTangent Vertex.morphTangent
  simp only [agree.morphStream_eq, agree.skinDirection_eq]

theorem viewVertex_eq (agree : Agree a b) : Vertex.viewVertex a = Vertex.viewVertex b := by
  unfold Vertex.viewVertex Vertex.localVertex
  rw [agree.skinVertex_eq]

theorem varyingValue_eq (agree : Agree a b) (name : String) (out : Variable) :
    Vertex.varyingValue a name out = Vertex.varyingValue b name out := by
  unfold Vertex.varyingValue Vertex.modelVertex Vertex.modelNormal Vertex.modelTangent
    Vertex.viewNormal Vertex.viewTangent Vertex.localVertex
  simp only [agree.viewVertex_eq, agree.skinVertex_eq, agree.localNormal_eq,
    agree.localTangent_eq]

/-- Render states that agree wire the same vertex stage. -/
theorem vertexMain_eq (agree : Agree a b) (requested : List (String × DataType)) :
    Vertex.main a requested = Vertex.main b requested := by
  have size : Vertex.pointSize a = Vertex.pointSize b := by
    unfold Vertex.pointSize
    rw [agree.pointSize]
  have position : Vertex.position a = Vertex.position b := by
    unfold Vertex.position
    rw [agree.billboard, agree.viewVertex_eq]
  have varyings : Vertex.varyings a requested = Vertex.varyings b requested := by
    unfold Vertex.varyings Vertex.varying
    simp only [agree.varyingValue_eq]
  unfold Vertex.main
  rw [size, position, varyings]

/-! ## Both stages -/

/-- Render states that agree have the same stage graphs. -/
theorem stages_eq (agree : Agree a b) (name : String) : a.stages name = b.stages name := by
  have fragment : a.wireFragment name = b.wireFragment name := by
    rw [wireFragment, wireFragment, agree.fragmentMain_eq]
  have vertex : ∀ varyings, a.wireVertex name varyings = b.wireVertex name varyings := by
    intro varyings
    rw [wireVertex, wireVertex, agree.vertexMain_eq]
  unfold stages
  simp only [agree.validate_eq, fragment, vertex]

/-- Render states that agree have the same sources, or fail in the same way. -/
theorem generate_eq (agree : Agree a b) (compiler : Compiler) (name : String) :
    compiler.generate a name = compiler.generate b name := by
  rw [Compiler.generate, Compiler.generate, agree.stages_eq]

end Agree

/-- **The canonical bytes say everything that matters.**  Render states with the same bytes draw
nothing in the same cases, have the same name, and give the same sources for both stages, or the
same error, with every compiler and under every name. -/
theorem canonicalBytes_sound (a b : RenderState) (encodableA : a.Encodable)
    (encodableB : b.Encodable) (same : a.canonicalBytes = b.canonicalBytes) :
    (a.isDegenerate = true ↔ b.isDegenerate = true) ∧
      a.variantName = b.variantName ∧
      ∀ (compiler : Compiler) (name : String),
        compiler.generate a name = compiler.generate b name := by
  have agree := Agree.of_canonicalBytes_eq encodableA encodableB same
  refine ⟨?_, agree.variantName_eq, agree.generate_eq⟩
  rw [agree.isDegenerate_eq]

/-- Lights without normals, with a technique for their shadows, and morph targets in one
order. -/
def unlitMorph : RenderState :=
  { morph := some { targetCount := 2, targetNames := ["Vertex", "Normal"] }
    streams := Streams.position
    lights := [{ kind := .point, castsShadow := true }]
    shadow := some .pcf }

/-- The same morph targets in another order and repeated, with a stream that nothing reads and a
texture without its coordinates. -/
def repeatedMorph : RenderState :=
  { morph := some { targetCount := 2, targetNames := ["Normal", "Vertex", "Normal"] }
    streams := Streams.position.union Streams.tangent
    textures := [{ unit := 0, texcoord := 3 }] }

theorem encodable_unlitMorph : unlitMorph.Encodable := by
  constructor <;> simp [unlitMorph] <;> decide

theorem encodable_repeatedMorph : repeatedMorph.Encodable := by
  constructor <;> simp [repeatedMorph] <;> decide

theorem canonicalBytes_repeatedMorph :
    unlitMorph.canonicalBytes = repeatedMorph.canonicalBytes := by
  decide +kernel

/-- Render states that differ in five fields and still have the same shaders. -/
theorem canonicalBytes_sound_repeatedMorph :
    unlitMorph.Encodable ∧ repeatedMorph.Encodable ∧
      unlitMorph.canonicalBytes = repeatedMorph.canonicalBytes ∧
      ((unlitMorph.isDegenerate = true ↔ repeatedMorph.isDegenerate = true) ∧
        unlitMorph.variantName = repeatedMorph.variantName ∧
        ∀ (compiler : Compiler) (name : String),
          compiler.generate unlitMorph name = compiler.generate repeatedMorph name) :=
  ⟨encodable_unlitMorph, encodable_repeatedMorph, canonicalBytes_repeatedMorph,
    canonicalBytes_sound _ _ encodable_unlitMorph encodable_repeatedMorph
      canonicalBytes_repeatedMorph⟩

end RenderState
end ShaderLoom
