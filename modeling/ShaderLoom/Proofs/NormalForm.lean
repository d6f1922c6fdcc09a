import Mathlib.Data.List.Sort
import ShaderLoom.Proofs.Encoding

/-!
# The canonical encoding is a normal form

That the canonical bytes tell the active features apart is one half of what a key has to do
(`RenderState.Agree.of_canonicalBytes_eq`).  The other half is that they tell nothing else:
render states that ask for the same have the same bytes, however they are written down.

Only the names of morph targets leave a choice, since their order and their repeats mean
nothing.  Inserting them one by one gives an ascending list, and an ascending list is determined
by its members (`Morph.canonicalNames_eq_iff`).

## Main definitions

* `Morph.Alike` — the same number of targets for the same streams

## Main results

* `Morph.canonicalNames_eq_iff` — canonical names are a normal form of sets of names
* `RenderState.canonicalBytes_eq_iff` — canonical bytes are a normal form of render states
-/

namespace ShaderLoom

/-! ## Sets of names -/

namespace Morph

/-- Inserting a name keeps a list ascending. -/
theorem pairwise_insertName {names : List String} (ascending : names.Pairwise (· < ·))
    (name : String) : (insertName name names).Pairwise (· < ·) := by
  induction names with
  | nil => exact List.pairwise_singleton _ name
  | cons first rest ih =>
      obtain ⟨above, later⟩ := List.pairwise_cons.mp ascending
      unfold insertName
      split
      · rename_i below
        refine List.pairwise_cons.mpr ⟨List.forall_mem_cons.mpr ⟨below, ?_⟩, ascending⟩
        exact fun other member => String.lt_trans below (above other member)
      · rename_i notBelow
        split
        · exact ascending
        · rename_i other
          refine List.pairwise_cons.mpr ⟨fun inserted member => ?_, ih later⟩
          rcases mem_insertName.mp member with rfl | old
          · exact String.not_le.mp fun atMost =>
              other (String.le_antisymm atMost (String.not_lt.mp notBelow))
          · exact above inserted old

theorem pairwise_canonicalNames (morph : Morph) : morph.canonicalNames.Pairwise (· < ·) := by
  unfold canonicalNames
  induction morph.targetNames with
  | nil => exact .nil
  | cons first rest ih => exact pairwise_insertName ih first

/-- **Canonical names are a normal form**: they are equal if and only if the same streams are
named. -/
theorem canonicalNames_eq_iff {a b : Morph} : a.canonicalNames = b.canonicalNames ↔
    ∀ name, name ∈ a.targetNames ↔ name ∈ b.targetNames := by
  constructor
  · intro same name
    rw [← mem_canonicalNames, ← mem_canonicalNames, same]
  · intro members
    have irreflexive : Std.Irrefl (α := String) (· < ·) := ⟨String.lt_irrefl⟩
    have antisymmetric : Std.Antisymm (α := String) (· < ·) :=
      ⟨fun _ _ below above => absurd (String.lt_trans below above) (String.lt_irrefl _)⟩
    refine a.pairwise_canonicalNames.eq_of_mem_iff b.pairwise_canonicalNames fun name => ?_
    rw [mem_canonicalNames, mem_canonicalNames]
    exact members name

/-- Two morphs have as many targets, for the same streams. -/
structure Alike (a b : Morph) : Prop where
  targetCount : a.targetCount = b.targetCount
  targetNames : ∀ name, name ∈ a.targetNames ↔ name ∈ b.targetNames

/-- The bytes of a morph say that much and no more. -/
theorem morphView_eq_iff {a b : Morph} :
    Encoding.morphView a = Encoding.morphView b ↔ a.Alike b := by
  rw [Encoding.morphView, Encoding.morphView, Prod.mk.injEq, canonicalNames_eq_iff]
  constructor
  · rintro ⟨targetCount, targetNames⟩
    exact { targetCount, targetNames }
  · intro alike
    exact ⟨alike.targetCount, alike.targetNames⟩

theorem map_morphView_eq_iff {a b : Option Morph} :
    a.map Encoding.morphView = b.map Encoding.morphView ↔ Option.Rel Alike a b := by
  cases a <;> cases b <;> simp [morphView_eq_iff]

end Morph

/-! ## Render states -/

namespace RenderState

/-- Only the view of a morph is written. -/
theorem option_morph_eq (morph : Option Morph) : Encoding.option Encoding.morph morph =
    Encoding.option (fun view => Encoding.word32 view.1 ++ Encoding.items Encoding.text view.2)
      (morph.map Encoding.morphView) := by
  cases morph <;> rfl

/-- Render states with the same active features have the same bytes. -/
theorem Agree.canonicalBytes_eq {a b : RenderState} (agree : Agree a b) :
    a.canonicalBytes = b.canonicalBytes := by
  unfold canonicalBytes
  rw [option_morph_eq, option_morph_eq, agree.skin, agree.morph, agree.billboard,
    agree.pointSize, agree.streams, agree.lights, agree.shadow, agree.textures]

/-- **Canonical bytes are a normal form of render states.**  Two render states whose lists and
names have lengths of 32 bits have the same bytes if and only if they have the same active skin;
active morphs with the same number of targets and the same set of target names, or none; the
same flags for billboards and point sizes; the same effective streams; the same active lights in
the same order; the same shadow technique where shadows are received; and the same active
textures in the same order. -/
theorem canonicalBytes_eq_iff {a b : RenderState} (encodableA : a.Encodable)
    (encodableB : b.Encodable) : a.canonicalBytes = b.canonicalBytes ↔
      a.activeSkin = b.activeSkin ∧
      Option.Rel Morph.Alike a.activeMorph b.activeMorph ∧
      a.billboard = b.billboard ∧
      a.pointSize = b.pointSize ∧
      a.effectiveStreams = b.effectiveStreams ∧
      a.activeLights = b.activeLights ∧
      (if a.receivesShadows then a.shadow else none) =
        (if b.receivesShadows then b.shadow else none) ∧
      a.activeTextures = b.activeTextures := by
  rw [← Morph.map_morphView_eq_iff]
  constructor
  · intro same
    have agree := Agree.of_canonicalBytes_eq encodableA encodableB same
    exact ⟨agree.skin, agree.morph, agree.billboard, agree.pointSize,
      agree.streams, agree.lights, agree.shadow, agree.textures⟩
  · rintro ⟨skin, morph, billboard, pointSize, streams, lights, shadow, textures⟩
    exact Agree.canonicalBytes_eq
      { skin, morph, billboard, pointSize, streams, lights, shadow, textures }

/-- Morphing towards one target for streams of given names. -/
def morphing (names : List String) : RenderState :=
  { morph := some { targetCount := 1, targetNames := names } }

/-- Names that spell the same one after the other are told apart, and a repeated name is not. -/
theorem canonicalBytes_eq_iff_spelling :
    (morphing ["ab", "c"]).Encodable ∧ (morphing ["a", "bc"]).Encodable ∧
      (morphing ["c", "ab", "c"]).Encodable ∧
      (morphing ["ab", "c"]).canonicalBytes ≠ (morphing ["a", "bc"]).canonicalBytes ∧
      (morphing ["ab", "c"]).canonicalBytes = (morphing ["c", "ab", "c"]).canonicalBytes := by
  have first : (morphing ["ab", "c"]).Encodable := by constructor <;> simp [morphing] <;> decide
  have second : (morphing ["a", "bc"]).Encodable := by
    constructor <;> simp [morphing] <;> decide
  have third : (morphing ["c", "ab", "c"]).Encodable := by
    constructor <;> simp [morphing] <;> decide
  refine ⟨first, second, third, fun same => ?_, ?_⟩
  · obtain ⟨_, alike, _⟩ := (canonicalBytes_eq_iff first second).mp same
    cases alike with
    | some alike => exact absurd ((alike.targetNames "ab").mp List.mem_cons_self) (by decide)
  · refine (canonicalBytes_eq_iff first third).mpr ⟨rfl, ?_, rfl, rfl, rfl, rfl, rfl, rfl⟩
    refine .some ⟨rfl, fun name => ?_⟩
    simp only [List.mem_cons, List.not_mem_nil, or_false]
    tauto

end RenderState
end ShaderLoom
