import Mathlib.Data.List.Basic
import ShaderLoom.RenderState.Fingerprint

/-!
# The canonical encoding can be taken apart

The canonical bytes of a render state are a concatenation of parts, some of them optional and
some of variable length.  Nothing separates the parts, so whether the bytes say anything about
the render state depends on each part saying for itself where it ends.

`Determines` is that property, for one part: from the bytes of a value, whatever follows them,
one can tell a *view* of the value and where its bytes end.  The view is the value itself for
most parts.  For a morph it is the number of targets and the canonical names, since the order
and the repeats of the target names leave no trace in the bytes.

Lengths are written in words of 32 bits.  `RenderState.Encodable` says that no list or name is
too long for that; beyond it the lengths wrap around and the parts run into each other.

## Main results

* `Encoding.option_determines`, `Encoding.items_determines`, `Encoding.text_determines` — the
  constructions keep the property
* `RenderState.Agree.of_canonicalBytes_eq` — render states with the same bytes have the same
  active features
-/

namespace ShaderLoom
namespace Encoding

/-- From the bytes of a valid value, whatever follows them, one can tell the `view` of the value
and where its bytes end. -/
def Determines {α β : Type} (view : α → β) (valid : α → Prop)
    (encode : α → List UInt8) : Prop :=
  ∀ ⦃a b : α⦄, valid a → valid b →
    ∀ ⦃x y : List UInt8⦄, encode a ++ x = encode b ++ y → view a = view b ∧ x = y

/-! ## Parts of fixed length -/

/-- An encoding of fixed length determines what it tells apart. -/
theorem determines_of_length {α β : Type} {view : α → β} {valid : α → Prop}
    {encode : α → List UInt8} (size : Nat) (length : ∀ a, (encode a).length = size)
    (separates : ∀ a b, encode a = encode b → view a = view b) :
    Determines view valid encode := by
  intro a b _ _ x y same
  have lengths : (encode a).length = (encode b).length := by rw [length, length]
  obtain ⟨bytes, rest⟩ := List.append_inj same lengths
  exact ⟨separates a b bytes, rest⟩

/-- The four bytes of a word determine it. -/
theorem word32_injective {a b : UInt32} (same : word32 a = word32 b) : a = b := by
  unfold word32 at same
  injection same with byte0 same
  injection same with byte1 same
  injection same with byte2 same
  injection same with byte3 _
  have value0 := congrArg UInt8.toNat byte0
  have value1 := congrArg UInt8.toNat byte1
  have value2 := congrArg UInt8.toNat byte2
  have value3 := congrArg UInt8.toNat byte3
  simp only [UInt32.toNat_toUInt8, UInt32.toNat_shiftRight, UInt32.reduceToNat, Nat.reduceMod,
    Nat.shiftRight_eq_div_pow, Nat.reducePow] at value0 value1 value2 value3
  have boundA := a.toNat_lt
  have boundB := b.toNat_lt
  apply UInt32.toNat_inj.mp
  omega

theorem word32_determines (valid : UInt32 → Prop) : Determines id valid word32 :=
  determines_of_length 4 (fun _ => rfl) fun _ _ same => word32_injective same

/-- A length that fits a word is determined by its bytes. -/
theorem length_determines : Determines id (fun n => n < UInt32.size) length := by
  intro a b fitsA fitsB x y same
  obtain ⟨words, rest⟩ := word32_determines (fun _ => True) trivial trivial same
  have values := congrArg UInt32.toNat words
  simp only [id_eq, UInt32.toNat_ofNat', Nat.reducePow] at values
  have sizes : UInt32.size = 4294967296 := rfl
  refine ⟨?_, rest⟩
  rw [id_eq, id_eq]
  omega

/-- A length that does not fit a word wraps around. -/
theorem length_add_size (n : Nat) : length (n + UInt32.size) = length n := by
  have wraps : UInt32.ofNat (n + UInt32.size) = UInt32.ofNat n := by
    apply UInt32.toNat_inj.mp
    simp [UInt32.size]
  rw [length, length, wraps]

theorem flag_injective {a b : Bool} (same : flag a = flag b) : a = b := by
  revert a b
  decide

theorem lightKind_injective {a b : LightKind} (same : lightKind a = lightKind b) : a = b := by
  cases a <;> cases b <;> first | rfl | cases same

/-- The byte of a shadow technique tells it apart from the others and from none. -/
theorem shadow_injective {a b : Option ShadowTechnique} (same : shadow a = shadow b) :
    a = b := by
  rcases a with _ | a <;> rcases b with _ | b <;>
    (try cases a) <;> (try cases b) <;> first | rfl | cases same

theorem skin_determines (valid : Skin → Prop) : Determines id valid skin := by
  refine determines_of_length 4 (fun _ => rfl) fun a b same => ?_
  cases a
  cases b
  exact congrArg Skin.mk (word32_injective same)

theorem light_determines (valid : Light → Prop) : Determines id valid light := by
  refine determines_of_length 2 (fun _ => rfl) fun a b same => ?_
  obtain ⟨kindA, castsA⟩ := a
  obtain ⟨kindB, castsB⟩ := b
  injection same with kinds same
  injection same with casts _
  obtain rfl := lightKind_injective kinds
  obtain rfl := flag_injective casts
  rfl

theorem texture_determines (valid : Texture → Prop) : Determines id valid texture := by
  refine determines_of_length 8 (fun _ => rfl) fun a b same => ?_
  obtain ⟨unitA, texcoordA⟩ := a
  obtain ⟨unitB, texcoordB⟩ := b
  obtain ⟨units, texcoords⟩ := List.append_inj same rfl
  obtain rfl := word32_injective units
  obtain rfl := word32_injective texcoords
  rfl

/-! ## Parts of variable length -/

/-- A byte in front tells an absent value from one that is there. -/
theorem option_determines {α β : Type} {view : α → β} {valid : α → Prop}
    {encode : α → List UInt8} (determines : Determines view valid encode) :
    Determines (Option.map view) (fun value => ∀ a ∈ value, valid a) (option encode) := by
  intro a b validA validB x y same
  cases a with
  | none =>
      cases b with
      | none =>
          injection same with _ rest
          exact ⟨rfl, rest⟩
      | some b => injection same with marks _; cases marks
  | some a =>
      cases b with
      | none => injection same with marks _; cases marks
      | some b =>
          injection same with _ rest
          obtain ⟨views, rest⟩ := determines (validA a rfl) (validB b rfl) rest
          exact ⟨congrArg some views, rest⟩

/-- Items one after the other, as many in one list as in the other, are determined one by
one. -/
theorem flatMap_determines {α β : Type} {view : α → β} {valid : α → Prop}
    {encode : α → List UInt8} (determines : Determines view valid encode) :
    ∀ {a b : List α}, a.length = b.length → (∀ v ∈ a, valid v) → (∀ v ∈ b, valid v) →
      ∀ {x y : List UInt8}, a.flatMap encode ++ x = b.flatMap encode ++ y →
        a.map view = b.map view ∧ x = y := by
  intro a
  induction a with
  | nil =>
      intro b lengths _ _ x y same
      obtain rfl : b = [] := List.eq_nil_of_length_eq_zero lengths.symm
      exact ⟨rfl, same⟩
  | cons first a ih =>
      intro b lengths validA validB x y same
      obtain ⟨first', b, rfl⟩ := List.exists_cons_of_length_eq_add_one lengths.symm
      rw [List.flatMap_cons, List.flatMap_cons, List.append_assoc, List.append_assoc] at same
      obtain ⟨firsts, same⟩ := determines (validA first List.mem_cons_self)
        (validB first' List.mem_cons_self) same
      obtain ⟨rests, ends⟩ := ih (Nat.succ.inj lengths)
        (fun v member => validA v (List.mem_cons_of_mem _ member))
        (fun v member => validB v (List.mem_cons_of_mem _ member)) same
      exact ⟨by rw [List.map_cons, List.map_cons, firsts, rests], ends⟩

/-- A list is determined by its bytes, as long as its length fits a word. -/
theorem items_determines {α β : Type} {view : α → β} {valid : α → Prop}
    {encode : α → List UInt8} (determines : Determines view valid encode) :
    Determines (List.map view)
      (fun values => values.length < UInt32.size ∧ ∀ v ∈ values, valid v) (items encode) := by
  intro a b validA validB x y same
  rw [items, items, List.append_assoc, List.append_assoc] at same
  obtain ⟨lengths, same⟩ := length_determines validA.1 validB.1 same
  exact flatMap_determines determines lengths validA.2 validB.2 same

/-- A text is determined by its bytes, as long as their number fits a word. -/
theorem text_determines :
    Determines id (fun value => value.utf8ByteSize < UInt32.size) text := by
  intro a b fitsA fitsB x y same
  rw [text, text, List.append_assoc, List.append_assoc] at same
  obtain ⟨sizes, same⟩ := length_determines fitsA fitsB same
  obtain ⟨bytes, rest⟩ := List.append_inj same sizes
  refine ⟨String.toByteArray_inj.mp (ByteArray.ext (Array.toList_inj.mp bytes)), rest⟩

/-- What the bytes of a morph say about it. -/
def morphView (morph : Morph) : UInt32 × List String :=
  (morph.targetCount, morph.canonicalNames)

theorem morph_determines :
    Determines morphView
      (fun morph => morph.canonicalNames.length < UInt32.size ∧
        ∀ name ∈ morph.canonicalNames, name.utf8ByteSize < UInt32.size) morph := by
  intro a b validA validB x y same
  rw [morph, morph, List.append_assoc, List.append_assoc] at same
  obtain ⟨counts, same⟩ := word32_determines (fun _ => True) trivial trivial same
  obtain ⟨names, rest⟩ := items_determines text_determines validA validB same
  rw [List.map_id, List.map_id] at names
  rw [id_eq, id_eq] at counts
  exact ⟨by rw [morphView, morphView, counts, names], rest⟩

end Encoding

/-! ## Canonical names -/

namespace Morph

theorem mem_insertName {name other : String} {names : List String} :
    other ∈ insertName name names ↔ other = name ∨ other ∈ names := by
  induction names with
  | nil => simp [insertName]
  | cons first rest ih =>
      unfold insertName
      split
      · simp
      · split
        · next equal => simp [equal]
        · rw [List.mem_cons, ih, List.mem_cons]
          tauto

/-- The canonical names are the target names: only order and repeats are lost. -/
theorem mem_canonicalNames {morph : Morph} {name : String} :
    name ∈ morph.canonicalNames ↔ name ∈ morph.targetNames := by
  unfold canonicalNames
  induction morph.targetNames with
  | nil => simp
  | cons first rest ih => rw [List.foldr_cons, mem_insertName, ih, List.mem_cons]

theorem length_insertName_le (name : String) (names : List String) :
    (insertName name names).length ≤ names.length + 1 := by
  induction names with
  | nil => simp [insertName]
  | cons first rest ih =>
      unfold insertName
      split
      · simp
      · split
        · simp
        · simpa using ih

theorem length_canonicalNames_le (morph : Morph) :
    morph.canonicalNames.length ≤ morph.targetNames.length := by
  unfold canonicalNames
  induction morph.targetNames with
  | nil => simp
  | cons first rest ih =>
      have grown := length_insertName_le first (rest.foldr insertName [])
      rw [List.foldr_cons, List.length_cons]
      omega

/-- Whether a stream has targets can be read off the canonical names. -/
theorem hasTarget_eq_of_canonicalNames_eq {a b : Morph}
    (same : a.canonicalNames = b.canonicalNames) (stream : String) :
    a.hasTarget stream = b.hasTarget stream := by
  rw [hasTarget, hasTarget, Bool.eq_iff_iff, List.contains_iff_mem, List.contains_iff_mem,
    ← mem_canonicalNames, ← mem_canonicalNames, same]

end Morph

/-! ## Render states -/

namespace RenderState

/-- The lists and names of a render state are short enough for their lengths to be written in
words of 32 bits. -/
structure Encodable (state : RenderState) : Prop where
  names : ∀ morph ∈ state.morph, morph.targetNames.length < UInt32.size
  name : ∀ morph ∈ state.morph, ∀ name ∈ morph.targetNames, name.utf8ByteSize < UInt32.size
  lights : state.lights.length < UInt32.size
  textures : state.textures.length < UInt32.size

/-- Two render states have the same active features: everything that the canonical encoding
says. -/
structure Agree (a b : RenderState) : Prop where
  skin : a.activeSkin = b.activeSkin
  morph : a.activeMorph.map Encoding.morphView = b.activeMorph.map Encoding.morphView
  billboard : a.billboard = b.billboard
  pointSize : a.pointSize = b.pointSize
  streams : a.effectiveStreams = b.effectiveStreams
  lights : a.activeLights = b.activeLights
  shadow : a.activeShadow = b.activeShadow
  textures : a.activeTextures = b.activeTextures

theorem Encodable.activeMorph {state : RenderState} (encodable : state.Encodable) :
    ∀ morph ∈ state.activeMorph, morph.canonicalNames.length < UInt32.size ∧
      ∀ name ∈ morph.canonicalNames, name.utf8ByteSize < UInt32.size := by
  intro morph active
  have present : morph ∈ state.morph := (Option.filter_eq_some_iff.mp active).1
  refine ⟨Nat.lt_of_le_of_lt morph.length_canonicalNames_le (encodable.names morph present), ?_⟩
  intro name member
  exact encodable.name morph present name (Morph.mem_canonicalNames.mp member)

theorem Encodable.activeLights {state : RenderState} (encodable : state.Encodable) :
    state.activeLights.length < UInt32.size := by
  unfold RenderState.activeLights
  split
  · exact encodable.lights
  · exact Nat.lt_of_le_of_lt (Nat.zero_le _) encodable.lights

theorem Encodable.activeTextures {state : RenderState} (encodable : state.Encodable) :
    state.activeTextures.length < UInt32.size :=
  Nat.lt_of_le_of_lt (List.length_filter_le _ _) encodable.textures

/-- **The canonical encoding can be taken apart.**  Render states with the same bytes have the
same active features. -/
theorem Agree.of_canonicalBytes_eq {a b : RenderState} (encodableA : a.Encodable)
    (encodableB : b.Encodable) (same : a.canonicalBytes = b.canonicalBytes) : Agree a b := by
  -- Both sides end in the same empty rest; each part is then split off from the left.
  have same : a.canonicalBytes ++ [] = b.canonicalBytes ++ [] := by rw [same]
  simp only [canonicalBytes, List.append_assoc] at same
  obtain ⟨skin, same⟩ := Encoding.option_determines (Encoding.skin_determines fun _ => True)
    (fun _ _ => trivial) (fun _ _ => trivial) same
  obtain ⟨morph, same⟩ := Encoding.option_determines Encoding.morph_determines
    encodableA.activeMorph encodableB.activeMorph same
  obtain ⟨flags, same⟩ := List.append_inj same rfl
  injection flags with billboard flags
  injection flags with pointSize _
  obtain ⟨streams, same⟩ := Encoding.word32_determines (fun _ => True) trivial trivial same
  obtain ⟨lights, same⟩ := Encoding.items_determines (Encoding.light_determines fun _ => True)
    ⟨encodableA.activeLights, fun _ _ => trivial⟩
    ⟨encodableB.activeLights, fun _ _ => trivial⟩ same
  obtain ⟨shadow, same⟩ := List.append_inj same rfl
  injection shadow with shadow _
  obtain ⟨textures, _⟩ := Encoding.items_determines (Encoding.texture_determines fun _ => True)
    ⟨encodableA.activeTextures, fun _ _ => trivial⟩
    ⟨encodableB.activeTextures, fun _ _ => trivial⟩ same
  exact {
    skin := by simpa using skin
    morph := morph
    billboard := Encoding.flag_injective billboard
    pointSize := Encoding.flag_injective pointSize
    streams := congrArg Streams.mk streams
    lights := by simpa using lights
    shadow := Encoding.shadow_injective shadow
    textures := by simpa using textures }

end RenderState
end ShaderLoom
