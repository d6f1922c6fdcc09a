import ShaderLoom.Proofs.Numerals
import ShaderLoom.Proofs.StreamBits
import ShaderLoom.Proofs.TextCuts
import ShaderLoom.RenderState.Fingerprint
import ShaderLoom.RenderState.Persistence

/-!
# Persisted render states

A render state that is written as a document and read again is the same render state.  Reading
is the inverse of writing for each kind of field, and what is built from such fields inherits
this: a list, a value that may be absent, a record.  As writing names every field, no default is
ever used.

Sets of streams are the one field with a written form of its own.  Its parts are the names of
the streams that the set contains and a hexadecimal numeral for the bits without names.  No part
has a blank or a bar in it, so that the parts are found again between the bars.  Each is read as
the streams it was written for, and together these are all bits of the set.

## Main definitions

* `Document.Persists` — reading is the inverse of writing
* `Streams.parts` — the parts of the written form of a set of streams

## Main results

* `Document.Persists.list`, `Document.Persists.option` — compound fields
* `Streams.ofText?_text` — every set of streams is read back
* `RenderState.survives_persistence` — every render state is read back
-/

namespace ShaderLoom

theorem mapM_map_some {α β γ : Type} {f : α → β} {read : β → Option γ} {g : α → γ}
    {values : List α} (each : ∀ value ∈ values, read (f value) = some (g value)) :
    (values.map f).mapM read = some (values.map g) := by
  induction values with
  | nil => rfl
  | cons value values ih =>
      obtain ⟨first, later⟩ := List.forall_mem_cons.mp each
      rw [List.map_cons, List.mapM_cons, first, ih later]
      rfl

namespace Document

/-! ## Fields -/

/-- Reading is the inverse of writing. -/
def Persists {α : Type} (write : α → Document) (read : Document → Option α) : Prop :=
  ∀ value, read (write value) = some value

theorem persists_bool : Persists bool readBool :=
  fun _ => rfl

theorem persists_text : Persists text readText :=
  fun _ => rfl

theorem persists_word32 : Persists ofWord32 readWord32 := by
  intro word
  have fits : 0 ≤ (word.toNat : Int) ∧ (word.toNat : Int) < UInt32.size :=
    ⟨Int.natCast_nonneg _, Int.ofNat_lt.mpr word.toNat_lt⟩
  rw [ofWord32, readWord32, if_pos fits, Int.toNat_natCast, UInt32.ofNat_toNat]

/-- Members of an enumeration are told by their labels. -/
theorem persists_member {α : Type} {members : List α} {label : α → String}
    (listed : ∀ member,
      members.find? (fun other => label other == label member) = some member) :
    Persists (fun member => text (label member)) (readMember members label) :=
  listed

section Compound

variable {α : Type} {write : α → Document} {read : Document → Option α}
  (persists : Persists write read)
include persists

theorem Persists.list : Persists (ofList write) (readList read) := by
  intro values
  rw [ofList, readList, mapM_map_some fun value _ => persists value]
  exact congrArg some (List.map_id values)

/-- A value that may be absent, if no value is written as an absent one. -/
theorem Persists.option (present : ∀ value, write value ≠ null) :
    Persists (ofOption write) (readOption read) := by
  intro value
  cases value with
  | none => rfl
  | some value =>
      rw [ofOption, readOption, persists value]
      · rfl
      · exact present value

variable {fields : List (String × Document)} {name : String} {value : α} (position : Nat)
  (written : fields.lookup name = some (write value))
include written

theorem Persists.requirePart :
    (object fields).requirePart position name read = some value := by
  rw [Document.requirePart, part?, written]
  exact persists value

theorem Persists.readPart (default : α) :
    (object fields).readPart position name default read = some value := by
  rw [Document.readPart, part?, written]
  exact persists value

end Compound

end Document

/-! ## Sets of streams -/

namespace Streams

/-- The parts of the written form of a set of streams, each with the streams it stands for. -/
def parts (streams : Streams) : List (String × Streams) :=
  (named.filter fun entry => streams.contains entry.2) ++
    if streams.unnamedBits = 0 then []
    else [("0x" ++ Text.hexDigits 1 streams.unnamedBits.toNat, ⟨streams.unnamedBits⟩)]

theorem text_eq (streams : Streams) :
    streams.text = " | ".intercalate (streams.parts.map Prod.fst) := by
  rw [text, parts, List.map_append]
  split <;> rfl

variable {streams : Streams} {part : String × Streams}

theorem mem_parts : part ∈ streams.parts ↔
    (part ∈ named ∧ streams.contains part.2 = true) ∨
      (streams.unnamedBits ≠ 0 ∧
        part =
          ("0x" ++ Text.hexDigits 1 streams.unnamedBits.toNat, ⟨streams.unnamedBits⟩)) := by
  rw [parts, List.mem_append, List.mem_filter]
  refine or_congr_right ?_
  split
  · rename_i none
    exact iff_of_false List.not_mem_nil fun rest => rest.1 none
  · rename_i some
    rw [List.mem_singleton, and_iff_right some]

theorem toList_hexPart (bits : UInt32) : ("0x" ++ Text.hexDigits 1 bits.toNat).toList =
    '0' :: 'x' :: Nat.toDigits 16 bits.toNat := by
  rw [String.toList_append, Text.toList_hexDigits_one]
  rfl

/-- A part is read as the streams it was written for. -/
theorem ofPart?_of_mem_parts (member : part ∈ streams.parts) :
    ofPart? part.1.toList = some part.2 := by
  have names : ∀ entry ∈ named, ofPart? entry.1.toList = some entry.2 := by decide
  rcases mem_parts.mp member with ⟨listed, _⟩ | ⟨_, rfl⟩
  · exact names part listed
  · rw [toList_hexPart, ofPart?, Text.readHex32_toDigits]
    rfl

/-- A part has no blank in it, and no bar. -/
theorem solid_of_mem_parts (member : part ∈ streams.parts) :
    Text.Solid part.1.toList ∧ '|' ∉ part.1.toList := by
  have names : ∀ entry ∈ named, entry.1.toList ≠ [] ∧
      entry.1.toList.all (fun c => !Text.isBlank c && c != '|') = true := by decide
  have digits : ∀ d < 16, Text.isBlank (Nat.digitChar d) = false ∧ Nat.digitChar d ≠ '|' := by
    decide
  obtain ⟨nonempty, plain⟩ : part.1.toList ≠ [] ∧
      ∀ c ∈ part.1.toList, Text.isBlank c = false ∧ c ≠ '|' := by
    rcases mem_parts.mp member with ⟨listed, _⟩ | ⟨_, rfl⟩
    · obtain ⟨nonempty, plain⟩ := names part listed
      refine ⟨nonempty, fun c letter => ?_⟩
      simpa using List.all_eq_true.mp plain c letter
    · rw [toList_hexPart]
      refine ⟨List.cons_ne_nil _ _, List.forall_mem_cons.mpr ⟨by decide, ?_⟩⟩
      refine List.forall_mem_cons.mpr ⟨by decide, fun c digit => ?_⟩
      obtain ⟨d, small, rfl⟩ := Text.exists_digitChar_of_mem (by decide) digit
      exact digits d small
  exact ⟨⟨nonempty, fun c letter => (plain c letter).1⟩, fun bar => (plain '|' bar).2 rfl⟩

/-- The parts make up the set: each bit below the ninth has a name, and the others are kept in
one word. -/
theorem foldl_union_parts (streams : Streams) :
    (streams.parts.map Prod.snd).foldl union empty = streams := by
  have names : ∀ k < 8, ∃ entry ∈ named, entry.2.bits.toNat = 1 <<< k := by decide
  refine ext_bit fun k => ?_
  rw [bit_foldl_union, bit_empty, or_iff_right Bool.false_ne_true]
  constructor
  · rintro ⟨other, member, set⟩
    obtain ⟨part, listed, rfl⟩ := List.mem_map.mp member
    rcases mem_parts.mp listed with ⟨_, within⟩ | ⟨_, rfl⟩
    · exact contains_iff.mp within k set
    · exact ((bit_unnamedBits streams k).mp set).1
  · intro set
    rcases Nat.lt_or_ge k 8 with low | high
    · obtain ⟨entry, listed, single⟩ := names k low
      refine ⟨entry.2, List.mem_map_of_mem (mem_parts.mpr (Or.inl ⟨listed, ?_⟩)), ?_⟩
      · exact (contains_flag single).mpr set
      · exact (bit_flag single k).mpr rfl
    · have kept := (bit_unnamedBits streams k).mpr ⟨set, high⟩
      refine ⟨⟨streams.unnamedBits⟩, ?_, kept⟩
      refine List.mem_map.mpr ⟨_, mem_parts.mpr (Or.inr ⟨?_, rfl⟩), rfl⟩
      intro none
      rw [none] at kept
      exact Bool.false_ne_true ((bit_empty k).symm.trans kept)

/-- **A set of streams is read back from its written form.** -/
theorem ofText?_text (streams : Streams) : ofText? streams.text = some streams := by
  have whole := foldl_union_parts streams
  have read := mapM_map_some fun part (member : part ∈ streams.parts) =>
    ofPart?_of_mem_parts member
  have solid : ∀ word ∈ streams.parts.map (·.1.toList), Text.Solid word :=
    List.forall_mem_map.mpr fun part member => (solid_of_mem_parts member).1
  have free : ∀ word ∈ streams.parts.map (·.1.toList), '|' ∉ word :=
    List.forall_mem_map.mpr fun part member => (solid_of_mem_parts member).2
  cases listed : streams.parts with
  | nil =>
      -- A set without parts is empty, and so is its text.
      rw [listed] at whole
      rw [text_eq, listed]
      exact congrArg some whole
  | cons first others =>
      rw [listed] at whole
      rw [listed, List.map_cons] at read solid free
      have joined : streams.text.toList =
          first.1.toList ++ (others.map (·.1.toList)).flatMap ([' ', '|', ' '] ++ ·) := by
        rw [text_eq, listed, List.map_cons, Text.toList_intercalate_cons, List.flatMap_map,
          List.flatMap_map]
        rfl
      have present : ¬ (first.1.toList ++
          (others.map (·.1.toList)).flatMap ([' ', '|', ' '] ++ ·)).isEmpty = true := by
        rw [List.isEmpty_iff, List.append_eq_nil_iff, not_and]
        exact fun none => absurd none (solid _ List.mem_cons_self).nonempty
      rw [ofText?, joined, Text.trim_join solid, if_neg present,
        Text.map_trim_cutAt_join solid (by decide) free, read]
      exact congrArg some whole

theorem persists : Document.Persists toDocument ofDocument? :=
  ofText?_text

end Streams

/-! ## Records -/

theorem Skin.persists : Document.Persists Skin.toDocument Skin.ofDocument? := by
  intro skin
  have count : skin.toDocument.requirePart 0 "bone_count" Document.readWord32 =
      some skin.boneCount := Document.persists_word32.requirePart 0 rfl
  rw [ofDocument?, count]
  rfl

theorem Morph.persists : Document.Persists Morph.toDocument Morph.ofDocument? := by
  intro morph
  have count : morph.toDocument.requirePart 0 "target_count" Document.readWord32 =
      some morph.targetCount := Document.persists_word32.requirePart 0 rfl
  have names : morph.toDocument.requirePart 1 "target_names"
      (Document.readList Document.readText) = some morph.targetNames :=
    Document.persists_text.list.requirePart 1 rfl
  rw [ofDocument?, count, names]
  rfl

theorem LightKind.persists : Document.Persists (fun kind => .text (LightKind.label kind))
    (Document.readMember LightKind.all LightKind.label) :=
  Document.persists_member fun kind => by cases kind <;> decide

theorem Light.persists : Document.Persists Light.toDocument Light.ofDocument? := by
  intro light
  have kind : light.toDocument.requirePart 0 "kind"
      (Document.readMember LightKind.all LightKind.label) = some light.kind :=
    LightKind.persists.requirePart 0 rfl
  have shadow : light.toDocument.requirePart 1 "casts_shadow" Document.readBool =
      some light.castsShadow := Document.persists_bool.requirePart 1 rfl
  rw [ofDocument?, kind, shadow]
  rfl

theorem ShadowTechnique.persists :
    Document.Persists ShadowTechnique.toDocument ShadowTechnique.ofDocument? :=
  Document.persists_member fun technique => by cases technique <;> decide

theorem Texture.persists : Document.Persists Texture.toDocument Texture.ofDocument? := by
  intro texture
  have unit : texture.toDocument.requirePart 0 "unit" Document.readWord32 = some texture.unit :=
    Document.persists_word32.requirePart 0 rfl
  have texcoord : texture.toDocument.requirePart 1 "texcoord" Document.readWord32 =
      some texture.texcoord := Document.persists_word32.requirePart 1 rfl
  rw [ofDocument?, unit, texcoord]
  rfl

namespace RenderState

theorem persists : Document.Persists toDocument ofDocument? := by
  intro state
  have skin : state.toDocument.readPart 0 "skinning" none
      (Document.readOption Skin.ofDocument?) = some state.skin :=
    (Skin.persists.option fun _ => Document.noConfusion).readPart 0 rfl none
  have morph : state.toDocument.readPart 1 "morph" none
      (Document.readOption Morph.ofDocument?) = some state.morph :=
    (Morph.persists.option fun _ => Document.noConfusion).readPart 1 rfl none
  have billboard : state.toDocument.readPart 2 "billboard" false Document.readBool =
      some state.billboard := Document.persists_bool.readPart 2 rfl false
  have pointSize : state.toDocument.readPart 3 "point_size" false Document.readBool =
      some state.pointSize := Document.persists_bool.readPart 3 rfl false
  have streams : state.toDocument.readPart 4 "vertex_streams" Streams.standard
      Streams.ofDocument? = some state.streams :=
        Streams.persists.readPart 4 rfl Streams.standard
  have lights : state.toDocument.readPart 5 "lights" [] (Document.readList Light.ofDocument?) =
      some state.lights := Light.persists.list.readPart 5 rfl []
  have shadow : state.toDocument.readPart 6 "shadow" none
      (Document.readOption ShadowTechnique.ofDocument?) = some state.shadow :=
    (ShadowTechnique.persists.option fun _ => Document.noConfusion).readPart 6 rfl none
  have textures : state.toDocument.readPart 7 "texture_units" []
      (Document.readList Texture.ofDocument?) = some state.textures :=
    Texture.persists.list.readPart 7 rfl []
  rw [ofDocument?, skin, morph, billboard, pointSize, streams, lights, shadow, textures]
  rfl

/-- **Render states survive persistence.**  Every render state is read back from its document,
and with it the key under which its shaders are cached and the name they are given. -/
theorem survives_persistence (state : RenderState) :
    ofDocument? state.toDocument = some state ∧
      (ofDocument? state.toDocument).map fingerprint = some state.fingerprint ∧
      (ofDocument? state.toDocument).map variantName = some state.variantName := by
  rw [persists state]
  exact ⟨rfl, rfl, rfl⟩

end RenderState

end ShaderLoom
