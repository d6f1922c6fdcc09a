import Mathlib.Data.List.Dedup
import Mathlib.Data.List.Induction
import ShaderLoom.Uniform.Block

/-!
# Sharing of uniform blocks

A block of uniforms is built once for each feature and parameter and then shared between render
states.  That is not noticed: the key of a block tells its contents
(`UniformBlock.Featured.eq_of_key`), so a block that was built for another render state is the
block that would be built anew.

A table that has only served render states holds nothing but blocks of features, one for each
key that was asked for.  Blocks are added behind those that are there, so none is ever replaced.

## Main definitions

* `UniformBlock.Featured` — the blocks of the features
* `UniformTable.served`, `UniformTable.blocksAfter` — the table after some render states, and
  the blocks that the next one is given
* `RenderState.blockKeys` — the keys that a render state asks for

## Main results

* `UniformTable.blocksAfter_eq` — a render state is given its own blocks
* `UniformTable.mem_keys_served_iff` — the keys of the table are those that were asked for
* `UniformTable.served_history_independent` — answers do not depend on the history
-/

namespace ShaderLoom

/-! ## Blocks of features -/

/-- The blocks of the features. -/
inductive UniformBlock.Featured : UniformBlock → Prop
  | morph (morph : Morph) : Featured morph.uniformBlock
  | skin (skin : Skin) : Featured skin.uniformBlock
  | light (light : Light) (index : Nat) : Featured (light.uniformBlock index)

theorem LightKind.family_injective : Function.Injective LightKind.family := by
  intro first second same
  cases first <;> cases second <;> first | rfl | simp [family] at same

theorem LightKind.family_ne (kind : LightKind) :
    kind.family ≠ "morph" ∧ kind.family ≠ "skinning" := by
  cases kind <;> decide

/-- The key of a block tells its contents. -/
theorem UniformBlock.Featured.eq_of_key {a b : UniformBlock} (featuredA : a.Featured)
    (featuredB : b.Featured) (same : a.key = b.key) : a = b := by
  have families := congrArg BlockKey.family same
  have variants := congrArg BlockKey.variant same
  cases featuredA with
  | morph first =>
      cases featuredB with
      | morph second => simp_all [Morph.uniformBlock]
      | skin second => simp [Morph.uniformBlock, Skin.uniformBlock] at families
      | light second index => exact absurd families.symm second.kind.family_ne.1
  | skin first =>
      cases featuredB with
      | morph second => simp [Morph.uniformBlock, Skin.uniformBlock] at families
      | skin second => simp_all [Skin.uniformBlock]
      | light second index => exact absurd families.symm second.kind.family_ne.2
  | light first index =>
      cases featuredB with
      | morph second => exact absurd families first.kind.family_ne.1
      | skin second => exact absurd families first.kind.family_ne.2
      | light second other =>
          have kinds : first.kind = second.kind := LightKind.family_injective families
          have indices : index = other := variants
          simp [Light.uniformBlock, kinds, indices]

theorem RenderState.featured_uniformBlocks (state : RenderState) :
    ∀ block ∈ state.uniformBlocks, block.Featured := by
  intro block member
  simp only [uniformBlocks, List.mem_append, Option.mem_toList, Option.map_eq_some_iff,
    List.mem_map] at member
  rcases member with (⟨morph, _, rfl⟩ | ⟨skin, _, rfl⟩) | ⟨entry, _, rfl⟩
  · exact .morph morph
  · exact .skin skin
  · exact .light entry.1 entry.2

/-- The keys that a render state asks for: the number of morph targets, the number of bones, and
the kind and index of each light. -/
def RenderState.blockKeys (state : RenderState) : List BlockKey :=
  (state.activeMorph.map fun morph => ⟨"morph", morph.targetCount.toNat⟩).toList ++
  (state.activeSkin.map fun skin => ⟨"skinning", skin.boneCount.toNat⟩).toList ++
  state.activeLights.zipIdx.map fun (light, index) => ⟨light.kind.family, index⟩

theorem RenderState.map_key_uniformBlocks (state : RenderState) :
    state.uniformBlocks.map UniformBlock.key = state.blockKeys := by
  rw [uniformBlocks, blockKeys, List.map_append, List.map_append, List.map_map]
  cases state.activeMorph <;> cases state.activeSkin <;> rfl

/-! ## Tables -/

namespace UniformTable

/-- The keys of the blocks of a table. -/
def keys (table : UniformTable) : List BlockKey :=
  table.blocks.map UniformBlock.key

/-- All blocks of a table are blocks of features. -/
def Regular (table : UniformTable) : Prop :=
  ∀ block ∈ table.blocks, block.Featured

variable {table : UniformTable}

theorem find?_eq_none_iff {key : BlockKey} : table.find? key = none ↔ key ∉ table.keys := by
  rw [find?, List.find?_eq_none, keys, List.mem_map]
  constructor
  · rintro other ⟨block, member, rfl⟩
    exact other block member (beq_self_eq_true _)
  · intro absent block member same
    exact absent ⟨block, member, beq_iff_eq.mp same⟩

theorem find?_eq_some {key : BlockKey} {block : UniformBlock}
    (found : table.find? key = some block) : block ∈ table.blocks ∧ block.key = key := by
  rw [find?] at found
  have same := List.find?_some found
  exact ⟨List.mem_of_find?_eq_some found, beq_iff_eq.mp same⟩

theorem exists_find?_iff {key : BlockKey} :
    (∃ block, table.find? key = some block) ↔ key ∈ table.keys := by
  rw [← not_iff_not, ← find?_eq_none_iff, not_exists, Option.eq_none_iff_forall_ne_some]

/-- A block is found under its key, or it is added. -/
theorem getOrInsert_cases (table : UniformTable) (block : UniformBlock) :
    (∃ earlier ∈ table.blocks, earlier.key = block.key ∧
      table.getOrInsert block = (earlier, table)) ∨
    (block.key ∉ table.keys ∧
      table.getOrInsert block = (block, { blocks := table.blocks ++ [block] })) := by
  rw [getOrInsert]
  cases found : table.find? block.key with
  | some earlier =>
      obtain ⟨member, same⟩ := find?_eq_some found
      exact .inl ⟨earlier, member, same, rfl⟩
  | none => exact .inr ⟨find?_eq_none_iff.mp found, rfl⟩

/-- A regular table gives back what it is asked for, and stays regular. -/
theorem Regular.getOrInsert (regular : table.Regular) {block : UniformBlock}
    (featured : block.Featured) :
    (table.getOrInsert block).1 = block ∧ (table.getOrInsert block).2.Regular := by
  rcases table.getOrInsert_cases block with ⟨earlier, member, same, given⟩ | ⟨-, given⟩
  · rw [given]
    exact ⟨(regular earlier member).eq_of_key featured same, regular⟩
  · rw [given]
    refine ⟨rfl, fun other member => ?_⟩
    rcases List.mem_append.mp member with older | newest
    · exact regular other older
    · rw [List.mem_singleton.mp newest]
      exact featured

theorem Regular.share (regular : table.Regular) {blocks : List UniformBlock}
    (featured : ∀ block ∈ blocks, block.Featured) :
    (table.share blocks).1 = blocks ∧ (table.share blocks).2.Regular := by
  induction blocks generalizing table with
  | nil => exact ⟨rfl, regular⟩
  | cons block rest ih =>
      obtain ⟨here, others⟩ := List.forall_mem_cons.mp featured
      obtain ⟨first, regular⟩ := regular.getOrInsert here
      obtain ⟨later, regular⟩ := ih regular others
      exact ⟨congrArg₂ List.cons first later, regular⟩

/-! ### Keys -/

/-- Keys stay distinct, and the key of the block is among them. -/
theorem keys_getOrInsert (distinct : table.keys.Nodup) (block : UniformBlock) :
    (table.getOrInsert block).2.keys.Nodup ∧
      ∀ key, key ∈ (table.getOrInsert block).2.keys ↔ key ∈ table.keys ∨ key = block.key := by
  rcases table.getOrInsert_cases block with ⟨earlier, member, same, given⟩ | ⟨absent, given⟩
  · rw [given]
    have present : block.key ∈ table.keys := same ▸ List.mem_map_of_mem member
    refine ⟨distinct, fun key => ⟨.inl, ?_⟩⟩
    rintro (older | rfl)
    · exact older
    · exact present
  · rw [given]
    have grows : keys { blocks := table.blocks ++ [block] } = table.keys ++ [block.key] :=
      List.map_append
    rw [grows]
    refine ⟨List.nodup_append.mpr ⟨distinct, List.nodup_singleton _, ?_⟩, fun key => ?_⟩
    · rintro key older _ newest rfl
      exact absent (List.mem_singleton.mp newest ▸ older)
    · rw [List.mem_append, List.mem_singleton]

theorem keys_share (distinct : table.keys.Nodup) (blocks : List UniformBlock) :
    (table.share blocks).2.keys.Nodup ∧
      ∀ key, key ∈ (table.share blocks).2.keys ↔
        key ∈ table.keys ∨ key ∈ blocks.map UniformBlock.key := by
  induction blocks generalizing table with
  | nil => exact ⟨distinct, fun key => by simp [UniformTable.share]⟩
  | cons block rest ih =>
      obtain ⟨distinct, first⟩ := keys_getOrInsert distinct block
      obtain ⟨distinct, later⟩ := ih distinct
      refine ⟨distinct, fun key => (later key).trans ?_⟩
      rw [first, List.map_cons, List.mem_cons, or_assoc]

/-- Blocks are added behind those that are there. -/
theorem share_extends (table : UniformTable) (blocks : List UniformBlock) :
    table.blocks <+: (table.share blocks).2.blocks := by
  induction blocks generalizing table with
  | nil => exact List.prefix_rfl
  | cons block rest ih =>
      refine List.IsPrefix.trans ?_ (ih (table.getOrInsert block).2)
      rcases table.getOrInsert_cases block with ⟨_, _, _, given⟩ | ⟨_, given⟩
      · simp only [given, List.prefix_rfl]
      · rw [given]
        exact List.prefix_append _ _

/-! ## Histories -/

/-- The table after some render states have been served. -/
def served (states : List RenderState) : UniformTable :=
  states.foldl (fun table state => (table.blocksFor state).2) {}

theorem served_concat (earlier : List RenderState) (state : RenderState) :
    served (earlier ++ [state]) = ((served earlier).blocksFor state).2 := by
  rw [served, List.foldl_append]
  rfl

theorem regular_served (states : List RenderState) : (served states).Regular := by
  induction states using List.reverseRecOn with
  | nil => exact List.forall_mem_nil _
  | append_singleton states state ih =>
      rw [served_concat]
      exact (Regular.share ih state.featured_uniformBlocks).2

/-- The blocks that a render state is given after others have been served. -/
def blocksAfter (earlier : List RenderState) (state : RenderState) : List UniformBlock :=
  ((served earlier).blocksFor state).1

/-- **Sharing is not noticed**: whatever was served before, a render state is given its own
blocks. -/
theorem blocksAfter_eq (earlier : List RenderState) (state : RenderState) :
    blocksAfter earlier state = state.uniformBlocks :=
  ((regular_served earlier).share state.featured_uniformBlocks).1

theorem nodup_keys_served (states : List RenderState) : (served states).keys.Nodup := by
  induction states using List.reverseRecOn with
  | nil => exact List.nodup_nil
  | append_singleton states state ih =>
      rw [served_concat]
      exact (keys_share ih _).1

/-- **The keys of the table are those that were asked for.** -/
theorem mem_keys_served_iff {states : List RenderState} {key : BlockKey} :
    key ∈ (served states).keys ↔ key ∈ states.flatMap RenderState.blockKeys := by
  induction states using List.reverseRecOn with
  | nil => exact Iff.rfl
  | append_singleton states state ih =>
      rw [served_concat, blocksFor, (keys_share (nodup_keys_served states) _).2, ih,
        state.map_key_uniformBlocks, List.flatMap_append, List.mem_append,
        List.flatMap_singleton]

theorem served_extends (earlier later : List RenderState) :
    (served earlier).blocks <+: (served (earlier ++ later)).blocks := by
  induction later using List.reverseRecOn with
  | nil => simp only [List.append_nil, List.prefix_rfl]
  | append_singleton later state ih =>
      rw [← List.append_assoc, served_concat]
      exact ih.trans (share_extends _ _)

/-- **Answers do not depend on the history.**  Whatever render states were served before, a
render state is given the blocks that a new table gives it, which are its own.  The table holds
one block for each key that was asked for and no other, and a block is never replaced by what is
served later. -/
theorem served_history_independent (earlier : List RenderState) :
    (∀ state, ((served earlier).blocksFor state).1 = (blocksFor {} state).1 ∧
      (blocksFor {} state).1 = state.uniformBlocks) ∧
    ((served earlier).blocks.map UniformBlock.key).Perm
      (earlier.flatMap RenderState.blockKeys).dedup ∧
    (∀ key, (∃ block, (served earlier).find? key = some block) ↔
      ∃ state ∈ earlier, key ∈ state.blockKeys) ∧
    ∀ later key block, (served earlier).find? key = some block →
      (served (earlier ++ later)).find? key = some block := by
  refine ⟨fun state => ⟨?_, blocksAfter_eq [] state⟩, ?_, fun key => ?_, ?_⟩
  · exact (blocksAfter_eq earlier state).trans (blocksAfter_eq [] state).symm
  · refine (List.perm_ext_iff_of_nodup (nodup_keys_served earlier) (List.nodup_dedup _)).mpr ?_
    intro key
    rw [List.mem_dedup]
    exact mem_keys_served_iff
  · rw [exists_find?_iff, mem_keys_served_iff, List.mem_flatMap]
  · intro later key block found
    exact (served_extends earlier later).find?_eq_some found

end UniformTable
end ShaderLoom
