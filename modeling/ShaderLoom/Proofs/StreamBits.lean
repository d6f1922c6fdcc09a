import ShaderLoom.RenderState.Basic

/-!
# Sets of streams, bit by bit

A set of streams is a word of bits.  Every named stream is one of them, so that whether the
stream is in a set is a matter of that bit alone.  This gives the effective streams of a render
state: of the streams that are there, positions and colors are kept; normals are added if there
is a light, and for each active texture its set of coordinates.

## Main definitions

* `Streams.bit` — the bits of a set of streams

## Main results

* `Streams.ext_bit` — sets with the same bits are the same
* `Streams.contains_flag` — a stream of one bit is contained if the bit is set
* `RenderState.bit_effectiveStreams` — the effective streams, bit by bit
-/

namespace ShaderLoom

namespace Streams

/-- Whether a bit is set. -/
def bit (streams : Streams) (k : Nat) : Bool :=
  streams.bits.toNat.testBit k

theorem bit_empty (k : Nat) : empty.bit k = false :=
  Nat.zero_testBit k

theorem bit_union (a b : Streams) (k : Nat) : (a.union b).bit k = (a.bit k || b.bit k) := by
  rw [bit, union, UInt32.toNat_or, Nat.testBit_or]
  rfl

theorem bit_inter (a b : Streams) (k : Nat) : (a.inter b).bit k = (a.bit k && b.bit k) := by
  rw [bit, inter, UInt32.toNat_and, Nat.testBit_and]
  rfl

theorem contains_iff {a b : Streams} :
    a.contains b = true ↔ ∀ k, b.bit k = true → a.bit k = true := by
  rw [contains, beq_iff_eq, ← UInt32.toNat_inj, UInt32.toNat_and]
  constructor
  · intro same k set
    have both : (a.bit k && b.bit k) = b.bit k := by
      rw [bit, bit, ← Nat.testBit_and, same]
    rw [set, Bool.and_true] at both
    exact both
  · intro within
    refine Nat.eq_of_testBit_eq fun k => ?_
    rw [Nat.testBit_and]
    cases set : b.bit k with
    | false =>
        rw [bit] at set
        rw [set, Bool.and_false]
    | true =>
        have inA := within k set
        rw [bit] at set inA
        rw [set, inA]
        rfl

theorem bit_lt {streams : Streams} {k : Nat} (set : streams.bit k = true) : k < 32 := by
  refine Nat.lt_of_not_le fun large => ?_
  have small : streams.bits.toNat < 2 ^ k :=
    Nat.lt_of_lt_of_le streams.bits.toNat_lt (Nat.pow_le_pow_right (by decide) large)
  rw [bit, Nat.testBit_lt_two_pow small] at set
  cases set

/-- Sets of streams with the same bits are the same. -/
theorem ext_bit {a b : Streams} (same : ∀ k, a.bit k = true ↔ b.bit k = true) : a = b := by
  have bits : a.bits.toNat = b.bits.toNat :=
    Nat.eq_of_testBit_eq fun k => Bool.eq_iff_iff.mpr (same k)
  cases a
  cases b
  exact congrArg mk (UInt32.toNat_inj.mp bits)

/-- The low eight bits are those that have names. -/
theorem bit_unnamedBits (streams : Streams) (k : Nat) :
    (mk streams.unnamedBits).bit k = true ↔ streams.bit k = true ∧ 8 ≤ k := by
  have mask : ∀ k < 32, (mk 0xFFFFFF00).bit k = true ↔ 8 ≤ k := by decide
  have masked : mk streams.unnamedBits = streams.inter ⟨0xFFFFFF00⟩ := rfl
  rw [masked, bit_inter, Bool.and_eq_true]
  exact and_congr_right fun set => mask k (bit_lt set)

section Flag

variable {flag : Streams} {position : Nat} (single : flag.bits.toNat = 1 <<< position)
include single

theorem bit_flag (k : Nat) : flag.bit k = true ↔ k = position := by
  rw [bit, single, Nat.one_shiftLeft, Nat.testBit_two_pow, decide_eq_true_iff, eq_comm]

/-- A stream that has one bit is contained if the bit is set. -/
theorem contains_flag {streams : Streams} :
    streams.contains flag = true ↔ streams.bit position = true := by
  simp only [contains_iff, bit_flag single, forall_eq]

end Flag

/-- The first sets of texture coordinates have streams, each a bit. -/
theorem texcoord?_flag {set : UInt32} {stream : Streams} (found : texcoord? set = some stream) :
    set.toNat ≤ 3 ∧ stream.bits.toNat = 1 <<< (set.toNat + 4) := by
  have listed : (set = 0 ∧ stream = texcoord0) ∨ (set = 1 ∧ stream = texcoord1) ∨
      (set = 2 ∧ stream = texcoord2) ∨ (set = 3 ∧ stream = texcoord3) := by
    unfold texcoord? at found
    grind
  rcases listed with ⟨rfl, rfl⟩ | ⟨rfl, rfl⟩ | ⟨rfl, rfl⟩ | ⟨rfl, rfl⟩ <;> decide

theorem bit_foldl_union (others : List Streams) (streams : Streams) (k : Nat) :
    (others.foldl union streams).bit k = true ↔
      streams.bit k = true ∨ ∃ other ∈ others, other.bit k = true := by
  induction others generalizing streams with
  | nil => simp
  | cons other others ih =>
      simp only [List.foldl_cons, ih, bit_union, Bool.or_eq_true, List.mem_cons,
        exists_eq_or_imp, or_assoc]

end Streams

namespace RenderState

variable {state : RenderState}

/-- Active textures are sampled at sets of coordinates that have streams. -/
theorem exists_stream_of_active {texture : Texture} (active : texture ∈ state.activeTextures) :
    ∃ stream, Streams.texcoord? texture.texcoord = some stream := by
  have there := (List.mem_filter.mp active).2
  rw [hasTexcoord] at there
  split at there
  · cases there
  · rename_i stream found
    exact ⟨stream, found⟩

theorem texcoord_le_of_active {texture : Texture} (active : texture ∈ state.activeTextures) :
    texture.texcoord.toNat ≤ 3 := by
  obtain ⟨stream, found⟩ := exists_stream_of_active active
  exact (Streams.texcoord?_flag found).1

/-- **The effective streams, bit by bit.** -/
theorem bit_effectiveStreams (k : Nat) : state.effectiveStreams.bit k = true ↔
    (state.streams.bit k = true ∧ (k = 0 ∨ k = 3)) ∨ (state.activeLights ≠ [] ∧ k = 1) ∨
      ∃ texture ∈ state.activeTextures, k = texture.texcoord.toNat + 4 := by
  have kept : (state.streams.inter (Streams.position.union Streams.color)).bit k = true ↔
      state.streams.bit k = true ∧ (k = 0 ∨ k = 3) := by
    have first : Streams.position.bit k = true ↔ k = 0 := Streams.bit_flag rfl k
    have fourth : Streams.color.bit k = true ↔ k = 3 := Streams.bit_flag rfl k
    rw [Streams.bit_inter, Streams.bit_union, Bool.and_eq_true, Bool.or_eq_true, first, fourth]
  have second : Streams.normal.bit k = true ↔ k = 1 := Streams.bit_flag rfl k
  have sampled : (∃ stream ∈ state.activeTextures.filterMap
      (fun texture => Streams.texcoord? texture.texcoord), stream.bit k = true) ↔
        ∃ texture ∈ state.activeTextures, k = texture.texcoord.toNat + 4 := by
    constructor
    · rintro ⟨stream, member, set⟩
      obtain ⟨texture, active, found⟩ := List.mem_filterMap.mp member
      exact ⟨texture, active, (Streams.bit_flag (Streams.texcoord?_flag found).2 k).mp set⟩
    · rintro ⟨texture, active, same⟩
      obtain ⟨stream, found⟩ := exists_stream_of_active active
      refine ⟨stream, List.mem_filterMap.mpr ⟨texture, active, found⟩, ?_⟩
      exact (Streams.bit_flag (Streams.texcoord?_flag found).2 k).mpr same
  rw [effectiveStreams, Streams.bit_foldl_union, sampled, ← or_assoc]
  refine or_congr_left ?_
  cases lights : state.activeLights with
  | nil => simp [kept]
  | cons light lights => simp [Streams.bit_union, kept, second]

/-- All effective streams have names. -/
theorem unnamedBits_effectiveStreams : state.effectiveStreams.unnamedBits = 0 := by
  have none : Streams.mk state.effectiveStreams.unnamedBits = Streams.empty := by
    refine Streams.ext_bit fun k => ?_
    rw [Streams.bit_unnamedBits, bit_effectiveStreams, Streams.bit_empty]
    refine iff_of_false ?_ Bool.false_ne_true
    rintro ⟨⟨_, _⟩ | ⟨_, _⟩ | ⟨texture, active, same⟩, high⟩
    · omega
    · omega
    · have bound := texcoord_le_of_active active
      omega
  exact congrArg Streams.bits none

end RenderState

end ShaderLoom
