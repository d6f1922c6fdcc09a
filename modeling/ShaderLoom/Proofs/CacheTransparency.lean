import ShaderLoom.Loom
import ShaderLoom.Proofs.FingerprintSoundness
import ShaderLoom.Proofs.ProgramIdentity
import ShaderLoom.Proofs.UniformAgreement

/-!
# The program cache cannot be noticed

A loom answers requests for programs from a cache with two levels: fingerprints of render
states, and digests of generated texts.  Between the requests programs are used, forgotten and
released, and the device may answer as it likes.  The answers are still those of a loom that
generates everything anew, provided that no two different byte strings that are hashed have the
same digest: a program holds the texts that its render state would be given now, and programs
are shared exactly where texts are equal.

What the cache knows is tied to the render states that were asked for and to the sources that
were hashed by one invariant (`ProgramCache.Justified`).  An entry for a fingerprint comes from
a render state with that fingerprint.  If that state has something to draw, the entry leads to
the entry for the digest of its texts, and this one to a program with these texts.  Equal
fingerprints mean equal canonical bytes, and these say all that matters (`RenderState.Agree`).
Equal digests mean equal bytes, in which the length of the first text separates both.

Canonical bytes say all that matters only if the lengths in them do not wrap around, so the
lists and names of the render states have to be shorter than `2 ^ 32`.  With two names beyond
that, the second render state is given the program of the first, although no digests collide and
the texts differ (`Loom.programFor_shared_by_long_names`).

## Main definitions

* `SourcePair.Distinguishable` — sources whose digests do not collide
* `Loom.Request`, `Loom.Desk`, `Loom.run` — looms at work on a device
* `Loom.hashed`, `Loom.Legible` — what is hashed in a run can be told apart
* `ProgramCache.Justified` — the invariant of the cache

## Main results

* `SourcePair.texts_eq_of_bytes_eq` — the bytes of a pair determine both texts
* `Loom.programFor_transparent` — the answers are those without a cache
-/

namespace ShaderLoom

/-! ## The bytes of a pair of sources -/

namespace SourcePair

/-- The texts of both stages. -/
def texts (pair : SourcePair) : String × String :=
  (pair.vertex.text, pair.fragment.text)

/-- Numbers whose lowest bytes agree are congruent. -/
theorem mod_eq_of_bytes_eq {m n : Nat} (count : Nat)
    (same : ∀ i < count, UInt8.ofNat (m >>> (8 * i)) = UInt8.ofNat (n >>> (8 * i))) :
    m % Nat.pow 256 count = n % Nat.pow 256 count := by
  induction count with
  | zero => exact (Nat.mod_one m).trans (Nat.mod_one n).symm
  | succ count ih =>
      have low := ih fun i small => same i (Nat.lt_succ_of_lt small)
      have byte := congrArg UInt8.toNat (same count (Nat.lt_succ_self count))
      have power : Nat.pow 2 (8 * count) = Nat.pow 256 count := Nat.pow_mul 2 8 count
      simp only [UInt8.toNat_ofNat', Nat.shiftRight_eq_div_pow] at byte
      change m / Nat.pow 2 (8 * count) % 256 = n / Nat.pow 2 (8 * count) % 256 at byte
      rw [power] at byte
      change m % (Nat.pow 256 count * 256) = n % (Nat.pow 256 count * 256)
      -- The next byte is the next digit to the base 256.
      rw [Nat.mod_mul, Nat.mod_mul, low, byte]

/-- **The bytes of a pair determine both texts**, unless one vertex text is longer than the
other by more than eight bytes can tell. -/
theorem texts_eq_of_bytes_eq {a b : SourcePair}
    (near : a.vertex.text.utf8ByteSize < b.vertex.text.utf8ByteSize + UInt64.size)
    (near' : b.vertex.text.utf8ByteSize < a.vertex.text.utf8ByteSize + UInt64.size)
    (same : a.bytes = b.bytes) : a.texts = b.texts := by
  have decode : ∀ {s t : String}, s.toUTF8.data.toList = t.toUTF8.data.toList → s = t :=
    fun equal => String.toByteArray_inj.mp (ByteArray.ext (Array.toList_inj.mp equal))
  rw [bytes, bytes, List.append_assoc, List.append_assoc] at same
  -- Eight bytes tell the length of the vertex text, and this tells where the fragment text
  -- begins.
  obtain ⟨lengths, rest⟩ := List.append_inj same (by simp)
  have sizes : a.vertex.text.toUTF8.data.toList.length =
      b.vertex.text.toUTF8.data.toList.length := by
    have congruent := mod_eq_of_bytes_eq 8 fun i small =>
      List.map_inj_left.mp lengths i (List.mem_range.mpr small)
    have limit : Nat.pow 256 8 = 18446744073709551616 := rfl
    have size : UInt64.size = 18446744073709551616 := rfl
    have length : ∀ s : String, s.toUTF8.data.toList.length = s.utf8ByteSize := fun s => rfl
    rw [length, length, limit] at congruent
    rw [length, length]
    omega
  obtain ⟨vertex, fragment⟩ := List.append_inj rest sizes
  rw [texts, texts, decode vertex, decode fragment]

theorem digest_eq_of_texts_eq {a b : SourcePair} (same : a.texts = b.texts) :
    a.digest = b.digest := by
  have vertex : a.vertex.text = b.vertex.text := congrArg Prod.fst same
  have fragment : a.fragment.text = b.fragment.text := congrArg Prod.snd same
  rw [digest, digest, bytes, bytes, vertex, fragment]

/-- Sources whose digests do not collide.  No vertex text is longer than another by more than
eight bytes can tell. -/
structure Distinguishable (pairs : List SourcePair) : Prop where
  digests : ∀ a ∈ pairs, ∀ b ∈ pairs, a.digest = b.digest → a.bytes = b.bytes
  lengths : ∀ a ∈ pairs, ∀ b ∈ pairs,
    a.vertex.text.utf8ByteSize < b.vertex.text.utf8ByteSize + UInt64.size

theorem Distinguishable.digest_eq_iff {pairs : List SourcePair}
    (distinguishable : Distinguishable pairs) {a b : SourcePair} (memberA : a ∈ pairs)
    (memberB : b ∈ pairs) : a.digest = b.digest ↔ a.texts = b.texts := by
  refine ⟨fun same => ?_, digest_eq_of_texts_eq⟩
  exact texts_eq_of_bytes_eq (distinguishable.lengths a memberA b memberB)
    (distinguishable.lengths b memberB a memberA)
    (distinguishable.digests a memberA b memberB same)

/-- A single pair cannot be confused. -/
theorem distinguishable_of_eq {pairs : List SourcePair}
    (same : ∀ a ∈ pairs, ∀ b ∈ pairs, a = b) : Distinguishable pairs where
  digests := by
    intro a memberA b memberB _
    rw [same a memberA b memberB]
  lengths := by
    intro a memberA b memberB
    rw [same a memberA b memberB]
    exact Nat.lt_add_of_pos_right (by decide)

end SourcePair

/-! ## What a cache knows -/

/-- Only the number of morph targets can be wrong. -/
theorem RenderState.validate_cases (state : RenderState) :
    state.validate = .ok () ∧ (∀ morph ∈ state.morph, morph.targetCount ≤ 4) ∨
      (∃ cause, state.validate = .error cause) ∧ ∃ morph ∈ state.morph,
        4 < morph.targetCount := by
  unfold validate
  cases state.morph with
  | none => exact .inl ⟨rfl, nofun⟩
  | some morph =>
      by_cases many : maxMorphTargets < morph.targetCount
      · exact .inr ⟨⟨_, if_pos many⟩, morph, rfl, many⟩
      · refine .inl ⟨if_neg many, ?_⟩
        intro other known
        cases known
        exact UInt32.not_lt.mp many

/-- A render state has something to draw, and these are its sources. -/
def Compiler.Builds (compiler : Compiler) (state : RenderState) (sources : SourcePair) : Prop :=
  state.isDegenerate = false ∧ compiler.generate state state.variantName = .ok sources

namespace ProgramCache

/-- The program under an identifier has the texts of a pair of sources. -/
def Holds (cache : ProgramCache) (id : ProgramId) (sources : SourcePair) : Prop :=
  ∃ program, cache.get id = .ok program ∧
    (program.vertexText, program.fragmentText) = sources.texts

/-- A cache knows at least the programs and the texts that another one knows. -/
structure Extends (earlier later : ProgramCache) : Prop where
  identities : earlier.identities <+: later.identities
  byDigest : ∀ {digest : Digest} {id : ProgramId},
    earlier.byDigest.lookup digest = some id → later.byDigest.lookup digest = some id

/-- An identifier is the right answer for a render state: there is nothing to draw, or it is the
program of the texts of the state, which are among `pairs`. -/
def Serves (cache : ProgramCache) (compiler : Compiler) (pairs : List SourcePair)
    (state : RenderState) (id : ProgramId) : Prop :=
  state.isDegenerate = true ∧ id = sentinelId ∨
    ∃ sources ∈ pairs, compiler.Builds state sources ∧
      cache.byDigest.lookup sources.digest = some id

/-- An identifier is the program of texts among `pairs` with some digest. -/
def Backs (cache : ProgramCache) (pairs : List SourcePair) (digest : Digest) (id : ProgramId) :
    Prop :=
  id ≠ sentinelId ∧ ∃ sources ∈ pairs, sources.digest = digest ∧ cache.Holds id sources

/-- Everything that a cache knows comes from render states among `states` and sources among
`pairs`. -/
structure Justified (compiler : Compiler) (states : List RenderState) (pairs : List SourcePair)
    (cache : ProgramCache) : Prop where
  /-- The program that stands for "nothing to draw" is there. -/
  nonempty : cache.identities ≠ []
  byDigest : ∀ {digest : Digest} {id : ProgramId},
    cache.byDigest.lookup digest = some id → cache.Backs pairs digest id
  byFingerprint : ∀ {fingerprint : Fingerprint} {id : ProgramId},
    cache.lookup fingerprint = some id →
      ∃ state ∈ states, state.fingerprint = fingerprint ∧ cache.Serves compiler pairs state id

variable {cache later : ProgramCache} {compiler : Compiler} {states : List RenderState}
  {pairs : List SourcePair} {state : RenderState} {sources : SourcePair} {id : ProgramId}

/-- What a program holds is part of its identity. -/
theorem holds_iff : cache.Holds id sources ↔ ∃ identity, cache.identities[id]? = some identity ∧
    (identity.vertexText, identity.fragmentText) = sources.texts := by
  unfold Holds get identities
  rw [List.getElem?_map]
  cases cache.programs[id]? with
  | none => simp
  | some program => simp [Program.identity]

theorem Holds.mono (holds : cache.Holds id sources) (extended : Extends cache later) :
    later.Holds id sources := by
  obtain ⟨identity, found, texts⟩ := holds_iff.mp holds
  obtain ⟨rest, whole⟩ := extended.identities
  refine holds_iff.mpr ⟨identity, ?_, texts⟩
  rw [← whole, List.getElem?_append_left (List.getElem?_eq_some_iff.mp found).1, found]

theorem Holds.texts_eq {other : SourcePair} (first : cache.Holds id sources)
    (second : cache.Holds id other) : sources.texts = other.texts := by
  obtain ⟨program, found, texts⟩ := first
  obtain ⟨program', found', texts'⟩ := second
  rw [found] at found'
  cases found'
  exact texts.symm.trans texts'

theorem Extends.refl (cache : ProgramCache) : Extends cache cache :=
  ⟨List.prefix_rfl, fun found => found⟩

theorem Extends.trans {first second third : ProgramCache} (earlier : Extends first second)
    (later : Extends second third) : Extends first third :=
  ⟨earlier.identities.trans later.identities, fun found =>
    later.byDigest (earlier.byDigest found)⟩

theorem Serves.mono (serves : cache.Serves compiler pairs state id)
    (extended : Extends cache later) : later.Serves compiler pairs state id := by
  rcases serves with nothing | ⟨sources, member, builds, found⟩
  · exact .inl nothing
  · exact .inr ⟨sources, member, builds, extended.byDigest found⟩

/-- Texts that were not seen before are given a new program. -/
theorem exists_intern (unknown : cache.byDigest.lookup sources.digest = none) :
    ∃ later, cache.intern sources = (cache.programs.length, later) ∧
      cache.identities <+: later.identities ∧
      later.Holds cache.programs.length sources ∧
      later.byFingerprint = cache.byFingerprint ∧
      later.byDigest =
        Association.insert sources.digest cache.programs.length cache.byDigest := by
  unfold intern
  rw [unknown]
  refine ⟨_, rfl, ?_, ?_, rfl, rfl⟩
  · rw [identities, identities, List.map_append]
    exact List.prefix_append _ _
  · rw [holds_iff, identities, List.map_append, ← List.length_map Program.identity]
    exact ⟨_, List.getElem?_concat_length, rfl⟩

/-- A new cache knows nothing. -/
theorem justified_empty : Justified compiler states pairs {} :=
  ⟨List.cons_ne_nil _ _, nofun, nofun⟩

/-- Render states that agree have the same right answers. -/
theorem Serves.of_agree {other : RenderState} (serves : cache.Serves compiler pairs state id)
    (agree : state.Agree other) : cache.Serves compiler pairs other id := by
  rcases serves with ⟨nothing, sentinel⟩ | ⟨sources, member, ⟨drawn, generated⟩, found⟩
  · exact .inl ⟨agree.isDegenerate_eq ▸ nothing, sentinel⟩
  · refine .inr ⟨sources, member, ⟨agree.isDegenerate_eq ▸ drawn, ?_⟩, found⟩
    rw [← agree.generate_eq, ← agree.variantName_eq, generated]

namespace Justified

/-- A cache may come to know more texts, as long as these are justified. -/
theorem extend (justified : Justified compiler states pairs cache)
    (extended : Extends cache later) (fingerprints : later.byFingerprint = cache.byFingerprint)
    (digests : ∀ {digest : Digest} {id : ProgramId}, later.byDigest.lookup digest = some id →
      cache.byDigest.lookup digest = some id ∨ later.Backs pairs digest id) :
    Justified compiler states pairs later := by
  refine ⟨extended.identities.ne_nil justified.nonempty, ?_, ?_⟩
  · intro digest id known
    rcases digests known with older | backs
    · obtain ⟨proper, sources, member, same, holds⟩ := justified.byDigest older
      exact ⟨proper, sources, member, same, holds.mono extended⟩
    · exact backs
  · intro fingerprint id known
    rw [lookup, fingerprints] at known
    obtain ⟨state, member, same, serves⟩ := justified.byFingerprint known
    exact ⟨state, member, same, serves.mono extended⟩

/-- Giving a fingerprint its right answer. -/
theorem note (justified : Justified compiler states pairs cache) (member : state ∈ states)
    (serves : cache.Serves compiler pairs state id)
    (generated : List (Fingerprint × SourcePair)) :
    Justified compiler states pairs { cache with
      byFingerprint := Association.insert state.fingerprint id cache.byFingerprint
      generated } := by
  refine ⟨justified.nonempty, justified.byDigest, ?_⟩
  intro fingerprint other found
  rw [lookup] at found
  by_cases same : fingerprint = state.fingerprint
  · rw [same, Association.lookup_insert_self] at found
    exact ⟨state, member, same.symm, Option.some.inj found ▸ serves⟩
  · rw [Association.lookup_insert_of_ne same] at found
    exact justified.byFingerprint found

/-- Looking for the program of a pair of texts, or adding it. -/
theorem intern (justified : Justified compiler states pairs cache) (member : sources ∈ pairs) :
    Justified compiler states pairs (cache.intern sources).2 ∧
      Extends cache (cache.intern sources).2 ∧
      (cache.intern sources).2.byDigest.lookup sources.digest =
        some (cache.intern sources).1 := by
  cases found : cache.byDigest.lookup sources.digest with
  | some id =>
      have same : cache.intern sources = (id, cache) := by rw [ProgramCache.intern, found]
      rw [same]
      exact ⟨justified, Extends.refl cache, found⟩
  | none =>
      obtain ⟨later, added, identities, holds, fingerprints, digests⟩ := exists_intern found
      rw [added]
      have newest : later.byDigest.lookup sources.digest = some cache.programs.length := by
        rw [digests, Association.lookup_insert_self]
      have older : ∀ {digest : Digest}, digest ≠ sources.digest →
          later.byDigest.lookup digest = cache.byDigest.lookup digest := by
        intro digest different
        rw [digests, Association.lookup_insert_of_ne different]
      -- Nothing was known under the digest, so no entry is lost.
      have extended : Extends cache later := by
        refine ⟨identities, ?_⟩
        intro digest id known
        rw [older, known]
        rintro rfl
        rw [found] at known
        cases known
      refine ⟨justified.extend extended fingerprints ?_, extended, newest⟩
      intro digest id known
      by_cases same : digest = sources.digest
      · rw [same, newest] at known
        rw [← Option.some.inj known]
        refine .inr ⟨?_, sources, member, same.symm, holds⟩
        intro first
        exact justified.nonempty (List.map_eq_nil_iff.mpr (List.length_eq_zero_iff.mp first))
      · exact .inl (older same ▸ known)

/-- The right answer for a render state with something to draw is the program of its texts. -/
theorem holds (justified : Justified compiler states pairs cache)
    (distinguishable : SourcePair.Distinguishable pairs)
    (builds : compiler.Builds state sources) (serves : cache.Serves compiler pairs state id) :
    cache.byDigest.lookup sources.digest = some id ∧ id ≠ sentinelId ∧
      cache.Holds id sources := by
  rcases serves with ⟨nothing, _⟩ | ⟨its, member, ⟨_, generated⟩, found⟩
  · rw [builds.1] at nothing
    cases nothing
  · rw [builds.2] at generated
    cases generated
    obtain ⟨proper, other, hashed, same, program, got, texts⟩ := justified.byDigest found
    have equal := (distinguishable.digest_eq_iff hashed member).mp same
    exact ⟨found, proper, program, got, texts.trans equal⟩

end Justified
end ProgramCache

/-! ## Looms at work -/

namespace Loom

/-- What is asked of a loom. -/
inductive Request where
  | program (state : RenderState)
  | apply (id : ProgramId)
  | invalidateAll
  | releaseAll

/-- A loom and the device it works on. -/
structure Desk (σ : Type) where
  loom : Loom
  session : Session σ

variable {σ : Type}

/-- Carries out a request.  One that fails may leave traces on the device. -/
def Request.perform (device : Device σ) (desk : Desk σ) : Request → Desk σ
  | program state =>
    match desk.loom.programFor state with
    | .ok (_, loom) => { desk with loom }
    | .error _ => desk
  | apply id =>
    let (_, cache, session) := desk.loom.cache.use id (Program.apply device) desk.session
    { loom := { desk.loom with cache }, session }
  | invalidateAll => { desk with loom := desk.loom.invalidateAll }
  | releaseAll =>
    let (_, cache, session) := desk.loom.cache.releaseAll device desk.session
    { loom := { desk.loom with cache }, session }

/-- Carries out requests one after the other. -/
def run (device : Device σ) (desk : Desk σ) (requests : List Request) : Desk σ :=
  requests.foldl (Request.perform device) desk

/-- What a request for a program is answered after some other requests. -/
def answer (device : Device σ) (desk : Desk σ) (before : List Request) (state : RenderState) :
    Except Error ProgramId :=
  ((run device desk before).loom.programFor state).map Prod.fst

/-- The render state whose program is asked for. -/
def Request.state? : Request → Option RenderState
  | program state => some state
  | _ => none

/-- The render states whose programs are asked for. -/
def asked (requests : List Request) : List RenderState :=
  requests.filterMap Request.state?

/-- The sources that a request has hashed: those of a render state with something to draw whose
fingerprint was not seen. -/
def Request.hashed (loom : Loom) : Request → List SourcePair
  | program state =>
    if loom.cache.lookup state.fingerprint = none ∧ state.isDegenerate = false then
      (loom.compiler.generate state state.variantName).toOption.toList
    else []
  | _ => []

/-- The sources that are hashed in a run. -/
def hashed (device : Device σ) : Desk σ → List Request → List SourcePair
  | _, [] => []
  | desk, request :: rest =>
    request.hashed desk.loom ++ hashed device (request.perform device desk) rest

/-- Digests do not collide on what is hashed in a run. -/
structure Legible (device : Device σ) (desk : Desk σ) (requests : List Request) : Prop where
  fingerprints : ∀ a ∈ asked requests, ∀ b ∈ asked requests,
    a.fingerprint = b.fingerprint → a.canonicalBytes = b.canonicalBytes
  texts : SourcePair.Distinguishable (hashed device desk requests)

theorem Request.mem_hashed {loom : Loom} {state : RenderState} {sources : SourcePair} :
    sources ∈ (program state).hashed loom ↔
      loom.cache.lookup state.fingerprint = none ∧ loom.compiler.Builds state sources := by
  rw [hashed, Compiler.Builds]
  by_cases unseen : loom.cache.lookup state.fingerprint = none ∧ state.isDegenerate = false
  · rw [if_pos unseen]
    cases generated : loom.compiler.generate state state.variantName <;>
      simp [unseen, Except.toOption, eq_comm]
  · rw [if_neg unseen]
    constructor
    · nofun
    · rintro ⟨unknown, drawn, _⟩
      exact absurd ⟨unknown, drawn⟩ unseen

theorem run_append (device : Device σ) (desk : Desk σ) (first second : List Request) :
    run device desk (first ++ second) = run device (run device desk first) second :=
  List.foldl_append

theorem hashed_append (device : Device σ) (desk : Desk σ) (first second : List Request) :
    hashed device desk (first ++ second) =
      hashed device desk first ++ hashed device (run device desk first) second := by
  induction first generalizing desk with
  | nil => rfl
  | cons request rest ih =>
      rw [List.cons_append, hashed, hashed, ih, List.append_assoc]
      rfl

/-! ## Every request keeps the invariant -/

/-- The compiler of a loom does not change. -/
theorem compiler_programFor {loom next : Loom} {state : RenderState} {id : ProgramId}
    (answered : loom.programFor state = .ok (id, next)) : next.compiler = loom.compiler := by
  unfold programFor getOrCreate at answered
  cases found : loom.cache.lookup state.fingerprint with
  | some known =>
      simp only [found] at answered
      cases answered
      rfl
  | none =>
      simp only [found] at answered
      split at answered
      · cases answered
        rfl
      · split at answered
        · cases answered
        · cases answered
          rfl

theorem compiler_perform (device : Device σ) (desk : Desk σ) (request : Request) :
    (request.perform device desk).loom.compiler = desk.loom.compiler := by
  cases request with
  | program state =>
      rw [Request.perform]
      cases answered : desk.loom.programFor state with
      | ok answer => exact compiler_programFor answered
      | error cause => rfl
  | apply id => rfl
  | invalidateAll => rfl
  | releaseAll => rfl

section Requests

variable {states : List RenderState} {pairs : List SourcePair}
  (agree : ∀ a ∈ states, ∀ b ∈ states, a.fingerprint = b.fingerprint → a.Agree b)

include agree

/-- A request for a program is served, or the render state is not valid. -/
theorem justified_programFor {loom : Loom} (plain : loom.compiler.library = {})
    (justified : loom.cache.Justified loom.compiler states pairs) {state : RenderState}
    (member : state ∈ states) (known : (Request.program state).hashed loom ⊆ pairs) :
    (∃ id next, loom.programFor state = .ok (id, next) ∧
        next.cache.Justified loom.compiler states pairs ∧ loom.cache.Extends next.cache ∧
        next.cache.Serves loom.compiler pairs state id) ∨
      state.isDegenerate = false ∧
        ∃ cause, state.validate = .error cause ∧ loom.programFor state = .error cause := by
  unfold programFor getOrCreate
  cases found : loom.cache.lookup state.fingerprint with
  | some id =>
      -- The entry was made for a render state with this fingerprint, which agrees with this
      -- one.
      obtain ⟨other, asked, same, serves⟩ := justified.byFingerprint found
      exact .inl ⟨id, loom, rfl, justified, .refl loom.cache,
        serves.of_agree (agree other asked state member same)⟩
  | none =>
      cases degenerate : state.isDegenerate with
      | true =>
          have serves : loom.cache.Serves loom.compiler pairs state ProgramCache.sentinelId :=
            .inl ⟨degenerate, rfl⟩
          exact .inl ⟨_, _, rfl, justified.note member serves _,
            ⟨List.prefix_rfl, fun known => known⟩, serves⟩
      | false =>
          cases generated : loom.compiler.generate state state.variantName with
          | ok sources =>
              have builds : loom.compiler.Builds state sources := ⟨degenerate, generated⟩
              have hashed : sources ∈ pairs := known (Request.mem_hashed.mpr ⟨found, builds⟩)
              obtain ⟨interned, extended, found⟩ := justified.intern hashed
              have serves : ProgramCache.Serves _ loom.compiler pairs state _ :=
                .inr ⟨sources, hashed, builds, found⟩
              exact .inl ⟨_, _, rfl, interned.note member serves _,
                ⟨extended.identities, extended.byDigest⟩, serves⟩
          | error cause =>
              -- A valid render state has shaders, so this one is not valid.
              refine .inr ⟨rfl, cause, ?_, rfl⟩
              cases valid : state.validate with
              | ok _ =>
                  obtain ⟨sources, succeeds⟩ :=
                    Compiler.exists_generate plain valid state.variantName
                  rw [generated] at succeeds
                  cases succeeds
              | error reason =>
                  rw [Compiler.generate_of_invalid valid] at generated
                  cases generated
                  rfl

/-- One request. -/
theorem justified_perform (device : Device σ) {desk : Desk σ}
    (plain : desk.loom.compiler.library = {})
    (justified : desk.loom.cache.Justified desk.loom.compiler states pairs) (request : Request)
    (members : ∀ state ∈ request.state?, state ∈ states)
    (known : request.hashed desk.loom ⊆ pairs) :
    (request.perform device desk).loom.cache.Justified desk.loom.compiler states pairs ∧
      desk.loom.cache.Extends (request.perform device desk).loom.cache := by
  -- Apart from requests for programs, a request only concerns the objects on the device.
  have unnoticed : ∀ {later : ProgramCache}, later.identities = desk.loom.cache.identities →
      later.byFingerprint = desk.loom.cache.byFingerprint →
      later.byDigest = desk.loom.cache.byDigest →
      later.Justified desk.loom.compiler states pairs ∧ desk.loom.cache.Extends later := by
    intro later identities fingerprints digests
    have extended : desk.loom.cache.Extends later :=
      ⟨identities ▸ List.prefix_rfl, fun known => digests ▸ known⟩
    exact ⟨justified.extend extended fingerprints fun known => .inl (digests ▸ known), extended⟩
  cases request with
  | program state =>
      rw [Request.perform]
      obtain ⟨id, next, answered, kept, extended, _⟩ | ⟨_, cause, _, failed⟩ :=
        justified_programFor agree plain justified (members state rfl) known
      · rw [answered]
        exact ⟨kept, extended⟩
      · rw [failed]
        exact ⟨justified, .refl _⟩
  | apply id =>
      have kept := unnoticed
        (ProgramCache.identities_use _ id (Program.identity_step device .apply) desk.session)
        (ProgramCache.byFingerprint_use _ _ _ _) (ProgramCache.byDigest_use _ _ _ _)
      exact kept
  | invalidateAll => exact unnoticed (ProgramCache.identities_invalidateAll _) rfl rfl
  | releaseAll => exact unnoticed (ProgramCache.identities_releaseAll _ device _) rfl rfl

/-- All requests of a run. -/
theorem justified_run (device : Device σ) {desk : Desk σ}
    (plain : desk.loom.compiler.library = {})
    (justified : desk.loom.cache.Justified desk.loom.compiler states pairs)
    {requests : List Request} (members : ∀ state ∈ asked requests, state ∈ states)
    (known : hashed device desk requests ⊆ pairs) :
    (run device desk requests).loom.compiler = desk.loom.compiler ∧
      (run device desk requests).loom.cache.Justified desk.loom.compiler states pairs ∧
      desk.loom.cache.Extends (run device desk requests).loom.cache := by
  induction requests generalizing desk with
  | nil => exact ⟨rfl, justified, .refl _⟩
  | cons request rest ih =>
      have first : ∀ state ∈ request.state?, state ∈ states := fun state known =>
        members state (List.mem_filterMap.mpr ⟨request, List.mem_cons_self, known⟩)
      have others : ∀ state ∈ asked rest, state ∈ states := fun state known =>
        members state (((List.sublist_cons_self request rest).filterMap _).subset known)
      obtain ⟨now, next⟩ := List.append_subset.mp known
      obtain ⟨kept, extended⟩ :=
        justified_perform agree device plain justified request first now
      have same := compiler_perform device desk request
      rw [← same] at plain kept
      obtain ⟨sameRest, keptRest, extendedRest⟩ := ih plain kept others next
      rw [same] at sameRest keptRest
      exact ⟨sameRest, keptRest, extended.trans extendedRest⟩

end Requests

/-! ## The answers of a run -/

/-- Equal fingerprints mean equal active features. -/
theorem Legible.agree {device : Device σ} {desk : Desk σ} {requests : List Request}
    (legible : Legible device desk requests)
    (encodable : ∀ state ∈ asked requests, state.Encodable) :
    ∀ a ∈ asked requests, ∀ b ∈ asked requests, a.fingerprint = b.fingerprint → a.Agree b := by
  intro a memberA b memberB same
  exact .of_canonicalBytes_eq (encodable a memberA) (encodable b memberB)
    (legible.fingerprints a memberA b memberB same)

/-- What is hashed belongs to render states that are asked for. -/
theorem exists_builds_of_mem_hashed {device : Device σ} {desk : Desk σ}
    {requests : List Request} {sources : SourcePair}
    (member : sources ∈ hashed device desk requests) :
    ∃ state ∈ asked requests, desk.loom.compiler.Builds state sources := by
  induction requests generalizing desk with
  | nil => cases member
  | cons request rest ih =>
      rcases List.mem_append.mp member with now | next
      · cases request with
        | program state =>
            exact ⟨state, List.mem_cons_self, (Request.mem_hashed.mp now).2⟩
        | apply | invalidateAll | releaseAll => cases now
      · obtain ⟨state, asked, builds⟩ := ih next
        rw [compiler_perform] at builds
        exact ⟨state, ((List.sublist_cons_self request rest).filterMap _).subset asked, builds⟩

theorem asked_subset {first second : List Request} (part : first <+: second) :
    ∀ state ∈ asked first, state ∈ asked second :=
  fun _ known => (part.sublist.filterMap _).subset known

theorem mem_asked {before requests : List Request} {state : RenderState}
    (part : before ++ [.program state] <+: requests) : state ∈ asked requests :=
  List.mem_filterMap.mpr ⟨.program state, part.subset (by simp), rfl⟩

/-- What is hashed in the course of a run is hashed in the run. -/
theorem hashed_subset (device : Device σ) (desk : Desk σ) (first : List Request)
    {middle requests : List Request} (part : first ++ middle <+: requests) :
    hashed device (run device desk first) middle ⊆ hashed device desk requests := by
  obtain ⟨rest, rfl⟩ := part
  rw [hashed_append, hashed_append]
  exact fun _ member => List.mem_append_left _ (List.mem_append_right _ member)

section Answers

variable (device : Device σ) {desk : Desk σ} {requests : List Request}
  (fresh : desk.loom.cache = {}) (plain : desk.loom.compiler.library = {})
  (encodable : ∀ state ∈ asked requests, state.Encodable)
  (legible : Legible device desk requests)

include fresh plain encodable legible

/-- What the cache knows is justified at each moment of the run. -/
theorem justified_earlier {past : List Request} (part : past <+: requests) :
    (run device desk past).loom.compiler = desk.loom.compiler ∧
      (run device desk past).loom.cache.Justified desk.loom.compiler (asked requests)
        (hashed device desk requests) := by
  have start : desk.loom.cache.Justified desk.loom.compiler (asked requests)
      (hashed device desk requests) := fresh ▸ ProgramCache.justified_empty
  obtain ⟨same, justified, _⟩ := justified_run (legible.agree encodable) device
    plain start (asked_subset part) (hashed_subset device desk [] part)
  exact ⟨same, justified⟩

/-- An answer is right from the moment it is given, or the render state is not valid and nothing
happens. -/
theorem answer_cases {before : List Request} {state : RenderState}
    (part : before ++ [.program state] <+: requests) :
    (∃ id, answer device desk before state = .ok id ∧
        ∀ past, before ++ [.program state] <+: past → past <+: requests →
          (run device desk past).loom.cache.Serves desk.loom.compiler
            (hashed device desk requests) state id) ∨
      state.isDegenerate = false ∧ ∃ cause, state.validate = .error cause ∧
        answer device desk before state = .error cause ∧
        run device desk (before ++ [.program state]) = run device desk before := by
  have agree := legible.agree encodable
  obtain ⟨same, justified⟩ := justified_earlier device fresh plain encodable legible
    ((List.prefix_append before _).trans part)
  have now : (Request.program state).hashed (run device desk before).loom ⊆
      hashed device desk requests := by
    have member := hashed_subset device desk before part
    rw [hashed, hashed, List.append_nil] at member
    exact member
  have last : run device desk (before ++ [.program state]) =
      Request.perform device (run device desk before) (.program state) :=
    run_append device desk _ _
  rw [Request.perform] at last
  rw [← same] at plain justified ⊢
  obtain ⟨id, next, answered, kept, _, serves⟩ | ⟨drawn, cause, invalid, failed⟩ :=
    justified_programFor agree plain justified (mem_asked part) now
  · refine .inl ⟨id, by rw [answer, answered]; rfl, ?_⟩
    rintro _ ⟨rest, rfl⟩ within
    have arrived : (run device desk (before ++ [.program state])).loom = next := by
      rw [last, answered]
    have compiler := compiler_programFor answered
    rw [← compiler] at plain kept
    rw [← arrived] at plain kept serves
    have members : ∀ state ∈ asked rest, state ∈ asked requests := fun state known =>
      asked_subset within state (((List.sublist_append_right _ rest).filterMap _).subset known)
    rw [run_append]
    exact serves.mono (justified_run agree device plain kept members
      (hashed_subset device desk _ within)).2.2
  · rw [failed] at last
    exact .inr ⟨drawn, cause, invalid, by rw [answer, failed]; rfl, last⟩

/-- There is nothing to draw. -/
theorem answer_of_degenerate {before : List Request} {state : RenderState}
    (part : before ++ [.program state] <+: requests) (degenerate : state.isDegenerate = true) :
    answer device desk before state = .ok ProgramCache.sentinelId := by
  obtain ⟨id, answered, serves⟩ | ⟨drawn, _⟩ :=
    answer_cases device fresh plain encodable legible part
  · rcases serves _ List.prefix_rfl part with ⟨_, rfl⟩ | ⟨_, _, ⟨drawn, _⟩, _⟩
    · exact answered
    · rw [degenerate] at drawn
      cases drawn
  · rw [degenerate] at drawn
    cases drawn

/-- There are too many morph targets. -/
theorem answer_of_invalid {before : List Request} {state : RenderState}
    (part : before ++ [.program state] <+: requests) (drawn : state.isDegenerate = false)
    {cause : Error} (invalid : state.validate = .error cause) :
    answer device desk before state = .error cause ∧
      run device desk (before ++ [.program state]) = run device desk before := by
  obtain ⟨id, _, serves⟩ | ⟨_, reason, same, failed⟩ :=
    answer_cases device fresh plain encodable legible part
  · rcases serves _ List.prefix_rfl part with ⟨degenerate, _⟩ | ⟨_, _, ⟨_, generated⟩, _⟩
    · rw [drawn] at degenerate
      cases degenerate
    · rw [Compiler.generate_of_invalid invalid] at generated
      cases generated
  · rw [invalid] at same
    cases same
    exact failed

/-- There are shaders. -/
theorem exists_answer {before : List Request} {state : RenderState} {sources : SourcePair}
    (part : before ++ [.program state] <+: requests)
    (builds : desk.loom.compiler.Builds state sources) :
    ∃ id, answer device desk before state = .ok id ∧ id ≠ ProgramCache.sentinelId ∧
      ∀ past, before ++ [.program state] <+: past → past <+: requests →
        (run device desk past).loom.cache.byDigest.lookup sources.digest = some id ∧
          (run device desk past).loom.cache.Holds id sources := by
  obtain ⟨id, answered, serves⟩ | ⟨_, cause, invalid, _⟩ :=
    answer_cases device fresh plain encodable legible part
  · have holds := fun past (since : before ++ [.program state] <+: past) within =>
      (justified_earlier device fresh plain encodable legible within).2.holds
        legible.texts builds (serves past since within)
    refine ⟨id, answered, (holds _ List.prefix_rfl part).2.1, ?_⟩
    intro past since within
    obtain ⟨found, _, held⟩ := holds past since within
    exact ⟨found, held⟩
  · have generated := builds.2
    rw [Compiler.generate_of_invalid invalid] at generated
    cases generated

end Answers

/-- **The cache cannot be noticed.**  Take any requests to a loom with an empty cache, whatever
the device answers, on render states whose lists and names are shorter than `2 ^ 32`.  A request
for a program is answered with "nothing to draw" if the geometry has no positions, and fails if
there are too many morph targets, which changes nothing.  Otherwise, from then on, its program
holds the texts that are generated for the render state.  Programs are the same for the same
texts, and only then. -/
theorem programFor_transparent (device : Device σ) (desk : Desk σ) (requests : List Request)
    (fresh : desk.loom.cache = {}) (plain : desk.loom.compiler.library = {})
    (encodable : ∀ state ∈ asked requests, state.Encodable)
    (legible : Legible device desk requests) :
    (∀ before state, before ++ [.program state] <+: requests →
      (answer device desk before state = .ok ProgramCache.sentinelId ↔
        state.streams.contains Streams.position = false) ∧
      ((∃ cause, answer device desk before state = .error cause) ↔
        state.streams.contains Streams.position = true ∧
          ∃ morph ∈ state.morph, 4 < morph.targetCount) ∧
      ((∃ cause, answer device desk before state = .error cause) →
        run device desk (before ++ [.program state]) = run device desk before) ∧
      (state.streams.contains Streams.position = true →
        (∀ morph ∈ state.morph, morph.targetCount ≤ 4) →
          ∃ id sources, answer device desk before state = .ok id ∧
            desk.loom.compiler.generate state state.variantName = .ok sources ∧
            ∀ past, before ++ [.program state] <+: past → past <+: requests →
              (run device desk past).loom.cache.Holds id sources)) ∧
    ∀ before state before' state', before ++ [.program state] <+: requests →
      before' ++ [.program state'] <+: requests →
      ∀ sources sources', desk.loom.compiler.Builds state sources →
        desk.loom.compiler.Builds state' sources' →
        ∃ id id', answer device desk before state = .ok id ∧
          answer device desk before' state' = .ok id' ∧
          (id = id' ↔ sources.texts = sources'.texts) := by
  constructor
  · intro before state part
    cases position : state.streams.contains Streams.position with
    | false =>
        have answered := answer_of_degenerate device fresh plain encodable legible part
          (by rw [RenderState.isDegenerate, position]; rfl)
        simp [answered]
    | true =>
        have drawn : state.isDegenerate = false := by
          rw [RenderState.isDegenerate, position]; rfl
        obtain ⟨valid, few⟩ | ⟨⟨cause, invalid⟩, many⟩ := state.validate_cases
        · obtain ⟨sources, generated⟩ := Compiler.exists_generate plain valid state.variantName
          obtain ⟨id, answered, proper, holds⟩ :=
            exists_answer device fresh plain encodable legible part ⟨drawn, generated⟩
          have succeeds : ¬ ∃ cause, answer device desk before state = .error cause := by
            simp [answered]
          refine ⟨?_, iff_of_false succeeds ?_, fun fails => absurd fails succeeds, ?_⟩
          · simp [answered, proper]
          · rintro ⟨_, morph, known, large⟩
            exact UInt32.not_lt.mpr (few morph known) large
          · intro _ _
            exact ⟨id, sources, answered, generated, fun past since within =>
              (holds past since within).2⟩
        · obtain ⟨failed, unchanged⟩ :=
            answer_of_invalid device fresh plain encodable legible part drawn invalid
          refine ⟨?_, iff_of_true ⟨cause, failed⟩ ⟨rfl, many⟩, fun _ => unchanged, ?_⟩
          · simp [failed]
          · intro _ few
            obtain ⟨morph, known, large⟩ := many
            exact absurd large (UInt32.not_lt.mpr (few morph known))
  · intro before state before' state' part part' sources sources' builds builds'
    obtain ⟨id, answered, _, holds⟩ :=
      exists_answer device fresh plain encodable legible part builds
    obtain ⟨id', answered', _, holds'⟩ :=
      exists_answer device fresh plain encodable legible part' builds'
    -- Both programs are compared at the end of the run, where both answers are known to be
    -- right.
    obtain ⟨found, held⟩ := holds requests part List.prefix_rfl
    obtain ⟨found', held'⟩ := holds' requests part' List.prefix_rfl
    refine ⟨id, id', answered, answered', ?_, ?_⟩
    · rintro rfl
      exact held.texts_eq held'
    · intro same
      rw [SourcePair.digest_eq_of_texts_eq same, found'] at found
      exact (Option.some.inj found).symm

/-- A device that refuses every call. -/
def refusing : Device Unit where
  answer := fun _ state => (.error .contextLost, state)
  contextLost := fun _ => true

/-- Colors without positions. -/
def positionless : RenderState :=
  { streams := Streams.color }

/-- More morph targets than there may be. -/
def crowded : RenderState :=
  { morph := some { targetCount := 5, targetNames := [] } }

/-- Two render states with the same shaders, one with nothing to draw and one that is not valid,
while the device is lost. -/
def errand : List Request :=
  [.program RenderState.unlitMorph, .apply 1, .invalidateAll, .program positionless,
    .program crowded, .releaseAll, .program RenderState.repeatedMorph]

/-- A loom that was not asked for anything yet. -/
def idle : Desk Unit :=
  { loom := {}, session := { device := () } }

theorem asked_errand : asked errand =
    [RenderState.unlitMorph, positionless, crowded, RenderState.repeatedMorph] :=
  rfl

/-- Only one pair of sources is generated. -/
theorem builds_errand {state : RenderState} (member : state ∈ asked errand)
    {sources : SourcePair} (builds : idle.loom.compiler.Builds state sources) :
    idle.loom.compiler.Builds RenderState.unlitMorph sources := by
  rw [asked_errand] at member
  simp only [List.mem_cons, List.not_mem_nil, or_false] at member
  rcases member with rfl | rfl | rfl | rfl
  · exact builds
  · cases builds.1
  · have generated := builds.2
    rw [Compiler.generate_of_invalid rfl] at generated
    cases generated
  · have agree : RenderState.repeatedMorph.Agree RenderState.unlitMorph :=
      .of_canonicalBytes_eq RenderState.encodable_repeatedMorph RenderState.encodable_unlitMorph
        RenderState.canonicalBytes_repeatedMorph.symm
    refine ⟨rfl, ?_⟩
    rw [← agree.generate_eq, ← agree.variantName_eq]
    exact builds.2

theorem encodable_errand : ∀ state ∈ asked errand, state.Encodable := by
  rw [asked_errand]
  simp only [List.forall_mem_cons]
  refine ⟨RenderState.encodable_unlitMorph, ?_, ?_, RenderState.encodable_repeatedMorph, nofun⟩
  · constructor <;> simp [positionless]
  · constructor <;> simp [crowded]

theorem legible_errand : Legible refusing idle errand where
  fingerprints := by decide +kernel
  texts := by
    refine SourcePair.distinguishable_of_eq fun a memberA b memberB => ?_
    obtain ⟨state, asked, builds⟩ := exists_builds_of_mem_hashed memberA
    obtain ⟨other, asked', builds'⟩ := exists_builds_of_mem_hashed memberB
    exact Except.ok.inj
      ((builds_errand asked builds).2.symm.trans (builds_errand asked' builds').2)

/-- The cache is not noticed while the device is lost: the last answer is still the first
one. -/
theorem programFor_transparent_errand :
    idle.loom.cache = {} ∧ idle.loom.compiler.library = {} ∧
      (∀ state ∈ asked errand, state.Encodable) ∧ Legible refusing idle errand ∧
      answer refusing idle (errand.take 3) positionless = .ok ProgramCache.sentinelId ∧
      (∃ cause, answer refusing idle (errand.take 4) crowded = .error cause) ∧
      ∃ id, answer refusing idle [] RenderState.unlitMorph = .ok id ∧
        answer refusing idle (errand.take 6) RenderState.repeatedMorph = .ok id := by
  obtain ⟨each, shared⟩ :=
    programFor_transparent refusing idle errand rfl rfl encodable_errand legible_errand
  have first : [] ++ [Request.program RenderState.unlitMorph] <+: errand := ⟨_, rfl⟩
  have last : errand.take 6 ++ [.program RenderState.repeatedMorph] <+: errand :=
    List.prefix_rfl
  obtain ⟨_, sources, _, generated, _⟩ := (each _ _ first).2.2.2 rfl (by decide)
  obtain ⟨_, sources', _, generated', _⟩ := (each _ _ last).2.2.2 rfl (by decide)
  refine ⟨rfl, rfl, encodable_errand, legible_errand, (each _ _ ⟨_, rfl⟩).1.mpr rfl, ?_, ?_⟩
  · exact (each _ _ ⟨_, rfl⟩).2.1.mpr ⟨rfl, _, rfl, by decide⟩
  · have same : sources = sources' := by
      have builds := builds_errand (mem_asked last) ⟨rfl, generated'⟩
      exact Except.ok.inj (generated.symm.trans builds.2)
    obtain ⟨id, id', answered, answered', iff⟩ := shared _ _ _ _ first last sources sources'
      ⟨rfl, generated⟩ ⟨rfl, generated'⟩
    rw [same] at iff
    exact ⟨id, answered, iff.mpr rfl ▸ answered'⟩

/-! ## Names that are too long -/

/-- A name of many letters. -/
def letters (count : Nat) : String :=
  String.ofList (List.replicate count 'a')

/-- Positions are morphed, and there is one more name. -/
def joined (count : Nat) : RenderState :=
  { morph := some
      { targetCount := 1, targetNames := ["Vertex", letters count ++ "\x01\x00\x00\x00b"] } }

/-- The same letters, cut in another place: no stream has targets. -/
def severed (count : Nat) : RenderState :=
  { morph := some
      { targetCount := 1, targetNames := ["Vertex\x01\x00\x00\x00" ++ letters count, "b"] } }

theorem utf8ByteSize_letters (count : Nat) : (letters count).utf8ByteSize = count := by
  rw [letters]
  induction count with
  | zero => rfl
  | succ count ih =>
      rw [List.replicate_succ, String.ofList_cons, String.utf8ByteSize_append, ih]
      exact Nat.add_comm 1 count

/-- Where the length of a joined text wraps around, its bytes can be cut in two. -/
theorem text_append_of_wraps {s t : String} {size : Nat}
    (wraps : s.utf8ByteSize + t.utf8ByteSize = size + UInt32.size) :
    Encoding.text (s ++ t) =
      Encoding.length size ++ s.toUTF8.data.toList ++ t.toUTF8.data.toList := by
  rw [Encoding.text, String.utf8ByteSize_append, wraps, Encoding.length_add_size]
  simp [String.toUTF8]

theorem canonicalNames_pair {count : UInt32} {first second : String} (below : first < second) :
    (Morph.mk count [first, second]).canonicalNames = [first, second] := by
  simp [Morph.canonicalNames, Morph.insertName, below]

/-- The names of both render states are in order. -/
theorem lt_letters (count : Nat) (proper : 0 < count) (rest : String) :
    "Vertex" < letters count ++ rest ∧ "Vertex\x01\x00\x00\x00" ++ letters count < "b" := by
  obtain ⟨n, rfl⟩ : ∃ n, count = n + 1 := ⟨count - 1, by omega⟩
  have spelled : (letters (n + 1) ++ rest).toList =
      'a' :: (List.replicate n 'a' ++ rest.toList) := by
    rw [String.toList_append, letters, String.toList_ofList]
    rfl
  constructor
  · change "Vertex".toList < (letters (n + 1) ++ rest).toList
    rw [spelled]
    exact List.Lex.rel (by decide)
  · change ("Vertex\x01\x00\x00\x00" ++ letters (n + 1)).toList < "b".toList
    rw [String.toList_append]
    exact List.Lex.rel (by decide)

/-- The names of both render states have the same bytes, once the lengths wrap around. -/
theorem items_names_eq {count : Nat} (wraps : count + 4 = UInt32.size) :
    Encoding.items Encoding.text ["Vertex", letters count ++ "\x01\x00\x00\x00b"] =
      Encoding.items Encoding.text ["Vertex\x01\x00\x00\x00" ++ letters count, "b"] := by
  have size := utf8ByteSize_letters count
  have first : Encoding.text ("Vertex\x01\x00\x00\x00" ++ letters count) =
      Encoding.length 6 ++ "Vertex\x01\x00\x00\x00".toUTF8.data.toList ++
        (letters count).toUTF8.data.toList := by
    have ten : "Vertex\x01\x00\x00\x00".utf8ByteSize = 10 := rfl
    exact text_append_of_wraps (by omega)
  have last : Encoding.text (letters count ++ "\x01\x00\x00\x00b") =
      Encoding.length 1 ++ (letters count).toUTF8.data.toList ++
        "\x01\x00\x00\x00b".toUTF8.data.toList := by
    have five : "\x01\x00\x00\x00b".utf8ByteSize = 5 := rfl
    exact text_append_of_wraps (by omega)
  -- The four characters next to the letters are the length of a name.
  have word : "Vertex\x01\x00\x00\x00".toUTF8.data.toList =
      "Vertex".toUTF8.data.toList ++ Encoding.length 1 := rfl
  have tail : "\x01\x00\x00\x00b".toUTF8.data.toList = Encoding.text "b" := rfl
  have head : Encoding.text "Vertex" = Encoding.length 6 ++ "Vertex".toUTF8.data.toList := rfl
  simp only [Encoding.items, List.flatMap_cons, List.flatMap_nil, first, last, word, tail, head,
    List.append_assoc, List.length_cons, List.length_nil]

theorem canonicalBytes_joined {count : Nat} (wraps : count + 4 = UInt32.size) :
    (joined count).canonicalBytes = (severed count).canonicalBytes := by
  have size : UInt32.size = 4294967296 := rfl
  obtain ⟨below, below'⟩ := lt_letters count (by omega) "\x01\x00\x00\x00b"
  have active : (joined count).activeMorph =
      some ⟨1, ["Vertex", letters count ++ "\x01\x00\x00\x00b"]⟩ := rfl
  have active' : (severed count).activeMorph =
      some ⟨1, ["Vertex\x01\x00\x00\x00" ++ letters count, "b"]⟩ := rfl
  rw [RenderState.canonicalBytes, RenderState.canonicalBytes, active, active', Encoding.option,
    Encoding.option, Encoding.morph, Encoding.morph, canonicalNames_pair below,
    canonicalNames_pair below', items_names_eq wraps]
  rfl

/-- The first render state reads weights, and the second one does not. -/
theorem texts_joined_ne {count : Nat} {sources sources' : SourcePair}
    (builds : idle.loom.compiler.Builds (joined count) sources)
    (builds' : idle.loom.compiler.Builds (severed count) sources') :
    sources.texts ≠ sources'.texts := by
  obtain ⟨wired⟩ := (joined count).nonempty_wired rfl (joined count).variantName
  obtain ⟨wired'⟩ := (severed count).nonempty_wired rfl (severed count).variantName
  have generated := builds.2
  have generated' := builds'.2
  rw [wired.generate_eq] at generated
  rw [wired'.generate_eq] at generated'
  have compiled := (Compiler.compile_of_compileStages generated).1
  have compiled' := (Compiler.compile_of_compileStages generated').1
  have morphed : Vertex.targetCount? (joined count) Vertex.Quantity.vertex.stream =
      some 1 := rfl
  intro same
  have uniform : Storage.uniform = Declaration.storageOf .uniform := rfl
  obtain ⟨v, declares, stored, _, named⟩ :=
    wired.vertex.exists_declaresVariable_of_text_eq wired'.vertex
      (joined count).calm_variantName (severed count).calm_variantName compiled compiled'
      (congrArg Prod.fst same) uniform (wired.declares_weights compiled rfl morphed)
  have listed : v.name ∈ Vertex.featureNames := by
    rw [named]
    decide
  cases wired'.featureUniform_of_declares compiled' stored declares listed with
  | @weights morph quantity active target =>
      cases active
      have size : quantity.stream.utf8ByteSize = 6 ∨ quantity.stream.utf8ByteSize = 7 := by
        cases quantity <;> decide
      have ten : "Vertex\x01\x00\x00\x00".utf8ByteSize = 10 := rfl
      have one : "b".utf8ByteSize = 1 := rfl
      rw [Morph.hasTarget, List.contains_iff_mem, List.mem_cons, List.mem_singleton] at target
      rcases target with long | short
      · rw [long, String.utf8ByteSize_append] at size
        omega
      · rw [short] at size
        omega
  | palette active => cases active

/-- A render state whose fingerprint and texts were not seen before is given a new program. -/
theorem exists_programFor {loom : Loom} {state : RenderState} {sources : SourcePair}
    (unseen : loom.cache.lookup state.fingerprint = none)
    (unknown : loom.cache.byDigest.lookup sources.digest = none)
    (builds : loom.compiler.Builds state sources) :
    ∃ id next, loom.programFor state = .ok (id, next) ∧
      next.cache.lookup state.fingerprint = some id ∧ next.cache.Holds id sources := by
  obtain ⟨later, interned, _, holds, _⟩ := ProgramCache.exists_intern unknown
  unfold programFor getOrCreate ProgramCache.insert
  simp only [unseen, builds.1, builds.2, interned]
  exact ⟨_, _, rfl, Association.lookup_insert_self _ _ _, holds⟩

/-- The second of two render states with the same bytes is given the program of the first, and
nothing is hashed for it. -/
theorem shared_of_canonicalBytes_eq {first second : RenderState} {sources : SourcePair}
    (same : first.canonicalBytes = second.canonicalBytes)
    (builds : idle.loom.compiler.Builds first sources) :
    Legible refusing idle [.program first, .program second] ∧
      ∃ id, answer refusing idle [] first = .ok id ∧
        answer refusing idle [.program first] second = .ok id ∧
        (run refusing idle [.program first, .program second]).loom.cache.Holds id sources := by
  obtain ⟨id, next, answered, found, kept⟩ := exists_programFor rfl rfl builds
  have fingerprints : first.fingerprint = second.fingerprint := by
    rw [RenderState.fingerprint, RenderState.fingerprint, same]
  rw [fingerprints] at found
  have again : next.programFor second = .ok (id, next) := by
    unfold programFor getOrCreate
    rw [found]
  have arrived : run refusing idle [.program first] = { idle with loom := next } := by
    change Request.perform refusing idle (.program first) = _
    rw [Request.perform, answered]
  have ended : run refusing idle [.program first, .program second] =
      { idle with loom := next } := by
    change Request.perform refusing (run refusing idle [.program first]) (.program second) = _
    rw [arrived, Request.perform, again]
  refine ⟨⟨?_, SourcePair.distinguishable_of_eq ?_⟩, id, ?_, ?_, ?_⟩
  · have all : ∀ state ∈ asked [.program first, .program second],
        state.canonicalBytes = first.canonicalBytes := by
      simp [asked, Request.state?, same]
    intro a memberA b memberB _
    rw [all a memberA, all b memberB]
  · have only : ∀ pair ∈ hashed refusing idle [.program first, .program second],
        pair = sources := by
      intro pair member
      rw [hashed, hashed, hashed, List.append_nil] at member
      rcases List.mem_append.mp member with now | next
      · exact Except.ok.inj ((Request.mem_hashed.mp now).2.2.symm.trans builds.2)
      · have unseen := (Request.mem_hashed.mp next).1
        rw [Request.perform, answered, found] at unseen
        cases unseen
    intro a memberA b memberB
    rw [only a memberA, only b memberB]
  · change (idle.loom.programFor first).map Prod.fst = .ok id
    rw [answered]
    rfl
  · rw [answer, arrived, again]
    rfl
  · rw [ended]
    exact kept

/-- **Long names can share a program.**  With names of more than `2 ^ 32` bytes, a render state
is given a program with other texts than its own, although no digests collide. -/
theorem programFor_shared_by_long_names :
    Legible refusing idle [.program (joined 4294967292), .program (severed 4294967292)] ∧
      ∃ sources sources', idle.loom.compiler.Builds (joined 4294967292) sources ∧
        idle.loom.compiler.Builds (severed 4294967292) sources' ∧
        sources.texts ≠ sources'.texts ∧
        ∃ id, answer refusing idle [] (joined 4294967292) = .ok id ∧
          answer refusing idle [.program (joined 4294967292)] (severed 4294967292) = .ok id ∧
          ¬ (run refusing idle [.program (joined 4294967292),
              .program (severed 4294967292)]).loom.cache.Holds id sources' := by
  have valid : ∀ count, (joined count).validate = .ok () ∧ (severed count).validate = .ok () :=
    fun _ => ⟨rfl, rfl⟩
  have plain : idle.loom.compiler.library = {} := rfl
  obtain ⟨sources, generated⟩ := Compiler.exists_generate plain (valid 4294967292).1 _
  obtain ⟨sources', generated'⟩ := Compiler.exists_generate plain (valid 4294967292).2 _
  have differ := texts_joined_ne ⟨rfl, generated⟩ ⟨rfl, generated'⟩
  obtain ⟨legible, id, answered, again, holds⟩ :=
    shared_of_canonicalBytes_eq (canonicalBytes_joined rfl) ⟨rfl, generated⟩
  exact ⟨legible, sources, sources', ⟨rfl, generated⟩, ⟨rfl, generated'⟩, differ, id, answered,
    again, fun other => differ (holds.texts_eq other)⟩

end Loom
end ShaderLoom
