import Mathlib.Data.Set.Function
import Mathlib.Order.Interval.Set.Basic
import ShaderLoom.Proofs.CacheTransparency
import ShaderLoom.Proofs.ProgramHistory

/-!
# What a program cache knows after any insertions

A cache is given sources under fingerprints, in any order, with repeats, and with new sources
under a fingerprint that has some; in between its programs are used, forgotten and released.
This module says what the cache knows then, in terms of what was inserted.

The programs of a cache are, after the first one, those of the first sources of each digest, in
the order in which they came (`SourcePair.firsts`), and the table of digests numbers them.  A
fingerprint leads to the program of the sources that were inserted last under it.  Both are one
invariant (`ProgramCache.Ledger`), which every action keeps and which needs no assumption about
digests.  If digests do not collide, the first sources of each digest are the first ones with
their texts, so that texts and programs correspond to each other one by one.

## Main definitions

* `ProgramCache.Action`, `ProgramCache.run` — caches at work on a device
* `ProgramCache.inserted`, `ProgramCache.latest` — what was inserted, and what came last under a
  fingerprint
* `ProgramCache.Ledger` — the invariant

## Main results

* `ProgramCache.ledger_perform` — every action keeps the invariant
* `ProgramCache.toNat_ofNat_of_get` — identifiers fit into words of 32 bits
* `ProgramCache.run_consistent` — what a cache knows after any actions
-/

namespace ShaderLoom

/-! ## Tables -/

namespace Association

variable {κ ν : Type} [DecidableEq κ]

/-- A table with one entry for each key holds what is found in it. -/
theorem lookup_eq_some_iff_mem {entries : List (κ × ν)}
    (distinct : (entries.map Prod.fst).Nodup) {key : κ} {value : ν} :
    entries.lookup key = some value ↔ (key, value) ∈ entries := by
  refine ⟨mem_of_lookup, fun member => ?_⟩
  induction entries with
  | nil => simp at member
  | cons entry rest ih =>
      obtain ⟨unlisted, distinct⟩ := List.nodup_cons.mp distinct
      rcases List.mem_cons.mp member with rfl | later
      · rw [List.lookup_cons_self]
      · have other : key ≠ entry.1 := by
          rintro rfl
          exact unlisted (List.mem_map.mpr ⟨_, later, rfl⟩)
        rw [List.lookup_cons, beq_false_of_ne other]
        exact ih distinct later

/-- A new key goes to the end. -/
theorem insert_of_lookup_none {key : κ} {entries : List (κ × ν)}
    (unknown : entries.lookup key = none) (value : ν) :
    insert key value entries = entries ++ [(key, value)] := by
  induction entries with
  | nil => rfl
  | cons entry rest ih =>
      rw [List.lookup_cons] at unknown
      split at unknown
      · cases unknown
      · rename_i other
        rw [insert, if_neg (Ne.symm (ne_of_beq_false other)), ih unknown, List.cons_append]

end Association

/-! ## The first sources of each digest -/

namespace SourcePair

/-- What is kept when sources are added to those that were kept before. -/
def keep (kept : List SourcePair) (pair : SourcePair) : List SourcePair :=
  if pair.digest ∈ kept.map digest then kept else kept ++ [pair]

/-- The first sources of each digest, in order. -/
def firsts (pairs : List SourcePair) : List SourcePair :=
  pairs.foldl keep []

theorem firsts_concat (pairs : List SourcePair) (pair : SourcePair) :
    firsts (pairs ++ [pair]) = keep (firsts pairs) pair := by
  simp [firsts]

theorem prefix_keep (kept : List SourcePair) (pair : SourcePair) : kept <+: keep kept pair := by
  unfold keep
  split
  · exact List.prefix_rfl
  · exact List.prefix_append _ _

theorem prefix_firsts {earlier later : List SourcePair} (grown : earlier <+: later) :
    firsts earlier <+: firsts later := by
  obtain ⟨more, rfl⟩ := grown
  induction more using List.reverseRecOn with
  | nil => rw [List.append_nil]
  | append_singleton more pair ih =>
      rw [← List.append_assoc, firsts_concat]
      exact ih.trans (prefix_keep _ _)

theorem mem_keep {kept : List SourcePair} {pair other : SourcePair}
    (member : other ∈ keep kept pair) : other ∈ kept ∨ other = pair := by
  unfold keep at member
  split at member
  · exact .inl member
  · simpa using member

theorem mem_of_mem_firsts {pairs : List SourcePair} {pair : SourcePair}
    (member : pair ∈ firsts pairs) : pair ∈ pairs := by
  induction pairs using List.reverseRecOn with
  | nil => simp [firsts] at member
  | append_singleton pairs last ih =>
      rw [firsts_concat] at member
      rcases mem_keep member with older | rfl
      · exact List.mem_append_left _ (ih older)
      · simp

theorem digest_mem_keep (kept : List SourcePair) (pair : SourcePair) :
    pair.digest ∈ (keep kept pair).map digest := by
  unfold keep
  split
  · assumption
  · simp

/-- Every digest has its first sources. -/
theorem digest_mem_firsts {pairs : List SourcePair} {pair : SourcePair}
    (member : pair ∈ pairs) : pair.digest ∈ (firsts pairs).map digest := by
  obtain ⟨before, after, rfl⟩ := List.append_of_mem member
  have grown : before ++ [pair] <+: before ++ pair :: after := ⟨after, by simp⟩
  refine ((prefix_firsts grown).map digest).subset ?_
  rw [firsts_concat]
  exact digest_mem_keep _ _

theorem nodup_keep {kept : List SourcePair} (distinct : (kept.map digest).Nodup)
    (pair : SourcePair) : ((keep kept pair).map digest).Nodup := by
  unfold keep
  split
  · exact distinct
  · rename_i unlisted
    rw [List.map_append, List.map_singleton, ← List.concat_eq_append]
    exact distinct.concat unlisted

theorem nodup_firsts (pairs : List SourcePair) : ((firsts pairs).map digest).Nodup := by
  induction pairs using List.reverseRecOn with
  | nil => exact List.nodup_nil
  | append_singleton pairs pair ih =>
      rw [firsts_concat]
      exact nodup_keep ih pair

theorem length_firsts_le (pairs : List SourcePair) : (firsts pairs).length ≤ pairs.length := by
  have distinct : (firsts pairs).Nodup := (nodup_firsts pairs).of_map
  exact (distinct.subperm fun _ => mem_of_mem_firsts).length_le

/-- What the program of a pair of sources is. -/
def identity (pair : SourcePair) : Program.Identity :=
  { name := pair.vertex.name
    vertexText := pair.vertex.text
    fragmentText := pair.fragment.text
    sentinel := false }

end SourcePair

namespace ProgramCache

variable {σ : Type}

/-! ## Caches at work -/

/-- What is done with a cache. -/
inductive Action where
  | insert (fingerprint : Fingerprint) (sources : SourcePair)
  | insertSentinel (fingerprint : Fingerprint)
  | invalidateAll
  | releaseAll
  /-- An operation on one program. -/
  | use (id : ProgramId) (operation : Program.Operation)

/-- Carries out an action.  One that fails may leave traces on the device. -/
def perform (device : Device σ) (desk : ProgramCache × Session σ) :
    Action → ProgramCache × Session σ
  | .insert fingerprint sources => ((desk.1.insert fingerprint sources).2, desk.2)
  | .insertSentinel fingerprint => ((desk.1.insertSentinel fingerprint).2, desk.2)
  | .invalidateAll => (desk.1.invalidateAll, desk.2)
  | .releaseAll => (desk.1.releaseAll device desk.2).2
  | .use id operation => (desk.1.use id (operation.step device) desk.2).2

/-- Carries out actions one after the other, from a new cache on. -/
def run (device : Device σ) (session : Session σ) (actions : List Action) :
    ProgramCache × Session σ :=
  actions.foldl (perform device) ({}, session)

/-- The identifier that an action answers. -/
def Action.answer? (cache : ProgramCache) : Action → Option ProgramId
  | .insert fingerprint sources => some (cache.insert fingerprint sources).1
  | .insertSentinel fingerprint => some (cache.insertSentinel fingerprint).1
  | _ => none

/-- The sources that an action inserts. -/
def Action.sources? : Action → Option SourcePair
  | .insert _ sources => some sources
  | _ => none

/-- The sources that were inserted, in order. -/
def inserted (actions : List Action) : List SourcePair :=
  actions.filterMap Action.sources?

theorem inserted_concat (actions : List Action) (action : Action) :
    inserted (actions ++ [action]) = inserted actions ++ action.sources?.toList := by
  rw [inserted, List.filterMap_append]
  cases action <;> rfl

/-- What a fingerprint stands for. -/
inductive Entry where
  /-- There is nothing to draw. -/
  | nothing
  | sources (pair : SourcePair)

/-- What an action makes a fingerprint stand for. -/
def Action.entry? (fingerprint : Fingerprint) : Action → Option Entry
  | .insert other pair => if fingerprint = other then some (.sources pair) else none
  | .insertSentinel other => if fingerprint = other then some .nothing else none
  | _ => none

/-- What came last under a fingerprint. -/
def latest (actions : List Action) (fingerprint : Fingerprint) : Option Entry :=
  actions.reverse.findSome? (Action.entry? fingerprint)

theorem latest_concat (actions : List Action) (action : Action) (fingerprint : Fingerprint) :
    latest (actions ++ [action]) fingerprint =
      (action.entry? fingerprint).or (latest actions fingerprint) := by
  rw [latest, List.reverse_append, List.reverse_singleton, List.singleton_append,
    List.findSome?_cons]
  cases action.entry? fingerprint <;> rfl

theorem mem_inserted_of_latest {actions : List Action} {fingerprint : Fingerprint}
    {pair : SourcePair} (last : latest actions fingerprint = some (.sources pair)) :
    pair ∈ inserted actions := by
  obtain ⟨action, member, entry⟩ := List.exists_of_findSome?_eq_some last
  refine List.mem_filterMap.mpr ⟨action, List.mem_reverse.mp member, ?_⟩
  cases action <;> simp_all [Action.entry?, Action.sources?]

/-! ## The invariant -/

/-- The table that numbers sources by their digests, from one on. -/
def numbered (pairs : List SourcePair) : List (Digest × ProgramId) :=
  pairs.zipIdx.map fun entry => (entry.1.digest, entry.2 + 1)

theorem numbered_concat (pairs : List SourcePair) (pair : SourcePair) :
    numbered (pairs ++ [pair]) = numbered pairs ++ [(pair.digest, pairs.length + 1)] := by
  simp [numbered, List.zipIdx_append]

theorem map_fst_numbered (pairs : List SourcePair) :
    (numbered pairs).map Prod.fst = pairs.map SourcePair.digest := by
  have bare : pairs.zipIdx.map Prod.fst = pairs := List.zipIdx_map_fst 0 pairs
  rw [numbered, List.map_map]
  conv_rhs => rw [← bare, List.map_map]
  rfl

theorem lookup_numbered_eq_none_iff {pairs : List SourcePair} {digest : Digest} :
    (numbered pairs).lookup digest = none ↔ digest ∉ pairs.map SourcePair.digest := by
  rw [← map_fst_numbered, List.lookup_eq_none_iff]
  simp only [bne_iff_ne, List.mem_map, not_exists, not_and]
  exact forall₂_congr fun entry _ => ne_comm

theorem lookup_numbered_eq_some_iff {pairs : List SourcePair}
    (distinct : (pairs.map SourcePair.digest).Nodup) {digest : Digest} {id : ProgramId} :
    (numbered pairs).lookup digest = some id ↔
      ∃ index pair, pairs[index]? = some pair ∧ pair.digest = digest ∧ id = index + 1 := by
  rw [Association.lookup_eq_some_iff_mem (by rw [map_fst_numbered]; exact distinct), numbered,
    List.mem_map]
  constructor
  · rintro ⟨⟨pair, index⟩, member, same⟩
    obtain ⟨rfl, rfl⟩ := Prod.mk.inj same
    exact ⟨index, pair, List.mk_mem_zipIdx_iff_getElem?.mp member, rfl, rfl⟩
  · rintro ⟨index, pair, found, rfl, rfl⟩
    exact ⟨(pair, index), List.mk_mem_zipIdx_iff_getElem?.mpr found, rfl⟩

/-- Numbers do not change when sources are added. -/
theorem lookup_numbered_mono {pairs more : List SourcePair} (grown : pairs <+: more)
    {digest : Digest} {id : ProgramId} (found : (numbered pairs).lookup digest = some id) :
    (numbered more).lookup digest = some id := by
  obtain ⟨rest, rfl⟩ := grown
  rw [numbered, List.zipIdx_append, List.map_append, List.lookup_append]
  change ((numbered pairs).lookup digest).or _ = _
  rw [found, Option.some_or]

/-- The program that a cache has for an entry. -/
def Entry.id? (cache : ProgramCache) : Entry → Option ProgramId
  | .nothing => some sentinelId
  | .sources pair => cache.byDigest.lookup pair.digest

/-- What a cache knows after some actions. -/
structure Ledger (past : List Action) (cache : ProgramCache) : Prop where
  /-- After the program that stands for "nothing to draw" come those of the first sources of
  each digest. -/
  identities : cache.identities =
    Program.nothing.identity :: (SourcePair.firsts (inserted past)).map SourcePair.identity
  byDigest : cache.byDigest = numbered (SourcePair.firsts (inserted past))
  /-- What came last under a fingerprint decides about its program. -/
  byFingerprint : ∀ fingerprint,
    cache.lookup fingerprint = (latest past fingerprint).bind (Entry.id? cache)
  generated : ∀ fingerprint pair, latest past fingerprint = some (.sources pair) →
    cache.sources fingerprint = some pair

namespace Ledger

variable {past : List Action} {cache later : ProgramCache}

theorem length_programs (ledger : Ledger past cache) :
    cache.programs.length = (SourcePair.firsts (inserted past)).length + 1 := by
  have lengths := congrArg List.length ledger.identities
  simpa [ProgramCache.identities] using lengths

/-- Sources that were inserted have a program. -/
theorem isSome_lookup (ledger : Ledger past cache) {pair : SourcePair}
    (member : pair ∈ inserted past) : ∃ id, cache.byDigest.lookup pair.digest = some id := by
  rw [← Option.ne_none_iff_exists', ledger.byDigest, Ne, lookup_numbered_eq_none_iff, not_not]
  exact SourcePair.digest_mem_firsts member

/-- An action that inserts nothing and leaves all tables alone is not noticed. -/
theorem unnoticed (ledger : Ledger past cache) {action : Action}
    (plain : action.sources? = none) (silent : ∀ fingerprint, action.entry? fingerprint = none)
    (identities : later.identities = cache.identities)
    (byFingerprint : later.byFingerprint = cache.byFingerprint)
    (byDigest : later.byDigest = cache.byDigest)
    (generated : later.generated = cache.generated) : Ledger (past ++ [action]) later := by
  have same : inserted (past ++ [action]) = inserted past := by simp [inserted_concat, plain]
  have last (fingerprint : Fingerprint) :
      latest (past ++ [action]) fingerprint = latest past fingerprint := by
    simp [latest_concat, silent]
  have ids : Entry.id? later = Entry.id? cache := by
    funext entry
    cases entry <;> simp [Entry.id?, byDigest]
  refine ⟨?_, ?_, fun fingerprint => ?_, fun fingerprint pair => ?_⟩
  · rw [same, identities, ledger.identities]
  · rw [same, byDigest, ledger.byDigest]
  · rw [last, ids, ← ledger.byFingerprint, lookup, lookup, byFingerprint]
  · rw [last, sources, generated]
    exact ledger.generated fingerprint pair

/-- What was inserted before keeps its program. -/
theorem id?_eq_of_latest (ledger : Ledger past cache) {action : Action}
    (byDigest : later.byDigest = numbered (SourcePair.firsts (inserted (past ++ [action]))))
    {fingerprint : Fingerprint} {entry : Entry} (last : latest past fingerprint = some entry) :
    entry.id? later = entry.id? cache := by
  cases entry with
  | nothing => rfl
  | sources pair =>
      obtain ⟨id, found⟩ := ledger.isSome_lookup (mem_inserted_of_latest last)
      have grown : inserted past <+: inserted (past ++ [action]) := by
        rw [inserted_concat]
        exact List.prefix_append _ _
      rw [Entry.id?, Entry.id?, found, byDigest]
      exact lookup_numbered_mono (SourcePair.prefix_firsts grown) (ledger.byDigest ▸ found)

/-- A fingerprint is given an entry and its program. -/
theorem note (ledger : Ledger past cache) {action : Action} {fingerprint : Fingerprint}
    (entry : Entry) (id : ProgramId)
    (entries : ∀ other, action.entry? other = if other = fingerprint then some entry else none)
    (identities : later.identities = Program.nothing.identity ::
      (SourcePair.firsts (inserted (past ++ [action]))).map SourcePair.identity)
    (byDigest : later.byDigest = numbered (SourcePair.firsts (inserted (past ++ [action]))))
    (byFingerprint : later.byFingerprint =
      Association.insert fingerprint id cache.byFingerprint)
    (found : entry.id? later = some id)
    (others : ∀ other, other ≠ fingerprint → later.sources other = cache.sources other)
    (own : ∀ pair, entry = .sources pair → later.sources fingerprint = some pair) :
    Ledger (past ++ [action]) later := by
  refine ⟨identities, byDigest, fun other => ?_, fun other pair => ?_⟩
  · rw [latest_concat, entries, lookup, byFingerprint]
    by_cases same : other = fingerprint
    · rw [same, Association.lookup_insert_self, if_pos rfl, Option.some_or,
        Option.bind_some, found]
    · rw [Association.lookup_insert_of_ne same, if_neg same, Option.none_or]
      change cache.lookup other = _
      rw [ledger.byFingerprint]
      cases last : latest past other with
      | none => rfl
      | some entry =>
          rw [Option.bind_some, Option.bind_some, ledger.id?_eq_of_latest byDigest last]
  · rw [latest_concat, entries]
    by_cases same : other = fingerprint
    · rw [same, if_pos rfl, Option.some_or, Option.some.injEq]
      exact own pair
    · rw [if_neg same, Option.none_or, others other same]
      exact ledger.generated other pair

/-- Looking for the program of a pair of sources, or adding it. -/
theorem intern (ledger : Ledger past cache) (pair : SourcePair) :
    let kept := SourcePair.keep (SourcePair.firsts (inserted past)) pair
    (cache.intern pair).2.identities =
        Program.nothing.identity :: kept.map SourcePair.identity ∧
      (cache.intern pair).2.byDigest = numbered kept ∧
      (cache.intern pair).2.byDigest.lookup pair.digest = some (cache.intern pair).1 ∧
      (cache.intern pair).2.byFingerprint = cache.byFingerprint ∧
      (cache.intern pair).2.generated = cache.generated := by
  unfold ProgramCache.intern SourcePair.keep
  cases found : cache.byDigest.lookup pair.digest with
  | some id =>
      have listed :
          pair.digest ∈ (SourcePair.firsts (inserted past)).map SourcePair.digest := by
        by_contra unlisted
        rw [ledger.byDigest, lookup_numbered_eq_none_iff.mpr unlisted] at found
        cases found
      rw [if_pos listed]
      exact ⟨ledger.identities, ledger.byDigest, found, rfl, rfl⟩
  | none =>
      have unlisted :
          pair.digest ∉ (SourcePair.firsts (inserted past)).map SourcePair.digest := by
        rwa [ledger.byDigest, lookup_numbered_eq_none_iff] at found
      rw [if_neg unlisted]
      refine ⟨?_, ?_, Association.lookup_insert_self _ _ _, rfl, rfl⟩
      · have before := ledger.identities
        rw [ProgramCache.identities] at before ⊢
        rw [List.map_append, before, List.map_append]
        rfl
      · change Association.insert pair.digest cache.programs.length cache.byDigest = _
        rw [Association.insert_of_lookup_none found, numbered_concat, ledger.byDigest,
          ledger.length_programs]

theorem insert (ledger : Ledger past cache) (fingerprint : Fingerprint) (pair : SourcePair) :
    Ledger (past ++ [.insert fingerprint pair]) (cache.insert fingerprint pair).2 := by
  obtain ⟨identities, byDigest, found, byFingerprint, generated⟩ := ledger.intern pair
  have kept : SourcePair.firsts (inserted (past ++ [.insert fingerprint pair])) =
      SourcePair.keep (SourcePair.firsts (inserted past)) pair := by
    rw [inserted_concat]
    exact SourcePair.firsts_concat _ _
  refine ledger.note (.sources pair) (cache.intern pair).1 (fun _ => rfl) ?_ ?_ ?_ found
    (fun other different => ?_) ?_
  · rw [kept]
    exact identities
  · rw [kept]
    exact byDigest
  · exact congrArg _ byFingerprint
  · change List.lookup other
      (Association.insert fingerprint pair (cache.intern pair).2.generated) = _
    rw [Association.lookup_insert_of_ne different, generated]
    rfl
  · rintro _ ⟨⟩
    exact Association.lookup_insert_self _ _ _

theorem insertSentinel (ledger : Ledger past cache) (fingerprint : Fingerprint) :
    Ledger (past ++ [.insertSentinel fingerprint]) (cache.insertSentinel fingerprint).2 := by
  have same : inserted (past ++ [.insertSentinel fingerprint]) = inserted past := by
    rw [inserted_concat]
    exact List.append_nil _
  refine ledger.note .nothing sentinelId (fun _ => rfl) ?_ ?_ rfl rfl (fun _ _ => rfl)
    (by rintro _ ⟨⟩)
  · rw [same]
    exact ledger.identities
  · rw [same]
    exact ledger.byDigest

end Ledger

/-- A new cache knows nothing. -/
theorem ledger_empty : Ledger [] {} := by
  refine ⟨rfl, rfl, fun _ => rfl, ?_⟩
  rintro _ _ ⟨⟩

theorem generated_use {α : Type} (cache : ProgramCache) (id : ProgramId)
    (step : Program.Step σ α) (session : Session σ) :
    (cache.use id step session).2.1.generated = cache.generated := by
  unfold use
  split <;> rfl

/-- **Every action keeps the ledger**, whatever the device answers. -/
theorem ledger_perform {past : List Action} {desk : ProgramCache × Session σ}
    (ledger : Ledger past desk.1) (device : Device σ) (action : Action) :
    Ledger (past ++ [action]) (perform device desk action).1 := by
  cases action with
  | insert fingerprint pair => exact ledger.insert fingerprint pair
  | insertSentinel fingerprint => exact ledger.insertSentinel fingerprint
  | invalidateAll =>
      exact ledger.unnoticed rfl (fun _ => rfl) (identities_invalidateAll _) rfl rfl rfl
  | releaseAll =>
      exact ledger.unnoticed rfl (fun _ => rfl) (identities_releaseAll _ device _) rfl rfl rfl
  | use id operation =>
      exact ledger.unnoticed rfl (fun _ => rfl)
        (identities_use _ id (Program.identity_step device operation) _)
        (byFingerprint_use _ _ _ _) (byDigest_use _ _ _ _) (generated_use _ _ _ _)

theorem run_concat (device : Device σ) (session : Session σ) (actions : List Action)
    (action : Action) :
    run device session (actions ++ [action]) =
      perform device (run device session actions) action := by
  simp [run]

theorem ledger_run (device : Device σ) (session : Session σ) (actions : List Action) :
    Ledger actions (run device session actions).1 := by
  induction actions using List.reverseRecOn with
  | nil => exact ledger_empty
  | append_singleton actions action ih =>
      rw [run_concat]
      exact ledger_perform ih device action

/-! ## Reading the ledger -/

/-- The program that a cache has for a pair of texts. -/
def idOfTexts? (cache : ProgramCache) (texts : String × String) : Option ProgramId :=
  cache.byDigest.lookup (SourcePair.digest
    { vertex := { stage := .vertex, name := "", text := texts.1 }
      fragment := { stage := .fragment, name := "", text := texts.2 } })

/-- Digests see nothing of sources but their texts. -/
theorem idOfTexts?_texts (cache : ProgramCache) (pair : SourcePair) :
    cache.idOfTexts? pair.texts = cache.byDigest.lookup pair.digest := by
  unfold idOfTexts?
  rw [SourcePair.digest_eq_of_texts_eq]
  rfl

theorem getElem?_identities {cache : ProgramCache} {id : ProgramId} {program : Program}
    (got : cache.get id = .ok program) : cache.identities[id]? = some program.identity := by
  unfold get at got
  split at got
  · rename_i found
    rw [identities, List.getElem?_map, found]
    cases got
    rfl
  · cases got

theorem exists_get {cache : ProgramCache} {id : ProgramId} {identity : Program.Identity}
    (found : cache.identities[id]? = some identity) :
    ∃ program, cache.get id = .ok program ∧ program.identity = identity := by
  rw [identities, List.getElem?_map, Option.map_eq_some_iff] at found
  obtain ⟨program, present, same⟩ := found
  exact ⟨program, by rw [get, present], same⟩

namespace Ledger

variable {past : List Action} {cache : ProgramCache}

theorem programCount_eq (ledger : Ledger past cache) :
    cache.programCount = (SourcePair.firsts (inserted past)).length := by
  rw [programCount, ledger.length_programs, Nat.add_sub_cancel]

/-- An identifier under a digest is the number of the first sources with this digest. -/
theorem lookup_eq_some_iff (ledger : Ledger past cache) {digest : Digest} {id : ProgramId} :
    cache.byDigest.lookup digest = some id ↔ ∃ index pair,
      (SourcePair.firsts (inserted past))[index]? = some pair ∧ pair.digest = digest ∧
        id = index + 1 := by
  rw [ledger.byDigest]
  exact lookup_numbered_eq_some_iff (SourcePair.nodup_firsts _)

/-- The program under a number. -/
theorem exists_get (ledger : Ledger past cache) {index : Nat} {pair : SourcePair}
    (found : (SourcePair.firsts (inserted past))[index]? = some pair) :
    ∃ program, cache.get (index + 1) = .ok program ∧ program.identity = pair.identity := by
  refine ProgramCache.exists_get ?_
  rw [ledger.identities, List.getElem?_cons_succ, List.getElem?_map, found]
  rfl

/-- The first program is the one that stands for "nothing to draw", and no other is. -/
theorem sentinel_iff (ledger : Ledger past cache) {id : ProgramId} {program : Program}
    (got : cache.get id = .ok program) : program.sentinel = true ↔ id = sentinelId := by
  have found := getElem?_identities got
  rw [ledger.identities] at found
  cases id with
  | zero =>
      rw [List.getElem?_cons_zero, Option.some.injEq] at found
      have marked : program.sentinel = true := congrArg Program.Identity.sentinel found.symm
      exact iff_of_true marked rfl
  | succ index =>
      rw [List.getElem?_cons_succ, List.getElem?_map, Option.map_eq_some_iff] at found
      obtain ⟨pair, -, same⟩ := found
      have unmarked : program.sentinel = false := congrArg Program.Identity.sentinel same.symm
      simp [unmarked, sentinelId]

theorem exists_get_sentinelId (ledger : Ledger past cache) :
    ∃ program, cache.get sentinelId = .ok program := by
  have found : cache.identities[sentinelId]? = some Program.nothing.identity := by
    rw [ledger.identities]
    rfl
  obtain ⟨program, got, -⟩ := ProgramCache.exists_get found
  exact ⟨program, got⟩

/-- A fingerprint leads to a program. -/
theorem exists_get_of_lookup (ledger : Ledger past cache) {fingerprint : Fingerprint}
    {id : ProgramId} (found : cache.lookup fingerprint = some id) :
    ∃ program, cache.get id = .ok program := by
  rw [ledger.byFingerprint, Option.bind_eq_some_iff] at found
  obtain ⟨entry, -, has⟩ := found
  cases entry with
  | nothing =>
      cases has
      exact ledger.exists_get_sentinelId
  | sources pair =>
      obtain ⟨index, first, present, -, rfl⟩ := ledger.lookup_eq_some_iff.mp has
      obtain ⟨program, got, -⟩ := ledger.exists_get present
      exact ⟨program, got⟩

theorem lookup_of_latest (ledger : Ledger past cache) {fingerprint : Fingerprint}
    {pair : SourcePair} (last : latest past fingerprint = some (.sources pair)) :
    cache.lookup fingerprint = cache.byDigest.lookup pair.digest := by
  rw [ledger.byFingerprint, last]
  rfl

section Distinguishable

variable (ledger : Ledger past cache)
  (distinguishable : SourcePair.Distinguishable (inserted past))

include ledger distinguishable

/-- Sources that were inserted have a program with their texts. -/
theorem exists_holds {pair : SourcePair} (member : pair ∈ inserted past) :
    ∃ id, cache.byDigest.lookup pair.digest = some id ∧ cache.Holds id pair := by
  obtain ⟨id, found⟩ := ledger.isSome_lookup member
  obtain ⟨index, first, present, same, rfl⟩ := ledger.lookup_eq_some_iff.mp found
  obtain ⟨program, got, identity⟩ := ledger.exists_get present
  have kept := SourcePair.mem_of_mem_firsts (List.mem_of_getElem? present)
  have texts := (distinguishable.digest_eq_iff kept member).mp same
  refine ⟨_, found, program, got, ?_⟩
  rw [← texts]
  have vertex := congrArg Program.Identity.vertexText identity
  have fragment := congrArg Program.Identity.fragmentText identity
  exact Prod.ext vertex fragment

/-- Programs are shared exactly where texts are equal. -/
theorem lookup_eq_iff {a b : SourcePair} (memberA : a ∈ inserted past)
    (memberB : b ∈ inserted past) :
    cache.byDigest.lookup a.digest = cache.byDigest.lookup b.digest ↔ a.texts = b.texts := by
  constructor
  · intro same
    obtain ⟨id, found, holds⟩ := ledger.exists_holds distinguishable memberA
    obtain ⟨id', found', holds'⟩ := ledger.exists_holds distinguishable memberB
    rw [found, found', Option.some.injEq] at same
    subst same
    exact holds.texts_eq holds'
  · intro same
    rw [SourcePair.digest_eq_of_texts_eq same]

/-- **Texts and programs correspond to each other one by one.** -/
theorem bijOn_idOfTexts? :
    Set.BijOn cache.idOfTexts? {texts | texts ∈ (inserted past).map SourcePair.texts}
      (some '' Set.Icc 1 cache.programCount) := by
  refine ⟨?_, ?_, ?_⟩
  · intro texts known
    obtain ⟨pair, member, rfl⟩ := List.mem_map.mp known
    obtain ⟨id, found⟩ := ledger.isSome_lookup member
    obtain ⟨index, first, present, -, rfl⟩ := ledger.lookup_eq_some_iff.mp found
    have bound := (List.getElem?_eq_some_iff.mp present).1
    rw [idOfTexts?_texts, found]
    refine ⟨index + 1, ⟨Nat.succ_pos index, ?_⟩, rfl⟩
    rw [ledger.programCount_eq]
    exact bound
  · intro texts known texts' known' same
    obtain ⟨a, memberA, rfl⟩ := List.mem_map.mp known
    obtain ⟨b, memberB, rfl⟩ := List.mem_map.mp known'
    rw [idOfTexts?_texts, idOfTexts?_texts] at same
    exact (ledger.lookup_eq_iff distinguishable memberA memberB).mp same
  · rintro _ ⟨id, ⟨low, high⟩, rfl⟩
    rw [ledger.programCount_eq] at high
    obtain ⟨index, rfl⟩ := Nat.exists_eq_add_of_le' low
    have present := List.getElem?_eq_getElem (Nat.lt_of_succ_le high)
    have kept := SourcePair.mem_of_mem_firsts (List.mem_of_getElem? present)
    refine ⟨_, List.mem_map_of_mem kept, ?_⟩
    rw [idOfTexts?_texts]
    exact ledger.lookup_eq_some_iff.mpr ⟨index, _, present, rfl, rfl⟩

end Distinguishable

end Ledger

/-- The answer of an action is the program of a fingerprint. -/
theorem lookup_of_answer (device : Device σ) (desk : ProgramCache × Session σ) {action : Action}
    {id : ProgramId} (answered : action.answer? desk.1 = some id) :
    ∃ fingerprint, (perform device desk action).1.lookup fingerprint = some id := by
  cases action with
  | insert fingerprint pair =>
      rw [← answered]
      exact ⟨fingerprint, Association.lookup_insert_self _ _ _⟩
  | insertSentinel fingerprint =>
      rw [← answered]
      exact ⟨fingerprint, Association.lookup_insert_self _ _ _⟩
  | invalidateAll => cases answered
  | releaseAll => cases answered
  | use id operation => cases answered

/-- Programs stay what they are. -/
theorem get_run_mono (device : Device σ) (session : Session σ) (before after : List Action)
    {id : ProgramId} {program : Program}
    (got : (run device session before).1.get id = .ok program) :
    ∃ later, (run device session (before ++ after)).1.get id = .ok later ∧
      later.identity = program.identity := by
  refine exists_get ?_
  have found := getElem?_identities got
  have grown : inserted before <+: inserted (before ++ after) := by
    rw [inserted, inserted, List.filterMap_append]
    exact List.prefix_append _ _
  obtain ⟨rest, whole⟩ := (SourcePair.prefix_firsts grown).map SourcePair.identity
  rw [(ledger_run device session before).identities] at found
  rw [(ledger_run device session (before ++ after)).identities, ← whole, ← List.cons_append,
    List.getElem?_append_left (List.getElem?_eq_some_iff.mp found).1, found]

/-- **Identifiers fit into words of 32 bits** as long as there were fewer than `2 ^ 32` actions,
so up to there nothing is lost if they are kept in words. -/
theorem toNat_ofNat_of_get (device : Device σ) (session : Session σ) {actions : List Action}
    (few : actions.length < UInt32.size) {id : ProgramId} {program : Program}
    (got : (run device session actions).1.get id = .ok program) :
    (UInt32.ofNat id).toNat = id := by
  have found := (List.getElem?_eq_some_iff.mp (getElem?_identities got)).1
  rw [(ledger_run device session actions).identities, List.length_cons,
    List.length_map] at found
  have kept : (SourcePair.firsts (inserted actions)).length ≤ actions.length :=
    (SourcePair.length_firsts_le _).trans (List.length_filterMap_le _ _)
  exact UInt32.toNat_ofNat_of_lt' (by omega)

/-! ## Consistency -/

/-- What a cache knows is consistent with what was inserted. -/
structure Consistent (actions : List Action) (cache : ProgramCache) : Prop where
  exists_sentinel : ∃ program, cache.get sentinelId = .ok program
  sentinel_iff : ∀ id program, cache.get id = .ok program →
    (program.sentinel = true ↔ id = sentinelId)
  /-- Texts that were inserted and programs correspond to each other one by one. -/
  bijOn : Set.BijOn cache.idOfTexts? {texts | texts ∈ (inserted actions).map SourcePair.texts}
    (some '' Set.Icc 1 cache.programCount)
  /-- No other texts have a program. -/
  inserted_of_lookup : ∀ digest id, cache.byDigest.lookup digest = some id →
    ∃ pair ∈ inserted actions, pair.digest = digest
  exists_get : ∀ fingerprint id, cache.lookup fingerprint = some id →
    ∃ program, cache.get id = .ok program
  /-- A fingerprint leads to the program of what came last. -/
  holds : ∀ fingerprint pair, latest actions fingerprint = some (.sources pair) →
    cache.sources fingerprint = some pair ∧
      ∃ id, cache.lookup fingerprint = some id ∧ cache.Holds id pair
  /-- Fingerprints share a program exactly where texts are equal. -/
  shared_iff : ∀ fingerprint pair other pair',
    latest actions fingerprint = some (.sources pair) →
    latest actions other = some (.sources pair') →
      (cache.lookup fingerprint = cache.lookup other ↔ pair.texts = pair'.texts)

theorem Ledger.consistent {past : List Action} {cache : ProgramCache}
    (ledger : Ledger past cache)
    (distinguishable : SourcePair.Distinguishable (inserted past)) : Consistent past cache where
  exists_sentinel := ledger.exists_get_sentinelId
  sentinel_iff := fun _ _ => ledger.sentinel_iff
  bijOn := ledger.bijOn_idOfTexts? distinguishable
  inserted_of_lookup := by
    intro digest id found
    obtain ⟨index, pair, present, same, -⟩ := ledger.lookup_eq_some_iff.mp found
    exact ⟨pair, SourcePair.mem_of_mem_firsts (List.mem_of_getElem? present), same⟩
  exists_get := fun _ _ => ledger.exists_get_of_lookup
  holds := by
    intro fingerprint pair last
    refine ⟨ledger.generated _ _ last, ?_⟩
    rw [ledger.lookup_of_latest last]
    exact ledger.exists_holds distinguishable (mem_inserted_of_latest last)
  shared_iff := by
    intro fingerprint pair other pair' last last'
    rw [ledger.lookup_of_latest last, ledger.lookup_of_latest last']
    exact ledger.lookup_eq_iff distinguishable (mem_inserted_of_latest last)
      (mem_inserted_of_latest last')

/-- **A cache is consistent after any actions**, whatever the device answers, as long as digests
do not collide on what was inserted.  Every identifier that was ever answered stands for a
program then and keeps standing for it, under its name and with its texts. -/
theorem run_consistent (device : Device σ) (session : Session σ) (actions : List Action)
    (distinguishable : SourcePair.Distinguishable (inserted actions)) :
    Consistent actions (run device session actions).1 ∧
      ∀ before action after, actions = before ++ action :: after →
        ∀ id, action.answer? (run device session before).1 = some id →
          ∃ program later, (run device session (before ++ [action])).1.get id = .ok program ∧
            (run device session actions).1.get id = .ok later ∧
              later.name = program.name ∧ later.vertexText = program.vertexText ∧
                later.fragmentText = program.fragmentText := by
  refine ⟨(ledger_run device session actions).consistent distinguishable, ?_⟩
  rintro before action after rfl id answered
  obtain ⟨fingerprint, found⟩ := lookup_of_answer device _ answered
  rw [← run_concat] at found
  obtain ⟨program, got⟩ := (ledger_run device session _).exists_get_of_lookup found
  obtain ⟨later, got', identity⟩ := get_run_mono device session (before ++ [action]) after got
  rw [List.append_assoc, List.singleton_append] at got'
  exact ⟨program, later, got, got', congrArg Program.Identity.name identity,
    congrArg Program.Identity.vertexText identity,
    congrArg Program.Identity.fragmentText identity⟩

/-- Sources with a name and two texts. -/
def leaflet (name vertexText fragmentText : String) : SourcePair :=
  { vertex := { stage := .vertex, name, text := vertexText }
    fragment := { stage := .fragment, name, text := fragmentText } }

/-- Two splits of one text under different names and fingerprints, fingerprints that change, and
a device that is lost. -/
def bustle : List Action :=
  [.insert ⟨0, 1⟩ (leaflet "first" "ab" "c"), .insert ⟨0, 2⟩ (leaflet "second" "a" "bc"),
    .use 1 .apply, .insert ⟨0, 3⟩ (leaflet "third" "a" "bc"), .insertSentinel ⟨0, 2⟩,
    .invalidateAll, .insert ⟨0, 2⟩ (leaflet "fourth" "ab" "c"), .insertSentinel ⟨0, 1⟩,
    .insert ⟨0, 1⟩ (leaflet "first" "ab" "c"), .releaseAll]

theorem distinguishable_bustle : SourcePair.Distinguishable (inserted bustle) := by
  constructor <;> decide +kernel

/-- Equal texts share a program, and the same letters split elsewhere have another one. -/
theorem run_consistent_bustle :
    SourcePair.Distinguishable (inserted bustle) ∧
      Consistent bustle (run Loom.refusing { device := () } bustle).1 ∧
      (run Loom.refusing { device := () } bustle).1.lookup ⟨0, 1⟩ =
        (run Loom.refusing { device := () } bustle).1.lookup ⟨0, 2⟩ ∧
      (run Loom.refusing { device := () } bustle).1.lookup ⟨0, 1⟩ ≠
        (run Loom.refusing { device := () } bustle).1.lookup ⟨0, 3⟩ := by
  obtain ⟨consistent, -⟩ := run_consistent Loom.refusing { device := () } bustle
    distinguishable_bustle
  refine ⟨distinguishable_bustle, consistent, ?_, ?_⟩
  · exact (consistent.shared_iff ⟨0, 1⟩ _ ⟨0, 2⟩ _ rfl rfl).mpr rfl
  · exact fun same =>
      absurd ((consistent.shared_iff ⟨0, 1⟩ _ ⟨0, 3⟩ _ rfl rfl).mp same) (by decide)

end ProgramCache
end ShaderLoom
