import ShaderLoom.Association
import ShaderLoom.Gpu.Program
import ShaderLoom.Stage.Pair

/-!
# The program cache

All programs of a device, found by the fingerprints of render states.

Programs are shared on two levels.  A fingerprint that was seen before has its program.  A new
fingerprint whose sources have the texts of an earlier program is given that program, so equal
texts are compiled once.  Texts are compared by their digest.

The first program stands for "nothing to draw".  Programs are never removed.

## Main Definitions

* `ProgramCache` — the programs and the ways to find them
* `ProgramCache.insert`, `ProgramCache.insertSentinel` — gives a fingerprint its program
* `ProgramCache.lookup`, `ProgramCache.get`
* `ProgramCache.use` — carries out a step on one program
* `ProgramCache.invalidateAll`, `ProgramCache.releaseAll`
-/

namespace ShaderLoom

/-- The position of a program in a cache.  It fits into a word of 32 bits in a cache of at most
`2 ^ 32` programs. -/
abbrev ProgramId := Nat

/-- All programs of a device. -/
structure ProgramCache where
  /-- The programs, by identifier. -/
  programs : List Program := [Program.nothing]
  /-- The programs of the fingerprints that were seen. -/
  byFingerprint : List (Fingerprint × ProgramId) := []
  /-- The programs of the texts that were seen. -/
  byDigest : List (Digest × ProgramId) := []
  /-- The sources that were generated for fingerprints. -/
  generated : List (Fingerprint × SourcePair) := []
  deriving DecidableEq, Repr, Inhabited

namespace ProgramCache

/-- The identifier of the program that stands for "nothing to draw". -/
def sentinelId : ProgramId := 0

/-- The program of a fingerprint. -/
def lookup (cache : ProgramCache) (fingerprint : Fingerprint) : Option ProgramId :=
  cache.byFingerprint.lookup fingerprint

/-- The sources that were generated for a fingerprint. -/
def sources (cache : ProgramCache) (fingerprint : Fingerprint) : Option SourcePair :=
  cache.generated.lookup fingerprint

/-- The program of an identifier. -/
def get (cache : ProgramCache) (id : ProgramId) : Except Error Program :=
  match cache.programs[id]? with
  | some program => .ok program
  | none => .error (.invalidProgram id)

/-- The number of programs, without the one that stands for "nothing to draw". -/
def programCount (cache : ProgramCache) : Nat :=
  cache.programs.length - 1

/-- The number of fingerprints that were seen. -/
def fingerprintCount (cache : ProgramCache) : Nat :=
  cache.byFingerprint.length

/-! ## Insertion -/

/-- Gives a fingerprint the program that stands for "nothing to draw". -/
def insertSentinel (cache : ProgramCache) (fingerprint : Fingerprint) :
    ProgramId × ProgramCache :=
  (sentinelId, { cache with
    byFingerprint := Association.insert fingerprint sentinelId cache.byFingerprint })

/-- The program with the texts of a pair of sources: an earlier one, or else a new one. -/
def intern (cache : ProgramCache) (sources : SourcePair) : ProgramId × ProgramCache :=
  match cache.byDigest.lookup sources.digest with
  | some id => (id, cache)
  | none =>
    let id := cache.programs.length
    let program : Program := {
      name := sources.vertex.name
      vertexText := sources.vertex.text
      fragmentText := sources.fragment.text }
    (id, { cache with
      programs := cache.programs ++ [program]
      byDigest := Association.insert sources.digest id cache.byDigest })

/-- Gives a fingerprint the program of its sources. -/
def insert (cache : ProgramCache) (fingerprint : Fingerprint) (sources : SourcePair) :
    ProgramId × ProgramCache :=
  let (id, cache) := cache.intern sources
  (id, { cache with
    byFingerprint := Association.insert fingerprint id cache.byFingerprint
    generated := Association.insert fingerprint sources cache.generated })

/-- What is reported about an insertion. -/
def insertRecords (cache : ProgramCache) (fingerprint : Fingerprint) (sources : SourcePair) :
    List LogRecord :=
  match cache.byDigest.lookup sources.digest with
  | none => []
  | some id =>
    let name := (cache.programs[id]?.map Program.name).getD ""
    [{ level := .debug, message := s!"fingerprint {fingerprint.hex} shares program `{name}`" }]

/-! ## The programs on the device -/

/-- Carries out a step on one program. -/
def use {σ α : Type} (cache : ProgramCache) (id : ProgramId) (step : Program.Step σ α)
    (session : Session σ) : Except Error α × ProgramCache × Session σ :=
  match cache.get id with
  | .error error => (.error error, cache, session)
  | .ok program =>
    let (outcome, bench) := step.on { program, session }
    (outcome, { cache with programs := cache.programs.set id bench.program }, bench.session)

/-- Forgets the objects of one program. -/
def invalidate (cache : ProgramCache) (id : ProgramId) : ProgramCache :=
  { cache with programs := cache.programs.modify id Program.invalidate }

/-- Forgets the objects of all programs. -/
def invalidateAll (cache : ProgramCache) : ProgramCache :=
  { cache with programs := cache.programs.map Program.invalidate }

/-- Deletes the objects of programs one after the other, up to the first fault. -/
def releasePrograms {σ : Type} (device : Device σ) :
    List Program → Session σ → Except Error Unit × List Program × Session σ
  | [], session => (.ok (), [], session)
  | program :: rest, session =>
    let (outcome, bench) := (Program.release device).on { program, session }
    match outcome with
    | .error error => (.error error, bench.program :: rest, bench.session)
    | .ok () =>
      let (outcome, rest, session) := releasePrograms device rest bench.session
      (outcome, bench.program :: rest, session)

/-- Deletes the objects of all programs, up to the first fault. -/
def releaseAll {σ : Type} (cache : ProgramCache) (device : Device σ) (session : Session σ) :
    Except Error Unit × ProgramCache × Session σ :=
  let (outcome, programs, session) := releasePrograms device cache.programs session
  (outcome, { cache with programs }, session)

/-- A short description of a cache. -/
def summary (cache : ProgramCache) : String :=
  let counts := s!"programs: {cache.programCount}, fingerprints: {cache.fingerprintCount}"
  s!"ProgramCache \x7b {counts} \x7d"

end ProgramCache
end ShaderLoom
