import ShaderLoom.Gpu.Cache
import ShaderLoom.Stage.Summary
import ShaderLoom.Uniform.Block

/-!
# Looms

Everything that one device needs to draw render states: a compiler, the cache of its programs
and the table of its uniform blocks.

The program of a render state is generated when it is first asked for.  A render state that
cannot be generated leaves the loom as it was, so the next request tries again.

## Main Definitions

* `Loom` — a compiler, a cache and a table of uniform blocks
* `Loom.getOrCreate`, `Loom.programFor` — the program of a render state
* `Loom.uniformBlocks` — the uniform blocks of a render state
-/

namespace ShaderLoom

/-- Everything that one device needs to draw render states. -/
structure Loom where
  compiler : Compiler := {}
  cache : ProgramCache := {}
  uniforms : UniformTable := {}
  deriving Inhabited

namespace Loom

/-- The program under a fingerprint, generated from a render state if there is none yet. -/
def getOrCreate (loom : Loom) (fingerprint : Fingerprint) (state : RenderState) :
    Except Error (ProgramId × Loom) :=
  match loom.cache.lookup fingerprint with
  | some id => .ok (id, loom)
  | none =>
    if state.isDegenerate then
      let (id, cache) := loom.cache.insertSentinel fingerprint
      .ok (id, { loom with cache })
    else
      match loom.compiler.generate state state.variantName with
      | .error error => .error error
      | .ok sources =>
        let (id, cache) := loom.cache.insert fingerprint sources
        .ok (id, { loom with cache })

/-- The program of a render state. -/
def programFor (loom : Loom) (state : RenderState) : Except Error (ProgramId × Loom) :=
  loom.getOrCreate state.fingerprint state

/-- The uniform blocks of a render state. -/
def uniformBlocks (loom : Loom) (state : RenderState) : List UniformBlock × Loom :=
  let (blocks, uniforms) := loom.uniforms.blocksFor state
  (blocks, { loom with uniforms })

/-- Forgets the objects of all programs after their context was lost. -/
def invalidateAll (loom : Loom) : Loom :=
  { loom with cache := loom.cache.invalidateAll }

/-- A short description of a loom. -/
def summary (loom : Loom) : String :=
  s!"{loom.cache.summary} {loom.compiler.summary}"

/-! ## Log -/

/-- What is reported about a request for a program. -/
def getOrCreateRecords (loom : Loom) (fingerprint : Fingerprint) (state : RenderState) :
    List LogRecord :=
  match loom.cache.lookup fingerprint with
  | some _ => []
  | none =>
    if state.isDegenerate then
      let cause := "has no position stream, using sentinel"
      [{ level := .debug, message := s!"fingerprint {fingerprint.hex} {cause}" }]
    else
      let name := state.variantName
      let miss : LogRecord := {
        level := .debug
        message := s!"program cache miss for `{name}` ({fingerprint.hex})" }
      miss :: loom.compiler.generateRecords state name ++
        match loom.compiler.generate state name with
        | .error _ => []
        | .ok sources => loom.cache.insertRecords fingerprint sources

/-- What is reported about forgetting all programs. -/
def invalidateAllRecord (loom : Loom) : LogRecord :=
  { level := .info, message := s!"invalidating {loom.cache.programCount} programs" }

end Loom
end ShaderLoom
