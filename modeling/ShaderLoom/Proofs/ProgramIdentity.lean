import ShaderLoom.Gpu.Cache
import ShaderLoom.Proofs.ProgramPoints

/-!
# Using a program does not change what it is

A program is built, linked, used, forgotten and released, and the device may refuse any call on
the way.  Through all of this its name and its texts stay the same, and so does the fact whether
it stands for "nothing to draw": only what is known about its objects on the device changes.

Nothing that can happen at a point of an operation changes the identity of the program
(`Program.invariant_identity`), so that no operation does.  A cache as a whole then keeps the
identities of its programs.

## Main definitions

* `Program.Identity`, `Program.identity` — what does not change

## Main results

* `Program.identity_step` — operations keep the identity of a program
* `ProgramCache.identities_use`, `ProgramCache.identities_invalidateAll`,
  `ProgramCache.identities_releaseAll` — the programs of a cache stay what they are
-/

namespace ShaderLoom
namespace Program

/-- What does not change while a program is used. -/
structure Identity where
  name : String
  vertexText : String
  fragmentText : String
  sentinel : Bool
  deriving DecidableEq

/-- The identity of a program. -/
def identity (program : Program) : Identity :=
  { name := program.name
    vertexText := program.vertexText
    fragmentText := program.fragmentText
    sentinel := program.sentinel }

theorem identity_invalidate (program : Program) :
    program.invalidate.identity = program.identity := by
  unfold invalidate
  split <;> rfl

theorem identity_withShader (program : Program) (shader : ShaderHandle) (stage : Stage) :
    (program.withShader shader stage).identity = program.identity := by
  cases stage <;> rfl

/-! ## Operations -/

theorem Requests.identity {program : Program} {point : Point} {request : Call}
    {next : request.Answer → Point × Program} (requests : Requests program point request next)
    (answer : request.Answer) : (next answer).2.identity = program.identity := by
  cases requests with
  | compileStatus missing =>
      cases answer with
      | false => rfl
      | true => exact identity_withShader program _ _
  | _ => rfl

theorem Shifts.identity {program program' : Program} {point next : Point}
    (shifts : Shifts program point next program') : program'.identity = program.identity := by
  cases shifts with
  | invalidate => exact identity_invalidate program
  | reset => exact identity_invalidate program
  | _ => rfl

/-- Nothing that can happen in an operation changes the identity of the program. -/
theorem invariant_identity (identity : Identity) :
    Invariant fun _ program _ => program.identity = identity where
  answered := fun requests answer _ same => (requests.identity answer).trans same
  refused := fun _ _ _ same => same
  asked := fun _ _ _ same => same
  deserted := fun _ _ same => same
  shifted := fun shifts _ same => shifts.identity.trans same

/-- **Every operation keeps the identity of a program**, whatever the device answers. -/
theorem identity_step {σ : Type} (device : Device σ) (operation : Operation) (bench : Bench σ) :
    ((operation.step device).on bench).2.program.identity = bench.program.identity :=
  ((invariant_identity bench.program.identity).step device operation).always bench rfl

end Program

/-! ## Caches -/

namespace ProgramCache

variable {σ α : Type}

/-- The identities of the programs of a cache. -/
def identities (cache : ProgramCache) : List Program.Identity :=
  cache.programs.map Program.identity

theorem identities_use (cache : ProgramCache) (id : ProgramId) {step : Program.Step σ α}
    (keeps : ∀ bench, (step.on bench).2.program.identity = bench.program.identity)
    (session : Session σ) :
    (cache.use id step session).2.1.identities = cache.identities := by
  unfold use get
  cases found : cache.programs[id]? with
  | none => rfl
  | some program =>
      have same := keeps { program, session }
      dsimp only [identities]
      rw [List.map_set, same]
      have position : (cache.programs.map Program.identity)[id]? = some program.identity := by
        rw [List.getElem?_map, found]
        rfl
      obtain ⟨inside, value⟩ := List.getElem?_eq_some_iff.mp position
      rw [← value]
      exact List.set_getElem_self inside

theorem byFingerprint_use (cache : ProgramCache) (id : ProgramId) (step : Program.Step σ α)
    (session : Session σ) :
    (cache.use id step session).2.1.byFingerprint = cache.byFingerprint := by
  unfold use
  split <;> rfl

theorem byDigest_use (cache : ProgramCache) (id : ProgramId) (step : Program.Step σ α)
    (session : Session σ) : (cache.use id step session).2.1.byDigest = cache.byDigest := by
  unfold use
  split <;> rfl

theorem identities_invalidateAll (cache : ProgramCache) :
    cache.invalidateAll.identities = cache.identities := by
  rw [identities, invalidateAll, List.map_map]
  exact List.map_congr_left fun program _ => program.identity_invalidate

theorem identities_releasePrograms (device : Device σ) :
    ∀ (programs : List Program) (session : Session σ),
      (releasePrograms device programs session).2.1.map Program.identity =
        programs.map Program.identity := by
  intro programs
  induction programs with
  | nil => intro session; rfl
  | cons program rest ih =>
      intro session
      have same : ((Program.release device).on { program, session }).2.program.identity =
          program.identity := Program.identity_step device .release { program, session }
      rw [releasePrograms]
      rcases outcome : (Program.release device).on { program, session } with
        ⟨error | done, bench⟩
      · rw [outcome] at same
        dsimp only at same ⊢
        rw [List.map_cons, List.map_cons, same]
      · rw [outcome] at same
        dsimp only at same ⊢
        rw [List.map_cons, List.map_cons, same, ih]

theorem identities_releaseAll (cache : ProgramCache) (device : Device σ) (session : Session σ) :
    (cache.releaseAll device session).2.1.identities = cache.identities :=
  identities_releasePrograms device cache.programs session

end ProgramCache
end ShaderLoom
