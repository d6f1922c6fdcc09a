import ShaderLoom.Proofs.LocationCaches
import ShaderLoom.Proofs.ProgramVerdicts

/-!
# The states of a program between operations

A program is a record of many parts: a status, a program object, two shaders, the known
locations, the report about a failure, and a mark that says that all of them have to be made
anew.  The operations change these parts one by one, and each of them can break off at any call.
Still the parts fit together whenever an operation has come to its end, however it ended.

How status, program object and mark go together is known (`Program.Coherent`).  Here the
remaining parts are tied to them (`Program.Tidy`).  While a program is being built none of this
holds as it stands, since shaders are stored one after the other and the program object comes
last; what holds instead is `Program.Assembling`, which is kept until building ends.

## Main definitions

* `Program.Tidy`, `Program.Assembling`, `Program.Joining` — the parts of a program, at rest,
  while it is built and while it is linked
* `Program.TidyAt` — the parts of a program at each point of an operation
* `Program.WellFormed` — all that is known about the parts of a program at rest

## Main results

* `Program.tidy_step` — every operation leaves a program tidy
* `Program.replay_induction` — what every operation keeps holds after any operations
* `Program.replay_wellFormed` — the parts of a program fit together after any operations
-/

namespace ShaderLoom
namespace Program

variable {σ : Type}

open Step

/-! ## Parts that belong together -/

/-- How shaders, locations and reports go together with the rest of a program at rest. -/
structure Tidy (program : Program) : Prop where
  /-- A program object is held together with both shaders. -/
  shaders : program.handle.isSome = true → ∀ stage, (program.shaderOf stage).isSome = true
  /-- A program that has to be built from scratch has no parts yet. -/
  untouched : program.dirty = true →
    (∀ stage, program.shaderOf stage = none) ∧ Blank program ∧ program.failureLog = none
  /-- There is only a report about a program that failed. -/
  reported : program.failureLog.isSome = true → program.status = .failed

/-- The parts of a program that is being built. -/
structure Assembling (program : Program) : Prop where
  dirty : program.dirty = false
  vacant : program.handle = none
  reported : program.failureLog.isSome = true → program.status = .failed

/-- The parts of a program that is being linked: both shaders are there. -/
structure Joining (program : Program) : Prop extends Assembling program where
  shaders : ∀ stage, (program.shaderOf stage).isSome = true

/-- The parts of a program at each point of an operation. -/
def TidyAt : Point → Assertion
  | .begun _ => fun program _ => Coherent program ∧ Tidy program
  | .linking _ => fun program _ => Joining program
  | .linked _ => fun program _ => Joining program
  | .locating _ _ => fun program _ => Joining program
  | .unbuilt _ => fun program _ => Tidy program
  | .ready => fun program _ => Tidy program
  | .dropping _ => fun program _ => Tidy program ∧ program.handle = none
  | .vacated => fun program _ => Tidy program ∧ program.handle = none
  | .clearing _ => fun program _ => Tidy program
  | .ended _ _ => fun program _ => Tidy program
  | .failed _ _ => fun program _ => Tidy program
  | _ => fun program _ => Assembling program

/-! ## Changes -/

section Changes

variable {program program' : Program}

/-- Building may break off at any time. -/
theorem Assembling.tidy (assembling : Assembling program) : Tidy program where
  shaders := by simp [assembling.vacant]
  untouched := by simp [assembling.dirty]
  reported := assembling.reported

/-- Shaders and locations are not among the parts that a build has to mind. -/
theorem Assembling.congr (assembling : Assembling program)
    (dirty : program'.dirty = program.dirty) (handle : program'.handle = program.handle)
    (status : program'.status = program.status)
    (log : program'.failureLog = program.failureLog) : Assembling program' where
  dirty := dirty.trans assembling.dirty
  vacant := handle.trans assembling.vacant
  reported := by
    rw [log, status]
    exact assembling.reported

/-- A program is found wrong. -/
theorem Assembling.condemn (assembling : Assembling program) (report : Option String) :
    Assembling { program with status := .failed, failureLog := report } where
  dirty := assembling.dirty
  vacant := assembling.vacant
  reported := fun _ => rfl

theorem Joining.relocate (joining : Joining program)
    (uniforms : List (String × UniformLocation))
    (attributes : List (String × AttributeLocation)) :
    Joining { program with uniforms, attributes } where
  toAssembling := joining.toAssembling.congr rfl rfl rfl rfl
  shaders := by
    intro stage
    have held := joining.shaders stage
    cases stage <;> exact held

/-- The program object comes last. -/
theorem Joining.finish (joining : Joining program) (handle : ProgramHandle) :
    Tidy { program with handle := some handle, status := .linked, failureLog := none } where
  shaders := by
    intro _ stage
    have held := joining.shaders stage
    cases stage <;> exact held
  untouched := by simp [joining.dirty]
  reported := by simp

theorem Tidy.invalidate (tidy : Tidy program) : Tidy program.invalidate := by
  unfold Program.invalidate
  split
  · exact tidy
  · refine ⟨by simp, fun _ => ⟨fun stage => ?_, ⟨rfl, rfl⟩, rfl⟩, by simp⟩
    cases stage <;> rfl

/-- A program may lose its objects, the program object first. -/
theorem Tidy.vacate (tidy : Tidy program) (vacant : program'.handle = none)
    (shaders : ∀ stage, program.shaderOf stage = none → program'.shaderOf stage = none)
    (dirty : program'.dirty = program.dirty) (status : program'.status = program.status)
    (uniforms : program'.uniforms = program.uniforms)
    (attributes : program'.attributes = program.attributes)
    (log : program'.failureLog = program.failureLog) : Tidy program' where
  shaders := by simp [vacant]
  untouched := by
    rw [dirty, log]
    intro scratch
    obtain ⟨none, blank, silent⟩ := tidy.untouched scratch
    exact ⟨fun stage => shaders stage (none stage),
      ⟨uniforms.trans blank.uniforms, attributes.trans blank.attributes⟩, silent⟩
  reported := by
    rw [log, status]
    exact tidy.reported

end Changes

/-! ## Operations -/

section Operations

variable {program program' : Program} {point : Point}

theorem tidyAt_answered {request : Call} {next : request.Answer → Point × Program}
    (requests : Requests program point request next) (answer : request.Answer)
    (events : List Event) (holds : TidyAt point program events) :
    TidyAt (next answer).1 (next answer).2 (events ++ [.called request (.ok answer)]) := by
  cases requests with
  | @compileStatus stage =>
      cases answer with
      | false => exact holds
      | true => cases stage <;> exact holds.congr rfl rfl rfl rfl
  | discardShader => exact (holds.condemn _).tidy
  | createProgram compiled => exact ⟨holds, compiled⟩
  | linkStatus =>
      cases answer with
      | false => exact holds.toAssembling
      | true => exact holds
  | uniformLocation => exact holds.relocate _ _
  | attributeLocation => exact holds.relocate _ _
  | programInfoLog => exact holds.condemn _
  | discardProgram => exact holds.tidy
  | setUniform => exact holds.2
  | _ => exact holds

/-- Calls do not touch the program, and building may break off at any of them. -/
theorem tidyAt_refused {request : Call} {next : request.Answer → Point × Program}
    (requests : Requests program point request next) (fault : DeviceFault) (events : List Event)
    (holds : TidyAt point program events) :
    TidyAt (point.broken (.deviceFault fault)) program
      (events ++ [.called request (.error fault)]) := by
  cases requests with
  | attachShader => exact holds.toAssembling
  | linkProgram => exact holds.toAssembling
  | linkStatus => exact holds.toAssembling
  | validateProgram => exact holds.toAssembling
  | uniformLocation => exact holds.toAssembling
  | attributeLocation => exact holds.toAssembling
  | programInfoLog => exact holds
  | useProgram => exact holds
  | deleteProgram => exact holds.1
  | deleteShader => exact holds
  | setUniform => exact holds.2
  | _ => exact Assembling.tidy holds

theorem tidyAt_asked {next : Bool → Point} (asks : Asks point next) (lost : Bool)
    (events : List Event) (holds : TidyAt point program events) :
    TidyAt (next lost) program (events ++ [.askedContextLost lost]) := by
  cases asks with
  | shader =>
      cases lost with
      | false => exact holds
      | true => exact holds.tidy
  | program => cases lost <;> exact holds
  | owner =>
      cases lost with
      | false => exact holds
      | true => exact holds.tidy

theorem tidyAt_shifted {next : Point} (shifts : Shifts program point next program')
    (events : List Event) (holds : TidyAt point program events) :
    TidyAt next program' events := by
  cases shifts with
  | skip => exact holds.2
  | reuse => exact holds.2
  | giveUp => exact holds.2
  | build ordinary unready =>
      exact ⟨rfl, holds.1.settled.handle_eq_none unready, holds.2.reported⟩
  | keepShader => exact holds
  | conflict => exact holds.toAssembling.condemn _
  | forget => exact holds.relocate [] []
  | store => exact holds.finish _
  | breakOff => exact holds
  | invalidate => exact holds.2.invalidate
  | vacant vacant => exact ⟨holds.2, vacant⟩
  | drop =>
      refine ⟨holds.2.vacate rfl (fun stage none => ?_) rfl rfl rfl rfl rfl, rfl⟩
      cases stage <;> exact none
  | takeShaders =>
      exact holds.1.vacate holds.2 (fun stage _ => by cases stage <;> rfl) rfl rfl rfl rfl rfl
  | reset => exact holds.invalidate
  | unknown => exact holds.2

/-- The parts of a program go together at each point of an operation. -/
theorem invariant_tidyAt : Invariant TidyAt where
  answered := tidyAt_answered
  refused := tidyAt_refused
  asked := tidyAt_asked
  deserted := fun _ _ assembling => assembling.tidy
  shifted := tidyAt_shifted

/-- **Every operation leaves a program tidy**, whether it succeeds or fails. -/
theorem tidy_step (device : Device σ) (operation : Operation) :
    Triple (fun program _ => Coherent program ∧ Tidy program) (operation.step device)
      (fun _ program _ => Tidy program) (fun _ program _ => Tidy program) :=
  invariant_tidyAt.step device operation

end Operations

/-! ## Any operations -/

/-- What every operation keeps holds after any operations, whatever happens to the device. -/
theorem replay_induction {motive : Program → Prop} {device : Device σ}
    (step : ∀ (operation : Operation) (bench : Bench σ), motive bench.program →
      motive (Episode.begin device operation bench).after.program)
    {program : Program} (start : motive program) (state : σ) (moves : List (Operation × σ)) :
    motive (replay device program state moves).2.program := by
  suffices further : ∀ past : List (Episode σ) × Bench σ, motive past.2.program →
      motive (moves.foldl (fun past move =>
        let episode := Episode.begin device move.1 (past.2.withDevice move.2)
        (past.1 ++ [episode], episode.after)) past).2.program from further _ start
  induction moves with
  | nil => exact fun _ holds => holds
  | cons move moves ih =>
      exact fun past holds => ih _ (step move.1 (past.2.withDevice move.2) holds)

/-- How the parts of a program fit together between operations. -/
structure WellFormed (program : Program) : Prop where
  /-- A program object is held only of a program that was linked and is up to date, together
  with the shaders of both stages. -/
  held : program.handle.isSome = true → program.status = .linked ∧ program.dirty = false ∧
    program.vertexShader.isSome = true ∧ program.fragmentShader.isSome = true
  /-- A program that has to be built from scratch was not judged, and has no objects, locations
  or report. -/
  dirty : program.dirty = true → program.status = .pending ∧ program.handle = none ∧
    program.vertexShader = none ∧ program.fragmentShader = none ∧ program.uniforms = [] ∧
    program.attributes = [] ∧ program.failureLog = none
  /-- A program that failed has no program object, and is not built again. -/
  failed : program.status = .failed → program.handle = none ∧ program.dirty = false
  /-- There is only a report about a program that failed. -/
  reported : program.failureLog.isSome = true → program.status = .failed

theorem Coherent.wellFormed {program : Program} (coherent : Coherent program)
    (tidy : Tidy program) : WellFormed program where
  held := fun held => by
    obtain ⟨status, dirty, -⟩ := coherent.linked held
    exact ⟨status, dirty, tidy.shaders held .vertex, tidy.shaders held .fragment⟩
  dirty := fun dirty => by
    obtain ⟨shaders, blank, silent⟩ := tidy.untouched dirty
    exact ⟨coherent.pending dirty, coherent.settled dirty, shaders .vertex, shaders .fragment,
      blank.uniforms, blank.attributes, silent⟩
  failed := fun failed => by
    refine ⟨Option.not_isSome_iff_eq_none.mp fun held => ?_,
      Bool.eq_false_iff.mpr fun dirty => ?_⟩
    · have linked := (coherent.linked held).1
      simp [failed] at linked
    · have pending := coherent.pending dirty
      simp [failed] at pending
  reported := tidy.reported

/-- **The parts of a program fit together after any operations.**  From a pair of texts on,
whatever is done with a program and whatever the device answers or refuses, the program is
well-formed after each operation, and its name and its texts are the ones that it was made
with. -/
theorem replay_wellFormed (device : Device σ)
    (name vertexText fragmentText : String) (state : σ) (moves : List (Operation × σ)) :
    let program := (replay device { name, vertexText, fragmentText } state moves).2.program
    WellFormed program ∧ program.name = name ∧ program.vertexText = vertexText ∧
      program.fragmentText = fragmentText := by
  intro program
  have start : Coherent { name, vertexText, fragmentText } ∧
      Tidy { name, vertexText, fragmentText } ∧
      identity { name, vertexText, fragmentText } =
        { name, vertexText, fragmentText, sentinel := false } := by
    refine ⟨⟨by simp, by simp⟩,
      ⟨by simp, fun _ => ⟨fun stage => ?_, ⟨rfl, rfl⟩, rfl⟩, by simp⟩, rfl⟩
    cases stage <;> rfl
  have after : Coherent program ∧ Tidy program ∧
      program.identity = { name, vertexText, fragmentText, sentinel := false } := by
    refine replay_induction (motive := fun program => Coherent program ∧ Tidy program ∧
      program.identity = { name, vertexText, fragmentText, sentinel := false }) ?_
        start state moves
    rintro operation bench ⟨coherent, tidy, same⟩
    have stable := stable_episode device coherent operation
    exact ⟨stable.coherent, (tidy_step device operation).always bench ⟨coherent, tidy⟩,
      stable.identity.trans same⟩
  obtain ⟨coherent, tidy, same⟩ := after
  injection same with named vertex fragment _
  exact ⟨coherent.wellFormed tidy, named, vertex, fragment⟩

end Program
end ShaderLoom
