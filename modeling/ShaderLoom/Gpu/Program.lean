import ShaderLoom.Glsl.Scan
import ShaderLoom.Gpu.Device

/-!
# Programs

A pair of stage texts that becomes a program of a device when it is first used.

A program that cannot be compiled or linked is reported once and stays unusable until it is
invalidated.  A fault of the device is passed on to the caller and leaves the program as it
stands; the next use tries again.

## Main Definitions

* `Program` — the texts with everything that is known about their program on the device
* `Program.apply` — builds the program if needed and makes it current
* `Program.invalidate` — forgets the objects of a lost context
* `Program.release` — deletes the objects
* `Program.setUniform` — uploads a value
-/

namespace ShaderLoom

/-- How far a program has come. -/
inductive ProgramStatus where
  | pending
  | linked
  | failed
  deriving DecidableEq, Repr, Inhabited

/-- What came of using a program. -/
inductive ApplyOutcome where
  /-- The program is current on the device. -/
  | bound
  /-- The program cannot be compiled or linked. -/
  | unusable
  /-- There is nothing to make current. -/
  | skipped
  deriving DecidableEq, Repr, Inhabited

/-- A pair of stage texts with everything that is known about their program on the device. -/
structure Program where
  name : String
  vertexText : String
  fragmentText : String
  handle : Option ProgramHandle := none
  vertexShader : Option ShaderHandle := none
  fragmentShader : Option ShaderHandle := none
  /-- Whether the program has to be built from scratch. -/
  dirty : Bool := true
  status : ProgramStatus := .pending
  /-- Whether this stands for "nothing to draw". -/
  sentinel : Bool := false
  /-- The active uniforms, in the order in which they are declared. -/
  uniforms : List (String × UniformLocation) := []
  /-- The active attributes, in the order in which they are declared. -/
  attributes : List (String × AttributeLocation) := []
  /-- The report about the last failure to compile or link. -/
  failureLog : Option String := none
  deriving DecidableEq, Repr, Inhabited

namespace Program

/-- The program that stands for "nothing to draw". -/
def nothing : Program :=
  { name := "Sentinel", vertexText := "", fragmentText := "", dirty := false, sentinel := true }

/-- The text of a stage. -/
def textOf (program : Program) : Stage → String
  | .vertex => program.vertexText
  | .fragment => program.fragmentText

/-- The compiled shader of a stage. -/
def shaderOf (program : Program) : Stage → Option ShaderHandle
  | .vertex => program.vertexShader
  | .fragment => program.fragmentShader

/-- A program with the compiled shader of a stage. -/
def withShader (program : Program) (shader : ShaderHandle) : Stage → Program
  | .vertex => { program with vertexShader := some shader }
  | .fragment => { program with fragmentShader := some shader }

/-- The location of an active uniform. -/
def uniformLocation (program : Program) (name : String) : Option UniformLocation :=
  program.uniforms.lookup name

/-- The location of an active attribute. -/
def attributeLocation (program : Program) (name : String) : Option AttributeLocation :=
  program.attributes.lookup name

/-- Forgets the objects of a context that is gone. -/
def invalidate (program : Program) : Program :=
  if program.sentinel then program
  else
    { program with
      handle := none
      vertexShader := none
      fragmentShader := none
      uniforms := []
      attributes := []
      status := .pending
      failureLog := none
      dirty := true }

/-- The report about a step that the device carried out without success. -/
def failureReport (program : Program) (step log : String) : String :=
  s!"program `{program.name}` {step} failed:\n{log}\n----- vertex -----\n" ++
    s!"{program.vertexText}\n----- fragment -----\n{program.fragmentText}"

/-! ## At work on a device -/

/-- A program and the device it is used on. -/
structure Bench (σ : Type) where
  program : Program
  session : Session σ

/-- A step of using a program.  It may fail, and what it did until then stays done. -/
abbrev Step (σ : Type) := ExceptT Error (StateM (Bench σ))

namespace Step

variable {σ : Type}

/-- Carries out a step. -/
def on {α : Type} (step : Step σ α) (bench : Bench σ) : Except Error α × Bench σ :=
  StateT.run (ExceptT.run step) bench

/-- The program as it stands. -/
def program : Step σ Program := do
  return (← get).program

/-- Changes the program. -/
def update (change : Program → Program) : Step σ Unit :=
  modify fun bench => { bench with program := change bench.program }

/-- Makes a call; a fault of the device fails the step. -/
def call (device : Device σ) (request : Call) : Step σ request.Answer := do
  let bench ← get
  let (reply, session) := bench.session.call device request
  set { bench with session }
  match reply with
  | .ok answer => return answer
  | .error fault => throw (.deviceFault fault)

/-- Makes a call whose failure does not matter. -/
def attempt (device : Device σ) (request : Call) : Step σ Unit := do
  let bench ← get
  set { bench with session := (bench.session.call device request).2 }

/-- Asks whether the context is lost. -/
def askContextLost (device : Device σ) : Step σ Bool := do
  let bench ← get
  let (lost, session) := bench.session.askContextLost device
  set { bench with session }
  return lost

/-- Reports something. -/
def report (record : LogRecord) : Step σ Unit :=
  modify fun bench => { bench with session := bench.session.report record }

/-- Marks the program as failed and reports why. -/
def fail (step log : String) : Step σ Unit := do
  let text := (← program).failureReport step log
  report { level := .error, message := text }
  update fun program => { program with status := .failed, failureLog := some text }

end Step

variable {σ : Type}

open Step

/-- The compiled shader of a stage, or nothing if it cannot be compiled. -/
def shader (device : Device σ) (stage : Stage) : Step σ (Option ShaderHandle) := do
  let current ← program
  match current.shaderOf stage with
  | some shader => return some shader
  | none =>
    let shader ← call device (.createShader stage)
    call device (.shaderSource shader (current.textOf stage))
    call device (.compileShader shader)
    let compiled ← call device (.shaderCompileStatus shader)
    if compiled then
      update fun program => program.withShader shader stage
      return some shader
    else
      if ← askContextLost device then throw (.deviceFault .contextLost)
      else
        let log ← call device (.shaderInfoLog shader)
        call device (.deleteShader shader)
        fail s!"{stage.word} compile" log
        return none

/-- Looks up the location of a declared name; inactive ones have none. -/
def locate (device : Device σ) (handle : ProgramHandle) (declaration : Declaration) :
    Step σ Unit := do
  match declaration.qualifier with
  | .uniform =>
    let location ← call device (.uniformLocation handle declaration.name)
    match location with
    | some location =>
      update fun program =>
        { program with uniforms := program.uniforms ++ [(declaration.name, location)] }
    | none => return ()
  | .attr =>
    let location ← call device (.attributeLocation handle declaration.name)
    match location with
    | some location =>
      update fun program =>
        { program with attributes := program.attributes ++ [(declaration.name, location)] }
    | none => return ()

/-- Looks up the locations of all names that the program declares. -/
def introspect (device : Device σ) (handle : ProgramHandle) : Step σ Unit := do
  let current ← program
  match Declaration.scan current.vertexText current.fragmentText with
  | .error error =>
    update fun program => { program with status := .failed }
    throw error
  | .ok declarations =>
    update fun program => { program with uniforms := [], attributes := [] }
    declarations.forM (locate device handle)

/-- Links a program object; answers whether that was successful. -/
def link (device : Device σ) (handle : ProgramHandle) (vertex fragment : ShaderHandle) :
    Step σ Bool := do
  call device (.attachShader handle vertex)
  call device (.attachShader handle fragment)
  call device (.linkProgram handle)
  let linked ← call device (.programLinkStatus handle)
  if linked then
    call device (.validateProgram handle)
    introspect device handle
    let current ← program
    let counts := s!"{current.uniforms.length} active uniforms, " ++
      s!"{current.attributes.length} active attributes"
    report { level := .debug, message := s!"linked program `{current.name}`: {counts}" }
    return true
  else
    if ← askContextLost device then throw (.deviceFault .contextLost)
    else
      let log ← call device (.programInfoLog handle)
      fail "link" log
      return false

/-- Links a new program object and keeps it if that was successful.  Otherwise it is deleted,
unless the context took it along. -/
def linkNew (device : Device σ) (vertex fragment : ShaderHandle) : Step σ Bool := do
  let handle ← call device .createProgram
  let linked ← tryCatch (link device handle vertex fragment) fun error => do
    if !(← askContextLost device) then attempt device (.deleteProgram handle)
    throw error
  if linked then
    update fun program =>
      { program with handle := some handle, status := .linked, failureLog := none }
    return true
  else
    call device (.deleteProgram handle)
    return false

/-- Compiles, links and introspects; answers whether that was successful. -/
def build (device : Device σ) : Step σ Bool := do
  update fun program => { program with dirty := false }
  match ← shader device .vertex with
  | none => return false
  | some vertex =>
    match ← shader device .fragment with
    | none => return false
    | some fragment => linkNew device vertex fragment

/-- Makes the program current. -/
def bind (device : Device σ) : Step σ ApplyOutcome := do
  call device (.useProgram (← program).handle)
  return .bound

/-- Builds the program if needed and makes it current. -/
def apply (device : Device σ) : Step σ ApplyOutcome := do
  let current ← program
  if current.sentinel then return .skipped
  else if current.handle.isSome && !current.dirty then bind device
  else if current.status = .failed ∧ current.dirty = false then return .unusable
  else if ← build device then bind device
  else return .unusable

/-- Deletes the program object, if there is one. -/
def releaseHandle (device : Device σ) : Step σ Unit := do
  match (← program).handle with
  | none => return ()
  | some handle =>
    update fun program => { program with handle := none }
    call device (.deleteProgram handle)

/-- Deletes a shader object, if there is one. -/
def releaseShader (device : Device σ) : Option ShaderHandle → Step σ Unit
  | none => return ()
  | some shader => call device (.deleteShader shader)

/-- Deletes the objects on the device; the next use builds them again. -/
def release (device : Device σ) : Step σ Unit := do
  releaseHandle device
  let current ← program
  update fun program => { program with vertexShader := none, fragmentShader := none }
  releaseShader device current.vertexShader
  releaseShader device current.fragmentShader
  update invalidate

/-- Uploads a value to a uniform; answers whether it is active. -/
def setUniform (device : Device σ) (name : String) (value : UniformValue) : Step σ Bool := do
  match (← program).uniformLocation name with
  | none => return false
  | some location =>
    call device (.setUniform location value)
    return true

end Program
end ShaderLoom
