import ShaderLoom.Error
import ShaderLoom.Log
import ShaderLoom.Uniform.Value

/-!
# Devices

The part of a graphics interface that programs need.  A device is any state with a way to answer
calls; every call may be refused, whatever was answered before.  Whether the context is lost can
be asked at any time.

A session is a device at work: its state, the events so far and the log.

## Main Definitions

* `Call`, `Call.Answer` — what can be asked of a device, and what it answers
* `Device` — how calls are answered
* `Event` — a call with its answer
* `Session` — a device at work
-/

namespace ShaderLoom

/-- The name of a shader object of a device. -/
structure ShaderHandle where
  id : Nat
  deriving DecidableEq, Repr, Inhabited

/-- The name of a program object of a device. -/
structure ProgramHandle where
  id : Nat
  deriving DecidableEq, Repr, Inhabited

/-- Where a uniform is uploaded to. -/
structure UniformLocation where
  index : Int
  deriving DecidableEq, Repr, Inhabited

/-- Where an attribute is fed in. -/
structure AttributeLocation where
  index : Nat
  deriving DecidableEq, Repr, Inhabited

/-- What can be asked of a device. -/
inductive Call where
  | createShader (stage : Stage)
  | shaderSource (shader : ShaderHandle) (text : String)
  | compileShader (shader : ShaderHandle)
  | shaderCompileStatus (shader : ShaderHandle)
  | shaderInfoLog (shader : ShaderHandle)
  | deleteShader (shader : ShaderHandle)
  | createProgram
  | attachShader (program : ProgramHandle) (shader : ShaderHandle)
  | linkProgram (program : ProgramHandle)
  | validateProgram (program : ProgramHandle)
  | programLinkStatus (program : ProgramHandle)
  | programInfoLog (program : ProgramHandle)
  | deleteProgram (program : ProgramHandle)
  | uniformLocation (program : ProgramHandle) (name : String)
  | attributeLocation (program : ProgramHandle) (name : String)
  | useProgram (program : Option ProgramHandle)
  | setUniform (location : UniformLocation) (value : UniformValue)
  deriving DecidableEq

namespace Call

/-- What a device answers to a call that it carries out. -/
@[reducible] def Answer : Call → Type
  | createShader _ => ShaderHandle
  | shaderCompileStatus _ => Bool
  | shaderInfoLog _ => String
  | createProgram => ProgramHandle
  | programLinkStatus _ => Bool
  | programInfoLog _ => String
  | uniformLocation _ _ => Option UniformLocation
  | attributeLocation _ _ => Option AttributeLocation
  | _ => Unit

/-- The name of a call. -/
def label : Call → String
  | createShader _ => "create_shader"
  | shaderSource _ _ => "shader_source"
  | compileShader _ => "compile_shader"
  | shaderCompileStatus _ => "shader_compile_status"
  | shaderInfoLog _ => "shader_info_log"
  | deleteShader _ => "delete_shader"
  | createProgram => "create_program"
  | attachShader _ _ => "attach_shader"
  | linkProgram _ => "link_program"
  | validateProgram _ => "validate_program"
  | programLinkStatus _ => "program_link_status"
  | programInfoLog _ => "program_info_log"
  | deleteProgram _ => "delete_program"
  | uniformLocation _ _ => "uniform_location"
  | attributeLocation _ _ => "attrib_location"
  | useProgram _ => "use_program"
  | setUniform _ _ => "set_uniform"

/-- The arguments of a call as they appear in a trace. -/
def arguments : Call → List String
  | createShader stage => [stage.word]
  | shaderSource shader text => [toString shader.id, toString text.utf8ByteSize]
  | compileShader shader => [toString shader.id]
  | shaderCompileStatus shader => [toString shader.id]
  | shaderInfoLog shader => [toString shader.id]
  | deleteShader shader => [toString shader.id]
  | createProgram => []
  | attachShader program shader => [toString program.id, toString shader.id]
  | linkProgram program => [toString program.id]
  | validateProgram program => [toString program.id]
  | programLinkStatus program => [toString program.id]
  | programInfoLog program => [toString program.id]
  | deleteProgram program => [toString program.id]
  | uniformLocation program name => [toString program.id, name]
  | attributeLocation program name => [toString program.id, name]
  | useProgram program => [(program.map fun handle => toString handle.id).getD "none"]
  | setUniform location value => [toString location.index, value.text]

/-- How an answer appears in a trace. -/
def answerText : (call : Call) → call.Answer → String
  | createShader _, shader => s!"={shader.id}"
  | createProgram, program => s!"={program.id}"
  | shaderCompileStatus _, status => if status then "=true" else "=false"
  | programLinkStatus _, status => if status then "=true" else "=false"
  | uniformLocation _ _, location => "=" ++ location.elim "none" fun l => toString l.index
  | attributeLocation _ _, location => "=" ++ location.elim "none" fun l => toString l.index
  | _, _ => ""

end Call

/-- How the calls of a device with states `σ` are answered. -/
structure Device (σ : Type) where
  /-- The answer to a call, and the state after it. -/
  answer : (call : Call) → σ → Except DeviceFault call.Answer × σ
  /-- Whether the context is lost. -/
  contextLost : σ → Bool

/-- Something that happened between a program and a device. -/
inductive Event where
  | called (call : Call) (reply : Except DeviceFault call.Answer)
  | askedContextLost (lost : Bool)

/-- The text of an event in a trace. -/
def Event.text : Event → String
  | called call reply =>
    let arguments := ",".intercalate call.arguments
    let suffix :=
      match reply with
      | .ok answer => call.answerText answer
      | .error _ => "!"
    s!"{call.label}({arguments}){suffix}"
  | askedContextLost lost =>
      if lost then "is_context_lost()=true" else "is_context_lost()=false"

/-- A device at work. -/
structure Session (σ : Type) where
  device : σ
  /-- What happened so far, oldest first. -/
  events : List Event := []
  /-- What was reported so far, oldest first. -/
  log : List LogRecord := []

namespace Session

/-- Makes a call. -/
def call {σ : Type} (session : Session σ) (device : Device σ) (call : Call) :
    Except DeviceFault call.Answer × Session σ :=
  let (reply, state) := device.answer call session.device
  (reply, { session with
    device := state
    events := session.events ++ [.called call reply] })

/-- Asks whether the context is lost. -/
def askContextLost {σ : Type} (session : Session σ) (device : Device σ) : Bool × Session σ :=
  let lost := device.contextLost session.device
  (lost, { session with events := session.events ++ [.askedContextLost lost] })

/-- Reports something. -/
def report {σ : Type} (session : Session σ) (record : LogRecord) : Session σ :=
  { session with log := session.log ++ [record] }

end Session
end ShaderLoom
