import ShaderLoom.Association
import ShaderLoom.Gpu.Device
import ShaderLoom.Text.Search

/-!
# A scripted device

A device without a screen that carries out calls by a script: which texts do not compile,
whether linking works, which names are inactive, which calls are refused, and whether the
context is lost.  It hands out handles and locations in ascending order.

## Main Definitions

* `Script` — the script and the state of the device
* `Script.device` — how calls are answered
-/

namespace ShaderLoom

/-- Whether the context of a scripted device is there. -/
inductive ScriptedContext where
  | alive
  /-- Lost, and calls that need it are refused. -/
  | lost
  /-- Lost, and no call shows it. -/
  | silent
  deriving DecidableEq, Repr, Inhabited

/-- A call that is refused, after it was carried out a number of times. -/
structure ScriptedFault where
  call : String
  fault : DeviceFault
  skip : Nat := 0
  deriving DecidableEq, Repr, Inhabited

/-- The script and the state of a device. -/
structure Script where
  failingSources : List String := []
  failLink : Bool := false
  inactive : List String := []
  context : ScriptedContext := .alive
  faults : List ScriptedFault := []
  nextHandle : Nat := 1
  nextLocation : Nat := 1
  /-- The texts of the shaders. -/
  texts : List (ShaderHandle × String) := []
  /-- The shaders that were compiled, with their status. -/
  compiled : List (ShaderHandle × Bool) := []
  /-- The programs that were linked, with their status. -/
  linked : List (ProgramHandle × Bool) := []
  deriving DecidableEq, Repr, Inhabited

namespace Script

/-- Consults the first fault for a call: it strikes, or it comes one call closer. -/
def strike (call : String) : List ScriptedFault → Option DeviceFault × List ScriptedFault
  | [] => (none, [])
  | entry :: rest =>
    if entry.call = call then
      match entry.skip with
      | 0 => (some entry.fault, rest)
      | skip + 1 => (none, { entry with skip } :: rest)
    else
      let (fault, rest) := strike call rest
      (fault, entry :: rest)

/-- Whether a call is refused when the context is lost. -/
def needsContext : Call → Bool
  | .createShader _ => true
  | .compileShader _ => true
  | .createProgram => true
  | .linkProgram _ => true
  | .useProgram _ => true
  | _ => false

/-- Whether a text compiles. -/
def compiles (script : Script) (text : String) : Bool :=
  !script.failingSources.any fun part => Text.occursIn part.toList text.toList

/-- The location of a name, if it is active. -/
def locate (script : Script) (name : String) : Option Nat × Script :=
  if name ∈ script.inactive then (none, script)
  else (some script.nextLocation, { script with nextLocation := script.nextLocation + 1 })

/-- Carries out a call. -/
def carryOut (script : Script) : (call : Call) → call.Answer × Script
  | .createShader _ =>
    (⟨script.nextHandle⟩, { script with nextHandle := script.nextHandle + 1 })
  | .createProgram =>
    (⟨script.nextHandle⟩, { script with nextHandle := script.nextHandle + 1 })
  | .shaderSource shader text =>
    ((), { script with texts := Association.insert shader text script.texts })
  | .compileShader shader =>
    let status := script.compiles ((script.texts.lookup shader).getD "")
    ((), { script with compiled := Association.insert shader status script.compiled })
  | .shaderCompileStatus shader => ((script.compiled.lookup shader).getD false, script)
  | .shaderInfoLog shader => (s!"ERROR: 0:1: shader {shader.id} rejected", script)
  | .deleteShader shader =>
    ((), { script with
      texts := Association.erase shader script.texts
      compiled := Association.erase shader script.compiled })
  | .linkProgram program =>
    ((), { script with linked := Association.insert program (!script.failLink) script.linked })
  | .programLinkStatus program => ((script.linked.lookup program).getD false, script)
  | .programInfoLog program => (s!"ERROR: program {program.id} failed to link", script)
  | .deleteProgram program =>
    ((), { script with linked := Association.erase program script.linked })
  | .uniformLocation _ name =>
    let (location, script) := script.locate name
    (location.map fun n => ⟨n⟩, script)
  | .attributeLocation _ name =>
    let (location, script) := script.locate name
    (location.map fun n => ⟨n⟩, script)
  | .attachShader _ _ => ((), script)
  | .validateProgram _ => ((), script)
  | .useProgram _ => ((), script)
  | .setUniform _ _ => ((), script)

/-- Answers a call. -/
def answer (call : Call) (script : Script) : Except DeviceFault call.Answer × Script :=
  let (struck, faults) := strike call.label script.faults
  let script := { script with faults }
  match struck with
  | some fault => (.error fault, script)
  | none =>
    if script.context = .lost ∧ needsContext call then (.error .contextLost, script)
    else
      let (answer, script) := script.carryOut call
      (.ok answer, script)

/-- The device that a script makes up. -/
def device : Device Script where
  answer := answer
  contextLost := fun script => script.context != .alive

end Script
end ShaderLoom
