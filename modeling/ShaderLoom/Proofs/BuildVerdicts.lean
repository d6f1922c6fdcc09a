import ShaderLoom.Proofs.ObjectLifetimes
import ShaderLoom.Proofs.ProgramIdentity

/-!
# What comes of building a program

Building a program can end in many ways: the device refuses a call, finds the texts wrong, loses
its context in between, or links a program whose texts contradict each other.  This module says
how far a build can have come, what can be read off the events since it began, and how a call
leads from one of these situations to the next.

The status of a program is a verdict about its texts.  It turns to failed only if the device
answered a status with false while its context was alive (`Program.Rejected`), or if the texts
were linked and declare one name in two ways.  A refused call leaves it as it was.

## Main definitions

* `Trace.compiled` — the stages that were found compiled
* `Program.Rejected` — a status was answered with false while the context was alive
* `Program.Hindered` — a call was refused or a status was answered with false
* `Program.Course` — what every part of a build does
* `Program.Undecided`, `Program.Denied`, `Program.Refuted`, `Program.Condemned` — how far a
  build has come: nothing is found, a status was false, the context is alive, the program is
  marked as failed
* `Program.Setback`, `Program.Broken` — how a build, or a use of a program, can fail

## Main results

* `Program.Compiling.pass`, `Program.Undecided.link` — a stage that compiles, a program object
  that is linked
* `Program.Undecided.deny`, `Program.Denied.confirm`, `Program.Refuted.condemn` — the way to a
  verdict
* `Program.Undecided.broken`, `Program.Condemned.broken` — calls that are refused
-/

namespace ShaderLoom

namespace Event

/-- The shader that a device handed out, and the stage that it is for. -/
def opens : Event → Option (ShaderHandle × Stage)
  | called (.createShader stage) (.ok shader) => some (shader, stage)
  | _ => none

/-- The shader whose compile status was answered with true. -/
def passes : Event → Option ShaderHandle
  | called (.shaderCompileStatus shader) (.ok true) => some shader
  | _ => none

/-- Whether a compile or link status was answered with false. -/
def denies : Event → Bool
  | called (.shaderCompileStatus _) (.ok false) => true
  | called (.programLinkStatus _) (.ok false) => true
  | _ => false

/-- Whether a call was refused. -/
def refuses : Event → Bool
  | called _ (.error _) => true
  | _ => false

/-- Whether a call was refused or a status was answered with false. -/
def hinders (event : Event) : Bool :=
  event.refuses || event.denies

end Event

namespace Trace

/-- The stage that a shader is for, by the latest call that handed it out. -/
def stageOf (events : List Event) (shader : ShaderHandle) : Option Stage :=
  (events.reverse.filterMap Event.opens).lookup shader

/-- The stages of the shaders whose compile status was answered with true after some events, in
order. -/
def compiled (front : List Event) : List Event → List (Option Stage)
  | [] => []
  | event :: later =>
    (event.passes.map (stageOf front)).toList ++ compiled (front ++ [event]) later

theorem compiled_append (front own more : List Event) :
    compiled front (own ++ more) = compiled front own ++ compiled (front ++ own) more := by
  induction own generalizing front with
  | nil => rw [List.append_nil]; rfl
  | cons event later ih =>
      rw [List.cons_append, compiled, compiled, ih, List.append_assoc, List.append_assoc,
        List.singleton_append]

theorem compiled_concat (front own : List Event) (event : Event) :
    compiled front (own ++ [event]) =
      compiled front own ++ (event.passes.map (stageOf (front ++ own))).toList := by
  rw [compiled_append, compiled, compiled, List.append_nil]

theorem stageOf_concat_self (events : List Event) (stage : Stage) (shader : ShaderHandle) :
    stageOf (events ++ [.called (.createShader stage) (.ok shader)]) shader = some stage := by
  simp [stageOf, Event.opens]

theorem stageOf_concat {event : Event} (silent : event.opens = none) (events : List Event)
    (shader : ShaderHandle) : stageOf (events ++ [event]) shader = stageOf events shader := by
  simp [stageOf, silent]

@[simp] theorem linked_concat (events : List Event) (event : Event) :
    linked (events ++ [event]) = linked events ++ event.links := by
  simp [linked]

end Trace

namespace Program

variable {σ : Type}

/-- A compile or link status was answered with false, and the context was alive. -/
def Rejected (events : List Event) : Prop :=
  ∃ front status back, events = front ++ status :: .askedContextLost false :: back ∧
    status.denies = true

theorem Rejected.append {events : List Event} (rejected : Rejected events) (more : List Event) :
    Rejected (events ++ more) := by
  obtain ⟨front, status, back, rfl, denies⟩ := rejected
  exact ⟨front, status, back ++ more, by simp, denies⟩

/-- A call was refused or a status was answered with false. -/
def Hindered (events : List Event) : Prop :=
  ∃ event ∈ events, event.hinders = true

theorem Hindered.append {events : List Event} (hindered : Hindered events) (more : List Event) :
    Hindered (events ++ more) := by
  obtain ⟨event, member, hinders⟩ := hindered
  exact ⟨event, List.mem_append_left _ member, hinders⟩

theorem hindered_concat {event : Event} (hinders : event.hinders = true) (events : List Event) :
    Hindered (events ++ [event]) :=
  ⟨event, List.mem_append_right _ (List.mem_singleton_self event), hinders⟩

theorem hinders_of_denies {event : Event} (denies : event.denies = true) :
    event.hinders = true := by
  rw [Event.hinders, denies, Bool.or_true]

theorem Rejected.hindered {events : List Event} (rejected : Rejected events) :
    Hindered events := by
  obtain ⟨front, status, back, rfl, denies⟩ := rejected
  exact ⟨status, List.mem_append_right _ List.mem_cons_self, hinders_of_denies denies⟩

/-- The declarations of the texts of a program. -/
def Identity.scan (identity : Identity) : Except Error (List Declaration) :=
  Declaration.scan identity.vertexText identity.fragmentText

open Step

/-! ## The course of a use -/

/-- What every part of a use does, seen from the program that it started with: the program stays
the same one, and a stage is found compiled only once, when it gets its shader. -/
structure Course (start : Program) (front : List Event) (program : Program) (own : List Event) :
    Prop where
  identity : program.identity = start.identity
  compiled : ∀ stage, (Trace.compiled front own).count (some stage) +
    (start.shaderOf stage).toList.length ≤ (program.shaderOf stage).toList.length
  attributed : none ∉ Trace.compiled front own

namespace Course

variable {start program program' : Program} {front own : List Event}

theorem refl (program : Program) (front : List Event) : Course program front program [] where
  identity := rfl
  compiled := fun stage => by simp [Trace.compiled]
  attributed := List.not_mem_nil

/-- An event that does not find a shader compiled. -/
theorem silent (course : Course start front program own) {event : Event}
    (silent : event.passes = none) : Course start front program (own ++ [event]) where
  identity := course.identity
  compiled := by simpa [Trace.compiled_concat, silent] using course.compiled
  attributed := by simpa [Trace.compiled_concat, silent] using course.attributed

theorem congr (course : Course start front program own)
    (identity : program'.identity = program.identity)
    (shaders : ∀ stage, program'.shaderOf stage = program.shaderOf stage) :
    Course start front program' own where
  identity := identity.trans course.identity
  compiled := fun stage => by rw [shaders]; exact course.compiled stage
  attributed := course.attributed

/-- A stage without a shader gets one, which was created for it. -/
theorem withShader (course : Course start front program own) {stage : Stage}
    {shader : ShaderHandle} (missing : program.shaderOf stage = none)
    (created : Trace.stageOf (front ++ own) shader = some stage) :
    Course start front (program.withShader shader stage)
      (own ++ [.called (.shaderCompileStatus shader) (.ok true)]) where
  identity := (identity_withShader program shader stage).trans course.identity
  compiled := by
    intro other
    have before := course.compiled other
    rw [Trace.compiled_concat, Event.passes, Option.map_some, created, Option.toList_some,
      List.count_append]
    by_cases same : other = stage
    · subst same
      rw [missing, Option.toList_none, List.length_nil] at before
      rw [shaderOf_withShader, List.count_singleton_self, Option.toList_some,
        List.length_singleton]
      omega
    · rw [shaderOf_withShader_of_ne same, List.count_singleton,
        beq_false_of_ne fun equal => same (Option.some.inj equal).symm]
      simpa using before
  attributed := by
    rw [Trace.compiled_concat, Event.passes, Option.map_some, created, Option.toList_some]
    simpa using course.attributed

end Course

/-- A program that is built when it is used. -/
structure Buildable (start : Program) : Prop where
  vacant : start.handle = none
  ordinary : start.sentinel = false
  undecided : start.status ≠ .failed

/-- Building is under way: nothing is decided about the program.  The program object `object`,
if any, was found linked. -/
structure Undecided (start : Program) (front : List Event) (object : Option ProgramHandle)
    (program : Program) (own : List Event) : Prop extends Course start front program own where
  buildable : Buildable start
  dirty : program.dirty = false
  handle : program.handle = none
  status : program.status = start.status
  linked : Trace.linked own = object.toList

/-- A shader was created for a stage, and is being compiled. -/
structure Compiling (start : Program) (front : List Event) (stage : Stage)
    (shader : ShaderHandle) (program : Program) (own : List Event) : Prop
    extends Undecided start front none program own where
  created : Trace.stageOf (front ++ own) shader = some stage

/-- A status was just answered with false. -/
structure Denied (start : Program) (front : List Event) (program : Program) (own : List Event) :
    Prop extends Undecided start front none program own where
  denied : ∃ earlier status, own = earlier ++ [status] ∧ status.denies = true

/-- A status was answered with false while the context was alive, and the program is not marked
yet. -/
structure Refuted (start : Program) (front : List Event) (program : Program)
    (own : List Event) : Prop extends Undecided start front none program own where
  rejected : Rejected own

/-- The device found the program wrong. -/
structure Condemned (start : Program) (front : List Event) (program : Program)
    (own : List Event) : Prop extends Course start front program own where
  buildable : Buildable start
  dirty : program.dirty = false
  handle : program.handle = none
  status : program.status = .failed
  rejected : Rejected own

/-- How a use can fail. -/
inductive Setback (start program : Program) (own : List Event) : Error → Prop where
  /-- A call was refused, or the context was lost, before anything was decided. -/
  | refused (fault : DeviceFault) (handle : program.handle = none)
      (status : program.status = start.status) (hindered : Hindered own) :
      Setback start program own (.deviceFault fault)
  /-- The device found the program wrong, and refused a call after that. -/
  | rejected (fault : DeviceFault) (handle : program.handle = none) (rejected : Rejected own) :
      Setback start program own (.deviceFault fault)
  /-- The program was linked, and its texts contradict each other. -/
  | conflict (error : Error) (handle : program.handle = none) (linked : Trace.linked own ≠ [])
      (scan : start.identity.scan = .error error) : Setback start program own error
  /-- The program is built and could not be made current. -/
  | unbound (fault : DeviceFault) (handle : ProgramHandle) (held : program.handle = some handle)
      (status : program.status = .linked)
      (last : own.getLast? = some (.called (.useProgram (some handle)) (.error fault))) :
      Setback start program own (.deviceFault fault)

/-- Building failed. -/
structure Broken (start : Program) (front : List Event) (error : Error) (program : Program)
    (own : List Event) : Prop extends Course start front program own where
  buildable : Buildable start
  dirty : program.dirty = false
  handle : program.handle = none
  setback : Setback start program own error

section Building

variable {start program program' : Program} {front own : List Event}
  {object : Option ProgramHandle} {event : Event} {error : Error}

/-- An event that says nothing about the texts of the program. -/
structure Neutral (event : Event) : Prop where
  passes : event.passes = none
  links : event.links = []

/-! ### Nothing is decided -/

theorem Undecided.neutral (undecided : Undecided start front object program own)
    (neutral : Neutral event) : Undecided start front object program (own ++ [event]) where
  toCourse := undecided.silent neutral.passes
  buildable := undecided.buildable
  dirty := undecided.dirty
  handle := undecided.handle
  status := undecided.status
  linked := by rw [Trace.linked_concat, neutral.links, List.append_nil, undecided.linked]

/-- What is known about locations does not matter. -/
theorem Undecided.congr (undecided : Undecided start front object program own)
    (identity : program'.identity = program.identity)
    (holdings : program'.holdings = program.holdings)
    (status : program'.status = program.status) :
    Undecided start front object program' own := by
  obtain ⟨handle, vertex, fragment, dirty⟩ := Holdings.mk.inj holdings
  refine ⟨undecided.toCourse.congr identity fun stage => ?_, undecided.buildable,
    dirty.trans undecided.dirty, handle.trans undecided.handle, status.trans undecided.status,
    undecided.linked⟩
  cases stage with
  | vertex => exact vertex
  | fragment => exact fragment

theorem Undecided.broken (undecided : Undecided start front object program own)
    (hindered : Hindered own) (fault : DeviceFault) :
    Broken start front (.deviceFault fault) program own where
  toCourse := undecided.toCourse
  buildable := undecided.buildable
  dirty := undecided.dirty
  handle := undecided.handle
  setback := .refused fault undecided.handle undecided.status hindered

/-- A call was refused before anything was decided. -/
theorem Undecided.refused (undecided : Undecided start front object program own)
    {request : Call} {fault : DeviceFault}
    (neutral : Neutral (.called request (.error fault))) :
    Broken start front (.deviceFault fault) program (own ++ [.called request (.error fault)]) :=
  (undecided.neutral neutral).broken (hindered_concat rfl own) fault

theorem Undecided.create (undecided : Undecided start front none program own) (stage : Stage)
    (shader : ShaderHandle) :
    Compiling start front stage shader program
      (own ++ [.called (.createShader stage) (.ok shader)]) where
  toUndecided := undecided.neutral ⟨rfl, rfl⟩
  created := by
    rw [← List.append_assoc]
    exact Trace.stageOf_concat_self _ stage shader

theorem Undecided.link (undecided : Undecided start front none program own)
    (handle : ProgramHandle) :
    Undecided start front (some handle) program
      (own ++ [.called (.programLinkStatus handle) (.ok true)]) where
  toCourse := undecided.silent rfl
  buildable := undecided.buildable
  dirty := undecided.dirty
  handle := undecided.handle
  status := undecided.status
  linked := by
    rw [Trace.linked_concat, undecided.linked]
    rfl

/-- A program that was linked may turn out to contradict itself. -/
theorem Undecided.conflict {handle : ProgramHandle}
    (undecided : Undecided start front (some handle) program own)
    (scanned : Declaration.scan program.vertexText program.fragmentText = .error error) :
    Broken start front error { program with status := .failed } own where
  toCourse := undecided.toCourse.congr rfl fun stage => by cases stage <;> rfl
  buildable := undecided.buildable
  dirty := undecided.dirty
  handle := undecided.handle
  setback := by
    refine .conflict error undecided.handle ?_ ?_
    · rw [undecided.linked]
      exact List.cons_ne_nil _ _
    · rw [← undecided.identity]
      exact scanned

/-! ### Compiling -/

section Compiling

variable {stage : Stage} {shader : ShaderHandle}

theorem Compiling.neutral (compiling : Compiling start front stage shader program own)
    (neutral : Neutral event) (quiet : event.opens = none) :
    Compiling start front stage shader program (own ++ [event]) where
  toUndecided := compiling.toUndecided.neutral neutral
  created := by
    rw [← List.append_assoc, Trace.stageOf_concat quiet]
    exact compiling.created

/-- A shader that was found compiled goes to its place. -/
theorem Compiling.pass (compiling : Compiling start front stage shader program own)
    (missing : program.shaderOf stage = none) :
    Undecided start front none (program.withShader shader stage)
      (own ++ [.called (.shaderCompileStatus shader) (.ok true)]) where
  toCourse := compiling.withShader missing compiling.created
  buildable := compiling.buildable
  dirty := by cases stage <;> exact compiling.dirty
  handle := by cases stage <;> exact compiling.handle
  status := by cases stage <;> exact compiling.status
  linked := by
    rw [Trace.linked_concat, compiling.linked]
    rfl

end Compiling

/-! ### A status was answered with false -/

theorem Undecided.deny (undecided : Undecided start front none program own)
    (neutral : Neutral event) (denies : event.denies = true) :
    Denied start front program (own ++ [event]) where
  toUndecided := undecided.neutral neutral
  denied := ⟨own, event, rfl, denies⟩

/-- The answer counts if the context is alive. -/
theorem Denied.confirm (denied : Denied start front program own) :
    Refuted start front program (own ++ [.askedContextLost false]) where
  toUndecided := denied.toUndecided.neutral ⟨rfl, rfl⟩
  rejected := by
    obtain ⟨earlier, status, rfl, denies⟩ := denied.denied
    exact ⟨earlier, status, [], by simp, denies⟩

theorem Denied.lose (denied : Denied start front program own) :
    Broken start front (.deviceFault .contextLost) program
      (own ++ [.askedContextLost true]) := by
  obtain ⟨earlier, status, split, denies⟩ := denied.denied
  refine (denied.toUndecided.neutral ⟨rfl, rfl⟩).broken (Hindered.append ?_ _) .contextLost
  rw [split]
  exact hindered_concat (hinders_of_denies denies) earlier

theorem Refuted.neutral (refuted : Refuted start front program own) (neutral : Neutral event) :
    Refuted start front program (own ++ [event]) where
  toUndecided := refuted.toUndecided.neutral neutral
  rejected := refuted.rejected.append _

/-- A program that was found wrong is marked as failed. -/
theorem Refuted.condemn (refuted : Refuted start front program own) (step log : String) :
    Condemned start front (program.condemn step log) own where
  toCourse := refuted.toCourse.congr rfl fun stage => by cases stage <;> rfl
  buildable := refuted.buildable
  dirty := refuted.dirty
  handle := refuted.handle
  status := rfl
  rejected := refuted.rejected

theorem Condemned.neutral (condemned : Condemned start front program own)
    (neutral : Neutral event) : Condemned start front program (own ++ [event]) where
  toCourse := condemned.silent neutral.passes
  buildable := condemned.buildable
  dirty := condemned.dirty
  handle := condemned.handle
  status := condemned.status
  rejected := condemned.rejected.append _

theorem Condemned.broken (condemned : Condemned start front program own) (fault : DeviceFault) :
    Broken start front (.deviceFault fault) program own where
  toCourse := condemned.toCourse
  buildable := condemned.buildable
  dirty := condemned.dirty
  handle := condemned.handle
  setback := .rejected fault condemned.handle condemned.rejected

/-! ### Building failed -/

theorem Setback.append (setback : Setback start program own error)
    (vacant : program.handle = none) (more : List Event) :
    Setback start program (own ++ more) error := by
  cases setback with
  | refused fault handle status hindered =>
      exact .refused fault handle status (hindered.append more)
  | rejected fault handle rejected => exact .rejected fault handle (rejected.append more)
  | conflict error handle linked scan =>
      refine .conflict error handle (fun none => linked ?_) scan
      rw [Trace.linked, List.flatMap_append, List.append_eq_nil_iff] at none
      exact none.1
  | unbound fault handle held status last =>
      rw [vacant] at held
      cases held

theorem Broken.neutral (broken : Broken start front error program own)
    (neutral : Neutral event) : Broken start front error program (own ++ [event]) where
  toCourse := broken.silent neutral.passes
  buildable := broken.buildable
  dirty := broken.dirty
  handle := broken.handle
  setback := broken.setback.append broken.handle _

end Building

end Program
end ShaderLoom
