import ShaderLoom.Proofs.ProgramHistory

/-!
# The points of an operation

An operation on a program makes one call after the other, and any of them may be refused.
Between two calls it stands at a point, which says how far it has come and which objects it has
in its hands: a shader that was created and is not in its place yet, a program object that is
being linked, the shaders that a release has still to delete.

Three relations say all that can happen at a point.  The operation makes a call, which leads on
if it is answered and somewhere else if it is refused (`Program.Requests`); it asks whether the
context is lost (`Program.Asks`); or it goes on without the device (`Program.Shifts`).

An assertion for each point that is kept by all of these is an invariant (`Program.Invariant`).
The code of the operations is walked through once, for all invariants
(`Program.Invariant.step`), so that a property of operations is proved by saying what holds at
each point, and why each of the three relations keeps it.

## Main definitions

* `Program.Point` — where an operation stands
* `Program.Requests`, `Program.Asks`, `Program.Shifts` — what can happen there
* `Program.Invariant` — assertions about the points that are kept

## Main results

* `Program.Invariant.apply`, `Program.Invariant.release`, `Program.Invariant.setUniform` — the
  operations
* `Program.Invariant.step` — an invariant that holds where an operation begins holds where it
  ends
-/

namespace ShaderLoom
namespace Program

open Step

theorem shaderOf_withShader (program : Program) (shader : ShaderHandle) (stage : Stage) :
    (program.withShader shader stage).shaderOf stage = some shader := by
  cases stage <;> rfl

theorem shaderOf_withShader_of_ne {stage other : Stage} (different : other ≠ stage)
    (program : Program) (shader : ShaderHandle) :
    (program.withShader shader stage).shaderOf other = program.shaderOf other := by
  cases stage with
  | vertex =>
      cases other with
      | vertex => exact absurd rfl different
      | fragment => rfl
  | fragment =>
      cases other with
      | vertex => rfl
      | fragment => exact absurd rfl different

/-- Where an operation stands, with what it has in its hands. -/
inductive Point where
  /-- The operation begins. -/
  | begun (operation : Operation)
  /-- The shaders of some stages are wanted, in this order. -/
  | wanting (stages : List Stage)
  /-- A shader was created for a stage, and more stages come after it. -/
  | compiling (stage : Stage) (later : List Stage) (shader : ShaderHandle)
  /-- A shader was found not to be compiled. -/
  | doubting (stage : Stage) (shader : ShaderHandle)
  /-- A shader was found not to be compiled by a device that is alive. -/
  | rejecting (stage : Stage) (shader : ShaderHandle)
  /-- A program object was created. -/
  | linking (handle : ProgramHandle)
  /-- A program object was found linked. -/
  | linked (handle : ProgramHandle)
  /-- The locations of some declarations have still to be looked up. -/
  | locating (handle : ProgramHandle) (declarations : List Declaration)
  /-- A program object was found not to be linked. -/
  | unlinked (handle : ProgramHandle)
  /-- A program object was found not to be linked by a device that is alive. -/
  | examining (handle : ProgramHandle)
  /-- The program is marked as failed, and its program object has to go. -/
  | condemned (handle : ProgramHandle)
  /-- Linking broke off. -/
  | abandoning (handle : ProgramHandle) (error : Error)
  /-- Linking broke off, and the context is alive. -/
  | deserting (handle : ProgramHandle) (error : Error)
  /-- Building broke off. -/
  | unbuilt (error : Error)
  /-- The program is built. -/
  | ready
  /-- The program object was taken out of the program. -/
  | dropping (handle : ProgramHandle)
  /-- The program object is gone. -/
  | vacated
  /-- Some shaders were taken out of the program, and have still to be deleted. -/
  | clearing (shaders : List ShaderHandle)
  /-- The operation ended with an answer. -/
  | ended (operation : Operation) (answer : operation.Answer)
  /-- The operation ended with an error. -/
  | failed (operation : Operation) (error : Error)

/-- Where an error leads.  While a program object is being linked, somebody has to care for
it. -/
def Point.broken (error : Error) : Point → Point
  | begun operation => failed operation error
  | linking handle => abandoning handle error
  | linked handle => abandoning handle error
  | locating handle _ => abandoning handle error
  | examining handle => abandoning handle error
  | ready => failed .apply error
  | dropping _ => failed .release error
  | clearing _ => failed .release error
  | _ => unbuilt error

/-- The calls that can be made at a point, and where an answer leads. -/
inductive Requests (program : Program) :
    Point → (request : Call) → (request.Answer → Point × Program) → Prop where
  | createShader {stage : Stage} {later : List Stage}
      (missing : program.shaderOf stage = none) :
      Requests program (.wanting (stage :: later)) (.createShader stage)
        fun shader => (.compiling stage later shader, program)
  | shaderSource {stage : Stage} {later : List Stage} {shader : ShaderHandle} :
      Requests program (.compiling stage later shader)
        (.shaderSource shader (program.textOf stage))
        fun _ => (.compiling stage later shader, program)
  | compileShader {stage : Stage} {later : List Stage} {shader : ShaderHandle} :
      Requests program (.compiling stage later shader) (.compileShader shader)
        fun _ => (.compiling stage later shader, program)
  | compileStatus {stage : Stage} {later : List Stage} {shader : ShaderHandle}
      (missing : program.shaderOf stage = none) :
      Requests program (.compiling stage later shader) (.shaderCompileStatus shader)
        fun passed => if passed then (.wanting later, program.withShader shader stage)
          else (.doubting stage shader, program)
  | shaderInfoLog {stage : Stage} {shader : ShaderHandle} :
      Requests program (.rejecting stage shader) (.shaderInfoLog shader)
        fun _ => (.rejecting stage shader, program)
  | discardShader {stage : Stage} {shader : ShaderHandle} (log : String) :
      Requests program (.rejecting stage shader) (.deleteShader shader)
        fun _ => (.ended .apply .unusable, program.condemn s!"{stage.word} compile" log)
  | createProgram (compiled : ∀ stage, (program.shaderOf stage).isSome = true) :
      Requests program (.wanting []) .createProgram fun handle => (.linking handle, program)
  | attachShader {handle : ProgramHandle} {stage : Stage} {shader : ShaderHandle}
      (held : program.shaderOf stage = some shader) :
      Requests program (.linking handle) (.attachShader handle shader)
        fun _ => (.linking handle, program)
  | linkProgram {handle : ProgramHandle} :
      Requests program (.linking handle) (.linkProgram handle)
        fun _ => (.linking handle, program)
  | linkStatus {handle : ProgramHandle} :
      Requests program (.linking handle) (.programLinkStatus handle)
        fun passed => (if passed then .linked handle else .unlinked handle, program)
  | validateProgram {handle : ProgramHandle} :
      Requests program (.linked handle) (.validateProgram handle)
        fun _ => (.linked handle, program)
  | uniformLocation {handle : ProgramHandle} {declaration : Declaration}
      {later : List Declaration} (qualifier : declaration.qualifier = .uniform) :
      Requests program (.locating handle (declaration :: later))
        (.uniformLocation handle declaration.name)
        fun location => (.locating handle later, { program with
          uniforms := program.uniforms ++ (location.map (declaration.name, ·)).toList })
  | attributeLocation {handle : ProgramHandle} {declaration : Declaration}
      {later : List Declaration} (qualifier : declaration.qualifier = .attr) :
      Requests program (.locating handle (declaration :: later))
        (.attributeLocation handle declaration.name)
        fun location => (.locating handle later, { program with
          attributes := program.attributes ++ (location.map (declaration.name, ·)).toList })
  | programInfoLog {handle : ProgramHandle} :
      Requests program (.examining handle) (.programInfoLog handle)
        fun log => (.condemned handle, program.condemn "link" log)
  | discardProgram {handle : ProgramHandle} :
      Requests program (.condemned handle) (.deleteProgram handle)
        fun _ => (.ended .apply .unusable, program)
  | useProgram :
      Requests program .ready (.useProgram program.handle)
        fun _ => (.ended .apply .bound, program)
  | deleteProgram {handle : ProgramHandle} :
      Requests program (.dropping handle) (.deleteProgram handle) fun _ => (.vacated, program)
  | deleteShader {shader : ShaderHandle} {later : List ShaderHandle} :
      Requests program (.clearing (shader :: later)) (.deleteShader shader)
        fun _ => (.clearing later, program)
  | setUniform {name : String} {location : UniformLocation} {value : UniformValue}
      (known : program.uniformLocation name = some location) :
      Requests program (.begun (.setUniform name value)) (.setUniform location value)
        fun _ => (.ended (.setUniform name value) true, program)

/-- Where it is asked whether the context is lost, and where the answer leads. -/
inductive Asks : Point → (Bool → Point) → Prop where
  | shader {stage : Stage} {shader : ShaderHandle} :
      Asks (.doubting stage shader) fun lost =>
        if lost then .unbuilt (.deviceFault .contextLost) else .rejecting stage shader
  | program {handle : ProgramHandle} :
      Asks (.unlinked handle) fun lost =>
        if lost then .abandoning handle (.deviceFault .contextLost) else .examining handle
  | owner {handle : ProgramHandle} {error : Error} :
      Asks (.abandoning handle error) fun lost =>
        if lost then .unbuilt error else .deserting handle error

/-- How an operation goes on without the device. -/
inductive Shifts (program : Program) : Point → Point → Program → Prop where
  | skip (sentinel : program.sentinel = true) :
      Shifts program (.begun .apply) (.ended .apply .skipped) program
  | reuse (ordinary : program.sentinel = false) (held : program.handle.isSome = true)
      (clean : program.dirty = false) : Shifts program (.begun .apply) .ready program
  | giveUp (ordinary : program.sentinel = false)
      (unready : ¬(program.handle.isSome && !program.dirty) = true)
      (failed : program.status = .failed) (clean : program.dirty = false) :
      Shifts program (.begun .apply) (.ended .apply .unusable) program
  | build (ordinary : program.sentinel = false)
      (unready : ¬(program.handle.isSome && !program.dirty) = true)
      (undecided : ¬(program.status = .failed ∧ program.dirty = false)) :
      Shifts program (.begun .apply) (.wanting [.vertex, .fragment])
        { program with dirty := false }
  | keepShader {stage : Stage} {later : List Stage} {shader : ShaderHandle}
      (found : program.shaderOf stage = some shader) :
      Shifts program (.wanting (stage :: later)) (.wanting later) program
  | conflict {handle : ProgramHandle} {error : Error}
      (scanned : Declaration.scan program.vertexText program.fragmentText = .error error) :
      Shifts program (.linked handle) (.abandoning handle error)
        { program with status := .failed }
  | forget {handle : ProgramHandle} {declarations : List Declaration}
      (scanned : Declaration.scan program.vertexText program.fragmentText = .ok declarations) :
      Shifts program (.linked handle) (.locating handle declarations)
        { program with uniforms := [], attributes := [] }
  | store {handle : ProgramHandle} :
      Shifts program (.locating handle []) .ready
        { program with handle := some handle, status := .linked, failureLog := none }
  | breakOff {error : Error} : Shifts program (.unbuilt error) (.failed .apply error) program
  | invalidate : Shifts program (.begun .invalidate) (.ended .invalidate ()) program.invalidate
  | vacant (vacant : program.handle = none) : Shifts program (.begun .release) .vacated program
  | drop {handle : ProgramHandle} (held : program.handle = some handle) :
      Shifts program (.begun .release) (.dropping handle) { program with handle := none }
  | takeShaders :
      Shifts program .vacated
        (.clearing (program.vertexShader.toList ++ program.fragmentShader.toList))
        { program with vertexShader := none, fragmentShader := none }
  | reset : Shifts program (.clearing []) (.ended .release ()) program.invalidate
  | unknown {name : String} {value : UniformValue}
      (unknown : program.uniformLocation name = none) :
      Shifts program (.begun (.setUniform name value)) (.ended (.setUniform name value) false)
        program

/-- Assertions about the points that are kept by all that can happen. -/
structure Invariant (holds : Point → Assertion) : Prop where
  answered : ∀ {program : Program} {point : Point} {request : Call}
    {next : request.Answer → Point × Program}, Requests program point request next →
    ∀ answer events, holds point program events →
      holds (next answer).1 (next answer).2 (events ++ [.called request (.ok answer)])
  refused : ∀ {program : Program} {point : Point} {request : Call}
    {next : request.Answer → Point × Program}, Requests program point request next →
    ∀ fault events, holds point program events →
      holds (point.broken (.deviceFault fault)) program
        (events ++ [.called request (.error fault)])
  asked : ∀ {program : Program} {point : Point} {next : Bool → Point}, Asks point next →
    ∀ lost events, holds point program events →
      holds (next lost) program (events ++ [.askedContextLost lost])
  deserted : ∀ {program : Program} {handle : ProgramHandle} {error : Error} reply events,
    holds (.deserting handle error) program events →
      holds (.unbuilt error) program (events ++ [.called (.deleteProgram handle) reply])
  shifted : ∀ {program program' : Program} {point next : Point},
    Shifts program point next program' →
    ∀ events, holds point program events → holds next program' events

namespace Invariant

variable {σ : Type} {holds : Point → Assertion} (invariant : Invariant holds)
  (device : Device σ)

/-- What is said of the events since some moment. -/
theorem after (invariant : Invariant holds) (front : List Event) :
    Invariant fun point => After front (holds point) where
  answered := by
    rintro program point request next requests answer _ ⟨own, rfl, before⟩
    exact ⟨_, List.append_assoc .., invariant.answered requests answer own before⟩
  refused := by
    rintro program point request next requests fault _ ⟨own, rfl, before⟩
    exact ⟨_, List.append_assoc .., invariant.refused requests fault own before⟩
  asked := by
    rintro program point next asks lost _ ⟨own, rfl, before⟩
    exact ⟨_, List.append_assoc .., invariant.asked asks lost own before⟩
  deserted := by
    rintro program handle error reply _ ⟨own, rfl, before⟩
    exact ⟨_, List.append_assoc .., invariant.deserted reply own before⟩
  shifted := by
    rintro program program' point next shifts _ ⟨own, rfl, before⟩
    exact ⟨own, rfl, invariant.shifted shifts own before⟩

/-! ## Primitive steps -/

section Primitive

variable {point : Point} {current : Program} {failure : Error → Assertion}

/-- The program becomes what an answer has led to. -/
theorem arrive {assertion : Assertion} {change : Program → Program} {next : Program}
    (changed : change current = next) :
    Triple (fun program events => assertion next events ∧ program = current)
      (update change : Step σ Unit) (fun _ => assertion) failure := by
  refine triple_update fun program events before => ?_
  obtain ⟨before, rfl⟩ := before
  rw [changed]
  exact before

include invariant

/-- A call does not touch the program. -/
theorem call {request : Call} {next : request.Answer → Point × Program}
    (requests : Requests current point request next) :
    Triple (At (holds point) current) (call device request)
      (fun answer program events =>
        holds (next answer).1 (next answer).2 events ∧ program = current)
      (fun error => holds (point.broken error)) := by
  refine triple_call (fun answer program events before => ?_)
    fun fault program events before => ?_
  · obtain ⟨before, rfl⟩ := before
    exact ⟨invariant.answered requests answer events before, rfl⟩
  · obtain ⟨before, rfl⟩ := before
    exact invariant.refused requests fault events before

theorem askContextLost {next : Bool → Point} (asks : Asks point next) :
    Triple (At (holds point) current) (askContextLost device)
      (fun lost => At (holds (next lost)) current) failure :=
  triple_askContextLost fun lost _ events before =>
    ⟨invariant.asked asks lost events before.1, before.2⟩

/-- Going on at another point, with the same program. -/
theorem shift {next : Point} (shifts : Shifts current point next current) (program : Program)
    (events : List Event) (before : At (holds point) current program events) :
    holds next program events := by
  obtain ⟨before, rfl⟩ := before
  exact invariant.shifted shifts events before

theorem update {change : Program → Program} {next : Point}
    (shifts : Shifts current point next (change current)) :
    Triple (At (holds point) current) (update change : Step σ Unit)
      (fun _ => holds next) failure :=
  (arrive rfl).pre fun _ events before => ⟨invariant.shifted shifts events before.1, before.2⟩

end Primitive

/-! ## Building -/

section Building

include invariant

/-- Compiling a stage gives it a shader, or ends the use. -/
theorem shader (stage : Stage) (later : List Stage) (known : Program → Prop)
    (kept : ∀ program shader, known program → known (program.withShader shader stage)) :
    Triple (fun program events => holds (.wanting (stage :: later)) program events ∧
      known program) (shader device stage)
      (fun answer program events =>
        (answer = none → holds (.ended .apply .unusable) program events) ∧
        ∀ shader ∈ answer, holds (.wanting later) program events ∧
          known program ∧ program.shaderOf stage = some shader)
      (fun error => holds (.unbuilt error)) := by
  refine triple_knowing fun current knows => triple_look ?_
  split
  · rename_i shader found
    refine triple_pure fun program events before => ⟨by rintro ⟨⟩, ?_⟩
    obtain ⟨before, rfl⟩ := before
    rintro _ ⟨⟩
    exact ⟨invariant.shifted (.keepShader found) events before, knows, found⟩
  · rename_i missing
    refine (invariant.call device (.createShader missing)).bind fun shader =>
      (invariant.call device .shaderSource).bind fun _ =>
      (invariant.call device .compileShader).bind fun _ =>
      (invariant.call device (.compileStatus missing)).bind fun compiled => ?_
    split
    · refine Triple.bind (triple_update fun program events before => ?_) fun _ =>
        triple_pure fun _ _ after => after
      obtain ⟨before, rfl⟩ := before
      refine ⟨by rintro ⟨⟩, ?_⟩
      rintro _ ⟨⟩
      exact ⟨before, kept program shader knows, shaderOf_withShader program shader stage⟩
    · refine (invariant.askContextLost device .shader).bind fun lost => ?_
      split
      · exact triple_throw fun _ _ before => before.elim
      · refine (invariant.call device .shaderInfoLog).bind fun log =>
          (invariant.call device (.discardShader log)).bind fun _ =>
          Triple.bind (triple_fail fun program events before => ?_) fun _ =>
          triple_pure fun _ _ after => after
        obtain ⟨before, rfl⟩ := before
        exact ⟨fun _ => before, by rintro _ ⟨⟩⟩

/-- A declaration is looked up by one query, and an active one is kept. -/
theorem locate (handle : ProgramHandle) (declaration : Declaration) (later : List Declaration) :
    Triple (holds (.locating handle (declaration :: later))) (locate device handle declaration)
      (fun _ => holds (.locating handle later))
      (fun error => holds (.abandoning handle error)) := by
  refine triple_at fun current => ?_
  unfold Program.locate
  split
  · rename_i qualifier
    refine (invariant.call device (.uniformLocation qualifier)).bind fun location => ?_
    split
    · exact arrive rfl
    · refine triple_pure fun program events before => ?_
      obtain ⟨before, rfl⟩ := before
      simpa using before
  · rename_i qualifier
    refine (invariant.call device (.attributeLocation qualifier)).bind fun location => ?_
    split
    · exact arrive rfl
    · refine triple_pure fun program events before => ?_
      obtain ⟨before, rfl⟩ := before
      simpa using before

theorem locateAll (handle : ProgramHandle) (declarations : List Declaration) :
    Triple (holds (.locating handle declarations))
      (declarations.forM (Program.locate device handle))
      (fun _ => holds (.locating handle []))
      (fun error => holds (.abandoning handle error)) := by
  induction declarations with
  | nil => exact triple_pure fun _ _ before => before
  | cons declaration later ih =>
      exact (invariant.locate device handle declaration later).bind fun _ => ih

theorem introspect (handle : ProgramHandle) :
    Triple (holds (.linked handle)) (introspect device handle)
      (fun _ => holds (.locating handle []))
      (fun error => holds (.abandoning handle error)) := by
  refine triple_at fun current => triple_look ?_
  split
  · rename_i scanned
    exact (invariant.update (.conflict scanned)).bind fun _ =>
      triple_throw fun _ _ before => before
  · rename_i declarations scanned
    exact (invariant.update (.forget scanned)).bind fun _ =>
      invariant.locateAll device handle declarations

/-- Linking leads to a program object whose locations are known, or to one that has to go. -/
theorem link (handle : ProgramHandle) {vertex fragment : ShaderHandle} {current : Program}
    (isVertex : current.vertexShader = some vertex)
    (isFragment : current.fragmentShader = some fragment) :
    Triple (At (holds (.linking handle)) current) (link device handle vertex fragment)
      (fun linked => holds (if linked then .locating handle [] else .condemned handle))
      (fun error => holds (.abandoning handle error)) := by
  have held : ∀ stage shader, current.shaderOf stage = some shader →
      Requests current (.linking handle) (.attachShader handle shader)
        fun _ => (.linking handle, current) := fun _ _ held => .attachShader held
  refine (invariant.call device (held .vertex vertex isVertex)).bind fun _ =>
    (invariant.call device (held .fragment fragment isFragment)).bind fun _ =>
    (invariant.call device .linkProgram).bind fun _ =>
    (invariant.call device .linkStatus).bind fun linked => ?_
  split
  · refine (invariant.call device .validateProgram).bind fun _ => ?_
    refine Triple.pre ((invariant.introspect device handle).bind fun _ => ?_) fun _ _ => At.elim
    exact triple_program.bind fun _ => triple_report.bind fun _ =>
      triple_pure fun _ _ before => before.1
  · refine (invariant.askContextLost device .program).bind fun lost => ?_
    split
    · exact triple_throw fun _ _ before => before.elim
    · refine (invariant.call device .programInfoLog).bind fun log =>
        Triple.bind (triple_fail fun program events before => ?_) fun _ =>
        triple_pure fun _ _ after => after
      obtain ⟨before, rfl⟩ := before
      exact before

/-- If linking breaks off, the program object is deleted, unless the context took it along. -/
theorem abandon (handle : ProgramHandle) (error : Error) {success : Bool → Assertion} :
    Triple (holds (.abandoning handle error))
      (do
        if !(← Step.askContextLost device) then attempt device (.deleteProgram handle)
        throw error : Step σ Bool)
      success (fun error => holds (.unbuilt error)) := by
  refine triple_at fun current => (invariant.askContextLost device .owner).bind fun lost => ?_
  cases lost with
  | true => exact triple_throw fun _ _ before => before.elim
  | false =>
      refine Triple.bind (triple_attempt fun reply program events before => ?_) fun _ =>
        triple_throw fun _ _ after => after
      exact invariant.deserted reply events before.elim

theorem linkNew (vertex fragment : ShaderHandle) :
    Triple (fun program events => holds (.wanting []) program events ∧
        program.vertexShader = some vertex ∧ program.fragmentShader = some fragment)
      (linkNew device vertex fragment)
      (fun linked => holds (if linked then .ready else .ended .apply .unusable))
      (fun error => holds (.unbuilt error)) := by
  refine triple_knowing fun current compiled => ?_
  have both (stage : Stage) : (current.shaderOf stage).isSome = true := by
    cases stage with
    | vertex => exact Option.isSome_of_eq_some compiled.1
    | fragment => exact Option.isSome_of_eq_some compiled.2
  refine (invariant.call device (.createProgram both)).bind fun handle => ?_
  refine Triple.bind (Triple.tryCatch (invariant.link device handle compiled.1 compiled.2)
    fun error => invariant.abandon device handle error) fun linked => ?_
  split
  · exact Triple.bind
      (triple_update fun _ events before => invariant.shifted .store events before)
      fun _ => triple_pure fun _ _ after => after
  · exact triple_at fun current => (invariant.call device .discardProgram).bind fun _ =>
      triple_pure fun _ _ after => At.elim after

/-- Building leads to a program that is ready, or ends the use. -/
theorem build {current : Program}
    (begins : Shifts current (.begun .apply) (.wanting [.vertex, .fragment])
      { current with dirty := false }) :
    Triple (At (holds (.begun .apply)) current) (build device)
      (fun built => holds (if built then .ready else .ended .apply .unusable))
      (fun error => holds (.unbuilt error)) := by
  have marked : Triple (At (holds (.begun .apply)) current)
      (Step.update fun program => { program with dirty := false } : Step σ Unit)
      (fun _ program events => holds (.wanting [.vertex, .fragment]) program events ∧ True)
      (fun error => holds (.unbuilt error)) :=
    (invariant.update begins).imp (fun _ _ before => before)
      (fun _ _ _ after => ⟨after, trivial⟩) fun _ _ _ after => after
  refine marked.bind fun _ => (invariant.shader device .vertex [.fragment] (fun _ => True)
    fun _ _ known => known).bind fun answer => ?_
  cases answer with
  | none => exact triple_pure fun _ _ after => after.1 rfl
  | some vertex =>
      -- The fragment shader is compiled beside the vertex shader.
      refine Triple.pre ((invariant.shader device .fragment []
        (fun program => program.vertexShader = some vertex) fun _ _ known => known).bind
        fun answer => ?_) fun _ _ after => ⟨(after.2 vertex rfl).1, (after.2 vertex rfl).2.2⟩
      cases answer with
      | none => exact triple_pure fun _ _ after => after.1 rfl
      | some fragment =>
          exact (invariant.linkNew device vertex fragment).pre
            fun _ _ after => after.2 fragment rfl

end Building

/-! ## Operations -/

section Operations

include invariant

theorem bind :
    Triple (holds .ready) (Program.bind device) (fun outcome => holds (.ended .apply outcome))
      (fun error => holds (.failed .apply error)) :=
  triple_at fun _ => triple_look ((invariant.call device .useProgram).bind fun _ =>
    triple_pure fun _ _ after => At.elim after)

/-- Using a program. -/
theorem apply :
    Triple (holds (.begun .apply)) (apply device) (fun outcome => holds (.ended .apply outcome))
      (fun error => holds (.failed .apply error)) := by
  refine triple_at fun current => triple_look ?_
  split
  · rename_i sentinel
    exact triple_pure (invariant.shift (.skip sentinel))
  · rename_i ordinary
    rw [Bool.not_eq_true] at ordinary
    split
    · rename_i built
      rw [Bool.and_eq_true, Bool.not_eq_true'] at built
      exact (invariant.bind device).pre (invariant.shift (.reuse ordinary built.1 built.2))
    · rename_i unready
      split
      · rename_i failed
        exact triple_pure (invariant.shift (.giveUp ordinary unready failed.1 failed.2))
      · rename_i undecided
        refine Triple.bind ((invariant.build device (.build ordinary unready undecided)).failing
          fun _ _ events before => invariant.shifted .breakOff events before) fun built => ?_
        split
        · exact invariant.bind device
        · exact triple_pure fun _ _ after => after

theorem releaseHandle :
    Triple (holds (.begun .release)) (releaseHandle device) (fun _ => holds .vacated)
      (fun error => holds (.failed .release error)) := by
  refine triple_at fun current => triple_look ?_
  split
  · rename_i vacant
    exact triple_pure (invariant.shift (.vacant vacant))
  · rename_i handle held
    refine (invariant.update (.drop held)).bind fun _ => triple_at fun _ => ?_
    exact (invariant.call device .deleteProgram).imp (fun _ _ before => before)
      (fun _ _ _ => At.elim) fun _ _ _ after => after

theorem releaseShader (shader : Option ShaderHandle) (later : List ShaderHandle) :
    Triple (holds (.clearing (shader.toList ++ later))) (releaseShader device shader)
      (fun _ => holds (.clearing later)) (fun error => holds (.failed .release error)) := by
  cases shader with
  | none => exact triple_pure fun _ _ before => before
  | some shader =>
      exact triple_at fun _ =>
        (invariant.call device .deleteShader).imp (fun _ _ before => before)
        (fun _ _ _ => At.elim) fun _ _ _ after => after

/-- Releasing a program. -/
theorem release :
    Triple (holds (.begun .release)) (release device) (fun _ => holds (.ended .release ()))
      (fun error => holds (.failed .release error)) := by
  refine (invariant.releaseHandle device).bind fun _ => triple_at fun current => triple_look ?_
  refine (invariant.update .takeShaders).bind fun _ =>
    (invariant.releaseShader device current.vertexShader _).bind fun _ => ?_
  rw [← List.append_nil current.fragmentShader.toList]
  exact (invariant.releaseShader device current.fragmentShader []).bind fun _ =>
    triple_update fun _ events before => invariant.shifted .reset events before

/-- Uploading a value. -/
theorem setUniform (name : String) (value : UniformValue) :
    Triple (holds (.begun (.setUniform name value))) (setUniform device name value)
      (fun answer => holds (.ended (.setUniform name value) answer))
      (fun error => holds (.failed (.setUniform name value) error)) := by
  refine triple_at fun current => triple_look ?_
  split
  · rename_i unknown
    exact triple_pure (invariant.shift (.unknown unknown))
  · rename_i location known
    exact (invariant.call device (.setUniform known)).bind fun _ =>
      triple_pure fun _ _ => At.elim

/-- **An invariant that holds where an operation begins holds where it ends**, whatever the
device answers. -/
theorem step (operation : Operation) :
    Triple (holds (.begun operation)) (operation.step device)
      (fun answer => holds (.ended operation answer))
      (fun error => holds (.failed operation error)) := by
  cases operation with
  | apply => exact invariant.apply device
  | invalidate =>
      exact triple_update fun _ events before => invariant.shifted .invalidate events before
  | release => exact invariant.release device
  | setUniform name value => exact invariant.setUniform device name value

end Operations

end Invariant
end Program
end ShaderLoom
