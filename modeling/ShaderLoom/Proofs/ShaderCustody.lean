import ShaderLoom.Proofs.FailedReleases

/-!
# Where the shaders of a program are

A shader is created by one call and compiled by three more before the program keeps it, or
deletes it because it does not compile.  Meanwhile only the step that compiles it knows about
it, and a call that is refused ends the step.  The program object has an owner in this
situation, which deletes it; a shader has none, and is left behind
(`Program.shader_left_behind`).

These calls, and the delete call of the vertex shader in a release, are the only ones at which a
shader can get lost while the context is alive.  After any other history, every shader that was
ever created is held by the program or was deleted (`Program.History.shaders_accounted`).

## Main definitions

* `Event.abandons` — the shader that a refused call was about
* `Program.Whereabouts`, `Program.Shelved` — where each shader is that was created
* `Program.ShelvedAt` — where they are at each point of an operation
* `Program.Episode.Drops` — a release that loses the fragment shader

## Main results

* `Program.shelved_apply`, `Program.shelved_release` — operations
* `Program.History.shaders_accounted` — where the shaders are after any history
-/

namespace ShaderLoom

/-- The shader that a refused call was about, unless the call was to delete it. -/
def Event.abandons : Event → Option ShaderHandle
  | called (.shaderSource shader _) (.error _) => some shader
  | called (.compileShader shader) (.error _) => some shader
  | called (.shaderCompileStatus shader) (.error _) => some shader
  | called (.shaderInfoLog shader) (.error _) => some shader
  | _ => none

/-- The device says that its context is lost. -/
def Event.findsLost : Event → Bool
  | called _ _ => false
  | askedContextLost lost => lost

namespace Program

variable {σ : Type}

open Step

/-! ## Keeping track of shaders -/

/-- Where a shader is: in the hand of a step, in the program, deleted, left behind at a refused
call, or lost for some other reason. -/
inductive Whereabouts (stray : ShaderHandle → Prop) (hand : List ShaderHandle)
    (program : Program) (events : List Event) (shader : ShaderHandle) : Prop where
  | inHand (member : shader ∈ hand)
  | held (member : .shader shader ∈ program.objects)
  | deleted (member : .shader shader ∈ Trace.deleted events)
  | abandoned (refused : ∃ event ∈ events, event.abandons = some shader)
  | stray (known : stray shader)

/-- As long as the context was not found lost, it is known where each shader is that was
created. -/
def Shelved (stray : ShaderHandle → Prop) (hand : List ShaderHandle) : Assertion :=
  fun program events => (∀ event ∈ events, event.findsLost = false) →
    ∀ shader, .shader shader ∈ Trace.created events →
    Whereabouts stray hand program events shader

section Shelved

variable {stray stray' : ShaderHandle → Prop} {hand hand' : List ShaderHandle}
  {program program' : Program} {events : List Event} {shader : ShaderHandle}

/-- What is known from some of the events is known from all of them. -/
theorem Whereabouts.after (front : List Event)
    (whereabouts : Whereabouts stray hand program events shader) :
    Whereabouts stray hand program (front ++ events) shader := by
  cases whereabouts with
  | inHand member => exact .inHand member
  | held member => exact .held member
  | deleted member =>
      refine .deleted ?_
      rw [Trace.deleted_append]
      exact List.mem_append_right _ member
  | abandoned refused =>
      obtain ⟨event, member, abandons⟩ := refused
      exact .abandoned ⟨event, List.mem_append_right _ member, abandons⟩
  | stray known => exact .stray known

/-- Keeping track over some events.  The shaders they create come into the hand, and they show
what became of the shaders that were in the hand or in the program. -/
theorem Shelved.append (shelved : Shelved stray hand program events) {own : List Event}
    (created : ∀ shader, .shader shader ∈ Trace.created own → shader ∈ hand')
    (reasons : ∀ shader, stray shader → stray' shader)
    (passed : ∀ shader, shader ∈ hand ∨ .shader shader ∈ program.objects →
      Whereabouts stray' hand' program' own shader) :
    Shelved stray' hand' program' (events ++ own) := by
  intro alive shader known
  have before := shelved fun event member => alive event (List.mem_append_left _ member)
  rw [Trace.created, List.flatMap_append] at known
  rcases List.mem_append.mp known with earlier | new
  · cases before shader earlier with
    | inHand member => exact (passed shader (.inl member)).after events
    | held member => exact (passed shader (.inr member)).after events
    | deleted member =>
        refine .deleted ?_
        rw [Trace.deleted_append]
        exact List.mem_append_left _ member
    | abandoned refused =>
        obtain ⟨event, member, abandons⟩ := refused
        exact .abandoned ⟨event, List.mem_append_left _ member, abandons⟩
    | stray known => exact .stray (reasons shader known)
  · exact .inHand (created shader new)

/-- An event creates shaders, which come into the hand, and it deletes or abandons shaders of
the hand. -/
theorem Shelved.concat (shelved : Shelved stray hand program events) {event : Event}
    (created : ∀ shader, .shader shader ∈ event.creates → shader ∈ hand')
    (passed : ∀ shader ∈ hand, shader ∈ hand' ∨ .shader shader ∈ event.deletes ∨
      event.abandons = some shader) :
    Shelved stray hand' program (events ++ [event]) := by
  have creates : Trace.created [event] = event.creates := List.flatMap_singleton ..
  have deletes : Trace.deleted [event] = event.deletes := List.flatMap_singleton ..
  refine shelved.append (fun shader => creates ▸ created shader) (fun _ => id)
    fun shader place => ?_
  rcases place with inHand | held
  · rcases passed shader inHand with kept | deleted | abandoned
    · exact .inHand kept
    · exact .deleted (deletes ▸ deleted)
    · exact .abandoned ⟨event, List.mem_singleton_self _, abandoned⟩
  · exact .held held

/-- An event that creates no shader. -/
theorem Shelved.quiet (shelved : Shelved stray hand program events) {event : Event}
    (quiet : ∀ shader, .shader shader ∉ event.creates) :
    Shelved stray hand program (events ++ [event]) :=
  shelved.concat (fun shader created => absurd created (quiet shader)) fun _ member =>
    .inl member

/-- Nothing is known of a context that is lost. -/
theorem shelved_of_lost (stray : ShaderHandle → Prop) (hand : List ShaderHandle)
    (program : Program) (events : List Event) :
    Shelved stray hand program (events ++ [.askedContextLost true]) := by
  intro alive
  cases alive _ (List.mem_append_right _ (List.mem_singleton_self _))

/-- Shaders change hands between a step and the program. -/
theorem Shelved.exchange (shelved : Shelved stray hand program events)
    (kept : ∀ shader, shader ∈ hand ∨ .shader shader ∈ program.objects →
      shader ∈ hand' ∨ .shader shader ∈ program'.objects) :
    Shelved stray hand' program' events := by
  rw [← List.append_nil events]
  exact shelved.append (fun _ created => absurd created List.not_mem_nil) (fun _ => id)
    fun shader place => (kept shader place).elim .inHand .held

/-- There may be more reasons to be lost. -/
theorem Shelved.mono (shelved : Shelved stray hand program events)
    (reasons : ∀ shader, stray shader → stray' shader) :
    Shelved stray' hand program events := by
  rw [← List.append_nil events]
  exact shelved.append (fun _ created => absurd created List.not_mem_nil) reasons
    fun shader place => place.elim .inHand .held

/-- Only the shaders of a program matter. -/
theorem Shelved.congr (shelved : Shelved stray hand program events)
    (same : ∀ stage, program'.shaderOf stage = program.shaderOf stage) :
    Shelved stray hand program' events := by
  have vertex : program'.vertexShader = program.vertexShader := same .vertex
  have fragment : program'.fragmentShader = program.fragmentShader := same .fragment
  refine shelved.exchange fun shader place => place.imp id fun held => ?_
  rw [objects_eq, vertex, fragment]
  rw [objects_eq] at held
  exact List.mem_append_right _ ((List.mem_append.mp held).resolve_left (by simp))

end Shelved

/-! ## Points -/

/-- Where the shaders are at each point of a use or an upload.  A shader that is being compiled
is in the hand. -/
def ShelvedAt (stray : ShaderHandle → Prop) : Point → Assertion
  | .compiling _ _ shader => Shelved stray [shader]
  | .doubting _ shader => Shelved stray [shader]
  | .rejecting _ shader => Shelved stray [shader]
  | .dropping _ => fun _ _ => True
  | .vacated => fun _ _ => True
  | .clearing _ => fun _ _ => True
  | .ended .invalidate _ => fun _ _ => True
  | .ended .release _ => fun _ _ => True
  | .failed .release _ => fun _ _ => True
  | _ => Shelved stray []

section Points

variable {stray : ShaderHandle → Prop} {program program' : Program} {point : Point}
  {shader : ShaderHandle} {events : List Event}

/-- The shader in the hand is left behind if a call about it is refused. -/
theorem Shelved.abandon (shelved : Shelved stray [shader] program events) {event : Event}
    (quiet : event.creates = []) (abandons : event.abandons = some shader) :
    Shelved stray [] program (events ++ [event]) := by
  refine shelved.concat (fun _ created => ?_) fun other member => .inr (.inr ?_)
  · rw [quiet] at created
    exact absurd created List.not_mem_nil
  · rw [List.mem_singleton.mp member]
    exact abandons

theorem Shelved.delete (shelved : Shelved stray [shader] program events)
    (reply : Except DeviceFault (Call.deleteShader shader).Answer) :
    Shelved stray [] program (events ++ [.called (.deleteShader shader) reply]) := by
  refine shelved.concat (fun _ created => absurd created List.not_mem_nil)
    fun other member => .inr (.inl ?_)
  rw [List.mem_singleton.mp member]
  exact List.mem_singleton_self _

/-- A shader that compiles goes to its place in the program, which was free. -/
theorem Shelved.store (shelved : Shelved stray [shader] program events) {stage : Stage}
    (missing : program.shaderOf stage = none) :
    Shelved stray [] (program.withShader shader stage) events := by
  have stored := objects_withShader missing shader
  refine shelved.exchange fun other place => .inr (stored.mem_iff.mpr ?_)
  rcases place with inHand | held
  · rw [List.mem_singleton.mp inHand]
    exact List.mem_cons_self
  · exact List.mem_cons_of_mem _ held

theorem shelvedAt_answered {request : Call} {next : request.Answer → Point × Program}
    (requests : Requests program point request next) (answer : request.Answer)
    (events : List Event) (holds : ShelvedAt stray point program events) :
    ShelvedAt stray (next answer).1 (next answer).2
      (events ++ [.called request (.ok answer)]) := by
  cases requests with
  | createShader =>
      refine holds.concat (fun other created => ?_) (by rintro _ ⟨⟩)
      obtain rfl := DeviceObject.shader.inj (List.mem_singleton.mp created)
      exact List.mem_singleton_self _
  | @compileStatus stage later shader missing =>
      have asked : Shelved stray [shader] program
          (events ++ [.called (.shaderCompileStatus shader) (.ok answer)]) :=
        holds.quiet fun _ => List.not_mem_nil
      cases answer with
      | false => exact asked
      | true => exact asked.store missing
  | discardShader =>
      exact (holds.delete _).congr fun stage => by cases stage <;> rfl
  | createProgram => exact holds.quiet (by simp [Event.creates])
  | linkStatus => cases answer <;> exact holds.quiet fun _ => List.not_mem_nil
  | uniformLocation =>
      exact (holds.quiet fun _ => List.not_mem_nil).congr fun stage => by cases stage <;> rfl
  | attributeLocation =>
      exact (holds.quiet fun _ => List.not_mem_nil).congr fun stage => by cases stage <;> rfl
  | programInfoLog =>
      exact (holds.quiet fun _ => List.not_mem_nil).congr fun stage => by cases stage <;> rfl
  | deleteProgram => trivial
  | deleteShader => trivial
  | _ => exact holds.quiet fun _ => List.not_mem_nil

/-- A call that is refused leaves the shader behind that it was about. -/
theorem shelvedAt_refused {request : Call} {next : request.Answer → Point × Program}
    (requests : Requests program point request next) (fault : DeviceFault) (events : List Event)
    (holds : ShelvedAt stray point program events) :
    ShelvedAt stray (point.broken (.deviceFault fault)) program
      (events ++ [.called request (.error fault)]) := by
  cases requests with
  | shaderSource => exact holds.abandon rfl rfl
  | compileShader => exact holds.abandon rfl rfl
  | compileStatus => exact holds.abandon rfl rfl
  | shaderInfoLog => exact holds.abandon rfl rfl
  | discardShader => exact holds.delete _
  | deleteProgram => trivial
  | deleteShader => trivial
  | _ => exact holds.quiet fun _ => List.not_mem_nil

/-- Once the context is lost, it does not matter any more where a shader is. -/
theorem shelvedAt_asked {next : Bool → Point} (asks : Asks point next) (lost : Bool)
    (events : List Event) (holds : ShelvedAt stray point program events) :
    ShelvedAt stray (next lost) program (events ++ [.askedContextLost lost]) := by
  cases asks with
  | shader =>
      cases lost with
      | false => exact holds.quiet fun _ => List.not_mem_nil
      | true => exact shelved_of_lost stray [] program events
  | program => cases lost <;> exact holds.quiet fun _ => List.not_mem_nil
  | owner => cases lost <;> exact holds.quiet fun _ => List.not_mem_nil

theorem shelvedAt_shifted {next : Point} (shifts : Shifts program point next program')
    (events : List Event) (holds : ShelvedAt stray point program events) :
    ShelvedAt stray next program' events := by
  cases shifts with
  | build => exact holds.congr fun stage => by cases stage <;> rfl
  | conflict => exact holds.congr fun stage => by cases stage <;> rfl
  | forget => exact holds.congr fun stage => by cases stage <;> rfl
  | store => exact holds.congr fun stage => by cases stage <;> rfl
  | invalidate => trivial
  | vacant => trivial
  | drop => trivial
  | takeShaders => trivial
  | reset => trivial
  | _ => exact holds

/-- It is known at each point of a use or an upload where the shaders are. -/
theorem invariant_shelvedAt (stray : ShaderHandle → Prop) : Invariant (ShelvedAt stray) where
  answered := shelvedAt_answered
  refused := shelvedAt_refused
  asked := shelvedAt_asked
  deserted := fun _ _ shelved => shelved.quiet fun _ => List.not_mem_nil
  shifted := shelvedAt_shifted

end Points

/-- Where the shaders are after a use. -/
theorem shelved_apply (device : Device σ) {stray : ShaderHandle → Prop} (bench : Bench σ)
    (shelved : Shelved stray [] bench.program bench.session.events) :
    Shelved stray [] (Episode.begin device .apply bench).after.program
      (Episode.begin device .apply bench).after.session.events :=
  ((invariant_shelvedAt stray).apply device).always bench shelved

theorem shelved_setUniform (device : Device σ) {stray : ShaderHandle → Prop} (bench : Bench σ)
    (shelved : Shelved stray [] bench.program bench.session.events) (name : String)
    (value : UniformValue) :
    Shelved stray [] (Episode.begin device (.setUniform name value) bench).after.program
      (Episode.begin device (.setUniform name value) bench).after.session.events :=
  ((invariant_shelvedAt stray).setUniform device name value).always bench shelved

/-! ## Histories -/

/-- A release that took the fragment shader out of the program and was refused to delete the
vertex shader. -/
def Episode.Drops (episode : Episode σ) (shader : ShaderHandle) : Prop :=
  episode.operation = .release ∧ episode.before.program.fragmentShader = some shader ∧
    ∃ vertex fault, episode.before.program.vertexShader = some vertex ∧
      .called (.deleteShader vertex) (.error fault) ∈ episode.events

/-- A release deletes the shaders of a program, keeps them, or drops one of them. -/
theorem shelved_release (device : Device σ) {stray : ShaderHandle → Prop} (bench : Bench σ)
    (shelved : Shelved stray [] bench.program bench.session.events) :
    let episode := Episode.begin device .release bench
    Shelved (fun shader => stray shader ∨ episode.Drops shader) [] episode.after.program
      episode.after.session.events := by
  intro episode
  obtain ⟨own, grown, emptied, interrupted⟩ :=
    release_ends device bench.program bench.session
  have events : episode.events = own := by
    rw [Episode.events]
    exact Session.since_eq grown
  have silent (created : Trace.created own = []) (shader : ShaderHandle)
      (new : .shader shader ∈ Trace.created own) : shader ∈ [] := by
    rw [created] at new
    exact absurd new List.not_mem_nil
  rw [show episode.after.session.events = bench.session.events ++ own from grown]
  cases outcome : episode.outcome with
  | ok answer =>
      have emptied := emptied outcome
      refine shelved.append (silent emptied.created) (fun _ => .inl) fun shader place => ?_
      refine .deleted ?_
      rw [emptied.deleted]
      exact place.resolve_left List.not_mem_nil
  | error error =>
      obtain ⟨lost, interrupted⟩ := interrupted error outcome
      refine shelved.append (silent interrupted.created) (fun _ => .inl) fun shader place => ?_
      have held := place.resolve_left List.not_mem_nil
      rw [interrupted.objects, List.mem_append, List.mem_append] at held
      rcases held with deleted | isLost | kept
      · exact .deleted deleted
      · refine .stray (.inr ?_)
        cases interrupted.lapse with
        | none => exact absurd isLost List.not_mem_nil
        | fragmentShader deleted taken refused =>
            obtain rfl := DeviceObject.shader.inj (List.mem_singleton.mp isLost)
            exact ⟨rfl, taken, _, _, deleted, events ▸ List.mem_of_getLast? refused⟩
      · exact .held kept

variable {device : Device σ} {episodes : List (Episode σ)} {bench : Bench σ}

theorem History.shelved (history : History device episodes bench)
    (kept : ∀ episode ∈ episodes, episode.operation ≠ .invalidate) :
    Shelved (fun shader => ∃ episode ∈ episodes, episode.Drops shader) [] bench.program
      bench.session.events := by
  induction history with
  | new initial state => exact fun _ _ created => absurd created List.not_mem_nil
  | @next episodes bench past operation state ih =>
      have before := ih fun episode member => kept episode (List.mem_append_left _ member)
      have more (shader : ShaderHandle) (reason : ∃ episode ∈ episodes, episode.Drops shader) :
          ∃ episode ∈ episodes ++ [.begin device operation (bench.withDevice state)],
            episode.Drops shader := by
        obtain ⟨episode, member, drops⟩ := reason
        exact ⟨episode, List.mem_append_left _ member, drops⟩
      cases operation with
      | apply =>
          exact (shelved_apply device (bench.withDevice state) before).mono more
      | invalidate =>
          exact absurd rfl (kept _ (List.mem_append_right _ (List.mem_singleton_self _)))
      | release =>
          have released := shelved_release device (bench.withDevice state) before
          refine released.mono fun shader reason => reason.elim (more shader) fun drops => ?_
          exact ⟨_, List.mem_append_right _ (List.mem_singleton_self _), drops⟩
      | setUniform name value =>
          exact (shelved_setUniform device (bench.withDevice state) before name value).mono more

/-- **Where the shaders of a program are.**  Whatever is done with a program except to
invalidate it, and whatever the device answers as long as it does not say that its context is
lost, every shader that was ever created is in its place in the program or was passed to its
delete call; or a call to compile it was refused before the program had it; or it is the
fragment shader of a program of which the vertex shader could not be deleted. -/
theorem History.shaders_accounted (history : History device episodes bench)
    (kept : ∀ episode ∈ episodes, episode.operation ≠ .invalidate)
    (alive : ∀ event ∈ bench.session.events, event.findsLost = false) (shader : ShaderHandle)
    (created : .shader shader ∈ Trace.created bench.session.events) :
    bench.program.vertexShader = some shader ∨ bench.program.fragmentShader = some shader ∨
    .shader shader ∈ Trace.deleted bench.session.events ∨
    (∃ event ∈ bench.session.events, event.abandons = some shader) ∨
    ∃ episode ∈ episodes, episode.Drops shader := by
  cases history.shelved kept alive shader created with
  | inHand member => exact absurd member List.not_mem_nil
  | held member =>
      rw [objects_eq] at member
      simp only [List.mem_append, List.mem_map, Option.mem_toList, reduceCtorEq, and_false,
        exists_false, false_or, DeviceObject.shader.injEq, exists_eq_right] at member
      exact member.imp id .inl
  | deleted member => exact .inr (.inr (.inl member))
  | abandoned refused => exact .inr (.inr (.inr (.inl refused)))
  | stray drops => exact .inr (.inr (.inr (.inr drops)))

/-- A program that is refused its program object, is used then, cannot be released at first, and
has a fragment shader that does not compile when it is used again. -/
def faltering : List (Operation × Script) :=
  [(.apply, { faults := [{ call := "create_program", fault := .outOfMemory }] }),
    (.apply, { nextHandle := 3 }),
    (.release, { faults := [{ call := "delete_program", fault := .outOfMemory }] }),
    (.release, {}), (.apply, { nextHandle := 4, failingSources := ["broken"] })]

/-- Of four shaders, one is held and three were deleted. -/
theorem History.shaders_accounted_faltering :
    let last :=
      replay Script.device
        { name := "", vertexText := "", fragmentText := "broken" } {} faltering
    (∀ episode ∈ last.1, episode.operation ≠ .invalidate) ∧
      (∀ event ∈ last.2.session.events, event.findsLost = false) ∧
      last.2.program.vertexShader = some ⟨4⟩ ∧
      Trace.deleted last.2.session.events =
        [.program ⟨3⟩, .shader ⟨1⟩, .shader ⟨2⟩, .shader ⟨5⟩] ∧
      ∀ shader, .shader shader ∈ Trace.created last.2.session.events →
        last.2.program.vertexShader = some shader ∨
        last.2.program.fragmentShader = some shader ∨
        .shader shader ∈ Trace.deleted last.2.session.events ∨
        (∃ event ∈ last.2.session.events, event.abandons = some shader) ∨
        ∃ episode ∈ last.1, episode.Drops shader := by
  intro last
  have operations :
      last.1.map Episode.operation = [.apply, .apply, .release, .release, .apply] := rfl
  have kept : ∀ episode ∈ last.1, episode.operation ≠ .invalidate := by
    intro episode member isInvalidate
    have known : episode.operation ∈ last.1.map Episode.operation := List.mem_map_of_mem member
    rw [operations, isInvalidate] at known
    simp at known
  have alive : ∀ event ∈ last.2.session.events, event.findsLost = false := by decide +kernel
  have held : last.2.program.vertexShader = some ⟨4⟩ := by decide +kernel
  have deleted : Trace.deleted last.2.session.events =
      [.program ⟨3⟩, .shader ⟨1⟩, .shader ⟨2⟩, .shader ⟨5⟩] := by decide +kernel
  have history : History Script.device last.1 last.2 := history_replay _ (.texts "" "" _) _ _
  exact ⟨kept, alive, held, deleted, History.shaders_accounted history kept alive⟩

/-- A shader that was created and not compiled, because the device refused to, is neither held
nor deleted, and a release does not change this. -/
theorem shader_left_behind :
    let last := (replay Script.device { name := "", vertexText := "", fragmentText := "" } {}
      [(.apply, { faults := [{ call := "compile_shader", fault := .outOfMemory }] }),
        (.release, {})]).2
    .shader ⟨1⟩ ∈ Trace.created last.session.events ∧
      (∀ event ∈ last.session.events, event.findsLost = false) ∧
      last.program.vertexShader = none ∧ last.program.fragmentShader = none ∧
      .shader ⟨1⟩ ∉ Trace.deleted last.session.events := by
  decide +kernel

end Program
end ShaderLoom
