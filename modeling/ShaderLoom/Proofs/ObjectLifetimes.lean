import Mathlib.Data.List.Nodup
import ShaderLoom.Gpu.Scripted
import ShaderLoom.Proofs.DeviceObjects

/-!
# Lifetimes of the objects of a program

A program creates shaders and a program object on its device, and every call on the way may be
refused.  The book of its objects (`Program.Sound`) stays in order all the same.
`Program.Guarded` carries the book along a step, together with what is known about the holdings
of the program at that point.  A device may hand out the same handle twice, in which case
nothing can be said; the book is therefore kept under the condition that the objects created so
far are different.

An object that is not yet in the record of the program is in the hand of the operation, and
`Program.GuardedAt` says what it has there at each of its points.  An operation that fails has
to leave an empty hand, apart from shaders and from a program object that was lost with its
context.

## Main definitions

* `Program.Guarded` — the book, with what is known about the holdings
* `Program.GuardedAt` — the book at each point of an operation
* `Program.Episode.Forgets`, `Program.Episode.Forsakes` — how program objects get out of sight

## Main results

* `Program.guarded_step` — the book along an operation
* `Program.History.objects_accounted` — no object is used after it was deleted or deleted twice,
  and every program object is accounted for
-/

namespace ShaderLoom
namespace Program

variable {σ : Type}

open Step

/-! ## The book along a step -/

/-- Something is known about the holdings of the program, and its book is in order as long as
the device hands out new objects only. -/
def Guarded (known : Holdings → Prop) (excused : ProgramHandle → Prop)
    (hand : List DeviceObject) : Assertion :=
  fun program events => known program.holdings ∧
    ((Trace.created events).Nodup → Sound excused hand program events)

/-- A program that has to be built from scratch holds no program object. -/
def Settled (holdings : Holdings) : Prop :=
  holdings.dirty = true → holdings.handle = none

/-- A program is only built if it holds no program object. -/
theorem Settled.handle_eq_none {program : Program} (settled : Settled program.holdings)
    (unbuilt : ¬(program.handle.isSome && !program.dirty) = true) : program.handle = none := by
  cases held : program.handle with
  | none => rfl
  | some handle =>
      rw [held, Option.isSome_some, Bool.true_and, Bool.not_eq_true,
        Bool.not_eq_false'] at unbuilt
      exact held.symm.trans (settled unbuilt)

section Guarded

variable {known known' : Holdings → Prop} {excused excused' : ProgramHandle → Prop}
  {hand hand' : List DeviceObject} {program program' : Program} {events : List Event}

theorem Guarded.imp (guarded : Guarded known excused hand program events)
    (weaker : known program.holdings → known' program'.holdings)
    (sound : Sound excused hand program events → Sound excused' hand' program' events) :
    Guarded known' excused' hand' program' events :=
  ⟨weaker guarded.1, fun fresh => sound (guarded.2 fresh)⟩

/-- Freshness of the objects so far follows from freshness of more objects. -/
theorem Guarded.concat (guarded : Guarded known excused hand program events) {event : Event}
    (sound : (Trace.created (events ++ [event])).Nodup → Sound excused hand program events →
      Sound excused' hand' program (events ++ [event])) :
    Guarded known excused' hand' program (events ++ [event]) := by
  refine ⟨guarded.1, fun fresh => sound fresh (guarded.2 ?_)⟩
  rw [Trace.created_concat] at fresh
  exact (List.nodup_append.mp fresh).1

/-- Shaders in the hand may be forgotten when a step fails. -/
theorem Guarded.settle (guarded : Guarded known excused hand program events)
    (settled : known program.holdings → Settled program.holdings)
    (shaders : ∀ handle, .program handle ∉ hand) :
    Guarded Settled excused [] program events := by
  refine guarded.imp settled fun sound => sound.shift ?_ sound.linked ?_ fun _ reason => reason
  · exact (List.sublist_append_right _ _).subperm
  · intro handle held
    exact .inl ((List.mem_append.mp held).resolve_left (shaders handle))

/-- There may be more excuses. -/
theorem Guarded.excuse (guarded : Guarded known excused hand program events)
    (excuses : ∀ handle, excused handle → excused' handle) :
    Guarded known excused' hand program events :=
  guarded.imp (fun knows => knows) fun sound =>
    sound.shift (List.Subperm.refl _) sound.linked (fun _ held => .inl held) excuses

/-- What is known besides the holdings may change. -/
theorem Guarded.congr (guarded : Guarded known excused hand program events)
    (same : program'.holdings = program.holdings) :
    Guarded known excused hand program' events :=
  guarded.imp (fun knows => same ▸ knows) fun sound => sound.congr same

/-- A call that passes objects which are held, and neither creates nor deletes. -/
theorem Guarded.pass (guarded : Guarded known excused hand program events) {request : Call}
    {reply : Except DeviceFault request.Answer}
    (creates : (Event.called request reply).creates = []) (deletes : request.deletes = [])
    (held : ∀ object ∈ request.objects, object ∈ hand ++ program.objects)
    (unused : ∀ used, request ≠ .useProgram used) :
    Guarded known excused hand program (events ++ [.called request reply]) :=
  guarded.concat fun _ sound =>
    sound.quiet creates deletes ((sound.permitted held unused).called reply)

/-- A call about the object in the hand. -/
theorem Guarded.inquire {object : DeviceObject}
    (guarded : Guarded known excused (object :: hand) program events) {request : Call}
    (subject : request.subject? = some object) (reply : Except DeviceFault request.Answer) :
    Guarded known excused (object :: hand) program (events ++ [.called request reply]) :=
  guarded.concat fun _ sound => sound.inquire subject List.mem_cons_self reply

theorem Guarded.ask (guarded : Guarded known excused hand program events) (lost : Bool) :
    Guarded known excused hand program (events ++ [.askedContextLost lost]) :=
  guarded.concat fun _ sound =>
    sound.quiet rfl rfl (Event.permitted_askedContextLost lost events)

/-- A call that hands out a new object. -/
theorem Guarded.create (guarded : Guarded known excused hand program events) {request : Call}
    {answer : request.Answer} {object : DeviceObject}
    (creates : (Event.called request (.ok answer)).creates = [object])
    (deletes : request.deletes = []) (objects : request.objects = [])
    (unused : ∀ used, request ≠ .useProgram used) :
    Guarded known excused (object :: hand) program (events ++ [.called request (.ok answer)]) :=
  guarded.concat fun fresh sound => sound.create creates deletes
    ((sound.permitted (by simp [objects]) unused).called _) fresh

/-- The object in the hand is deleted. -/
theorem Guarded.delete (object : DeviceObject)
    (guarded : Guarded known excused (object :: hand) program events)
    (reply : Except DeviceFault object.deletion.Answer) :
    Guarded known excused hand program (events ++ [.called object.deletion reply]) :=
  guarded.concat fun _ sound => sound.delete reply

end Guarded

/-! ## Points -/

/-- The holdings of a program that is being built. -/
structure Vacant (holdings : Holdings) : Prop where
  handle : holdings.handle = none
  dirty : holdings.dirty = false

theorem Vacant.settled {holdings : Holdings} (vacant : Vacant holdings) : Settled holdings :=
  fun _ => vacant.handle

/-- No program object is held. -/
def Detached (holdings : Holdings) : Prop :=
  holdings.handle = none

theorem Detached.settled {holdings : Holdings} (detached : Detached holdings) :
    Settled holdings :=
  fun _ => detached

/-- Nothing is held. -/
structure Bare (holdings : Holdings) : Prop where
  handle : holdings.handle = none
  vertexShader : holdings.vertexShader = none
  fragmentShader : holdings.fragmentShader = none

theorem Bare.settled {holdings : Holdings} (bare : Bare holdings) : Settled holdings :=
  fun _ => bare.handle

/-- A program object was created and the context was found lost, since some events. -/
def Lost (front events : List Event) (handle : ProgramHandle) : Prop :=
  Since front events (.called .createProgram (.ok handle)) ∧
    Since front events (.askedContextLost true)

/-- The book after a use that failed: program objects that the context took along are
excused. -/
def Forsaken (excused : ProgramHandle → Prop) (front : List Event) : Assertion :=
  fun program events =>
    Guarded Settled (fun handle => excused handle ∨ Lost front events handle) [] program events

/-- The book while the program is being built, since some events. -/
structure Underway (excused : ProgramHandle → Prop) (front : List Event)
    (hand : List DeviceObject) (program : Program) (events : List Event) : Prop where
  guarded : Guarded Vacant excused hand program events
  grown : front <+: events

/-- The book while a program object is being linked, which was created since some events. -/
structure Owning (excused : ProgramHandle → Prop) (front : List Event) (handle : ProgramHandle)
    (program : Program) (events : List Event) : Prop where
  guarded : Guarded Vacant excused [.program handle] program events
  created : Since front events (.called .createProgram (.ok handle))

/-- The book at each point of an operation on a program, since some events. -/
def GuardedAt (excused : ProgramHandle → Prop) (before : Program) (front : List Event) :
    Point → Assertion
  | .begun _ => fun program events =>
      Guarded Settled excused [] program events ∧ program = before ∧ front <+: events
  | .wanting _ => Underway excused front []
  | .compiling _ _ shader => Underway excused front [.shader shader]
  | .doubting _ shader => Underway excused front [.shader shader]
  | .rejecting _ shader => Underway excused front [.shader shader]
  | .linking handle => Owning excused front handle
  | .linked handle => fun program events =>
      Owning excused front handle program events ∧ handle ∈ Trace.linked events
  | .locating handle _ => fun program events =>
      Owning excused front handle program events ∧ handle ∈ Trace.linked events
  | .unlinked handle => Owning excused front handle
  | .examining handle => Owning excused front handle
  | .condemned handle => Owning excused front handle
  | .abandoning handle _ => Owning excused front handle
  | .deserting handle _ => Owning excused front handle
  | .unbuilt _ => Forsaken excused front
  | .ready => fun program events =>
      Guarded Settled excused [] program events ∧ program.handle.isSome = true
  | .dropping handle => Guarded Detached excused [.program handle]
  | .vacated => Guarded Detached excused []
  | .clearing shaders => Guarded Bare excused (shaders.map .shader)
  | .ended .invalidate _ =>
      Guarded Settled (fun handle => excused handle ∨ before.handle = some handle) []
  | .ended _ _ => Guarded Settled excused []
  | .failed .apply _ => Forsaken excused front
  | .failed _ _ => Guarded Settled excused []

section Points

variable {excused : ProgramHandle → Prop} {front events : List Event}
  {hand hand' : List DeviceObject} {before program program' : Program} {handle : ProgramHandle}

theorem Guarded.forsaken (guarded : Guarded Settled excused [] program events) :
    Forsaken excused front program events :=
  guarded.excuse fun _ => .inl

/-- A use that breaks off may forget the shader that it has in its hand. -/
theorem Guarded.breakOff (guarded : Guarded Vacant excused hand program events)
    (shaders : ∀ handle, .program handle ∉ hand) : Forsaken excused front program events :=
  (guarded.settle Vacant.settled shaders).forsaken

theorem Underway.next (underway : Underway excused front hand program events) {event : Event}
    (guarded : Guarded Vacant excused hand' program' (events ++ [event])) :
    Underway excused front hand' program' (events ++ [event]) :=
  ⟨guarded, underway.grown.trans (List.prefix_append _ _)⟩

theorem Owning.next (owning : Owning excused front handle program events) {event : Event}
    (guarded : Guarded Vacant excused [.program handle] program' (events ++ [event])) :
    Owning excused front handle program' (events ++ [event]) :=
  ⟨guarded, owning.created.mono (List.prefix_append _ _)⟩

theorem Owning.congr (owning : Owning excused front handle program events)
    (same : program'.holdings = program.holdings) :
    Owning excused front handle program' events :=
  ⟨owning.guarded.congr same, owning.created⟩

theorem Owning.inquire (owning : Owning excused front handle program events) {request : Call}
    (subject : request.subject? = some (.program handle))
    (reply : Except DeviceFault request.Answer) :
    Owning excused front handle program (events ++ [.called request reply]) :=
  owning.next (owning.guarded.inquire subject reply)

/-- A shader that the program holds is attached. -/
theorem Owning.attach (owning : Owning excused front handle program events) {stage : Stage}
    {shader : ShaderHandle} (held : program.shaderOf stage = some shader)
    (reply : Except DeviceFault (Call.attachShader handle shader).Answer) :
    Owning excused front handle program
      (events ++ [.called (.attachShader handle shader) reply]) := by
  refine owning.next (owning.guarded.pass rfl rfl ?_ (by rintro _ ⟨⟩))
  refine List.forall_mem_cons.mpr ⟨List.mem_cons_self, List.forall_mem_singleton.mpr ?_⟩
  exact List.mem_cons_of_mem _ (mem_objects_shader held)

/-- A shader that compiles goes to its place in the program, which was free. -/
theorem Guarded.keep {shader : ShaderHandle} {stage : Stage}
    (guarded : Guarded Vacant excused [.shader shader] program events)
    (missing : program.shaderOf stage = none) :
    Guarded Vacant excused [] (program.withShader shader stage) events := by
  refine guarded.imp (fun vacant => ?_) fun sound => ?_
  · cases stage <;> exact ⟨vacant.handle, vacant.dirty⟩
  · refine sound.exchange (objects_withShader missing shader) ?_
    rw [handle_withShader]
    exact sound.linked

/-- A program object that the program holds was found linked and not deleted. -/
theorem Guarded.use (guarded : Guarded Settled excused [] program events)
    (isSome : program.handle.isSome = true)
    (reply : Except DeviceFault (Call.useProgram program.handle).Answer) :
    Guarded Settled excused [] program
      (events ++ [.called (.useProgram program.handle) reply]) := by
  obtain ⟨handle, held⟩ := Option.isSome_iff_exists.mp isSome
  refine guarded.concat fun _ sound => sound.quiet rfl rfl (Call.Permitted.called ?_ reply)
  rw [held]
  refine ⟨List.forall_mem_singleton.mpr ?_, ?_⟩
  · exact (sound.live _ (mem_objects_program.mpr held)).2
  · rintro _ ⟨⟩
    exact ⟨handle, sound.linked handle held, rfl⟩

/-- A program object that the context took along is excused. -/
theorem Owning.lose (owning : Owning excused front handle program events) :
    Forsaken excused front program (events ++ [.askedContextLost true]) := by
  have created := owning.created.mono (List.prefix_append events [.askedContextLost true])
  refine (owning.guarded.ask true).imp Vacant.settled fun sound => ?_
  refine sound.shift (List.sublist_cons_self _ _).subperm sound.linked ?_
    fun _ reason => .inl reason
  intro other held
  rcases List.mem_cons.mp held with same | later
  · cases same
    exact .inr (.inr ⟨created, since_concat owning.created.grown _⟩)
  · exact .inl later

/-- Invalidating forgets a program object without deleting it. -/
theorem Guarded.invalidate (guarded : Guarded Settled excused [] program events) :
    Guarded Settled (fun handle => excused handle ∨ program.handle = some handle) []
      program.invalidate events := by
  unfold Program.invalidate
  split
  · exact guarded.excuse fun _ => .inl
  · refine guarded.imp (fun _ _ => rfl) fun sound => ?_
    refine sound.shift (List.nil_subperm) (by rintro _ ⟨⟩) ?_ fun _ reason => .inl reason
    exact fun handle held => .inr (.inr (mem_objects_program.mp held))

variable {point : Point}

theorem guardedAt_answered {request : Call} {next : request.Answer → Point × Program}
    (requests : Requests program point request next) (answer : request.Answer)
    (events : List Event) (holds : GuardedAt excused before front point program events) :
    GuardedAt excused before front (next answer).1 (next answer).2
      (events ++ [.called request (.ok answer)]) := by
  cases requests with
  | createShader => exact holds.next (holds.guarded.create rfl rfl rfl (by rintro _ ⟨⟩))
  | shaderSource => exact holds.next (holds.guarded.inquire rfl _)
  | compileShader => exact holds.next (holds.guarded.inquire rfl _)
  | compileStatus missing =>
      have asked := holds.next (holds.guarded.inquire rfl (.ok answer))
      cases answer with
      | false => exact asked
      | true => exact ⟨asked.guarded.keep missing, asked.grown⟩
  | shaderInfoLog => exact holds.next (holds.guarded.inquire rfl _)
  | discardShader =>
      exact ((holds.guarded.delete (.shader _) _).settle Vacant.settled (by simp)).congr rfl
  | createProgram =>
      exact ⟨holds.guarded.create rfl rfl rfl (by rintro _ ⟨⟩), since_concat holds.grown _⟩
  | attachShader held => exact holds.attach held _
  | linkProgram => exact holds.inquire rfl _
  | linkStatus =>
      cases answer with
      | false => exact holds.inquire rfl _
      | true =>
          refine ⟨holds.inquire rfl _, ?_⟩
          rw [Trace.linked, List.flatMap_append]
          exact List.mem_append_right _ List.mem_cons_self
  | validateProgram =>
      exact ⟨holds.1.inquire rfl _, Trace.mem_linked_mono (List.prefix_append _ _) holds.2⟩
  | uniformLocation =>
      exact ⟨(holds.1.inquire rfl _).congr rfl,
        Trace.mem_linked_mono (List.prefix_append _ _) holds.2⟩
  | attributeLocation =>
      exact ⟨(holds.1.inquire rfl _).congr rfl,
        Trace.mem_linked_mono (List.prefix_append _ _) holds.2⟩
  | programInfoLog => exact (holds.inquire rfl _).congr rfl
  | discardProgram =>
      exact (holds.guarded.delete (.program _) _).settle Vacant.settled (by simp)
  | useProgram => exact holds.1.use holds.2 _
  | deleteProgram => exact holds.delete (.program _) _
  | deleteShader => exact holds.delete (.shader _) _
  | setUniform => exact holds.1.pass rfl rfl (by rintro _ ⟨⟩) (by rintro _ ⟨⟩)

/-- Whatever call is refused, no program object is left in the hand without an owner. -/
theorem guardedAt_refused {request : Call} {next : request.Answer → Point × Program}
    (requests : Requests program point request next) (fault : DeviceFault)
    (events : List Event) (holds : GuardedAt excused before front point program events) :
    GuardedAt excused before front (point.broken (.deviceFault fault)) program
      (events ++ [.called request (.error fault)]) := by
  cases requests with
  | createShader =>
      exact (holds.guarded.pass rfl rfl (by rintro _ ⟨⟩) (by rintro _ ⟨⟩)).breakOff (by simp)
  | shaderSource => exact (holds.guarded.inquire rfl _).breakOff (by simp)
  | compileShader => exact (holds.guarded.inquire rfl _).breakOff (by simp)
  | compileStatus => exact (holds.guarded.inquire rfl _).breakOff (by simp)
  | shaderInfoLog => exact (holds.guarded.inquire rfl _).breakOff (by simp)
  | discardShader => exact (holds.guarded.delete (.shader _) _).breakOff (by simp)
  | createProgram =>
      exact (holds.guarded.pass rfl rfl (by rintro _ ⟨⟩) (by rintro _ ⟨⟩)).breakOff (by simp)
  | attachShader held => exact holds.attach held _
  | linkProgram => exact holds.inquire rfl _
  | linkStatus => exact holds.inquire rfl _
  | validateProgram => exact holds.1.inquire rfl _
  | uniformLocation => exact holds.1.inquire rfl _
  | attributeLocation => exact holds.1.inquire rfl _
  | programInfoLog => exact holds.inquire rfl _
  | discardProgram => exact (holds.guarded.delete (.program _) _).breakOff (by simp)
  | useProgram => exact (holds.1.use holds.2 _).forsaken
  | deleteProgram =>
      exact (holds.delete (.program _) _).settle Detached.settled (by simp)
  | deleteShader => exact (holds.delete (.shader _) _).settle Bare.settled (by simp)
  | setUniform => exact holds.1.pass rfl rfl (by rintro _ ⟨⟩) (by rintro _ ⟨⟩)

theorem guardedAt_asked {next : Bool → Point} (asks : Asks point next) (lost : Bool)
    (events : List Event) (holds : GuardedAt excused before front point program events) :
    GuardedAt excused before front (next lost) program
      (events ++ [.askedContextLost lost]) := by
  cases asks with
  | shader =>
      cases lost with
      | false => exact holds.next (holds.guarded.ask _)
      | true => exact (holds.guarded.ask _).breakOff (by simp)
  | program => cases lost <;> exact holds.next (holds.guarded.ask _)
  | owner =>
      cases lost with
      | false => exact holds.next (holds.guarded.ask _)
      | true => exact holds.lose

theorem guardedAt_shifted {next : Point} (shifts : Shifts program point next program')
    (events : List Event) (holds : GuardedAt excused before front point program events) :
    GuardedAt excused before front next program' events := by
  cases shifts with
  | skip => exact holds.1
  | reuse ordinary held => exact ⟨holds.1, held⟩
  | giveUp => exact holds.1
  | build ordinary unready =>
      refine ⟨holds.1.imp (fun settled => ⟨settled.handle_eq_none unready, rfl⟩)
        fun sound => ?_, holds.2.2⟩
      exact sound.exchange (List.Perm.refl _) sound.linked
  | keepShader => exact holds
  | conflict => exact holds.1.congr rfl
  | forget => exact ⟨holds.1.congr rfl, holds.2⟩
  | store =>
      obtain ⟨owning, found⟩ := holds
      have vacant : program.handle = none := owning.guarded.1.handle
      refine ⟨owning.guarded.imp (fun known dirty => ?_) fun sound => ?_, rfl⟩
      · exact absurd (known.dirty.symm.trans dirty) Bool.false_ne_true
      · refine sound.exchange (by simp [objects, vacant]) ?_
        rintro _ ⟨⟩
        exact found
  | breakOff => exact holds
  | invalidate =>
      obtain ⟨guarded, rfl, -⟩ := holds
      exact guarded.invalidate
  | vacant vacant => exact holds.1.imp (fun _ => vacant) fun sound => sound
  | drop held =>
      refine holds.1.imp (fun _ => rfl) fun sound => sound.exchange ?_ (by rintro _ ⟨⟩)
      simp [objects, held]
  | takeShaders =>
      have vacant : program.handle = none := holds.1
      refine holds.imp (fun vacant => ⟨vacant, rfl, rfl⟩) fun sound => ?_
      exact sound.exchange (by simp [objects, vacant]) sound.linked
  | reset =>
      have vacant : program.handle = none := holds.1.handle
      refine (holds.settle Bare.settled (by simp)).invalidate.excuse fun handle => ?_
      rw [vacant]
      exact fun reason => reason.resolve_right (by rintro ⟨⟩)
  | unknown => exact holds.1

/-- The book is kept by all that can happen in an operation. -/
theorem invariant_guardedAt (excused : ProgramHandle → Prop) (before : Program)
    (front : List Event) : Invariant (GuardedAt excused before front) where
  answered := guardedAt_answered
  refused := guardedAt_refused
  asked := guardedAt_asked
  deserted := fun reply _ holds =>
    (holds.guarded.delete (.program _) reply).breakOff (by simp)
  shifted := guardedAt_shifted

end Points

/-- The book along any operation: invalidating forgets the program object that was held, and a
use that fails may lose one with the context. -/
theorem guarded_step (device : Device σ) (operation : Operation)
    {excused : ProgramHandle → Prop} (before : Program) (front : List Event) :
    Triple (fun program events => Guarded Settled excused [] program events ∧ program = before ∧
        front <+: events)
      (operation.step device)
      (fun _ => Guarded Settled
        (fun handle => excused handle ∨
          operation = .invalidate ∧ before.handle = some handle) [])
      (fun _ program events => Guarded Settled
        (fun handle => excused handle ∨ operation = .apply ∧ Lost front events handle) []
        program events) := by
  refine ((invariant_guardedAt excused before front).step device operation).imp
    (fun _ _ holds => holds) (fun answer program events holds => ?_)
    fun error program events holds => ?_
  · cases operation with
    | invalidate => exact holds.excuse fun _ reason => reason.imp id fun held => ⟨rfl, held⟩
    | apply => exact holds.excuse fun _ => .inl
    | release => exact holds.excuse fun _ => .inl
    | setUniform name value => exact holds.excuse fun _ => .inl
  · cases operation with
    | apply => exact holds.excuse fun _ reason => reason.imp id fun lost => ⟨rfl, lost⟩
    | invalidate => exact holds.excuse fun _ => .inl
    | release => exact holds.excuse fun _ => .inl
    | setUniform name value => exact holds.excuse fun _ => .inl

/-! ## Histories -/

/-- An invalidation of a program that held a program object. -/
def Episode.Forgets (episode : Episode σ) (handle : ProgramHandle) : Prop :=
  episode.operation = .invalidate ∧ episode.before.program.handle = some handle

/-- A failed use that created a program object and found the context lost. -/
def Episode.Forsakes (episode : Episode σ) (handle : ProgramHandle) : Prop :=
  episode.operation = .apply ∧ (∃ error, episode.outcome = .error error) ∧
    .called .createProgram (.ok handle) ∈ episode.events ∧
    .askedContextLost true ∈ episode.events

/-- A program object was forgotten or lost in some episode. -/
def Excused (episodes : List (Episode σ)) (handle : ProgramHandle) : Prop :=
  (∃ episode ∈ episodes, episode.Forgets handle) ∨ ∃ episode ∈ episodes, episode.Forsakes handle

theorem Excused.concat {episodes : List (Episode σ)} {handle : ProgramHandle}
    (reason : Excused episodes handle) (episode : Episode σ) :
    Excused (episodes ++ [episode]) handle := by
  rcases reason with ⟨past, member, forgets⟩ | ⟨past, member, forsakes⟩
  · exact .inl ⟨past, List.mem_append_left _ member, forgets⟩
  · exact .inr ⟨past, List.mem_append_left _ member, forsakes⟩

/-- The book of a program that was not used yet. -/
theorem sound_of_bare {program : Program} (bare : Bare program.holdings) :
    Sound excused [] program [] := by
  have nothing : program.objects = [] := by
    have handle : program.handle = none := bare.handle
    have vertex : program.vertexShader = none := bare.vertexShader
    have fragment : program.fragmentShader = none := bare.fragmentShader
    simp [objects, handle, vertex, fragment]
  have handle : program.handle = none := bare.handle
  constructor
  · intro front call reply back split
    simp at split
  · exact .nil
  · rintro _ ⟨⟩
  · simp [nothing]
  · simp [nothing]
  · simp [handle]
  · rintro _ ⟨⟩

variable {device : Device σ} {episodes : List (Episode σ)} {bench : Bench σ}

/-- The book is in order after any history. -/
theorem History.guarded (history : History device episodes bench) :
    Guarded Settled (Excused episodes) [] bench.program bench.session.events := by
  induction history with
  | new initial state =>
      cases initial <;> exact ⟨fun _ => rfl, fun _ => sound_of_bare ⟨rfl, rfl, rfl⟩⟩
  | @next episodes bench past operation state ih =>
      have post := (guarded_step device operation bench.program bench.session.events).episode
        (bench.withDevice state) ⟨ih, rfl, List.prefix_rfl⟩
      cases outcome : (Episode.begin device operation (bench.withDevice state)).outcome with
      | ok answer =>
          rw [outcome] at post
          refine post.excuse fun handle reason => ?_
          rcases reason with past | forgets
          · exact past.concat _
          · exact .inl ⟨_, List.mem_append_right _ (List.mem_singleton_self _), forgets⟩
      | error error =>
          rw [outcome] at post
          refine post.excuse fun handle reason => ?_
          rcases reason with past | ⟨isApply, creation, asking⟩
          · exact past.concat _
          · exact .inr ⟨_, List.mem_append_right _ (List.mem_singleton_self _), isApply,
              ⟨error, outcome⟩, creation.mem_drop, asking.mem_drop⟩

/-- **The lifetimes of the objects of a program.**  Whatever is done with a program, and
whatever the device answers, as long as it hands out new objects only:

* no object is passed with a call after it was passed to its delete call, and only a program
  whose link status was answered with true is made current;
* no object is deleted twice;
* every program object that was ever created is held by the program, or was deleted once, or was
  forgotten by an invalidation, or was created by a use that failed and found the context
  lost. -/
theorem History.objects_accounted (history : History device episodes bench)
    (fresh : (Trace.created bench.session.events).Nodup) :
    (∀ front call reply back, bench.session.events = front ++ .called call reply :: back →
      (∀ object ∈ call.objects, object ∉ Trace.deleted front) ∧
      ∀ used, call = .useProgram used → ∃ handle ∈ Trace.linked front, used = some handle) ∧
    (Trace.deleted bench.session.events).Nodup ∧
    ∀ handle, .program handle ∈ Trace.created bench.session.events →
      bench.program.handle = some handle ∨
      (Trace.deleted bench.session.events).count (.program handle) = 1 ∨
      (∃ episode ∈ episodes, episode.Forgets handle) ∨
      ∃ episode ∈ episodes, episode.Forsakes handle := by
  have sound := history.guarded.2 fresh
  refine ⟨fun front call reply back split => ?_, sound.once, fun handle member => ?_⟩
  · have permitted := sound.orderly front call reply back split
    exact ⟨permitted.live, permitted.linked⟩
  · rcases sound.accounted handle member with held | gone | reason
    · exact .inl (mem_objects_program.mp held)
    · exact .inr (.inl (List.count_eq_one_of_mem sound.once gone))
    · exact .inr (.inr reason)

/-- A program is used, forgotten with its context, lost while it is linked, built again,
released and used once more. -/
def eventful : List (Operation × Script) :=
  [(.apply, {}), (.invalidate, {}),
    (.apply, { nextHandle := 4, failLink := true, context := .silent }),
    (.apply, { nextHandle := 7 }), (.release, {}), (.apply, { nextHandle := 8 })]

/-- Of four program objects, one was forgotten, one was lost, one was deleted and one is
held. -/
theorem History.objects_accounted_eventful :
    let last :=
      replay Script.device { name := "", vertexText := "", fragmentText := "" } {} eventful
    (Trace.created last.2.session.events).Nodup ∧
      Trace.deleted last.2.session.events = [.program ⟨7⟩, .shader ⟨4⟩, .shader ⟨5⟩] ∧
      ∀ handle, .program handle ∈ Trace.created last.2.session.events →
        last.2.program.handle = some handle ∨
        (Trace.deleted last.2.session.events).count (.program handle) = 1 ∨
        (∃ episode ∈ last.1, episode.Forgets handle) ∨
        ∃ episode ∈ last.1, episode.Forsakes handle := by
  intro last
  have fresh : (Trace.created last.2.session.events).Nodup := by decide +kernel
  have deleted : Trace.deleted last.2.session.events =
      [.program ⟨7⟩, .shader ⟨4⟩, .shader ⟨5⟩] := by decide +kernel
  have history := history_replay Script.device (.texts "" "" "") {} eventful
  exact ⟨fresh, deleted, (History.objects_accounted history fresh).2.2⟩

end Program
end ShaderLoom
