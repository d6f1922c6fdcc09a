import Mathlib.Data.List.Perm.Subperm
import ShaderLoom.Proofs.ProgramPoints

/-!
# Objects of a device

Shaders and programs are created by calls, passed with calls and deleted by calls, and all of
that can be read off the events.  `Call.Permitted` is the discipline for a single call: no
object that was passed to its delete call is passed again, and only programs that were found
linked are made current.

A program on its way holds its objects in two places: in its own record, and in the hand of the
step that is carried out.  `Program.Sound` says of the objects in both places that they were
created, were not deleted and are different, and keeps book of every program object that was
ever created: it is held, was deleted, or is excused.

## Main definitions

* `DeviceObject`, `Call.objects` — what is passed with a call
* `Event.creates`, `Event.deletes`, `Event.links` — what an event says about objects
* `Call.Permitted`, `Orderly` — the discipline of calls
* `Program.Sound` — the book of the objects of a program

## Main results

* `Program.Sound.quiet`, `Program.Sound.create`, `Program.Sound.delete` — the book after an
  event
* `Program.Sound.shift` — objects that change hands or are forgotten
-/

namespace ShaderLoom

/-- An object of a device. -/
inductive DeviceObject where
  | shader (handle : ShaderHandle)
  | program (handle : ProgramHandle)
  deriving DecidableEq

namespace Call

/-- The objects that are passed with a call. -/
def objects : Call → List DeviceObject
  | createShader _ => []
  | shaderSource shader _ => [.shader shader]
  | compileShader shader => [.shader shader]
  | shaderCompileStatus shader => [.shader shader]
  | shaderInfoLog shader => [.shader shader]
  | deleteShader shader => [.shader shader]
  | createProgram => []
  | attachShader program shader => [.program program, .shader shader]
  | linkProgram program => [.program program]
  | validateProgram program => [.program program]
  | programLinkStatus program => [.program program]
  | programInfoLog program => [.program program]
  | deleteProgram program => [.program program]
  | uniformLocation program _ => [.program program]
  | attributeLocation program _ => [.program program]
  | useProgram program => program.toList.map .program
  | setUniform _ _ => []

/-- The object that a call deletes. -/
def deletes : Call → List DeviceObject
  | deleteShader shader => [.shader shader]
  | deleteProgram program => [.program program]
  | _ => []

/-- The object of a call that is about one object, and neither deletes it nor makes it
current. -/
def subject? : Call → Option DeviceObject
  | shaderSource shader _ => some (.shader shader)
  | compileShader shader => some (.shader shader)
  | shaderCompileStatus shader => some (.shader shader)
  | shaderInfoLog shader => some (.shader shader)
  | linkProgram program => some (.program program)
  | validateProgram program => some (.program program)
  | programLinkStatus program => some (.program program)
  | programInfoLog program => some (.program program)
  | uniformLocation program _ => some (.program program)
  | attributeLocation program _ => some (.program program)
  | _ => none

end Call

/-- The call that deletes an object. -/
def DeviceObject.deletion : DeviceObject → Call
  | shader handle => .deleteShader handle
  | program handle => .deleteProgram handle

namespace Event

/-- The object that a device handed out. -/
def creates : Event → List DeviceObject
  | called (.createShader _) (.ok shader) => [.shader shader]
  | called .createProgram (.ok program) => [.program program]
  | _ => []

/-- The object that was passed to its delete call, whether the call was refused or not. -/
def deletes : Event → List DeviceObject
  | called call _ => call.deletes
  | askedContextLost _ => []

/-- The program whose link status was answered with true. -/
def links : Event → List ProgramHandle
  | called (.programLinkStatus program) (.ok true) => [program]
  | _ => []

end Event

/-! ## Traces -/

namespace Trace

/-- The objects that were created. -/
def created (events : List Event) : List DeviceObject :=
  events.flatMap Event.creates

/-- The objects that were passed to their delete call. -/
def deleted (events : List Event) : List DeviceObject :=
  events.flatMap Event.deletes

/-- The programs whose link status was answered with true. -/
def linked (events : List Event) : List ProgramHandle :=
  events.flatMap Event.links

@[simp] theorem created_concat (events : List Event) (event : Event) :
    created (events ++ [event]) = created events ++ event.creates := by
  simp [created]

@[simp] theorem deleted_concat (events : List Event) (event : Event) :
    deleted (events ++ [event]) = deleted events ++ event.deletes := by
  simp [deleted]

/-- A program that was found linked stays so. -/
theorem mem_linked_mono {earlier later : List Event} (grown : earlier <+: later)
    {program : ProgramHandle} (found : program ∈ linked earlier) : program ∈ linked later := by
  obtain ⟨own, rfl⟩ := grown
  rw [linked, List.flatMap_append]
  exact List.mem_append_left _ found

end Trace

/-- The discipline for a call after some events. -/
structure Call.Permitted (call : Call) (events : List Event) : Prop where
  /-- No object that was deleted is passed. -/
  live : ∀ object ∈ call.objects, object ∉ Trace.deleted events
  /-- Only a linked program is made current. -/
  linked : ∀ used, call = .useProgram used → ∃ program ∈ Trace.linked events,
    used = some program

/-- The discipline for an event after some events. -/
def Event.Permitted (event : Event) (events : List Event) : Prop :=
  ∀ call reply, event = .called call reply → call.Permitted events

theorem Call.Permitted.called {call : Call} {events : List Event}
    (permitted : call.Permitted events) (reply : Except DeviceFault call.Answer) :
    (Event.called call reply).Permitted events := by
  rintro _ _ ⟨⟩
  exact permitted

theorem Event.permitted_askedContextLost (lost : Bool) (events : List Event) :
    (Event.askedContextLost lost).Permitted events := by
  rintro _ _ ⟨⟩

/-- Every call was permitted when it was made. -/
def Orderly (events : List Event) : Prop :=
  ∀ front call reply back, events = front ++ .called call reply :: back → call.Permitted front

theorem Orderly.concat {events : List Event} (orderly : Orderly events) {event : Event}
    (permitted : event.Permitted events) :
    Orderly (events ++ [event]) := by
  intro front call reply back split
  rcases List.eq_nil_or_concat back with rfl | ⟨rest, last, rfl⟩
  · obtain ⟨same, final⟩ := List.append_inj' split rfl
    rw [← same]
    exact permitted call reply (List.singleton_inj.mp final)
  · rw [List.concat_eq_append, ← List.cons_append, ← List.append_assoc] at split
    exact orderly front call reply rest (List.append_inj' split rfl).1

/-! ## The book of a program -/

namespace Program

/-- What a program holds on the device, and whether that counts. -/
structure Holdings where
  handle : Option ProgramHandle
  vertexShader : Option ShaderHandle
  fragmentShader : Option ShaderHandle
  dirty : Bool

/-- The holdings of a program. -/
def holdings (program : Program) : Holdings :=
  { handle := program.handle
    vertexShader := program.vertexShader
    fragmentShader := program.fragmentShader
    dirty := program.dirty }

/-- The objects that a program holds. -/
def objects (program : Program) : List DeviceObject :=
  program.handle.toList.map .program ++
    (program.vertexShader.toList ++ program.fragmentShader.toList).map .shader

theorem mem_objects_program {program : Program} {handle : ProgramHandle} :
    .program handle ∈ program.objects ↔ program.handle = some handle := by
  simp [objects]

theorem mem_objects_shader {program : Program} {stage : Stage} {shader : ShaderHandle}
    (held : program.shaderOf stage = some shader) : .shader shader ∈ program.objects := by
  cases stage with
  | vertex => simp [objects, show program.vertexShader = some shader from held]
  | fragment => simp [objects, show program.fragmentShader = some shader from held]

theorem handle_withShader (program : Program) (shader : ShaderHandle) (stage : Stage) :
    (program.withShader shader stage).handle = program.handle := by
  cases stage <;> rfl

/-- A new shader joins the objects of a program that had none for the stage. -/
theorem objects_withShader {program : Program} {stage : Stage}
    (missing : program.shaderOf stage = none) (shader : ShaderHandle) :
    (program.withShader shader stage).objects.Perm (.shader shader :: program.objects) := by
  cases stage with
  | vertex =>
      simp [objects, withShader, show program.vertexShader = none from missing]
  | fragment =>
      simp only [objects, withShader, show program.fragmentShader = none from missing,
        Option.toList_some, Option.toList_none, List.map_append, List.map_cons, List.map_nil,
        List.append_nil]
      rw [← List.append_assoc]
      exact List.perm_append_singleton _ _

/-- The book of the objects of a program, with those in the hand of a step.  Program objects
that are neither held nor deleted are excused. -/
structure Sound (excused : ProgramHandle → Prop) (hand : List DeviceObject) (program : Program)
    (events : List Event) : Prop where
  orderly : Orderly events
  once : (Trace.deleted events).Nodup
  known : ∀ object ∈ Trace.deleted events, object ∈ Trace.created events
  distinct : (hand ++ program.objects).Nodup
  live : ∀ object ∈ hand ++ program.objects,
    object ∈ Trace.created events ∧ object ∉ Trace.deleted events
  linked : ∀ handle ∈ program.handle, handle ∈ Trace.linked events
  accounted : ∀ handle, .program handle ∈ Trace.created events →
    .program handle ∈ hand ++ program.objects ∨ .program handle ∈ Trace.deleted events ∨
      excused handle

namespace Sound

variable {excused excused' : ProgramHandle → Prop} {hand hand' : List DeviceObject}
  {program program' : Program} {events : List Event}

/-- A call that only passes objects that are held is permitted, unless it makes a program
current. -/
theorem permitted (sound : Sound excused hand program events) {call : Call}
    (held : ∀ object ∈ call.objects, object ∈ hand ++ program.objects)
    (unused : ∀ used, call ≠ .useProgram used) : call.Permitted events where
  live := fun object passed => (sound.live object (held object passed)).2
  linked := fun used isUse => absurd isUse (unused used)

/-- An event that neither creates nor deletes. -/
theorem quiet (sound : Sound excused hand program events) {event : Event}
    (creates : event.creates = []) (deletes : event.deletes = [])
    (permitted : event.Permitted events) :
    Sound excused hand program (events ++ [event]) where
  orderly := sound.orderly.concat permitted
  once := by simpa [deletes] using sound.once
  known := by simpa [creates, deletes] using sound.known
  distinct := sound.distinct
  live := by simpa [creates, deletes] using sound.live
  linked := fun handle held =>
    Trace.mem_linked_mono (List.prefix_append _ _) (sound.linked handle held)
  accounted := by simpa [creates, deletes] using sound.accounted

/-- A call about an object that is held. -/
theorem inquire (sound : Sound excused hand program events) {call : Call}
    {object : DeviceObject} (subject : call.subject? = some object)
    (held : object ∈ hand ++ program.objects) (reply : Except DeviceFault call.Answer) :
    Sound excused hand program (events ++ [.called call reply]) := by
  have quiet : (Event.called call reply).creates = [] ∧ call.deletes = [] ∧
      call.objects = [object] ∧ ∀ used, call ≠ .useProgram used := by
    cases call <;> cases subject <;> exact ⟨rfl, rfl, rfl, by rintro _ ⟨⟩⟩
  obtain ⟨creates, deletes, objects, unused⟩ := quiet
  refine sound.quiet creates deletes ((sound.permitted ?_ unused).called reply)
  rw [objects]
  exact List.forall_mem_singleton.mpr held

/-- A new object comes into the hand.  Since it was never seen before, it was not deleted
either. -/
theorem create (sound : Sound excused hand program events) {event : Event}
    {object : DeviceObject} (creates : event.creates = [object]) (deletes : event.deletes = [])
    (permitted : event.Permitted events)
    (fresh : (Trace.created (events ++ [event])).Nodup) :
    Sound excused (object :: hand) program (events ++ [event]) := by
  rw [Trace.created_concat, creates] at fresh
  have unseen : object ∉ Trace.created events := fun seen =>
    (List.nodup_append.mp fresh).2.2 object seen object (List.mem_singleton_self object) rfl
  have undeleted : object ∉ Trace.deleted events := fun gone => unseen (sound.known object gone)
  refine
    { orderly := sound.orderly.concat permitted
      once := by simpa [deletes] using sound.once
      known := ?_
      distinct :=
        List.nodup_cons.mpr ⟨fun held => unseen (sound.live object held).1, sound.distinct⟩
      live := ?_
      linked := fun handle held =>
        Trace.mem_linked_mono (List.prefix_append _ _) (sound.linked handle held)
      accounted := ?_ }
  · intro gone member
    rw [Trace.deleted_concat, deletes, List.append_nil] at member
    rw [Trace.created_concat]
    exact List.mem_append_left _ (sound.known gone member)
  · intro held member
    rw [Trace.created_concat, creates, Trace.deleted_concat, deletes, List.append_nil]
    rcases List.mem_cons.mp member with rfl | old
    · exact ⟨List.mem_append_right _ (List.mem_singleton_self _), undeleted⟩
    · exact ⟨List.mem_append_left _ (sound.live held old).1, (sound.live held old).2⟩
  · intro handle member
    rw [Trace.created_concat, creates] at member
    rw [Trace.deleted_concat, deletes, List.append_nil, List.cons_append]
    rcases List.mem_append.mp member with old | new
    · exact (sound.accounted handle old).imp (List.mem_cons_of_mem _) id
    · exact .inl (List.mem_cons.mpr (.inl (List.mem_singleton.mp new)))

/-- An object in the hand is deleted. -/
theorem delete {object : DeviceObject} (sound : Sound excused (object :: hand) program events)
    (reply : Except DeviceFault object.deletion.Answer) :
    Sound excused hand program (events ++ [.called object.deletion reply]) := by
  have creates : (Event.called object.deletion reply).creates = [] := by cases object <;> rfl
  have deletes : (Event.called object.deletion reply).deletes = [object] := by
    cases object <;> rfl
  have permitted : (Event.called object.deletion reply).Permitted events := by
    refine (sound.permitted ?_ ?_).called reply
    · cases object <;> exact List.forall_mem_singleton.mpr List.mem_cons_self
    · cases object <;> rintro _ ⟨⟩
  have ⟨wasCreated, undeleted⟩ := sound.live object List.mem_cons_self
  have ⟨outside, distinct⟩ := List.nodup_cons.mp sound.distinct
  refine
    { orderly := sound.orderly.concat permitted
      once := ?_
      known := ?_
      distinct := distinct
      live := ?_
      linked := fun handle held =>
        Trace.mem_linked_mono (List.prefix_append _ _) (sound.linked handle held)
      accounted := ?_ }
  · rw [Trace.deleted_concat, deletes]
    refine List.nodup_append.mpr
      ⟨sound.once, List.nodup_cons.mpr ⟨List.not_mem_nil, .nil⟩, fun gone old last new => ?_⟩
    rw [List.mem_singleton.mp new]
    exact fun same => undeleted (same ▸ old)
  · intro gone member
    rw [Trace.deleted_concat, deletes] at member
    rw [Trace.created_concat, creates, List.append_nil]
    rcases List.mem_append.mp member with old | new
    · exact sound.known gone old
    · exact List.mem_singleton.mp new ▸ wasCreated
  · intro held member
    have ⟨seen, alive⟩ := sound.live held (List.mem_cons_of_mem _ member)
    rw [Trace.created_concat, creates, List.append_nil, Trace.deleted_concat, deletes]
    refine ⟨seen, fun gone => ?_⟩
    rcases List.mem_append.mp gone with old | new
    · exact alive old
    · exact outside (List.mem_singleton.mp new ▸ member)
  · intro handle member
    rw [Trace.created_concat, creates, List.append_nil] at member
    rw [Trace.deleted_concat, deletes]
    rcases sound.accounted handle member with held | gone | reason
    · rcases List.mem_cons.mp held with same | later
      · exact .inr (.inl (List.mem_append_right _ (List.mem_singleton.mpr same)))
      · exact .inl later
    · exact .inr (.inl (List.mem_append_left _ gone))
    · exact .inr (.inr reason)

/-- Objects change hands between a step and the program, or are forgotten.  Program objects that
are forgotten have to be excused. -/
theorem shift (sound : Sound excused hand program events)
    (fewer : (hand' ++ program'.objects).Subperm (hand ++ program.objects))
    (linked : ∀ handle ∈ program'.handle, handle ∈ Trace.linked events)
    (kept : ∀ handle, .program handle ∈ hand ++ program.objects →
      .program handle ∈ hand' ++ program'.objects ∨ excused' handle)
    (excuses : ∀ handle, excused handle → excused' handle) :
    Sound excused' hand' program' events where
  orderly := sound.orderly
  once := sound.once
  known := sound.known
  distinct := by
    obtain ⟨held, reordered, included⟩ := fewer
    exact reordered.nodup_iff.mp (sound.distinct.sublist included)
  live := fun object member => sound.live object (fewer.subset member)
  linked := linked
  accounted := by
    intro handle member
    rcases sound.accounted handle member with held | gone | reason
    · exact (kept handle held).imp id .inr
    · exact .inr (.inl gone)
    · exact .inr (.inr (excuses handle reason))

/-- Objects change hands, and none is forgotten. -/
theorem exchange (sound : Sound excused hand program events)
    (same : (hand' ++ program'.objects).Perm (hand ++ program.objects))
    (linked : ∀ handle ∈ program'.handle, handle ∈ Trace.linked events) :
    Sound excused hand' program' events :=
  sound.shift same.subperm linked (fun _ held => .inl (same.mem_iff.mpr held))
    fun _ reason => reason

/-- Nothing but the holdings of a program matters. -/
theorem congr (sound : Sound excused hand program events)
    (same : program'.holdings = program.holdings) : Sound excused hand program' events := by
  obtain ⟨handle, vertex, fragment, -⟩ := Holdings.mk.inj same
  refine sound.exchange ?_ ?_
  · rw [objects, objects, handle, vertex, fragment]
  · rw [handle]
    exact sound.linked

end Sound
end Program
end ShaderLoom
