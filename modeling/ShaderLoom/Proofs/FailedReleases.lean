import Mathlib.Data.List.Forall2
import ShaderLoom.Gpu.Cache
import ShaderLoom.Gpu.Scripted
import ShaderLoom.Proofs.BuildVerdicts

/-!
# Releases that fail

A release deletes the objects of a program one after the other, and stops at the first delete
call that is refused.  A release of all programs stops with it.  What was not deleted until then
should still be held, so that the release can be repeated.

It is, with one exception.  Both shaders are taken out of a program before the first of them is
deleted, so that a refused delete call of the vertex shader leaves the fragment shader neither
held nor deleted (`ProgramCache.releaseAll_drops_fragment`).  Nothing else gets lost: the
objects that were held before are those that were deleted, that fragment shader, and those that
are still held, in this order.

## Main definitions

* `Program.Lapse` — what a release that failed has lost
* `Program.Interrupted` — a program whose release failed
* `Program.ReleasedAt` — what was deleted at each point of a release
* `ProgramCache.Halts` — programs of which one could not be released

## Main results

* `Program.release_ends` — what comes of releasing a program
* `ProgramCache.releasePrograms_ends` — what comes of releasing many
* `ProgramCache.release_retains` — a release that fails loses at most one shader and can be
  repeated
-/

namespace ShaderLoom

theorem Trace.deleted_append (earlier later : List Event) :
    deleted (earlier ++ later) = deleted earlier ++ deleted later :=
  List.flatMap_append

namespace Program

variable {σ : Type}

open Step

/-! ## One program -/

/-- What a release of a program has lost, by the events since it began.  Nothing is lost unless
the last event is a refused delete call of the vertex shader. -/
inductive Lapse (start : Program) (own : List Event) : List DeviceObject → Prop where
  | none : Lapse start own []
  | fragmentShader {vertex fragment : ShaderHandle} {fault : DeviceFault}
      (deleted : start.vertexShader = some vertex)
      (taken : start.fragmentShader = some fragment)
      (refused : own.getLast? = some (.called (.deleteShader vertex) (.error fault))) :
      Lapse start own [.shader fragment]

/-- The release of a program ended with a refused call.  What was held is what was deleted, what
was lost and what is still held. -/
structure Interrupted (start : Program) (lost : List DeviceObject) (program : Program)
    (own : List Event) : Prop where
  objects : start.objects = Trace.deleted own ++ (lost ++ program.objects)
  created : Trace.created own = []
  lapse : Lapse start own lost
  refused : ∃ call fault, own.getLast? = some (.called call (.error fault))

/-- The release of a program came to its end. -/
structure Emptied (start program : Program) (own : List Event) : Prop where
  deleted : Trace.deleted own = start.objects
  created : Trace.created own = []
  bare : program.objects = []

/-- A program without its objects. -/
def stripped (program : Program) : Program :=
  { program with handle := none, vertexShader := none, fragmentShader := none }

/-- The objects of a program in the order in which they are deleted. -/
theorem objects_eq (program : Program) : program.objects = program.handle.toList.map .program ++
    (program.vertexShader.toList.map .shader ++ program.fragmentShader.toList.map .shader) := by
  rw [objects, List.map_append]

theorem objects_stripped (program : Program) : program.stripped.objects = [] :=
  rfl

theorem objects_invalidate_stripped (program : Program) :
    program.stripped.invalidate.objects = [] := by
  unfold invalidate
  split <;> rfl

/-- A release on its way: what the program has become, and what was deleted so far. -/
structure Clearing (current : Program) (gone : List DeviceObject) (program : Program)
    (own : List Event) : Prop where
  same : program = current
  deleted : Trace.deleted own = gone
  created : Trace.created own = []

/-- An object is deleted, whether the call is refused or not. -/
theorem Clearing.delete {current program : Program} {gone : List DeviceObject}
    {own : List Event} (clearing : Clearing current gone program own) (object : DeviceObject)
    (reply : Except DeviceFault object.deletion.Answer) :
    Clearing current (gone ++ [object]) program (own ++ [.called object.deletion reply]) where
  same := clearing.same
  deleted := by
    rw [Trace.deleted_concat, clearing.deleted]
    cases object <;> rfl
  created := by
    rw [Trace.created_concat, clearing.created]
    cases object <;> rfl

/-- A release at each of its points.  The shaders that are deleted and those that are still to
be deleted are the shaders that the program had. -/
def ReleasedAt (start : Program) : Point → Assertion
  | .begun _ => fun program own => program = start ∧ own = []
  | .dropping handle => fun program own =>
      Clearing { start with handle := none } [] program own ∧ start.handle = some handle
  | .vacated => Clearing { start with handle := none } (start.handle.toList.map .program)
  | .clearing shaders => fun program own => ∃ deleted,
      Clearing start.stripped
        (start.handle.toList.map .program ++ deleted.map .shader) program own ∧
      start.vertexShader.toList ++ start.fragmentShader.toList = deleted ++ shaders
  | .ended .release _ => fun program own => Emptied start program own
  | .failed .release _ => fun program own => ∃ lost, Interrupted start lost program own
  | _ => fun _ _ => True

section Releasing

variable {start program : Program} {point : Point} {own : List Event}

/-- The program object goes first.  If that is refused, the shaders are still there. -/
theorem Clearing.keepShaders {handle : ProgramHandle} {fault : DeviceFault}
    (clearing : Clearing { start with handle := none } [] program own)
    (held : start.handle = some handle) :
    Interrupted start [] program (own ++ [.called (.deleteProgram handle) (.error fault)]) := by
  obtain ⟨rfl, deleted, created⟩ := clearing.delete (.program handle) (.error fault)
  refine ⟨Eq.trans ?_ (congrArg (· ++ _) deleted).symm, created, .none, _, _,
    List.getLast?_concat⟩
  rw [objects, held]
  rfl

/-- Only a fragment shader comes after another shader. -/
theorem Lapse.of_later {shader : ShaderHandle} {deleted later : List ShaderHandle}
    {fault : DeviceFault}
    (shaders : start.vertexShader.toList ++ start.fragmentShader.toList =
      deleted ++ shader :: later)
    (refused : own.getLast? = some (.called (.deleteShader shader) (.error fault))) :
    Lapse start own (later.map .shader) := by
  cases later with
  | nil => exact .none
  | cons fragment later =>
      -- There are at most two shaders, so that the first of them was refused.
      have length := congrArg List.length shaders
      rw [List.length_append, List.length_append, List.length_cons, List.length_cons] at length
      have once (stage : Option ShaderHandle) : stage.toList.length ≤ 1 :=
        Option.length_toList_le
      have atMostOne := once start.vertexShader
      have atMostOther := once start.fragmentShader
      obtain rfl : deleted = [] := List.eq_nil_of_length_eq_zero (by omega)
      obtain rfl : later = [] := List.eq_nil_of_length_eq_zero (by omega)
      cases isVertex : start.vertexShader with
      | none =>
          rw [isVertex, Option.toList_none, List.length_nil] at length
          omega
      | some vertex =>
          cases isFragment : start.fragmentShader with
          | none =>
              rw [isFragment, Option.toList_none, List.length_nil] at length
              omega
          | some last =>
              rw [isVertex, isFragment] at shaders
              obtain ⟨rfl, rfl⟩ : vertex = shader ∧ last = fragment := by simpa using shaders
              exact .fragmentShader isVertex isFragment refused

/-- A release that is refused to delete a shader loses those that come after it. -/
theorem Clearing.interrupted {shader : ShaderHandle} {deleted later : List ShaderHandle}
    {fault : DeviceFault}
    (clearing : Clearing start.stripped
      (start.handle.toList.map .program ++ deleted.map .shader) program own)
    (shaders : start.vertexShader.toList ++ start.fragmentShader.toList =
      deleted ++ shader :: later) :
    Interrupted start (later.map .shader) program
      (own ++ [.called (.deleteShader shader) (.error fault)]) := by
  obtain ⟨rfl, gone, created⟩ := clearing.delete (.shader shader) (.error fault)
  refine ⟨?_, created, .of_later shaders List.getLast?_concat, _, _, List.getLast?_concat⟩
  refine Eq.trans ?_ (congrArg (· ++ _) gone).symm
  rw [objects, shaders, objects_stripped, List.append_nil]
  simp

theorem releasedAt_answered {request : Call} {next : request.Answer → Point × Program}
    (requests : Requests program point request next) (answer : request.Answer)
    (own : List Event) (holds : ReleasedAt start point program own) :
    ReleasedAt start (next answer).1 (next answer).2
      (own ++ [.called request (.ok answer)]) := by
  cases requests with
  | @deleteProgram handle =>
      have cleared := holds.1.delete (.program handle) (.ok answer)
      rw [List.nil_append, show [DeviceObject.program handle] =
        start.handle.toList.map .program by rw [holds.2]; rfl] at cleared
      exact cleared
  | @deleteShader shader later =>
      obtain ⟨deleted, clearing, shaders⟩ := holds
      refine ⟨deleted ++ [shader], ?_, by rw [← List.append_cons]; exact shaders⟩
      rw [List.map_append, ← List.append_assoc]
      exact clearing.delete (.shader shader) (.ok answer)
  | compileStatus => cases answer <;> trivial
  | linkStatus => cases answer <;> trivial
  | _ => trivial

theorem releasedAt_refused {request : Call} {next : request.Answer → Point × Program}
    (requests : Requests program point request next) (fault : DeviceFault) (own : List Event)
    (holds : ReleasedAt start point program own) :
    ReleasedAt start (point.broken (.deviceFault fault)) program
      (own ++ [.called request (.error fault)]) := by
  cases requests with
  | deleteProgram => exact ⟨[], holds.1.keepShaders holds.2⟩
  | deleteShader =>
      obtain ⟨deleted, clearing, shaders⟩ := holds
      exact ⟨_, clearing.interrupted shaders⟩
  | _ => trivial

theorem releasedAt_shifted {program' : Program} {next : Point}
    (shifts : Shifts program point next program') (own : List Event)
    (holds : ReleasedAt start point program own) : ReleasedAt start next program' own := by
  cases shifts with
  | vacant vacant =>
      obtain ⟨rfl, rfl⟩ := holds
      refine ⟨?_, by rw [vacant]; rfl, rfl⟩
      cases program
      cases vacant
      rfl
  | drop held =>
      obtain ⟨rfl, rfl⟩ := holds
      exact ⟨⟨rfl, rfl, rfl⟩, held⟩
  | takeShaders =>
      obtain ⟨rfl, deleted, created⟩ := holds
      exact ⟨[], ⟨rfl, by rw [List.map_nil, List.append_nil]; exact deleted, created⟩, rfl⟩
  | reset =>
      obtain ⟨all, ⟨rfl, deleted, created⟩, shaders⟩ := holds
      refine ⟨?_, created, objects_invalidate_stripped start⟩
      rw [deleted, objects, shaders, List.append_nil]
  | _ => trivial

/-- What is known about a release is kept by all that can happen in it. -/
theorem invariant_releasedAt (start : Program) : Invariant (ReleasedAt start) where
  answered := releasedAt_answered
  refused := releasedAt_refused
  asked := fun asks lost _ _ => by cases asks <;> cases lost <;> trivial
  deserted := fun _ _ _ => trivial
  shifted := releasedAt_shifted

end Releasing

theorem Lapse.append {start : Program} {more : List Event} {lost : List DeviceObject}
    (lapse : Lapse start more lost) (own : List Event) : Lapse start (own ++ more) lost := by
  cases lapse with
  | none => exact .none
  | fragmentShader deleted taken refused =>
      have last : (own ++ more).getLast? = more.getLast? := by
        rw [List.getLast?_append, refused, Option.some_or]
      exact .fragmentShader deleted taken (last.trans refused)

end Program

/-- The events of a session since an earlier one. -/
def Session.since {σ : Type} (earlier later : Session σ) : List Event :=
  later.events.drop earlier.events.length

theorem Session.since_eq {σ : Type} {earlier later : Session σ} {own : List Event}
    (grown : later.events = earlier.events ++ own) : earlier.since later = own := by
  rw [since, grown, List.drop_left]

/-- Releasing a program either empties it or is interrupted. -/
theorem Program.release_ends {σ : Type} (device : Device σ) (program : Program)
    (session : Session σ) :
    let ended := (release device).on { program, session }
    ∃ own, ended.2.session.events = session.events ++ own ∧
      (ended.1 = .ok () → Emptied program ended.2.program own) ∧
      ∀ error, ended.1 = .error error →
      ∃ lost, Interrupted program lost ended.2.program own := by
  intro ended
  have invariant := (invariant_releasedAt program).after session.events
  have post := (invariant.release device { program, session } (Step.after_nil ⟨rfl, rfl⟩)).2
  change Step.Post _ _ ended.1 ended.2.program ended.2.session.events at post
  generalize ended = result at post
  obtain ⟨error | ⟨⟩, bench⟩ := result
  · obtain ⟨own, grown, interrupted⟩ := post
    exact ⟨own, grown, by rintro ⟨⟩, fun _ _ => interrupted⟩
  · obtain ⟨own, grown, emptied⟩ := post
    exact ⟨own, grown, fun _ => emptied, by rintro _ ⟨⟩⟩

namespace ProgramCache

open Program (Emptied Interrupted Lapse)

variable {σ : Type}

/-! ## Many programs -/

/-- Programs were released one after the other until one of them could not be.  Those before it
are emptied, and those after it are as they were. -/
inductive Halts (lost : List DeviceObject) :
    List Program → List Program → List Event → Prop where
  | here {start program : Program} {own : List Event}
      (interrupted : Interrupted start lost program own) (later : List Program) :
      Halts lost (start :: later) (program :: later) own
  | later {start program : Program} {before after : List Program} {own more : List Event}
      (emptied : Emptied start program own) (halts : Halts lost before after more) :
      Halts lost (start :: before) (program :: after) (own ++ more)

/-- All programs were released. -/
structure Clears (before after : List Program) (own : List Event) : Prop where
  deleted : Trace.deleted own = before.flatMap Program.objects
  bare : ∀ program ∈ after, program.objects = []

namespace Halts

variable {lost : List DeviceObject} {before after : List Program} {own : List Event}

theorem objects (halts : Halts lost before after own) : before.flatMap Program.objects =
    Trace.deleted own ++ (lost ++ after.flatMap Program.objects) := by
  induction halts with
  | here interrupted later =>
      simp only [List.flatMap_cons, interrupted.objects, List.append_assoc]
  | later emptied halts ih =>
      rw [List.flatMap_cons, List.flatMap_cons, ih, ← emptied.deleted, emptied.bare,
        Trace.deleted_append, List.nil_append, List.append_assoc]

theorem lapse (halts : Halts lost before after own) :
    ∃ start ∈ before, Lapse start own lost := by
  induction halts with
  | here interrupted later => exact ⟨_, List.mem_cons_self, interrupted.lapse⟩
  | later emptied halts ih =>
      obtain ⟨start, member, lapse⟩ := ih
      exact ⟨start, List.mem_cons_of_mem _ member, lapse.append _⟩

theorem refused (halts : Halts lost before after own) :
    ∃ call fault, own.getLast? = some (.called call (.error fault)) := by
  induction halts with
  | here interrupted later => exact interrupted.refused
  | later emptied halts ih =>
      obtain ⟨call, fault, last⟩ := ih
      exact ⟨call, fault, by rw [List.getLast?_append, last, Option.some_or]⟩

/-- What was held by a program and neither deleted nor lost is still held by this program. -/
theorem kept (halts : Halts lost before after own) :
    List.Forall₂ (fun start program => ∀ object ∈ Program.objects start,
      object ∈ Trace.deleted own ∨ object ∈ lost ∨ object ∈ program.objects) before after := by
  induction halts with
  | here interrupted later =>
      refine .cons (fun object held => ?_)
        (List.forall₂_same.mpr fun _ _ _ held => .inr (.inr held))
      rw [interrupted.objects] at held
      exact (List.mem_append.mp held).imp id List.mem_append.mp
  | later emptied halts ih =>
      refine .cons (fun object held => .inl ?_)
        (ih.imp fun start program fates object held => ?_)
      · rw [Trace.deleted_append, emptied.deleted]
        exact List.mem_append_left _ held
      · rw [Trace.deleted_append]
        exact (fates object held).imp (List.mem_append_right _) id

end Halts

/-- Releasing programs either clears them all or halts at one of them. -/
theorem releasePrograms_ends (device : Device σ) (programs : List Program)
    (session : Session σ) :
    let ended := releasePrograms device programs session
    ∃ own, ended.2.2.events = session.events ++ own ∧
      (ended.1 = .ok () → Clears programs ended.2.1 own) ∧
      ∀ error, ended.1 = .error error → ∃ lost, Halts lost programs ended.2.1 own := by
  induction programs generalizing session with
  | nil =>
      exact ⟨[], (List.append_nil _).symm, fun _ => ⟨rfl, by simp [releasePrograms]⟩,
        by rintro _ ⟨⟩⟩
  | cons program rest ih =>
      obtain ⟨own, grown, emptied, interrupted⟩ := Program.release_ends device program session
      intro ended
      have unfolded : ended = releasePrograms device (program :: rest) session := rfl
      rw [releasePrograms] at unfolded
      generalize (Program.release device).on { program, session } = result
        at grown emptied interrupted unfolded
      obtain ⟨error | ⟨⟩, bench⟩ := result
      · rw [unfolded]
        obtain ⟨lost, interrupted⟩ := interrupted error rfl
        exact ⟨own, grown, by rintro ⟨⟩, fun _ _ => ⟨lost, .here interrupted rest⟩⟩
      · have emptied := emptied rfl
        obtain ⟨more, further, clears, halts⟩ := ih bench.session
        rw [unfolded]
        refine ⟨own ++ more, ?_, fun done => ?_, fun error failed => ?_⟩
        · rw [← List.append_assoc, ← grown]
          exact further
        · obtain ⟨deleted, bare⟩ := clears done
          refine ⟨?_, List.forall_mem_cons.mpr ⟨emptied.bare, bare⟩⟩
          rw [Trace.deleted_append, emptied.deleted, deleted, List.flatMap_cons]
        · obtain ⟨lost, halts⟩ := halts error failed
          exact ⟨lost, .later emptied halts⟩

/-- A refused call is among the events. -/
theorem not_unrefused {own : List Event} (unrefused : ∀ event ∈ own, event.refuses = false)
    {call : Call} {fault : DeviceFault} : own.getLast? ≠ some (.called call (.error fault)) :=
  fun last => Bool.false_ne_true (unrefused _ (List.mem_of_getLast? last)).symm

/-- A device that refuses no call lets a program be released. -/
theorem release_of_unrefused (device : Device σ) (program : Program) (session : Session σ)
    (unrefused : ∀ event ∈
      session.since ((Program.release device).on { program, session }).2.session,
      event.refuses = false) :
    let ended := (Program.release device).on { program, session }
    ended.1 = .ok () ∧ Emptied program ended.2.program (session.since ended.2.session) := by
  obtain ⟨own, grown, emptied, interrupted⟩ := Program.release_ends device program session
  rw [Session.since_eq grown] at unrefused
  intro ended
  rw [Session.since_eq grown]
  cases outcome : ended.1 with
  | ok => exact ⟨rfl, emptied outcome⟩
  | error error =>
      obtain ⟨lost, interrupted⟩ := interrupted error outcome
      obtain ⟨call, fault, last⟩ := interrupted.refused
      exact absurd last (not_unrefused unrefused)

/-- A device that refuses no call lets all programs be released. -/
theorem releaseAll_of_unrefused (device : Device σ) (cache : ProgramCache) (session : Session σ)
    (unrefused : ∀ event ∈ session.since (cache.releaseAll device session).2.2,
      event.refuses = false) :
    let ended := cache.releaseAll device session
    ended.1 = .ok () ∧ Clears cache.programs ended.2.1.programs (session.since ended.2.2) := by
  obtain ⟨own, grown, clears, halts⟩ := releasePrograms_ends device cache.programs session
  have since : session.since (cache.releaseAll device session).2.2 = own :=
    Session.since_eq grown
  rw [since] at unrefused
  intro ended
  rw [since]
  cases outcome : ended.1 with
  | ok => exact ⟨rfl, clears outcome⟩
  | error error =>
      obtain ⟨lost, halts⟩ := halts error outcome
      obtain ⟨call, fault, last⟩ := halts.refused
      exact absurd last (not_unrefused unrefused)

/-- What is left of the objects of programs after a release that failed.  The objects that were
held before are those that were deleted, those that were lost and those that are still held,
each by the program that held it.  Only a fragment shader can be lost, and only if the delete
call of the vertex shader of the same program was refused. -/
def Retains (before after : List Program) (own : List Event) : Prop :=
  ∃ lost, (∃ start ∈ before, Lapse start own lost) ∧
    before.flatMap Program.objects =
      Trace.deleted own ++ (lost ++ after.flatMap Program.objects) ∧
    List.Forall₂ (fun start program => ∀ object ∈ Program.objects start,
      object ∈ Trace.deleted own ∨ object ∈ lost ∨ object ∈ program.objects) before after

theorem Halts.retains {lost : List DeviceObject} {before after : List Program}
    {own : List Event} (halts : Halts lost before after own) : Retains before after own :=
  ⟨lost, halts.lapse, halts.objects, halts.kept⟩

/-- **A release that fails loses at most one shader, and can be repeated.**  Whatever programs
there are and whatever the device answers, if the release of a program or of a whole cache
fails, then every object that was held is deleted, still held by its program, or the fragment
shader of a program of which the vertex shader could not be deleted.  A further release, on any
device that refuses no call, succeeds and deletes all that is still held. -/
theorem release_retains (device : Device σ) (session : Session σ) :
    (∀ (program : Program) (error : Error),
      ((Program.release device).on { program, session }).1 = .error error →
      let left := ((Program.release device).on { program, session }).2
      Retains [program] [left.program] (session.since left.session) ∧
      ∀ (τ : Type) (device : Device τ) (session : Session τ),
        let ended := (Program.release device).on { program := left.program, session }
        (∀ event ∈ session.since ended.2.session, event.refuses = false) →
          ended.1 = .ok () ∧
          Emptied left.program ended.2.program (session.since ended.2.session)) ∧
    ∀ (cache : ProgramCache) (error : Error),
      (cache.releaseAll device session).1 = .error error →
      let left := (cache.releaseAll device session).2
      Retains cache.programs left.1.programs (session.since left.2) ∧
      ∀ (τ : Type) (device : Device τ) (session : Session τ),
        let ended := left.1.releaseAll device session
        (∀ event ∈ session.since ended.2.2, event.refuses = false) →
          ended.1 = .ok () ∧
          Clears left.1.programs ended.2.1.programs (session.since ended.2.2) := by
  refine ⟨fun program error failed => ⟨?_, fun τ device session => ?_⟩,
    fun cache error failed => ⟨?_, fun τ device session => ?_⟩⟩
  · obtain ⟨own, grown, -, interrupted⟩ := Program.release_ends device program session
    obtain ⟨lost, interrupted⟩ := interrupted error failed
    rw [Session.since_eq grown]
    exact (Halts.here interrupted []).retains
  · exact release_of_unrefused device _ session
  · obtain ⟨own, grown, -, halts⟩ := releasePrograms_ends device cache.programs session
    obtain ⟨lost, halts⟩ := halts error failed
    rw [show session.since (cache.releaseAll device session).2.2 =
      own from Session.since_eq grown]
    exact halts.retains
  · exact releaseAll_of_unrefused device _ session

/-- A program that was used, on a device that numbers its objects from `first` on. -/
def used (first : Nat) : Program :=
  (Program.replay Script.device { name := "", vertexText := "", fragmentText := "" } {}
    [(.apply, { nextHandle := first })]).2.program

/-- A device that refuses a delete call, after it carried out some. -/
def stubborn (call : String) (skip : Nat) : Script :=
  { faults := [{ call, fault := .outOfMemory, skip }] }

/-- Of two programs, the first is released and the second one keeps its shaders, which a further
release deletes. -/
theorem release_retains_halfway :
    let cache : ProgramCache := { programs := [.nothing, used 1, used 4] }
    let left := cache.releaseAll Script.device { device := stubborn "delete_program" 1 }
    let ended := left.2.1.releaseAll Script.device { device := {} }
    left.1 = .error (.deviceFault .outOfMemory) ∧
      Trace.deleted left.2.2.events = [.program ⟨3⟩, .shader ⟨1⟩, .shader ⟨2⟩, .program ⟨6⟩] ∧
      Retains cache.programs left.2.1.programs
        (Session.since { device := stubborn "delete_program" 1 } left.2.2) ∧
      ended.1 = .ok () ∧ Trace.deleted ended.2.2.events = [.shader ⟨4⟩, .shader ⟨5⟩] := by
  intro cache left ended
  have failed : left.1 = .error (.deviceFault .outOfMemory) := by decide +kernel
  have deleted : Trace.deleted left.2.2.events =
      [.program ⟨3⟩, .shader ⟨1⟩, .shader ⟨2⟩, .program ⟨6⟩] := by decide +kernel
  have again : Trace.deleted ended.2.2.events = [.shader ⟨4⟩, .shader ⟨5⟩] := by decide +kernel
  obtain ⟨retains, repeats⟩ := (release_retains Script.device _).2 cache _ failed
  have done := repeats Script Script.device { device := {} } (by decide +kernel)
  exact ⟨failed, deleted, retains, done.1, again⟩

/-- A refused delete call of the vertex shader leaves the fragment shader neither deleted nor
held, and a further release has nothing to do. -/
theorem releaseAll_drops_fragment :
    let cache : ProgramCache := { programs := [.nothing, used 1] }
    let left := cache.releaseAll Script.device { device := stubborn "delete_shader" 0 }
    let ended := left.2.1.releaseAll Script.device { device := {} }
    cache.programs.flatMap Program.objects = [.program ⟨3⟩, .shader ⟨1⟩, .shader ⟨2⟩] ∧
      left.1 = .error (.deviceFault .outOfMemory) ∧
      .shader ⟨2⟩ ∉ Trace.deleted left.2.2.events ∧
      left.2.1.programs.flatMap Program.objects = [] ∧
      ended.1 = .ok () ∧ ended.2.2.events.length = 0 := by
  decide +kernel

end ProgramCache
end ShaderLoom
