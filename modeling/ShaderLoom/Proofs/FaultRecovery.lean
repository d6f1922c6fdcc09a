import ShaderLoom.Gpu.Scripted
import ShaderLoom.Proofs.MergedDeclarations
import ShaderLoom.Proofs.ProgramVerdicts

/-!
# Recovering from faults

A fault of the device says nothing about the texts of a program.  A use that fails because a
call was refused, or because the context was lost, does not mark the program as failed.
Whatever it leaves behind, such as the shader of one stage, does not stand in the way of the
next use: as soon as the device carries out all calls and answers every status with true, the
program is made current, or its texts are found to contradict each other.

## Main definitions

* `Program.Recoverable` — the next use of a program decides it

## Main results

* `Program.recoverable` — a program that was not found wrong is decided by its next use
* `Program.build_completed` — a program object is only held if the program was built
* `Program.History.fault_not_verdict` — a fault of the device is no verdict about a program
-/

namespace ShaderLoom

/-- Whether the context was found alive. -/
def Event.reassures : Event → Bool
  | called _ _ => false
  | askedContextLost lost => !lost

namespace Program

variable {σ : Type}

open Step

/-- The next use of a program decides it, on any device that carries out all calls and answers
every status with true: the program is made current if its texts are consistent, and otherwise
the use fails because two declarations disagree. -/
def Recoverable (program : Program) : Prop :=
  ∀ (τ : Type) (device : Device τ) (session : Session τ),
    (∀ event ∈ (Episode.begin device .apply { program, session }).events,
      event.hinders = false) →
    (∀ declarations,
      Declaration.scan program.vertexText program.fragmentText = .ok declarations →
        ((apply device).on { program, session }).1 = .ok .bound) ∧
    ∀ error, Declaration.scan program.vertexText program.fragmentText = .error error →
      ((apply device).on { program, session }).1 = .error error ∧
        ∃ first second, error = .declarationConflict first second

/-- A program that was not found wrong is decided by its next use. -/
theorem recoverable {program : Program} (coherent : Coherent program)
    (ordinary : program.sentinel = false) (undecided : program.status ≠ .failed) :
    Recoverable program := by
  intro τ device session unhindered
  set bench : Bench τ := { program, session }
  have free : ¬Hindered (Episode.begin device .apply bench).events := by
    rintro ⟨event, member, hinders⟩
    rw [unhindered event member] at hinders
    cases hinders
  cases result : ((apply device).on bench).1 with
  | ok outcome =>
      have used := used_begin bench coherent result
      cases outcome with
      | bound =>
          refine ⟨fun _ _ => rfl, fun error scan => ?_⟩
          obtain ⟨handle, held, -⟩ := used.bound rfl
          obtain ⟨-, -, declarations, accepted⟩ := used.coherent.linked (by rw [held]; rfl)
          rw [used.identity] at accepted
          cases scan.symm.trans accepted
      | unusable =>
          rcases used.verdict (used.unusable rfl).2.2 with failed | rejected
          · exact absurd failed undecided
          · exact absurd rejected.hindered free
      | skipped => exact absurd (used.skipped.mp rfl) (Bool.eq_false_iff.mp ordinary)
  | error error =>
      have foiled := foiled_begin bench coherent result
      cases foiled.setback with
      | refused fault handle status hindered => exact absurd hindered free
      | rejected fault handle rejected => exact absurd rejected.hindered free
      | conflict error handle linked scan =>
          refine ⟨fun declarations accepted => ?_, fun other failed => ?_⟩
          · cases scan.symm.trans accepted
          · obtain rfl := Except.error.inj (scan.symm.trans failed)
            exact ⟨rfl, Declaration.conflict_of_scan scan⟩
      | unbound fault handle held status last =>
          exact absurd ⟨_, List.mem_of_getLast? last, rfl⟩ free

variable {device : Device σ} {episodes : List (Episode σ)} {bench : Bench σ}

/-- A use of a program that has to be built is a build, after which the program is made
current. -/
theorem apply_of_vacant (ordinary : bench.program.sentinel = false)
    (vacant : bench.program.handle = none)
    (undecided : bench.program.status ≠ .failed) :
    (apply device).on bench =
      (build device >>= fun built =>
        if built then Program.bind device else pure .unusable).on bench := by
  have looked (next : Program → Step σ ApplyOutcome) :
      (Step.program >>= next).on bench = (next bench.program).on bench := rfl
  rw [apply, looked, if_neg (by rw [ordinary]; exact Bool.false_ne_true),
    if_neg (by rw [vacant]; exact Bool.false_ne_true), if_neg fun failed => undecided failed.1]

/-- A use that fails leaves a new program object only if the program was built. -/
theorem build_completed (coherent : Coherent bench.program)
    (vacant : bench.program.handle = none) {error : Error}
    (failed : ((apply device).on bench).1 = .error error) {handle : ProgramHandle}
    (held : ((apply device).on bench).2.program.handle = some handle) :
    ((build device).on bench).1 = .ok true := by
  have foiled := foiled_begin bench coherent failed
  rw [apply_of_vacant foiled.ordinary vacant foiled.undecided] at failed held
  have sequenced (next : Bool → Step σ ApplyOutcome) :
      (build device >>= next).on bench =
        ExceptT.bindCont next ((build device).on bench).1 ((build device).on bench).2 := rfl
  have begins : Shifts bench.program (.begun .apply) (.wanting [.vertex, .fragment])
      { bench.program with dirty := false } :=
    .build foiled.ordinary (by rw [vacant]; exact Bool.false_ne_true)
      fun decided => foiled.undecided decided.1
  have invariant :=
    (invariant_verdictAt coherent bench.session.events).after bench.session.events
  have ended := (invariant.build device begins bench ⟨after_nil ⟨rfl, rfl⟩, rfl⟩).2
  rw [sequenced] at failed held
  generalize (build device).on bench = result at ended failed held ⊢
  obtain ⟨answer | built, after⟩ := result
  · -- A build that fails does not leave a program object.
    obtain ⟨own, -, broken⟩ := ended
    cases broken.handle.symm.trans held
  · cases built with
    | true => rfl
    | false => cases failed

/-- The device found the program wrong, or it linked a program whose texts contradict each
other. -/
def Condemnable (episode : Episode σ) : Prop :=
  Rejected episode.events ∨
    Trace.linked episode.events ≠ [] ∧ ∃ first second,
      Declaration.scan episode.before.program.vertexText episode.before.program.fragmentText =
        .error (.declarationConflict first second)

/-- A use marks a program as failed only with reason. -/
theorem condemnable_begin (coherent : Coherent bench.program)
    (undecided : bench.program.status ≠ .failed)
    (condemned : (Episode.begin device .apply bench).after.program.status = .failed) :
    Condemnable (Episode.begin device .apply bench) := by
  cases result : ((apply device).on bench).1 with
  | ok outcome =>
      exact .inl (((used_begin bench coherent result).verdict condemned).resolve_left undecided)
  | error error =>
      cases (foiled_begin bench coherent result).setback with
      | refused fault handle status hindered =>
          exact absurd (status.symm.trans condemned) undecided
      | rejected fault handle rejected => exact .inl rejected
      | conflict error handle linked scan =>
          obtain ⟨first, second, rfl⟩ := Declaration.conflict_of_scan scan
          exact .inr ⟨linked, first, second, scan⟩
      | unbound fault handle held status last => cases status.symm.trans condemned

/-- A fault strikes before anything is decided about a program, or when it is already built. -/
theorem Setback.of_fault {start program : Program} {own : List Event} {fault : DeviceFault}
    (setback : Setback start program own (.deviceFault fault)) (notRejected : ¬Rejected own) :
    (program.handle = none ∧ program.status = start.status) ∨
      ∃ handle, program.handle = some handle ∧ program.status = .linked ∧
        own.getLast? = some (.called (.useProgram (some handle)) (.error fault)) := by
  cases setback with
  | refused _ handle status hindered => exact .inl ⟨handle, status⟩
  | rejected _ handle rejected => exact absurd rejected notRejected
  | conflict _ handle linked scan =>
      obtain ⟨first, second, impossible⟩ := Declaration.conflict_of_scan scan
      cases impossible
  | unbound _ handle held status last => exact .inr ⟨handle, held, status, last⟩

/-- **A fault of the device is no verdict about a program.**  Whatever was done with a program
before, and whatever the device answers, a use marks it as failed only if a compile or link
status was answered with false while the context was alive, or if the program was linked and its
texts contradict each other.

If a use fails by a fault, and no status was answered with false while the context was alive,
then the program is not marked as failed.  It holds a program object only if it was built, by
this use or before, so that the only call that was refused is the one that makes it current.
And it is decided by its next use, on any device that carries out all calls and answers every
status with true. -/
theorem History.fault_not_verdict (history : History device episodes bench) :
    ∀ use ∈ episodes, ∀ outcome, use.applied? = some outcome →
      (use.before.program.status ≠ .failed → use.after.program.status = .failed →
        Condemnable use) ∧
      ∀ fault, outcome = .error (.deviceFault fault) → ¬Rejected use.events →
        use.after.program.status ≠ .failed ∧
        (∀ handle, use.after.program.handle = some handle →
          use.events.getLast? = some (.called (.useProgram (some handle)) (.error fault)) ∧
          (use.before.program.handle = some handle ∨
            ((build device).on use.before).1 = .ok true)) ∧
        Recoverable use.after.program := by
  intro use member outcome applied
  obtain ⟨operation, before, rfl, coherent⟩ := history.begun use member
  obtain ⟨rfl, rfl⟩ := applied_begin applied
  refine ⟨condemnable_begin coherent, fun fault failed notRejected => ?_⟩
  have foiled := foiled_begin before coherent failed
  have ordinary : (Episode.begin device .apply before).after.program.sentinel = false :=
    (congrArg Identity.sentinel foiled.identity).trans foiled.ordinary
  rcases foiled.setback.of_fault notRejected with
    ⟨vacant, status⟩ | ⟨object, held, status, last⟩
  · have undecided : (Episode.begin device .apply before).after.program.status ≠ .failed :=
      status ▸ foiled.undecided
    refine ⟨undecided, fun handle held => ?_, recoverable foiled.coherent ordinary undecided⟩
    cases vacant.symm.trans held
  · have undecided : (Episode.begin device .apply before).after.program.status ≠ .failed := by
      rw [status]
      rintro ⟨⟩
    refine ⟨undecided, fun handle isHeld => ?_, recoverable foiled.coherent ordinary undecided⟩
    obtain rfl : object = handle := Option.some.inj (held.symm.trans isHeld)
    refine ⟨last, ?_⟩
    cases earlier : before.program.handle with
    | none => exact .inr (build_completed coherent earlier failed held)
    | some handle => exact .inl ((foiled.held (by rw [earlier]; rfl)).symm.trans held)

theorem not_rejected_of_lost {events : List Event}
    (lost : ∀ event ∈ events, event.reassures = false) : ¬Rejected events := by
  rintro ⟨front, status, back, rfl, -⟩
  have alive := lost (.askedContextLost false)
    (List.mem_append_right _ (List.mem_cons_of_mem _ List.mem_cons_self))
  cases alive

/-- A program of which each stage declares a name. -/
def lit : Program :=
  { name := ""
    vertexText := "attribute vec3 position;\n"
    fragmentText := "uniform vec4 color;\n" }

/-- A device that loses its context while it links a program, and answers false. -/
def fading : Script :=
  { failLink := true, context := .silent }

/-- A program whose link status was answered with false because the context was lost is made
current by its next use. -/
theorem History.fault_not_verdict_fading :
    let use :=
      Episode.begin Script.device .apply { program := lit, session := { device := fading } }
    use.applied? = some (.error (.deviceFault .contextLost)) ∧
      use.events.any Event.denies = true ∧ ¬Rejected use.events ∧
      use.after.program.status ≠ .failed ∧
      ((apply Script.device).on
        { program := use.after.program, session := { device := { nextHandle := 4 } } }).1 =
          .ok .bound := by
  intro use
  have history : History Script.device [use] use.after :=
    .next (.new (.texts "" _ _) fading) .apply fading
  have applied : use.applied? = some (.error (.deviceFault .contextLost)) := by decide +kernel
  have denied : use.events.any Event.denies = true := by decide +kernel
  have notRejected : ¬Rejected use.events := not_rejected_of_lost (by decide +kernel)
  obtain ⟨status, -, recovers⟩ := (History.fault_not_verdict history use
    (List.mem_singleton_self use) _ applied).2 .contextLost rfl notRejected
  obtain ⟨bound, -⟩ := recovers Script Script.device { device := { nextHandle := 4 } }
    (by decide +kernel)
  refine ⟨applied, denied, notRejected, status, ?_⟩
  have consistent : (Declaration.scan use.after.program.vertexText
      use.after.program.fragmentText).toBool = true := by decide +kernel
  cases scan : Declaration.scan use.after.program.vertexText use.after.program.fragmentText with
  | ok declarations => exact bound declarations scan
  | error error =>
      rw [scan] at consistent
      cases consistent

end Program
end ShaderLoom
