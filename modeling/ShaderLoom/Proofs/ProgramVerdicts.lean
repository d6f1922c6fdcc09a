import ShaderLoom.Proofs.BuildVerdicts

/-!
# What comes of using a program

A program that is used is built if that is needed, and made current.  This module says what each
use has come to, whether it succeeds or fails, and that status, program object and texts of a
program go together after any history.

## Main definitions

* `Program.Coherent` — how status, program object and texts go together
* `Program.Turn` — what every use does
* `Program.Used`, `Program.Foiled` — what a use that succeeds or fails has come to
* `Program.VerdictAt` — what has been found at each point of an operation

## Main results

* `Program.verdict_step` — the verdicts along an operation
* `Program.turn_step`, `Program.stable_step` — what comes of operations that keep the epoch, and
  of any operation
* `Program.History.coherent` — the parts of a program go together after any history
-/

namespace ShaderLoom
namespace Program

variable {σ : Type}

open Step

/-! ## Using a program -/

/-- How the parts of a program go together. -/
structure Coherent (program : Program) : Prop where
  /-- A program object is only held of a program that was linked, and whose texts are
  consistent. -/
  linked : program.handle.isSome = true → program.status = .linked ∧ program.dirty = false ∧
    ∃ declarations, program.identity.scan = .ok declarations
  /-- A program that has to be built from scratch was not judged yet. -/
  pending : program.dirty = true → program.status = .pending

/-- What every use has come to: a program object that is held stays the same, and one that is
new was found linked once. -/
structure Turn (start : Program) (front : List Event) (program : Program) (own : List Event) :
    Prop extends Course start front program own where
  coherent : Coherent program
  held : start.handle.isSome = true → program.handle = start.handle
  linked : program.handle.isSome = true →
    (Trace.linked own).length + start.handle.toList.length ≤ 1

/-- What a use that succeeds has come to. -/
structure Used (start : Program) (front : List Event) (outcome : ApplyOutcome)
    (program : Program) (own : List Event) : Prop extends Turn start front program own where
  bound : outcome = .bound → ∃ handle, program.handle = some handle ∧ program.dirty = false ∧
    own.getLast? = some (.called (.useProgram (some handle)) (.ok ()))
  unusable : outcome = .unusable →
    program.handle = none ∧ program.dirty = false ∧ program.status = .failed
  skipped : outcome = .skipped ↔ start.sentinel = true
  verdict : program.status = .failed → start.status = .failed ∨ Rejected own

/-- What a use that fails has come to. -/
structure Foiled (start : Program) (front : List Event) (error : Error) (program : Program)
    (own : List Event) : Prop extends Turn start front program own where
  ordinary : start.sentinel = false
  undecided : start.status ≠ .failed
  setback : Setback start program own error

section Using

variable {start program : Program} {front own : List Event}

/-- A use that changes nothing and makes no call. -/
theorem Turn.refl (coherent : Coherent program) (front : List Event) :
    Turn program front program [] where
  toCourse := .refl program front
  coherent := coherent
  held := fun _ => rfl
  linked := fun _ => by
    rw [Trace.linked, List.flatMap_nil, List.length_nil, Nat.zero_add]
    exact Option.length_toList_le

theorem Turn.neutral (turn : Turn start front program own) {event : Event}
    (neutral : Neutral event) : Turn start front program (own ++ [event]) where
  toCourse := turn.silent neutral.passes
  coherent := turn.coherent
  held := turn.held
  linked := by
    rw [Trace.linked_concat, neutral.links, List.append_nil]
    exact turn.linked

/-- A use that leaves the program without a program object. -/
theorem Course.turn (course : Course start front program own) (vacant : start.handle = none)
    (dirty : program.dirty = false) (handle : program.handle = none) :
    Turn start front program own where
  toCourse := course
  coherent := ⟨by rw [handle]; rintro ⟨⟩, by rw [dirty]; rintro ⟨⟩⟩
  held := by rw [vacant]; rintro ⟨⟩
  linked := by rw [handle]; rintro ⟨⟩

/-- A program that is about to be made current. -/
structure Ready (start : Program) (front : List Event) (program : Program) (own : List Event) :
    Prop extends Turn start front program own where
  isHeld : program.handle.isSome = true
  ordinary : start.sentinel = false
  undecided : start.status ≠ .failed

/-- A program that was linked and whose texts are consistent gets its program object. -/
theorem Undecided.ready {handle : ProgramHandle}
    (undecided : Undecided start front (some handle) program own)
    (accepted : ∃ declarations, start.identity.scan = .ok declarations) :
    Ready start front
      { program with handle := some handle, status := .linked, failureLog := none } own where
  toCourse := undecided.toCourse.congr rfl fun stage => by cases stage <;> rfl
  coherent := by
    refine ⟨fun _ => ⟨rfl, undecided.dirty, ?_⟩, fun dirty => ?_⟩
    · rw [← undecided.identity] at accepted
      exact accepted
    · exact absurd (undecided.dirty.symm.trans dirty) Bool.false_ne_true
  held := by rw [undecided.buildable.vacant]; rintro ⟨⟩
  linked := by
    rw [undecided.linked, undecided.buildable.vacant]
    exact fun _ => Nat.le_refl 1
  isHeld := rfl
  ordinary := undecided.buildable.ordinary
  undecided := undecided.buildable.undecided

theorem Ready.use (ready : Ready start front program own) :
    Used start front .bound program
      (own ++ [.called (.useProgram program.handle) (.ok ())]) := by
  obtain ⟨handle, held⟩ := Option.isSome_iff_exists.mp ready.isHeld
  obtain ⟨status, dirty, -⟩ := ready.coherent.linked ready.isHeld
  refine ⟨ready.toTurn.neutral ⟨rfl, rfl⟩, fun _ => ⟨handle, held, dirty, ?_⟩, by rintro ⟨⟩,
    iff_of_false (by rintro ⟨⟩) (Bool.eq_false_iff.mp ready.ordinary), ?_⟩
  · rw [List.getLast?_concat, held]
  · rw [status]
    rintro ⟨⟩

theorem Ready.refused (ready : Ready start front program own) (fault : DeviceFault) :
    Foiled start front (.deviceFault fault) program
      (own ++ [.called (.useProgram program.handle) (.error fault)]) := by
  obtain ⟨handle, held⟩ := Option.isSome_iff_exists.mp ready.isHeld
  refine ⟨ready.toTurn.neutral ⟨rfl, rfl⟩, ready.ordinary, ready.undecided,
    .unbound fault handle held (ready.coherent.linked ready.isHeld).1 ?_⟩
  rw [List.getLast?_concat, held]

theorem Condemned.used (condemned : Condemned start front program own) :
    Used start front .unusable program own where
  toTurn := condemned.toCourse.turn condemned.buildable.vacant condemned.dirty condemned.handle
  bound := by rintro ⟨⟩
  unusable := fun _ => ⟨condemned.handle, condemned.dirty, condemned.status⟩
  skipped := iff_of_false (by rintro ⟨⟩) (Bool.eq_false_iff.mp condemned.buildable.ordinary)
  verdict := fun _ => .inr condemned.rejected

theorem Broken.foiled {error : Error} (broken : Broken start front error program own) :
    Foiled start front error program own where
  toTurn := broken.toCourse.turn broken.buildable.vacant broken.dirty broken.handle
  ordinary := broken.buildable.ordinary
  undecided := broken.buildable.undecided
  setback := broken.setback

theorem Coherent.settled (coherent : Coherent program) : Settled program.holdings := by
  intro dirty
  refine Option.not_isSome_iff_eq_none.mp fun held => ?_
  exact Bool.false_ne_true ((coherent.linked held).2.1.symm.trans dirty)

theorem Coherent.buildable (coherent : Coherent program) (ordinary : program.sentinel = false)
    (unready : ¬(program.handle.isSome && !program.dirty) = true)
    (undecided : ¬(program.status = .failed ∧ program.dirty = false)) : Buildable program where
  vacant := coherent.settled.handle_eq_none unready
  ordinary := ordinary
  undecided := by
    intro failed
    refine undecided ⟨failed, Bool.eq_false_iff.mpr fun dirty => ?_⟩
    rw [coherent.pending dirty] at failed
    cases failed

theorem Coherent.invalidate (coherent : Coherent program) : Coherent program.invalidate := by
  unfold Program.invalidate
  split
  · exact coherent
  · exact ⟨by rintro ⟨⟩, fun _ => rfl⟩

/-- A program whose parts go together, and which is the same as another one. -/
structure Stable (start program : Program) : Prop where
  coherent : Coherent program
  identity : program.identity = start.identity

/-- A program may lose its objects. -/
theorem Stable.vacate {program' : Program} (stable : Stable start program)
    (vacant : program'.handle = none) (dirty : program'.dirty = program.dirty)
    (status : program'.status = program.status)
    (identity : program'.identity = program.identity) : Stable start program' where
  coherent := by
    refine ⟨by rw [vacant]; rintro ⟨⟩, ?_⟩
    rw [dirty, status]
    exact stable.coherent.pending
  identity := identity.trans stable.identity

theorem Stable.invalidate (stable : Stable start program) :
    Stable start program.invalidate where
  coherent := stable.coherent.invalidate
  identity := (identity_invalidate program).trans stable.identity

/-- What is known at each point of an operation on a program, by the events since it began. -/
def VerdictAt (start : Program) (front : List Event) : Point → Assertion
  | .begun _ => fun program own => program = start ∧ own = []
  | .wanting _ => Undecided start front none
  | .compiling stage _ shader => Compiling start front stage shader
  | .doubting _ _ => Denied start front
  | .rejecting _ _ => Refuted start front
  | .linking _ => Undecided start front none
  | .linked handle => Undecided start front (some handle)
  | .locating handle _ => fun program own => Undecided start front (some handle) program own ∧
      ∃ declarations, start.identity.scan = .ok declarations
  | .unlinked _ => Denied start front
  | .examining _ => Refuted start front
  | .condemned _ => Condemned start front
  | .abandoning _ error => Broken start front error
  | .deserting _ error => Broken start front error
  | .unbuilt error => Broken start front error
  | .ready => Ready start front
  | .dropping _ => fun program _ => Stable start program ∧ program.handle = none
  | .vacated => fun program _ => Stable start program ∧ program.handle = none
  | .clearing _ => fun program _ => Stable start program
  | .ended .apply outcome => Used start front outcome
  | .ended (.setUniform _ _) _ => fun program own =>
      program = start ∧ Turn start front program own
  | .ended _ _ => fun program _ => Stable start program
  | .failed .apply error => Foiled start front error
  | .failed (.setUniform _ _) _ => fun program own =>
      program = start ∧ Turn start front program own
  | .failed _ _ => fun program _ => Stable start program

variable {point : Point}

theorem verdictAt_answered (coherent : Coherent start) {request : Call}
    {next : request.Answer → Point × Program} (requests : Requests program point request next)
    (answer : request.Answer) (own : List Event)
    (holds : VerdictAt start front point program own) :
    VerdictAt start front (next answer).1 (next answer).2
      (own ++ [.called request (.ok answer)]) := by
  cases requests with
  | createShader => exact holds.create _ _
  | shaderSource => exact holds.neutral ⟨rfl, rfl⟩ rfl
  | compileShader => exact holds.neutral ⟨rfl, rfl⟩ rfl
  | compileStatus missing =>
      cases answer with
      | false => exact holds.toUndecided.deny ⟨rfl, rfl⟩ rfl
      | true => exact holds.pass missing
  | shaderInfoLog => exact holds.neutral ⟨rfl, rfl⟩
  | discardShader => exact ((holds.neutral ⟨rfl, rfl⟩).condemn _ _).used
  | createProgram => exact holds.neutral ⟨rfl, rfl⟩
  | attachShader => exact holds.neutral ⟨rfl, rfl⟩
  | linkProgram => exact holds.neutral ⟨rfl, rfl⟩
  | linkStatus =>
      cases answer with
      | false => exact holds.deny ⟨rfl, rfl⟩ rfl
      | true => exact holds.link _
  | validateProgram => exact holds.neutral ⟨rfl, rfl⟩
  | uniformLocation => exact ⟨(holds.1.neutral ⟨rfl, rfl⟩).congr rfl rfl rfl, holds.2⟩
  | attributeLocation => exact ⟨(holds.1.neutral ⟨rfl, rfl⟩).congr rfl rfl rfl, holds.2⟩
  | programInfoLog => exact (holds.neutral ⟨rfl, rfl⟩).condemn _ _
  | discardProgram => exact (holds.neutral ⟨rfl, rfl⟩).used
  | useProgram => exact holds.use
  | deleteProgram => exact holds
  | deleteShader => exact holds
  | setUniform =>
      obtain ⟨rfl, rfl⟩ := holds
      exact ⟨rfl, (Turn.refl coherent front).neutral ⟨rfl, rfl⟩⟩

theorem verdictAt_refused (coherent : Coherent start) {request : Call}
    {next : request.Answer → Point × Program} (requests : Requests program point request next)
    (fault : DeviceFault) (own : List Event) (holds : VerdictAt start front point program own) :
    VerdictAt start front (point.broken (.deviceFault fault)) program
      (own ++ [.called request (.error fault)]) := by
  cases requests with
  | createShader => exact holds.refused ⟨rfl, rfl⟩
  | shaderSource => exact holds.toUndecided.refused ⟨rfl, rfl⟩
  | compileShader => exact holds.toUndecided.refused ⟨rfl, rfl⟩
  | compileStatus => exact holds.toUndecided.refused ⟨rfl, rfl⟩
  | shaderInfoLog => exact holds.toUndecided.refused ⟨rfl, rfl⟩
  | discardShader => exact holds.toUndecided.refused ⟨rfl, rfl⟩
  | createProgram => exact holds.refused ⟨rfl, rfl⟩
  | attachShader => exact holds.refused ⟨rfl, rfl⟩
  | linkProgram => exact holds.refused ⟨rfl, rfl⟩
  | linkStatus => exact holds.refused ⟨rfl, rfl⟩
  | validateProgram => exact holds.refused ⟨rfl, rfl⟩
  | uniformLocation => exact holds.1.refused ⟨rfl, rfl⟩
  | attributeLocation => exact holds.1.refused ⟨rfl, rfl⟩
  | programInfoLog => exact holds.toUndecided.refused ⟨rfl, rfl⟩
  | discardProgram => exact (holds.neutral ⟨rfl, rfl⟩).broken fault
  | useProgram => exact holds.refused fault
  | deleteProgram => exact holds.1
  | deleteShader => exact holds
  | setUniform =>
      obtain ⟨rfl, rfl⟩ := holds
      exact ⟨rfl, (Turn.refl coherent front).neutral ⟨rfl, rfl⟩⟩

theorem verdictAt_asked {next : Bool → Point} (asks : Asks point next) (lost : Bool)
    (own : List Event) (holds : VerdictAt start front point program own) :
    VerdictAt start front (next lost) program (own ++ [.askedContextLost lost]) := by
  cases asks with
  | shader =>
      cases lost with
      | false => exact holds.confirm
      | true => exact holds.lose
  | program =>
      cases lost with
      | false => exact holds.confirm
      | true => exact holds.lose
  | owner => cases lost <;> exact holds.neutral ⟨rfl, rfl⟩

theorem verdictAt_shifted (coherent : Coherent start) {program' : Program} {next : Point}
    (shifts : Shifts program point next program') (own : List Event)
    (holds : VerdictAt start front point program own) :
    VerdictAt start front next program' own := by
  cases shifts with
  | skip sentinel =>
      obtain ⟨rfl, rfl⟩ := holds
      exact ⟨.refl coherent front, by rintro ⟨⟩, by rintro ⟨⟩, iff_of_true rfl sentinel, .inl⟩
  | reuse ordinary held =>
      obtain ⟨rfl, rfl⟩ := holds
      refine ⟨.refl coherent front, held, ordinary, ?_⟩
      rw [(coherent.linked held).1]
      rintro ⟨⟩
  | giveUp ordinary unready failed clean =>
      obtain ⟨rfl, rfl⟩ := holds
      exact ⟨.refl coherent front, by rintro ⟨⟩,
        fun _ => ⟨coherent.settled.handle_eq_none unready, clean, failed⟩,
        iff_of_false (by rintro ⟨⟩) (Bool.eq_false_iff.mp ordinary), .inl⟩
  | build ordinary unready undecided =>
      obtain ⟨rfl, rfl⟩ := holds
      have buildable := coherent.buildable ordinary unready undecided
      refine ⟨(Course.refl program front).congr rfl fun stage => ?_, buildable, rfl,
        buildable.vacant, rfl, rfl⟩
      cases stage <;> rfl
  | keepShader => exact holds
  | conflict scanned => exact holds.conflict scanned
  | @forget handle declarations scanned =>
      refine ⟨holds.congr rfl rfl rfl, declarations, ?_⟩
      rw [← holds.identity]
      exact scanned
  | store => exact holds.1.ready holds.2
  | breakOff => exact holds.foiled
  | invalidate =>
      obtain ⟨rfl, rfl⟩ := holds
      exact Stable.invalidate ⟨coherent, rfl⟩
  | vacant vacant =>
      obtain ⟨rfl, rfl⟩ := holds
      exact ⟨⟨coherent, rfl⟩, vacant⟩
  | drop =>
      obtain ⟨rfl, rfl⟩ := holds
      exact ⟨Stable.vacate ⟨coherent, rfl⟩ rfl rfl rfl rfl, rfl⟩
  | takeShaders => exact holds.1.vacate (by exact holds.2) rfl rfl rfl
  | reset => exact holds.invalidate
  | unknown =>
      obtain ⟨rfl, rfl⟩ := holds
      exact ⟨rfl, .refl coherent front⟩

/-- What is known about a program is kept by all that can happen in an operation. -/
theorem invariant_verdictAt (coherent : Coherent start) (front : List Event) :
    Invariant (VerdictAt start front) where
  answered := verdictAt_answered coherent
  refused := verdictAt_refused coherent
  asked := verdictAt_asked
  deserted := fun _ _ broken => broken.neutral ⟨rfl, rfl⟩
  shifted := verdictAt_shifted coherent

end Using

/-! ## Any operations -/

/-- Whether an operation makes the program forget what was found out about it. -/
def Operation.resets : Operation → Bool
  | apply => false
  | invalidate => true
  | release => true
  | setUniform _ _ => false

section Operations

variable {start : Program} {front : List Event} (device : Device σ)

/-- **What comes of an operation.** -/
theorem verdict_step (coherent : Coherent start) (operation : Operation) :
    Triple (fun program events => program = start ∧ events = front) (operation.step device)
      (fun answer => After front (VerdictAt start front (.ended operation answer)))
      (fun error => After front (VerdictAt start front (.failed operation error))) := by
  refine (((invariant_verdictAt coherent front).after front).step device operation).pre
    fun program events known => ?_
  obtain ⟨rfl, rfl⟩ := known
  exact after_nil ⟨rfl, rfl⟩

/-- What an operation does that does not make the program forget. -/
theorem turn_step (coherent : Coherent start) {operation : Operation}
    (continues : operation.resets = false) :
    Triple (fun program events => program = start ∧ events = front) (operation.step device)
      (fun _ => After front (Turn start front)) (fun _ => After front (Turn start front)) := by
  refine (verdict_step device coherent operation).imp (fun _ _ known => known)
    (fun answer _ _ after => after.imp fun _ holds => ?_)
    fun error _ _ after => after.imp fun _ holds => ?_
  · cases operation with
    | apply => exact holds.toTurn
    | invalidate => cases continues
    | release => cases continues
    | setUniform name value => exact holds.2
  · cases operation with
    | apply => exact holds.toTurn
    | invalidate => cases continues
    | release => cases continues
    | setUniform name value => exact holds.2

/-- An upload leaves the program as it is. -/
theorem program_setUniform (bench : Bench σ) (coherent : Coherent bench.program) (name : String)
    (value : UniformValue) :
    (Episode.begin device (.setUniform name value) bench).after.program = bench.program := by
  have unchanged : Triple (fun program events => program = bench.program ∧
        events = bench.session.events) ((Operation.setUniform name value).step device)
      (fun _ program _ => program = bench.program)
      (fun _ program _ => program = bench.program) :=
    (verdict_step device coherent (.setUniform name value)).imp (fun _ _ known => known)
      (fun _ _ _ after => after.drop.1) fun _ _ _ after => after.drop.1
  exact unchanged.always bench ⟨rfl, rfl⟩

/-- No operation tears the parts of a program apart or makes it another one. -/
theorem stable_step (coherent : Coherent start) (operation : Operation) :
    Triple (fun program events => program = start ∧ events = front) (operation.step device)
      (fun _ program _ => Stable start program) (fun _ program _ => Stable start program) := by
  refine (verdict_step device coherent operation).imp (fun _ _ known => known)
    (fun answer _ _ after => ?_) fun error _ _ after => ?_
  · obtain ⟨own, -, holds⟩ := after
    cases operation with
    | apply => exact ⟨holds.coherent, holds.identity⟩
    | invalidate => exact holds
    | release => exact holds
    | setUniform name value => exact ⟨holds.2.coherent, holds.2.identity⟩
  · obtain ⟨own, -, holds⟩ := after
    cases operation with
    | apply => exact ⟨holds.coherent, holds.identity⟩
    | invalidate => exact holds
    | release => exact holds
    | setUniform name value => exact ⟨holds.2.coherent, holds.2.identity⟩

end Operations

/-- What came of the use, if the operation of an episode was one. -/
def Episode.applied? : Episode σ → Option (Except Error ApplyOutcome)
  | { operation := .apply, outcome, .. } => some outcome
  | _ => none

variable {device : Device σ} {episodes : List (Episode σ)} {bench : Bench σ}

/-- The operation of an episode with a use is a use. -/
theorem applied_begin {operation : Operation} {outcome : Except Error ApplyOutcome}
    (applied : (Episode.begin device operation bench).applied? = some outcome) :
    operation = .apply ∧ outcome = ((apply device).on bench).1 := by
  cases operation with
  | apply => exact ⟨rfl, (Option.some.inj applied).symm⟩
  | invalidate => cases applied
  | release => cases applied
  | setUniform name value => cases applied

/-- What an episode with a use that succeeded has come to. -/
theorem used_begin (bench : Bench σ) (coherent : Coherent bench.program)
    {outcome : ApplyOutcome} (succeeded : ((apply device).on bench).1 = .ok outcome) :
    Used bench.program bench.session.events outcome
      (Episode.begin device .apply bench).after.program
      (Episode.begin device .apply bench).events := by
  have post := (verdict_step device coherent .apply).episode bench ⟨rfl, rfl⟩
  rw [show (Episode.begin device .apply bench).outcome = .ok outcome from succeeded] at post
  exact post.drop

/-- What an episode with a use that failed has come to. -/
theorem foiled_begin (bench : Bench σ) (coherent : Coherent bench.program) {error : Error}
    (failed : ((apply device).on bench).1 = .error error) :
    Foiled bench.program bench.session.events error
      (Episode.begin device .apply bench).after.program
      (Episode.begin device .apply bench).events := by
  have post := (verdict_step device coherent .apply).episode bench ⟨rfl, rfl⟩
  rw [show (Episode.begin device .apply bench).outcome = .error error from failed] at post
  exact post.drop

/-- What an episode does to a program whose parts go together. -/
theorem stable_episode (device : Device σ) {start : Bench σ} (coherent : Coherent start.program)
    (operation : Operation) :
    Stable start.program (Episode.begin device operation start).after.program :=
  (stable_step device coherent operation).always start ⟨rfl, rfl⟩

/-- The parts of a program go together after any history. -/
theorem History.coherent (history : History device episodes bench) :
    Coherent bench.program := by
  induction history with
  | new initial state =>
      cases initial with
      | texts => exact ⟨by rintro ⟨⟩, fun _ => rfl⟩
      | nothing => exact ⟨by rintro ⟨⟩, by rintro ⟨⟩⟩
  | @next episodes bench past operation state ih =>
      have before : Coherent (bench.withDevice state).program := ih
      exact (stable_episode device before operation).coherent

/-- The parts of a program went together before each episode of a history. -/
theorem History.begun (history : History device episodes bench) :
    ∀ episode ∈ episodes, ∃ (operation : Operation) (before : Bench σ),
      episode = .begin device operation before ∧ Coherent before.program := by
  induction history with
  | new initial state => rintro _ ⟨⟩
  | @next episodes bench past operation state ih =>
      intro episode member
      rcases List.mem_append.mp member with old | new
      · exact ih episode old
      · exact ⟨operation, bench.withDevice state, List.mem_singleton.mp new, past.coherent⟩

end Program
end ShaderLoom
