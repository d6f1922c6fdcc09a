import ShaderLoom.Gpu.Program

/-!
# Reasoning about the steps of a program

A step of using a program changes what is known about the program and adds to the events between
the program and the device.  What it does depends on the answers of the device, and each of its
calls may be refused.  `Program.Step.Triple` speaks about all of that at once: a precondition,
and two postconditions, one for the answer of a step that succeeds and one for the error of a
step that fails.  The state of the device is not mentioned, so that a triple holds whatever the
device answers.

Events are only added, never taken back, which is part of what a triple says.

## Main definitions

* `Program.Step.Assertion` — what is said of a program and the events so far
* `Program.Step.Triple` — what a step does to it
* `Program.Step.At`, `Program.Step.After` — assertions about a known program, and about the
  events since some moment

## Main results

* `Program.Step.Triple.bind`, `Program.Step.Triple.tryCatch` — sequencing and handling errors
* `Program.Step.triple_call` — a call, whether it is answered or refused
-/

namespace ShaderLoom
namespace Program

/-- A program that is found wrong in some step of building it. -/
def condemn (program : Program) (step log : String) : Program :=
  { program with status := .failed, failureLog := some (program.failureReport step log) }

namespace Step

variable {σ α β : Type}

/-- What is said of a program and the events so far. -/
abbrev Assertion := Program → List Event → Prop

/-- What is said after a step: `success` of its answer or `failure` of its error. -/
def Post (success : α → Assertion) (failure : Error → Assertion) : Except Error α → Assertion
  | .ok value => success value
  | .error error => failure error

/-- A step that began at a bench only added events, and ended where `success` holds of its
answer or `failure` of its error. -/
def Reaches (success : α → Assertion) (failure : Error → Assertion) (bench : Bench σ)
    (result : Except Error α × Bench σ) : Prop :=
  bench.session.events <+: result.2.session.events ∧
    Post success failure result.1 result.2.program result.2.session.events

/-- What a step does wherever the precondition holds, whatever the device answers. -/
def Triple (before : Assertion) (step : Step σ α) (success : α → Assertion)
    (failure : Error → Assertion) : Prop :=
  ∀ bench : Bench σ, before bench.program bench.session.events →
    Reaches success failure bench (step.on bench)

variable {before before' : Assertion} {success success' : α → Assertion}
  {failure failure' : Error → Assertion}

/-! ## Structure -/

/-- Less may be said after a step, and more before it. -/
theorem Triple.imp {step : Step σ α} (triple : Triple before step success failure)
    (first : ∀ program events, before' program events → before program events)
    (succeeded : ∀ value program events, success value program events →
      success' value program events)
    (failed : ∀ error program events, failure error program events →
      failure' error program events) :
    Triple before' step success' failure' := by
  intro bench holds
  have reached := triple bench (first _ _ holds)
  generalize step.on bench = result at reached ⊢
  rcases result with ⟨error | value, after⟩
  · exact ⟨reached.1, failed error _ _ reached.2⟩
  · exact ⟨reached.1, succeeded value _ _ reached.2⟩

/-- More may be said before a step. -/
theorem Triple.pre {step : Step σ α} (triple : Triple before step success failure)
    (first : ∀ program events, before' program events → before program events) :
    Triple before' step success failure :=
  triple.imp first (fun _ _ _ holds => holds) fun _ _ _ holds => holds

/-- Less may be said after a step that fails. -/
theorem Triple.failing {step : Step σ α} (triple : Triple before step success failure)
    (failed : ∀ error program events, failure error program events →
      failure' error program events) :
    Triple before step success failure' :=
  triple.imp (fun _ _ holds => holds) (fun _ _ _ holds => holds) failed

/-- What is true after a step whether it succeeds or fails. -/
theorem Triple.always {step : Step σ α} {assertion : Assertion}
    (triple : Triple before step (fun _ => assertion) fun _ => assertion) (bench : Bench σ)
    (holds : before bench.program bench.session.events) :
    assertion (step.on bench).2.program (step.on bench).2.session.events := by
  have reached := triple bench holds
  generalize step.on bench = result at reached ⊢
  rcases result with ⟨error | value, after⟩
  · exact reached.2
  · exact reached.2

theorem triple_pure {value : α}
    (done : ∀ program events, before program events → success value program events) :
    Triple before (pure value : Step σ α) success failure :=
  fun _ holds => ⟨List.prefix_rfl, done _ _ holds⟩

theorem triple_throw {error : Error}
    (failed : ∀ program events, before program events → failure error program events) :
    Triple before (throw error : Step σ α) success failure :=
  fun _ holds => ⟨List.prefix_rfl, failed _ _ holds⟩

/-- The second step is only carried out if the first one succeeds. -/
theorem Triple.bind {step : Step σ α} {next : α → Step σ β} {after : β → Assertion}
    (first : Triple before step success failure)
    (second : ∀ value, Triple (success value) (next value) after failure) :
    Triple before (step >>= next) after failure := by
  intro bench holds
  have reached := first bench holds
  change Reaches after failure bench (ExceptT.bindCont next (step.on bench).1 (step.on bench).2)
  generalize step.on bench = result at reached ⊢
  rcases result with ⟨error | value, middle⟩
  · exact reached
  · obtain ⟨more, result⟩ := second value middle reached.2
    exact ⟨reached.1.trans more, result⟩

/-- A handler goes on from where the step failed. -/
theorem Triple.tryCatch {step : Step σ α} {handler : Error → Step σ α}
    (first : Triple before step success failure)
    (second : ∀ error, Triple (failure error) (handler error) success failure') :
    Triple before (tryCatch step handler) success failure' := by
  intro bench holds
  have reached := first bench holds
  change Reaches success failure' bench
    (StateT.run (ExceptT.run (ExceptT.tryCatch step handler)) bench)
  rw [on, ExceptT.run] at reached
  rw [ExceptT.tryCatch, ExceptT.run_mk, StateT.run_bind]
  generalize StateT.run step bench = result at reached ⊢
  rcases result with ⟨error | value, middle⟩
  · obtain ⟨more, handled⟩ := second error middle reached.2
    exact ⟨reached.1.trans more, handled⟩
  · exact reached

/-! ## Primitive steps -/

theorem triple_program :
    Triple before (program : Step σ Program)
      (fun current program events => before program events ∧ current = program) failure :=
  fun _ holds => ⟨List.prefix_rfl, holds, rfl⟩

theorem triple_update {change : Program → Program} {success : Unit → Assertion}
    (changed : ∀ program events, before program events → success () (change program) events) :
    Triple before (update change : Step σ Unit) success failure :=
  fun _ holds => ⟨List.prefix_rfl, changed _ _ holds⟩

/-- A call becomes an event, whether it is answered or refused. -/
theorem triple_call {device : Device σ} {request : Call} {success : request.Answer → Assertion}
    (answered : ∀ answer program events, before program events →
      success answer program (events ++ [.called request (.ok answer)]))
    (refused : ∀ fault program events, before program events →
      failure (.deviceFault fault) program (events ++ [.called request (.error fault)])) :
    Triple before (call device request) success failure := by
  intro bench holds
  have trace : (bench.session.call device request).2.events =
      bench.session.events ++ [.called request (bench.session.call device request).1] := rfl
  have lookedAt (next : Bench σ → Step σ request.Answer) :
      (MonadState.get >>= next).on bench = (next bench).on bench := rfl
  rw [call, lookedAt]
  generalize bench.session.call device request = result at trace ⊢
  rcases result with ⟨fault | answer, session⟩
  · refine ⟨⟨_, trace.symm⟩, ?_⟩
    change failure _ _ session.events
    rw [trace]
    exact refused fault _ _ holds
  · refine ⟨⟨_, trace.symm⟩, ?_⟩
    change success answer _ session.events
    rw [trace]
    exact answered answer _ _ holds

/-- It does not matter whether an attempted call is refused. -/
theorem triple_attempt {device : Device σ} {request : Call} {success : Unit → Assertion}
    (done : ∀ reply program events, before program events →
      success () program (events ++ [.called request reply])) :
    Triple before (attempt device request) success failure :=
  fun _ holds => ⟨List.prefix_append _ _, done _ _ _ holds⟩

theorem triple_askContextLost {device : Device σ} {success : Bool → Assertion}
    (told : ∀ lost program events, before program events →
      success lost program (events ++ [.askedContextLost lost])) :
    Triple before (askContextLost device) success failure :=
  fun _ holds => ⟨List.prefix_append _ _, told _ _ _ holds⟩

theorem triple_report {record : LogRecord} :
    Triple before (report record : Step σ Unit) (fun _ => before) failure :=
  fun _ holds => ⟨List.prefix_rfl, holds⟩

theorem triple_fail {step log : String} {success : Unit → Assertion}
    (failed : ∀ program events, before program events →
      success () (program.condemn step log) events) :
    Triple before (fail step log : Step σ Unit) success failure :=
  fun _ holds => ⟨List.prefix_rfl, failed _ _ holds⟩

/-! ## Known programs -/

/-- An assertion about a program that is known. -/
def At (assertion : Assertion) (current : Program) : Assertion :=
  fun program events => assertion current events ∧ program = current

section At

variable {current : Program} {step : Step σ α}

theorem At.elim {assertion : Assertion} {program : Program} {events : List Event}
    (holds : At assertion current program events) : assertion program events := by
  obtain ⟨holds, rfl⟩ := holds
  exact holds

/-- Whatever the program is, it can be taken as known. -/
theorem triple_at (rest : ∀ current, Triple (At before current) step success failure) :
    Triple before step success failure :=
  fun bench holds => rest bench.program bench ⟨holds, rfl⟩

/-- What is said of the program alone is said of the known one. -/
theorem triple_knowing {known : Program → Prop}
    (rest : ∀ current, known current → Triple (At before current) step success failure) :
    Triple (fun program events => before program events ∧ known program) step success failure :=
  fun bench holds => rest bench.program holds.2 bench ⟨holds.1, rfl⟩

/-- Looking at a program that is known. -/
theorem triple_look {next : Program → Step σ α}
    (rest : Triple (At before current) (next current) success failure) :
    Triple (At before current) (program >>= next) success failure := by
  intro bench holds
  have reached := rest bench holds
  rw [← holds.2] at reached
  exact reached

end At

/-! ## Assertions about the events since some moment -/

section After

variable {front : List Event} {assertion assertion' : Assertion} {program : Program}
  {events : List Event}

/-- An assertion about the events since some moment. -/
def After (front : List Event) (assertion : Assertion) : Assertion :=
  fun program events => ∃ own, events = front ++ own ∧ assertion program own

theorem After.imp (after : After front assertion program events)
    (weaker : ∀ own, assertion program own → assertion' program own) :
    After front assertion' program events := by
  obtain ⟨own, split, holds⟩ := after
  exact ⟨own, split, weaker own holds⟩

theorem after_nil (holds : assertion program []) : After front assertion program front :=
  ⟨[], (List.append_nil front).symm, holds⟩

theorem After.drop (after : After front assertion program events) :
    assertion program (events.drop front.length) := by
  obtain ⟨own, rfl, holds⟩ := after
  rw [List.drop_left]
  exact holds

end After

end Step
end Program
end ShaderLoom
