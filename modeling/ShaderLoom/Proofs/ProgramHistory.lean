import ShaderLoom.Proofs.StepLogic

/-!
# Histories of a program

What may happen to a program from its construction on: it is applied, invalidated and released,
and values are uploaded to its uniforms, in any order and any number of times.  Each operation
may fail at any of its calls, and the program is used again afterwards.  Between two operations
the device may change in any way.

A history records each operation with the benches before and after it, so that one can say what
was known about the program then and which events belong to which operation.

## Main definitions

* `Program.Operation`, `Program.Operation.step` — what can be done with a program
* `Program.Initial` — programs that were not used yet
* `Program.Episode` — an operation with the benches before and after it
* `Program.History` — the episodes since a program was made

## Main results

* `Program.Step.Triple.episode` — what a triple about an operation says of its episodes
-/

namespace ShaderLoom
namespace Program

variable {σ : Type}

/-- What can be done with a program. -/
inductive Operation where
  | apply
  | invalidate
  | release
  | setUniform (name : String) (value : UniformValue)

namespace Operation

/-- What an operation answers if it succeeds. -/
@[reducible] def Answer : Operation → Type
  | apply => ApplyOutcome
  | invalidate => Unit
  | release => Unit
  | setUniform _ _ => Bool

/-- An operation as a step. -/
def step (device : Device σ) : (operation : Operation) → Step σ operation.Answer
  | apply => Program.apply device
  | invalidate => Step.update Program.invalidate
  | release => Program.release device
  | setUniform name value => Program.setUniform device name value

end Operation

/-- A program that was not used yet. -/
inductive Initial : Program → Prop where
  | texts (name vertexText fragmentText : String) : Initial { name, vertexText, fragmentText }
  | nothing : Initial nothing

/-- Events have gone on from some earlier ones and brought an event since. -/
def Since (front events : List Event) (event : Event) : Prop :=
  ∃ own, events = front ++ own ∧ event ∈ own

theorem Since.mono {front earlier later : List Event} {event : Event}
    (since : Since front earlier event) (grown : earlier <+: later) :
    Since front later event := by
  obtain ⟨own, rfl, member⟩ := since
  obtain ⟨more, rfl⟩ := grown
  exact ⟨own ++ more, List.append_assoc _ _ _, List.mem_append_left _ member⟩

theorem since_concat {front events : List Event} (grown : front <+: events) (event : Event) :
    Since front (events ++ [event]) event := by
  obtain ⟨own, rfl⟩ := grown
  exact ⟨own ++ [event], List.append_assoc _ _ _,
    List.mem_append_right _ (List.mem_singleton_self event)⟩

theorem Since.mem_drop {front events : List Event} {event : Event}
    (since : Since front events event) : event ∈ events.drop front.length := by
  obtain ⟨own, rfl, member⟩ := since
  rw [List.drop_left]
  exact member

theorem Since.grown {front events : List Event} {event : Event}
    (since : Since front events event) : front <+: events := by
  obtain ⟨own, rfl, -⟩ := since
  exact List.prefix_append _ _

/-- An operation with the benches before and after it. -/
structure Episode (σ : Type) where
  operation : Operation
  before : Bench σ
  outcome : Except Error operation.Answer
  after : Bench σ

namespace Episode

/-- The episode of an operation that begins at a bench. -/
def begin (device : Device σ) (operation : Operation) (bench : Bench σ) : Episode σ where
  operation := operation
  before := bench
  outcome := ((operation.step device).on bench).1
  after := ((operation.step device).on bench).2

/-- The events of the operation itself. -/
def events (episode : Episode σ) : List Event :=
  episode.after.session.events.drop episode.before.session.events.length

end Episode

/-- A bench whose device has changed. -/
def Bench.withDevice (bench : Bench σ) (state : σ) : Bench σ :=
  { bench with session := { bench.session with device := state } }

/-- The episodes since a program was made, with the bench after them. -/
inductive History (device : Device σ) : List (Episode σ) → Bench σ → Prop where
  | new {program : Program} (initial : program.Initial) (state : σ) :
      History device [] { program, session := { device := state } }
  | next {episodes : List (Episode σ)} {bench : Bench σ} (past : History device episodes bench)
      (operation : Operation) (state : σ) :
      History device (episodes ++ [.begin device operation (bench.withDevice state)])
        (Episode.begin device operation (bench.withDevice state)).after

/-- Carries out operations, each on a device in a given state. -/
def replay (device : Device σ) (program : Program) (state : σ) (moves : List (Operation × σ)) :
    List (Episode σ) × Bench σ :=
  moves.foldl
    (fun past move =>
      let episode := Episode.begin device move.1 (past.2.withDevice move.2)
      (past.1 ++ [episode], episode.after))
    ([], { program, session := { device := state } })

theorem history_replay (device : Device σ) {program : Program} (initial : program.Initial)
    (state : σ) (moves : List (Operation × σ)) :
    History device (replay device program state moves).1
      (replay device program state moves).2 := by
  have further (past : List (Episode σ) × Bench σ) (history : History device past.1 past.2) :
      ∀ moves : List (Operation × σ),
        let last := moves.foldl
          (fun past move =>
            let episode := Episode.begin device move.1 (past.2.withDevice move.2)
            (past.1 ++ [episode], episode.after)) past
        History device last.1 last.2 := by
    intro moves
    induction moves generalizing past with
    | nil => exact history
    | cons move moves ih => exact ih _ (.next history move.1 move.2)
  exact further _ (.new initial state) moves

/-- What a triple about an operation says of its episodes. -/
theorem Step.Triple.episode {device : Device σ} {operation : Operation} {before : Assertion}
    {success : operation.Answer → Assertion} {failure : Error → Assertion}
    (triple : Triple before (operation.step device) success failure) (bench : Bench σ)
    (holds : before bench.program bench.session.events) :
    Post success failure (Episode.begin device operation bench).outcome
      (Episode.begin device operation bench).after.program
      (Episode.begin device operation bench).after.session.events :=
  (triple bench holds).2

end Program
end ShaderLoom
