import Mathlib.Data.List.Induction
import ShaderLoom.Proofs.LocationCaches
import ShaderLoom.Proofs.ProgramVerdicts

/-!
# Epochs of a program

An invalidation or a release begins a new epoch of a program.  Within an epoch a program is
decided once.  After it was made current, each further use is a single call with the same
program object, and after it was found unusable, it stays so without any call.  Until then every
use may fail and be tried again, but a stage that was found compiled is not compiled again, and
only one of the program objects that were found linked is kept.

The program that stands for "nothing to draw" is never seen by the device.

## Main definitions

* `Program.Episode.kept` — the program objects that a program keeps from an episode
* `Program.Epoch` — what has happened since the beginning of an epoch

## Main results

* `Program.History.epoch_accounted` — the account of an epoch
* `Program.History.frozen` — a program that nothing changes any more
* `Program.History.settles_once` — a program is decided once in each epoch
-/

namespace ShaderLoom
namespace Program

variable {σ : Type}

open Step

/-- The program objects that were found linked in an episode, if it left the program with
one. -/
def Episode.kept (episode : Episode σ) : List ProgramHandle :=
  if episode.after.program.handle.isSome then Trace.linked episode.events else []

variable {device : Device σ} {past epoch episodes : List (Episode σ)} {episode : Episode σ}
  {bench start : Bench σ}

/-! ## Parts of a history -/

/-- The last episode of a history. -/
theorem History.last (history : History device (episodes ++ [episode]) bench) :
    ∃ (earlier : Bench σ) (operation : Operation) (state : σ), History device episodes earlier ∧
      episode = .begin device operation (earlier.withDevice state) ∧ bench = episode.after := by
  generalize whole : episodes ++ [episode] = all at history
  cases history with
  | new initial state => exact absurd whole (List.append_ne_nil_of_right_ne_nil _ (by simp))
  | @next episodes' earlier past operation state =>
      obtain ⟨rfl, single⟩ := List.append_inj' whole rfl
      obtain rfl := List.singleton_inj.mp single
      exact ⟨earlier, operation, state, past, rfl, rfl⟩

/-- An episode adds its events to the earlier ones. -/
theorem events_begin (device : Device σ) (coherent : Coherent bench.program)
    (operation : Operation) :
    (Episode.begin device operation bench).after.session.events =
      bench.session.events ++ (Episode.begin device operation bench).events :=
  (List.prefix_iff_eq_append.mp (stable_step device coherent operation bench ⟨rfl, rfl⟩).1).symm

/-! ## The account of an epoch -/

theorem Course.trans {first middle last : Program} {front own more : List Event}
    (one : Course first front middle own) (two : Course middle (front ++ own) last more) :
    Course first front last (own ++ more) where
  identity := two.identity.trans one.identity
  compiled := by
    intro stage
    have before := one.compiled stage
    have after := two.compiled stage
    rw [Trace.compiled_append, List.count_append]
    omega
  attributed := by
    rw [Trace.compiled_append, List.mem_append, not_or]
    exact ⟨one.attributed, two.attributed⟩

/-- What has happened since the beginning of an epoch. -/
structure Epoch (start : Bench σ) (epoch : List (Episode σ)) (bench : Bench σ) : Prop
    extends Course start.program start.session.events bench.program
      (epoch.flatMap Episode.events) where
  events : bench.session.events = start.session.events ++ epoch.flatMap Episode.events
  kept : (epoch.flatMap Episode.kept).length + start.program.handle.toList.length ≤
    bench.program.handle.toList.length

theorem Epoch.refl (start : Bench σ) : Epoch start [] start where
  toCourse := .refl start.program start.session.events
  events := (List.append_nil _).symm
  kept := Nat.le_of_eq (Nat.zero_add _)

/-- An episode that does not begin a new epoch. -/
theorem Epoch.next (sofar : Epoch start epoch bench) (coherent : Coherent bench.program)
    {operation : Operation} (continues : operation.resets = false) (state : σ) :
    Epoch start (epoch ++ [.begin device operation (bench.withDevice state)])
      (Episode.begin device operation (bench.withDevice state)).after := by
  have known : Coherent (bench.withDevice state).program := coherent
  have grown := events_begin device known operation
  have turn : Turn bench.program bench.session.events
      (Episode.begin device operation (bench.withDevice state)).after.program
      (Episode.begin device operation (bench.withDevice state)).events :=
    ((turn_step device known continues).always (bench.withDevice state) ⟨rfl, rfl⟩).drop
  generalize Episode.begin device operation (bench.withDevice state) = episode at grown turn ⊢
  have sofarEvents : (bench.withDevice state).session.events =
    start.session.events ++ epoch.flatMap Episode.events := sofar.events
  have moreEvents : (epoch ++ [episode]).flatMap Episode.events =
      epoch.flatMap Episode.events ++ episode.events := by
    rw [List.flatMap_append, List.flatMap_singleton]
  have moreKept : (epoch ++ [episode]).flatMap Episode.kept =
      epoch.flatMap Episode.kept ++ episode.kept := by
    rw [List.flatMap_append, List.flatMap_singleton]
  constructor
  · rw [moreEvents]
    refine sofar.toCourse.trans ?_
    rw [← sofar.events]
    exact turn.toCourse
  · rw [moreEvents, grown, sofarEvents, List.append_assoc]
  · have before := sofar.kept
    rw [moreKept, List.length_append]
    -- A program object that was held stays, so the first one that is kept is the only one.
    cases held : episode.after.program.handle with
    | none =>
        have vacant : bench.program.handle = none := by
          refine Option.not_isSome_iff_eq_none.mp fun some => ?_
          rw [← turn.held some, held] at some
          cases some
        rw [vacant] at before
        rw [Episode.kept, held]
        exact before
    | some handle =>
        have isHeld : episode.after.program.handle.isSome = true := by rw [held]; rfl
        have linked := turn.linked isHeld
        rw [Episode.kept, if_pos isHeld, Option.toList_some, List.length_singleton]
        omega

/-- The account of an epoch. -/
theorem History.epoch_accounted (history : History device (past ++ epoch) bench)
    (unbroken : ∀ episode ∈ epoch, episode.operation.resets = false) :
    ∃ start, History device past start ∧ Epoch start epoch bench := by
  induction epoch using List.reverseRecOn generalizing bench with
  | nil =>
      rw [List.append_nil] at history
      exact ⟨bench, history, .refl bench⟩
  | append_singleton epoch episode ih =>
      rw [← List.append_assoc] at history
      obtain ⟨earlier, operation, state, before, rfl, rfl⟩ := history.last
      obtain ⟨start, origin, sofar⟩ := ih before fun episode member =>
        unbroken episode (List.mem_append_left _ member)
      have continues := unbroken _ (List.mem_append_right _ (List.mem_singleton_self _))
      exact ⟨start, origin, sofar.next before.coherent continues state⟩

/-- The events of a history. -/
theorem History.events (history : History device episodes bench) :
    bench.session.events = episodes.flatMap Episode.events := by
  induction history with
  | new initial state => rfl
  | @next episodes bench past operation state ih =>
      have known : Coherent (bench.withDevice state).program := past.coherent
      have sofar : (bench.withDevice state).session.events =
          episodes.flatMap Episode.events := ih
      rw [events_begin device known, List.flatMap_append, List.flatMap_singleton, sofar]

/-! ## Programs that are decided -/

/-- A call, with what comes of it. -/
theorem on_call (device : Device σ) (request : Call) (bench : Bench σ) :
    (call device request).on bench =
      ((bench.session.call device request).1.mapError .deviceFault,
        { bench with session := (bench.session.call device request).2 }) := by
  have looked (next : Bench σ → Step σ request.Answer) :
      (MonadState.get >>= next).on bench = (next bench).on bench := rfl
  rw [call, looked]
  generalize bench.session.call device request = result
  rcases result with ⟨fault | answer, session⟩
  · rfl
  · rfl

/-- Using a program that is held makes a single call. -/
theorem apply_of_held (device : Device σ) (bench : Bench σ) {handle : ProgramHandle}
    (ordinary : bench.program.sentinel = false) (held : bench.program.handle = some handle)
    (clean : bench.program.dirty = false) :
    (apply device).on bench =
      (((bench.session.call device (.useProgram (some handle))).1.mapError .deviceFault).map
          fun _ => .bound,
        { bench with
          session := (bench.session.call device (.useProgram (some handle))).2 }) := by
  have looked (next : Program → Step σ ApplyOutcome) :
      (Step.program >>= next).on bench = (next bench.program).on bench := rfl
  have ready : (bench.program.handle.isSome && !bench.program.dirty) = true := by
    rw [held, clean]
    rfl
  rw [apply, looked, if_neg (by rw [ordinary]; exact Bool.false_ne_true), if_pos ready,
    Program.bind, looked, held]
  have sequenced (first : Step σ Unit) (next : Unit → Step σ ApplyOutcome) :
      (first >>= next).on bench =
        ExceptT.bindCont next (first.on bench).1 (first.on bench).2 := rfl
  rw [sequenced, on_call]
  generalize bench.session.call device (.useProgram (some handle)) = result
  rcases result with ⟨fault | answer, session⟩
  · rfl
  · rfl

/-- Using a program that was found wrong makes no call. -/
theorem apply_of_failed (ordinary : bench.program.sentinel = false)
    (vacant : bench.program.handle = none) (clean : bench.program.dirty = false)
    (failed : bench.program.status = .failed) :
    (apply device).on bench = (.ok .unusable, bench) := by
  have looked (next : Program → Step σ ApplyOutcome) :
      (Step.program >>= next).on bench = (next bench.program).on bench := rfl
  rw [apply, looked, if_neg (by rw [ordinary]; exact Bool.false_ne_true),
    if_neg (by rw [vacant]; exact Bool.false_ne_true), if_pos ⟨failed, clean⟩]
  rfl

/-- The beginning of a history. -/
theorem History.beginning {later : List (Episode σ)}
    (history : History device (past ++ later) bench) : ∃ start, History device past start := by
  induction later using List.reverseRecOn generalizing bench with
  | nil =>
      rw [List.append_nil] at history
      exact ⟨bench, history⟩
  | append_singleton later episode ih =>
      rw [← List.append_assoc] at history
      obtain ⟨earlier, -, -, before, -, -⟩ := history.last
      exact ih before

/-- What came of a use that succeeded. -/
theorem History.used {first : Episode σ} {later : List (Episode σ)} {outcome : ApplyOutcome}
    (history : History device (past ++ first :: later) bench)
    (applied : first.applied? = some (.ok outcome)) :
    Used first.before.program first.before.session.events outcome first.after.program
      first.events := by
  rw [List.append_cons] at history
  obtain ⟨start, origin⟩ := history.beginning
  obtain ⟨earlier, operation, state, before, rfl, -⟩ := origin.last
  obtain ⟨rfl, succeeded⟩ := applied_begin applied
  have known : Coherent (earlier.withDevice state).program := before.coherent
  exact used_begin _ known succeeded.symm

/-- A program that further uses do not change stays as it is until a new epoch begins. -/
theorem History.frozen {first : Episode σ} {later : List (Episode σ)}
    (history : History device (past ++ first :: later) bench)
    (unbroken : ∀ episode ∈ later, episode.operation.resets = false)
    (still : ∀ before : Bench σ, before.program = first.after.program →
      ((apply device).on before).2.program = first.after.program) :
    bench.program = first.after.program ∧
      ∀ episode ∈ later, ∃ (operation : Operation) (before : Bench σ),
        episode = .begin device operation before ∧ before.program = first.after.program := by
  rw [List.append_cons] at history
  induction later using List.reverseRecOn generalizing bench with
  | nil =>
      rw [List.append_nil] at history
      obtain ⟨-, -, -, -, -, rfl⟩ := history.last
      exact ⟨rfl, by rintro _ ⟨⟩⟩
  | append_singleton later episode ih =>
      rw [← List.append_assoc] at history
      obtain ⟨earlier, operation, state, before, rfl, rfl⟩ := history.last
      obtain ⟨same, others⟩ := ih before fun episode member =>
        unbroken episode (List.mem_append_left _ member)
      have continues := unbroken _ (List.mem_append_right _ (List.mem_singleton_self _))
      refine ⟨?_, fun other member => ?_⟩
      · cases operation with
        | apply => exact still (earlier.withDevice state) same
        | invalidate => cases continues
        | release => cases continues
        | setUniform name value =>
            have known : Coherent (earlier.withDevice state).program := before.coherent
            rw [program_setUniform device (earlier.withDevice state) known name value]
            exact same
      · rcases List.mem_append.mp member with old | new
        · exact others other old
        · obtain rfl := List.mem_singleton.mp new
          exact ⟨operation, earlier.withDevice state, rfl, same⟩

theorem Used.ordinary {start program : Program} {front own : List Event}
    {outcome : ApplyOutcome} (used : Used start front outcome program own)
    (tried : outcome ≠ .skipped) : program.sentinel = false := by
  have same : program.sentinel = start.sentinel := congrArg Identity.sentinel used.identity
  exact Bool.eq_false_iff.mpr fun sentinel =>
    tried (used.skipped.mpr (same.symm.trans sentinel))

/-- After a program was made current, each further use makes it current again, by a single
call. -/
theorem History.rebound {first : Episode σ} {later : List (Episode σ)}
    (history : History device (past ++ first :: later) bench)
    (unbroken : ∀ episode ∈ later, episode.operation.resets = false)
    (bound : first.applied? = some (.ok .bound)) :
    ∃ handle, first.after.program.handle = some handle ∧
      first.events.getLast? = some (.called (.useProgram (some handle)) (.ok ())) ∧
      ∀ episode ∈ later, ∀ outcome, episode.applied? = some outcome →
        ∃ reply, episode.events = [.called (.useProgram (some handle)) reply] ∧
          outcome = (reply.mapError .deviceFault).map fun _ => .bound := by
  have used := history.used bound
  have ordinary := used.ordinary (by rintro ⟨⟩)
  obtain ⟨handle, held, clean, last⟩ := used.bound rfl
  have again (before : Bench σ) (same : before.program = first.after.program) :=
    apply_of_held device before (same ▸ ordinary) (same ▸ held) (same ▸ clean)
  have still (before : Bench σ) (same : before.program = first.after.program) :
      ((apply device).on before).2.program = first.after.program := by
    rw [again before same]
    exact same
  refine ⟨handle, held, last, fun episode member outcome applied => ?_⟩
  obtain ⟨operation, before, rfl, same⟩ := (history.frozen unbroken still).2 episode member
  obtain ⟨rfl, rfl⟩ := applied_begin applied
  refine ⟨(before.session.call device (.useProgram (some handle))).1, ?_, ?_⟩
  · change List.drop before.session.events.length
      ((apply device).on before).2.session.events = _
    rw [again before same]
    exact List.drop_left
  · rw [again before same]

/-- A program that was found unusable stays so without a call. -/
theorem History.unusable_again {first : Episode σ} {later : List (Episode σ)}
    (history : History device (past ++ first :: later) bench)
    (unbroken : ∀ episode ∈ later, episode.operation.resets = false)
    (unusable : first.applied? = some (.ok .unusable)) :
    ∀ episode ∈ later, ∀ outcome, episode.applied? = some outcome →
      outcome = .ok .unusable ∧ episode.events = [] := by
  have used := history.used unusable
  have ordinary := used.ordinary (by rintro ⟨⟩)
  obtain ⟨vacant, clean, failed⟩ := used.unusable rfl
  have again (before : Bench σ) (same : before.program = first.after.program) :
      (apply device).on before = (.ok .unusable, before) :=
    apply_of_failed (same ▸ ordinary) (same ▸ vacant) (same ▸ clean) (same ▸ failed)
  have still (before : Bench σ) (same : before.program = first.after.program) :
      ((apply device).on before).2.program = first.after.program := by
    rw [again before same]
    exact same
  intro episode member outcome applied
  obtain ⟨operation, before, rfl, same⟩ := (history.frozen unbroken still).2 episode member
  obtain ⟨rfl, rfl⟩ := applied_begin applied
  refine ⟨by rw [again before same], ?_⟩
  change List.drop before.session.events.length ((apply device).on before).2.session.events = _
  rw [again before same]
  exact List.drop_length

/-! ## Nothing to draw -/

/-- What an operation answers for the program that stands for "nothing to draw". -/
def Operation.idle : (operation : Operation) → operation.Answer
  | apply => .skipped
  | invalidate => ()
  | release => ()
  | setUniform _ _ => false

/-- No operation has anything to do for the program that stands for "nothing to draw". -/
theorem step_of_nothing (device : Device σ) (bench : Bench σ) (operation : Operation)
    (empty : bench.program = nothing) :
    (operation.step device).on bench = (.ok operation.idle, bench) := by
  obtain ⟨program, session⟩ := bench
  obtain rfl : program = nothing := empty
  cases operation with
  | apply => rfl
  | invalidate => rfl
  | release => rfl
  | setUniform name value => rfl

/-- There is only one program that stands for "nothing to draw", and it never changes. -/
theorem History.eq_nothing (history : History device episodes bench)
    (sentinel : bench.program.sentinel = true) : bench.program = nothing := by
  induction history with
  | new initial state =>
      cases initial with
      | texts name vertexText fragmentText => cases sentinel
      | nothing => rfl
  | @next episodes bench past operation state ih =>
      have known : Coherent (bench.withDevice state).program := past.coherent
      have same := congrArg Identity.sentinel
        (stable_episode device known operation).identity
      have before : (bench.withDevice state).program = nothing := ih (same.symm.trans sentinel)
      rw [Episode.begin, step_of_nothing device _ operation before]
      exact before

/-- The device never sees the program that stands for "nothing to draw". -/
theorem History.unseen (history : History device episodes bench) :
    ∀ episode ∈ episodes, episode.before.program.sentinel = true →
      episode.events = [] ∧ episode.after.program = episode.before.program ∧
        ∀ outcome, episode.applied? = some outcome → outcome = .ok .skipped := by
  induction history with
  | new initial state => rintro _ ⟨⟩
  | @next episodes bench past operation state ih =>
      intro episode member sentinel
      rcases List.mem_append.mp member with old | new
      · exact ih episode old sentinel
      · obtain rfl := List.mem_singleton.mp new
        have idle := step_of_nothing device (bench.withDevice state) operation
          (past.eq_nothing sentinel)
        refine ⟨?_, congrArg (fun result => result.2.program) idle, fun outcome applied => ?_⟩
        · exact (congrArg (fun result => List.drop bench.session.events.length
            result.2.session.events) idle).trans List.drop_length
        · obtain ⟨rfl, rfl⟩ := applied_begin applied
          exact congrArg Prod.fst idle

/-! ## Deciding once -/

/-- **A program is decided once in each epoch.**  Whatever is done with a program, and whatever
the device answers, as long as the program is neither invalidated nor released:

* after a use that made the program current, each further use makes a single call, which makes
  the same program object current;
* after a use that found the program unusable, each further use finds it unusable without a
  call;
* each compile status that is answered with true is about a shader that was created for a stage,
  and there is at most one for each stage;
* at most one link status that is answered with true leaves the program with a program object.

The program that stands for "nothing to draw" is always skipped without a call. -/
theorem History.settles_once (history : History device (past ++ epoch) bench)
    (unbroken : ∀ episode ∈ epoch, episode.operation.resets = false) :
    (∀ earlier first later, epoch = earlier ++ first :: later →
      (first.applied? = some (.ok .bound) →
        ∃ handle, first.after.program.handle = some handle ∧
          first.events.getLast? = some (.called (.useProgram (some handle)) (.ok ())) ∧
          ∀ episode ∈ later, ∀ outcome, episode.applied? = some outcome →
            ∃ reply, episode.events = [.called (.useProgram (some handle)) reply] ∧
              outcome = (reply.mapError .deviceFault).map fun _ => .bound) ∧
      (first.applied? = some (.ok .unusable) →
        ∀ episode ∈ later, ∀ outcome, episode.applied? = some outcome →
          outcome = .ok .unusable ∧ episode.events = [])) ∧
    (∀ stage, (Trace.compiled (past.flatMap Episode.events)
      (epoch.flatMap Episode.events)).count (some stage) ≤ 1) ∧
    none ∉ Trace.compiled (past.flatMap Episode.events) (epoch.flatMap Episode.events) ∧
    (epoch.flatMap Episode.kept).length ≤ 1 ∧
    ∀ episode ∈ past ++ epoch, episode.before.program.sentinel = true →
      episode.events = [] ∧ episode.after.program = episode.before.program ∧
        ∀ outcome, episode.applied? = some outcome → outcome = .ok .skipped := by
  obtain ⟨start, origin, account⟩ := history.epoch_accounted unbroken
  rw [← origin.events]
  refine ⟨?_, fun stage => ?_, account.attributed, ?_, history.unseen⟩
  · rintro earlier first later rfl
    rw [← List.append_assoc] at history
    have rest : ∀ episode ∈ later, episode.operation.resets = false := fun episode member =>
      unbroken episode (List.mem_append_right _ (List.mem_cons_of_mem _ member))
    exact ⟨history.rebound rest, history.unusable_again rest⟩
  · have compiled := account.compiled stage
    have single : (bench.program.shaderOf stage).toList.length ≤ 1 := Option.length_toList_le
    omega
  · have kept := account.kept
    have single : bench.program.handle.toList.length ≤ 1 := Option.length_toList_le
    omega

/-- A device that refuses a kind of call once. -/
def balking (call : String) (nextHandle : Nat) : Script :=
  { faults := [{ call, fault := .outOfMemory }], nextHandle }

/-- A program is used and invalidated.  Then the device refuses to attach its shaders, to look
up a location, and to make the program current, before the program is made current at last;
after that it is used twice more. -/
def hesitant : List (Operation × Script) :=
  [(.apply, {}), (.invalidate, {}), (.apply, balking "attach_shader" 4),
    (.apply, balking "uniform_location" 7), (.apply, balking "use_program" 8), (.apply, {}),
    (.setUniform "a" (.int 1), {}), (.apply, balking "use_program" 9), (.apply, {})]

/-- Over three uses that failed each stage was compiled once, and of two program objects that
were found linked one was kept. -/
theorem History.settles_once_hesitant :
    let last := replay Script.device twoUniforms {} hesitant
    let past := last.1.take 2
    let epoch := last.1.drop 2
    (∀ episode ∈ epoch, episode.operation.resets = false) ∧
      epoch.map (fun episode => (Trace.linked episode.events, episode.kept)) =
        [([], []), ([⟨7⟩], []), ([⟨8⟩], [⟨8⟩]), ([], []), ([], []), ([], []), ([], [])] ∧
      (Trace.compiled (past.flatMap Episode.events) (epoch.flatMap Episode.events)).count
        (some .vertex) ≤ 1 ∧
      ∃ earlier first later, epoch = earlier ++ first :: later ∧
        first.applied? = some (.ok .bound) ∧ later.length = 3 ∧
        ∃ handle, first.after.program.handle = some handle ∧
          ∀ episode ∈ later, ∀ outcome, episode.applied? = some outcome →
            ∃ reply, episode.events = [.called (.useProgram (some handle)) reply] ∧
              outcome = (reply.mapError .deviceFault).map fun _ => .bound := by
  intro last past epoch
  have unbroken : ∀ episode ∈ epoch, episode.operation.resets = false := by decide +kernel
  have links : epoch.map (fun episode => (Trace.linked episode.events, episode.kept)) =
      [([], []), ([⟨7⟩], []), ([⟨8⟩], [⟨8⟩]), ([], []), ([], []), ([], []), ([], [])] := by
    decide +kernel
  have count : 3 < epoch.length := by decide +kernel
  have split : epoch = epoch.take 3 ++ epoch[3] :: epoch.drop 4 := by
    rw [← List.drop_eq_getElem_cons count, List.take_append_drop]
  have bound : epoch[3].applied? = some (.ok .bound) := by
    have found : epoch[3]?.bind Episode.applied? = some (.ok .bound) := by decide +kernel
    rw [List.getElem?_eq_getElem count, Option.bind_some] at found
    exact found
  have further : (epoch.drop 4).length = 3 := by decide +kernel
  have history : History Script.device (past ++ epoch) last.2 := by
    rw [List.take_append_drop]
    exact history_replay _ (.texts "" _ "") _ _
  obtain ⟨decided, compiled, -⟩ := History.settles_once history unbroken
  obtain ⟨handle, held, -, again⟩ := (decided _ _ _ split).1 bound
  exact ⟨unbroken, links, compiled .vertex, _, _, _, split, bound, further, handle, held, again⟩

end Program
end ShaderLoom
