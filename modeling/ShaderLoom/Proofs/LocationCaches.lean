import ShaderLoom.Proofs.ObjectLifetimes

/-!
# Locations and the program object they belong to

A program that was linked asks its device for the locations of its uniforms and attributes, and
keeps the answers.  They mean something only together with the program object they were asked
for.

The locations are cleared and looked up one by one before the new program object is stored, and
a release drops the object before it clears the locations.  A call that is refused in between
leaves locations without an object: `Program.stale_location_after_refused_query` is such a run.
This is all that can go wrong.  Locations never belong to another object than the one that is
held, and what was left behind is gone after the next invalidation, successful release or
successful use.

## Main definitions

* `Program.Traced` — the known locations are answers about a program object
* `Program.Cached` — the invariant of the known locations
* `Program.CachedAt` — what becomes of it at each point of an operation
* `Program.recovered` — histories after which no locations are left behind

## Main results

* `Program.cached_step` — the invariant along an operation
* `Program.History.locations_current` — what the known locations are after any history
* `Program.stale_location_after_refused_query` — a location without a program object
-/

namespace ShaderLoom

/-- A query for a location was refused. -/
def Event.refusesLocation : Event → Bool
  | called (.uniformLocation _ _) (.error _) => true
  | called (.attributeLocation _ _) (.error _) => true
  | _ => false

namespace Program

variable {σ : Type}

open Step

/-- The known locations are answers of the device about a program object. -/
structure Traced (handle : ProgramHandle) (program : Program) (events : List Event) : Prop where
  uniforms : ∀ entry ∈ program.uniforms,
    .called (.uniformLocation handle entry.1) (.ok (some entry.2)) ∈ events
  attributes : ∀ entry ∈ program.attributes,
    .called (.attributeLocation handle entry.1) (.ok (some entry.2)) ∈ events

theorem Traced.mono {handle : ProgramHandle} {program : Program} {earlier later : List Event}
    (traced : Traced handle program earlier) (grown : earlier <+: later) :
    Traced handle program later where
  uniforms := fun entry known => grown.subset (traced.uniforms entry known)
  attributes := fun entry known => grown.subset (traced.attributes entry known)

/-- No location is known. -/
structure Blank (program : Program) : Prop where
  uniforms : program.uniforms = []
  attributes : program.attributes = []

theorem Blank.traced {program : Program} (blank : Blank program) (handle : ProgramHandle)
    (events : List Event) : Traced handle program events where
  uniforms := by simp [blank.uniforms]
  attributes := by simp [blank.attributes]

/-- The known locations are answers about one program object, which is the one that is held if
any is held.  If `clean` holds, none is known without a held object. -/
structure Cached (clean : Prop) (program : Program) (events : List Event) : Prop where
  traced : ∃ handle, Traced handle program events ∧ ∀ held ∈ program.handle, held = handle
  clean : clean → program.handle = none → Blank program
  sentinel : program.sentinel = true → Blank program

/-- The locations while the program is being built, until they are looked up. -/
structure Idle (clean : Prop) (program : Program) (events : List Event) : Prop where
  handle : program.handle = none
  traced : ∃ handle, Traced handle program events
  clean : clean → Blank program
  sentinel : program.sentinel = false

theorem Idle.cached {clean : Prop} {program : Program} {events : List Event}
    (idle : Idle clean program events) : Cached clean program events := by
  obtain ⟨handle, traced⟩ := idle.traced
  refine ⟨⟨handle, traced, ?_⟩, fun isClean _ => idle.clean isClean, ?_⟩
  · rw [idle.handle]
    rintro _ ⟨⟩
  · rw [idle.sentinel]
    rintro ⟨⟩

theorem Idle.imp {clean clean' : Prop} {program program' : Program} {earlier later : List Event}
    (idle : Idle clean program earlier) (grown : earlier <+: later) (weaker : clean' → clean)
    (handle : program'.handle = program.handle)
    (uniforms : program'.uniforms = program.uniforms)
    (attributes : program'.attributes = program.attributes)
    (sentinel : program'.sentinel = program.sentinel) : Idle clean' program' later := by
  obtain ⟨traced, answers⟩ := idle.traced
  refine ⟨handle.trans idle.handle, ⟨traced, ?_, ?_⟩, fun isClean => ?_,
    sentinel.trans idle.sentinel⟩
  · rw [uniforms]
    exact (answers.mono grown).uniforms
  · rw [attributes]
    exact (answers.mono grown).attributes
  · have blank := idle.clean (weaker isClean)
    exact ⟨uniforms.trans blank.uniforms, attributes.trans blank.attributes⟩

/-- No query for a location was refused since some events. -/
def Unrefused (front events : List Event) : Prop :=
  ∀ event, Since front events event → event.refusesLocation = false

theorem Unrefused.mono {front earlier later : List Event} (unrefused : Unrefused front later)
    (grown : earlier <+: later) : Unrefused front earlier :=
  fun event since => unrefused event (since.mono grown)

/-- The locations after a step that failed: they may be left over from a program object that is
gone, but only if a query was refused. -/
def Stranded (clean : Prop) (front : List Event) : Assertion :=
  fun program events => Idle (clean ∧ Unrefused front events) program events

theorem Idle.stranded {clean : Prop} {program : Program} {events : List Event}
    (idle : Idle clean program events) (front : List Event) :
    Stranded clean front program events :=
  idle.imp List.prefix_rfl (fun isClean => isClean.1) rfl rfl rfl rfl

/-- The locations while they are looked up, each by one query. -/
structure Locating (front : List Event) (handle : ProgramHandle) (program : Program)
    (events : List Event) : Prop where
  vacant : program.handle = none
  traced : Traced handle program events
  sentinel : program.sentinel = false
  grown : front <+: events

/-- The locations while a use has not come to look them up. -/
structure Preparing (clean : Prop) (front : List Event) (program : Program)
    (events : List Event) : Prop where
  idle : Idle clean program events
  grown : front <+: events

/-- Whether an operation failed on the way between dropping the program object and clearing the
locations. -/
def Operation.strands : (operation : Operation) → Except Error operation.Answer → Bool
  | release, .error _ => true
  | _, _ => false

/-- Whether an operation cleared the locations or gave the program an object that they belong
to. -/
def Operation.restores : (operation : Operation) → Except Error operation.Answer → Bool
  | invalidate, .ok () => true
  | release, .ok () => true
  | apply, .ok .bound => true
  | _, _ => false

/-- The locations at each point of an operation, since some events. -/
def CachedAt (clean : Prop) (front : List Event) : Point → Assertion
  | .begun _ => fun program events =>
      (Cached clean program events ∧ Settled program.holdings) ∧ front <+: events
  | .locating handle _ => Locating front handle
  | .abandoning _ _ => Stranded clean front
  | .deserting _ _ => Stranded clean front
  | .unbuilt _ => Stranded clean front
  | .ready => fun program events => Cached clean program events ∧ program.handle.isSome = true
  | .dropping _ => Cached False
  | .vacated => Cached False
  | .clearing _ => Cached False
  | .ended operation answer => Cached (operation.restores (.ok answer) = true ∨ clean)
  | .failed operation _ => fun program events =>
      Cached (clean ∧ operation ≠ .release ∧ Unrefused front events) program events
  | _ => Preparing clean front

section Points

variable {clean clean' : Prop} {front events : List Event} {program program' : Program}
  {handle : ProgramHandle} {point : Point}

theorem Cached.imp (cached : Cached clean program events) {later : List Event}
    (grown : events <+: later) (weaker : clean' → clean) : Cached clean' program later := by
  obtain ⟨handle, traced, held⟩ := cached.traced
  exact ⟨⟨handle, traced.mono grown, held⟩, fun isClean => cached.clean (weaker isClean),
    cached.sentinel⟩

theorem Cached.next (cached : Cached clean program events) (event : Event) :
    Cached clean program (events ++ [event]) :=
  cached.imp (List.prefix_append _ _) id

/-- A program without known locations. -/
theorem Blank.cached (blank : Blank program) (events : List Event) :
    Cached clean program events := by
  refine ⟨?_, fun _ _ => blank, fun _ => blank⟩
  cases held : program.handle with
  | none => exact ⟨⟨0⟩, blank.traced _ _, by rintro _ ⟨⟩⟩
  | some handle => exact ⟨handle, blank.traced _ _, by rintro _ ⟨⟩; rfl⟩

theorem Cached.invalidate (cached : Cached clean program events) :
    Blank program.invalidate := by
  unfold Program.invalidate
  split
  · rename_i isSentinel
    exact cached.sentinel isSentinel
  · exact ⟨rfl, rfl⟩

/-- A program object may be dropped, which may leave locations behind. -/
theorem Cached.drop (cached : Cached clean program events)
    (handle : ∀ held ∈ program'.handle, held ∈ program.handle)
    (uniforms : program'.uniforms = program.uniforms)
    (attributes : program'.attributes = program.attributes)
    (sentinel : program'.sentinel = program.sentinel) : Cached False program' events := by
  obtain ⟨traced, answers, same⟩ := cached.traced
  refine ⟨⟨traced, ⟨?_, ?_⟩, fun held member => same held (handle held member)⟩, False.elim,
    fun isSentinel => ?_⟩
  · rw [uniforms]
    exact answers.uniforms
  · rw [attributes]
    exact answers.attributes
  · have blank := cached.sentinel (sentinel.symm.trans isSentinel)
    exact ⟨uniforms.trans blank.uniforms, attributes.trans blank.attributes⟩

/-- As long as a program object is held, the locations belong to it. -/
theorem Cached.held (cached : Cached clean program events)
    (isSome : program.handle.isSome = true) : Cached clean' program events := by
  refine ⟨cached.traced, fun _ none => ?_, cached.sentinel⟩
  rw [none] at isSome
  cases isSome

theorem Preparing.next (preparing : Preparing clean front program events) (event : Event) :
    Preparing clean front program (events ++ [event]) where
  idle := preparing.idle.imp (List.prefix_append _ _) id rfl rfl rfl rfl
  grown := preparing.grown.trans (List.prefix_append _ _)

/-- Only the program object, the locations and the sentinel matter. -/
theorem Preparing.congr (preparing : Preparing clean front program events)
    (handle : program'.handle = program.handle)
    (uniforms : program'.uniforms = program.uniforms)
    (attributes : program'.attributes = program.attributes)
    (sentinel : program'.sentinel = program.sentinel) :
    Preparing clean front program' events where
  idle := preparing.idle.imp List.prefix_rfl id handle uniforms attributes sentinel
  grown := preparing.grown

/-- A use may break off before it has looked up a location. -/
theorem Preparing.cached (preparing : Preparing clean front program events)
    (weaker : clean' → clean) : Cached clean' program events :=
  preparing.idle.cached.imp List.prefix_rfl weaker

theorem Preparing.stranded (preparing : Preparing clean front program events) :
    Stranded clean front program events :=
  preparing.idle.stranded front

theorem Stranded.next (stranded : Stranded clean front program events) (event : Event) :
    Stranded clean front program (events ++ [event]) :=
  Idle.imp stranded (List.prefix_append _ _)
    (fun isClean => ⟨isClean.1, isClean.2.mono (List.prefix_append _ _)⟩) rfl rfl rfl rfl

theorem Stranded.cached (stranded : Stranded clean front program events) :
    Cached (clean ∧ Operation.apply ≠ .release ∧ Unrefused front events) program events :=
  (Idle.cached stranded).imp List.prefix_rfl fun isClean => ⟨isClean.1, isClean.2.2⟩

/-- A refused query leaves the locations that were looked up before it. -/
theorem Locating.stranded (locating : Locating front handle program events) {event : Event}
    (refused : event.refusesLocation = true) :
    Stranded clean front program (events ++ [event]) where
  handle := locating.vacant
  traced := ⟨handle, locating.traced.mono (List.prefix_append _ _)⟩
  clean := fun isClean =>
    absurd (isClean.2 event (since_concat locating.grown event)) (by rw [refused]; decide)
  sentinel := locating.sentinel

/-- An answered query leads to a location that is an answer. -/
theorem Locating.located (locating : Locating front handle program events) {event : Event}
    (traced : Traced handle program' (events ++ [event]))
    (same : program'.handle = program.handle)
    (sentinel : program'.sentinel = program.sentinel) :
    Locating front handle program' (events ++ [event]) where
  vacant := same.trans locating.vacant
  traced := traced
  sentinel := sentinel.trans locating.sentinel
  grown := locating.grown.trans (List.prefix_append _ _)

theorem Traced.uniform (traced : Traced handle program events) (name : String)
    (location : Option UniformLocation) :
    Traced handle { program with
        uniforms := program.uniforms ++ (location.map (name, ·)).toList }
      (events ++ [.called (.uniformLocation handle name) (.ok location)]) where
  uniforms := fun entry known => by
    rcases List.mem_append.mp known with old | new
    · exact List.mem_append_left _ (traced.uniforms entry old)
    · obtain ⟨found, rfl, rfl⟩ := Option.map_eq_some_iff.mp (Option.mem_toList.mp new)
      exact List.mem_append_right _ (List.mem_singleton_self _)
  attributes := (traced.mono (List.prefix_append _ _)).attributes

theorem Traced.attribute (traced : Traced handle program events) (name : String)
    (location : Option AttributeLocation) :
    Traced handle { program with
        attributes := program.attributes ++ (location.map (name, ·)).toList }
      (events ++ [.called (.attributeLocation handle name) (.ok location)]) where
  uniforms := (traced.mono (List.prefix_append _ _)).uniforms
  attributes := fun entry known => by
    rcases List.mem_append.mp known with old | new
    · exact List.mem_append_left _ (traced.attributes entry old)
    · obtain ⟨found, rfl, rfl⟩ := Option.map_eq_some_iff.mp (Option.mem_toList.mp new)
      exact List.mem_append_right _ (List.mem_singleton_self _)

theorem cachedAt_answered {request : Call} {next : request.Answer → Point × Program}
    (requests : Requests program point request next) (answer : request.Answer)
    (events : List Event) (holds : CachedAt clean front point program events) :
    CachedAt clean front (next answer).1 (next answer).2
      (events ++ [.called request (.ok answer)]) := by
  have unrestored (isClean : false = true ∨ clean) : clean :=
    isClean.resolve_left Bool.false_ne_true
  cases requests with
  | @compileStatus stage =>
      cases answer with
      | false => exact holds.next _
      | true => cases stage <;> exact (holds.next _).congr rfl rfl rfl rfl
  | discardShader => exact Preparing.cached ((holds.next _).congr rfl rfl rfl rfl) unrestored
  | linkStatus => cases answer <;> exact holds.next _
  | uniformLocation => exact holds.located (holds.traced.uniform _ _) rfl rfl
  | attributeLocation => exact holds.located (holds.traced.attribute _ _) rfl rfl
  | programInfoLog => exact (holds.next _).congr rfl rfl rfl rfl
  | discardProgram => exact (holds.next _).cached unrestored
  | useProgram => exact (holds.1.next _).held holds.2
  | setUniform => exact holds.1.1.imp (List.prefix_append _ _) unrestored
  | _ => exact holds.next _

/-- Whatever call is refused, the locations are those of one program object. -/
theorem cachedAt_refused {request : Call} {next : request.Answer → Point × Program}
    (requests : Requests program point request next) (fault : DeviceFault) (events : List Event)
    (holds : CachedAt clean front point program events) :
    CachedAt clean front (point.broken (.deviceFault fault)) program
      (events ++ [.called request (.error fault)]) := by
  cases requests with
  | uniformLocation => exact holds.stranded rfl
  | attributeLocation => exact holds.stranded rfl
  | useProgram => exact (holds.1.next _).held holds.2
  | deleteProgram => exact holds.imp (List.prefix_append _ _) fun isClean => isClean.2.1 rfl
  | deleteShader => exact holds.imp (List.prefix_append _ _) fun isClean => isClean.2.1 rfl
  | setUniform => exact holds.1.1.imp (List.prefix_append _ _) And.left
  -- No location was looked up yet, so none is left behind that was not there before.
  | _ => exact Preparing.stranded (Preparing.next holds _)

theorem cachedAt_asked {next : Bool → Point} (asks : Asks point next) (lost : Bool)
    (events : List Event) (holds : CachedAt clean front point program events) :
    CachedAt clean front (next lost) program (events ++ [.askedContextLost lost]) := by
  cases asks with
  | shader =>
      cases lost with
      | false => exact holds.next _
      | true => exact (holds.next _).stranded
  | program =>
      cases lost with
      | false => exact holds.next _
      | true => exact (holds.next _).stranded
  | owner => cases lost <;> exact holds.next _

theorem cachedAt_shifted {next : Point} (shifts : Shifts program point next program')
    (events : List Event) (holds : CachedAt clean front point program events) :
    CachedAt clean front next program' events := by
  have unrestored (isClean : false = true ∨ clean) : clean :=
    isClean.resolve_left Bool.false_ne_true
  cases shifts with
  | skip => exact holds.1.1.imp List.prefix_rfl unrestored
  | reuse ordinary held => exact ⟨holds.1.1, held⟩
  | giveUp => exact holds.1.1.imp List.prefix_rfl unrestored
  | build ordinary unready =>
      obtain ⟨⟨cached, settled⟩, grown⟩ := holds
      have vacant := settled.handle_eq_none unready
      obtain ⟨handle, traced, -⟩ := cached.traced
      have idle : Idle clean program events :=
        ⟨vacant, ⟨handle, traced⟩, fun isClean => cached.clean isClean vacant, ordinary⟩
      exact ⟨idle.imp List.prefix_rfl id rfl rfl rfl rfl, grown⟩
  | keepShader => exact holds
  | conflict => exact Preparing.stranded (holds.congr rfl rfl rfl rfl)
  | forget =>
      exact ⟨holds.idle.handle, Blank.traced ⟨rfl, rfl⟩ _ events,
        holds.idle.sentinel, holds.grown⟩
  | @store handle =>
      have cached : Cached clean { program with
          handle := some handle, status := .linked, failureLog := none } events := by
        refine ⟨⟨handle, ⟨holds.traced.uniforms, holds.traced.attributes⟩, ?_⟩, ?_, ?_⟩
        · rintro _ ⟨⟩
          rfl
        · rintro _ ⟨⟩
        · rw [show program.sentinel = false from holds.sentinel]
          rintro ⟨⟩
      exact ⟨cached, rfl⟩
  | breakOff => exact holds.cached
  | invalidate => exact holds.1.1.invalidate.cached events
  | vacant => exact holds.1.1.imp List.prefix_rfl False.elim
  | drop => exact holds.1.1.drop (by rintro _ ⟨⟩) rfl rfl rfl
  | takeShaders => exact holds.drop (fun _ held => held) rfl rfl rfl
  | reset => exact holds.invalidate.cached events
  | unknown => exact holds.1.1.imp List.prefix_rfl unrestored

/-- What is known of the locations is kept by all that can happen in an operation. -/
theorem invariant_cachedAt (clean : Prop) (front : List Event) :
    Invariant (CachedAt clean front) where
  answered := cachedAt_answered
  refused := cachedAt_refused
  asked := cachedAt_asked
  deserted := fun _ _ holds => holds.next _
  shifted := cachedAt_shifted

/-- The locations along any operation. -/
theorem cached_step (device : Device σ) (operation : Operation) :
    Triple (fun program events => (Cached clean program events ∧ Settled program.holdings) ∧
        front <+: events)
      (operation.step device)
      (fun answer => Cached (operation.restores (.ok answer) = true ∨ clean))
      (fun _ program events =>
        Cached (clean ∧ operation ≠ .release ∧ Unrefused front events) program events) :=
  (invariant_cachedAt clean front).step device operation

end Points

/-! ## Histories -/

/-- Whether an operation may leave locations behind without a program object: a release that
failed, or a use of which a query for a location was refused. -/
def Episode.strands (episode : Episode σ) : Bool :=
  episode.operation.strands episode.outcome || episode.events.any Event.refusesLocation

/-- Whether an operation leaves no locations behind without a program object: an invalidation, a
release that succeeded, or a use after which the program is current. -/
def Episode.restores (episode : Episode σ) : Bool :=
  episode.operation.restores episode.outcome

/-- Whether each episode that may have left locations behind was followed by one that does
not. -/
def recovered : List (Episode σ) → Bool
  | [] => true
  | episode :: later => (!episode.strands || later.any Episode.restores) && recovered later

theorem recovered_of_concat {episodes : List (Episode σ)} {last : Episode σ}
    (restores : last.restores = false) (recovery : recovered (episodes ++ [last]) = true) :
    recovered episodes = true ∧ last.strands = false := by
  induction episodes with
  | nil => simpa [recovered] using recovery
  | cons episode later ih =>
      rw [List.cons_append, recovered, Bool.and_eq_true_iff, List.any_append] at recovery
      obtain ⟨rest, unstranded⟩ := ih recovery.2
      refine ⟨?_, unstranded⟩
      rw [recovered, rest, Bool.and_true]
      simpa [restores] using recovery.1

variable {device : Device σ} {episodes : List (Episode σ)} {bench : Bench σ}

/-- The locations after any history. -/
theorem History.cached (history : History device episodes bench) :
    Cached (recovered episodes = true) bench.program bench.session.events := by
  induction history with
  | new initial state =>
      cases initial <;> exact Blank.cached ⟨rfl, rfl⟩ _
  | @next episodes bench past operation state ih =>
      have post := (cached_step device operation).episode (bench.withDevice state)
        ⟨⟨ih, past.guarded.1⟩, List.prefix_rfl⟩
      cases outcome : (Episode.begin device operation (bench.withDevice state)).outcome with
      | ok answer =>
          rw [outcome] at post
          refine post.imp List.prefix_rfl fun recovery => ?_
          cases restores : operation.restores (.ok answer) with
          | true => exact .inl rfl
          | false =>
              refine .inr (recovered_of_concat ?_ recovery).1
              rw [Episode.restores, outcome]
              exact restores
      | error error =>
          rw [outcome] at post
          refine post.imp List.prefix_rfl fun recovery => ?_
          obtain ⟨before, unstranded⟩ := recovered_of_concat (by
            rw [Episode.restores, outcome]
            cases operation <;> rfl) recovery
          rw [Episode.strands, outcome, Bool.or_eq_false_iff] at unstranded
          refine ⟨before, ?_, fun event since => ?_⟩
          · rintro rfl
            exact Bool.false_ne_true unstranded.1.symm
          · exact Bool.eq_false_iff.mpr (List.any_eq_false.mp unstranded.2 event since.mem_drop)

/-- A program without known locations declines every upload without a call. -/
theorem setUniform_of_blank (device : Device σ) {bench : Bench σ} (blank : Blank bench.program)
    (name : String) (value : UniformValue) :
    (setUniform device name value).on bench = (.ok false, bench) := by
  have unknown : bench.program.uniformLocation name = none := by
    rw [uniformLocation, blank.uniforms, List.lookup_nil]
  have looked (next : Program → Step σ Bool) :
      (Step.program >>= next).on bench = (next bench.program).on bench := rfl
  rw [setUniform, looked, unknown]
  rfl

/-- **Locations belong to the program object.**  Whatever is done with a program, and whatever
the device answers, each known location is an answer that the device gave for that name on the
program object, as long as one is held.

A release that failed, or a use of which a query for a location was refused, may leave locations
behind although no program object is held.  If each of these was followed by an invalidation, a
release that succeeded or a use that made the program current, then locations are only known
while a program object is held, and an upload without one is declined without a call. -/
theorem History.locations_current (history : History device episodes bench) :
    (∀ handle, bench.program.handle = some handle →
      (∀ name location, bench.program.uniformLocation name = some location →
        .called (.uniformLocation handle name) (.ok (some location)) ∈ bench.session.events) ∧
      ∀ name location, bench.program.attributeLocation name = some location →
        .called (.attributeLocation handle name) (.ok (some location)) ∈ bench.session.events) ∧
    (recovered episodes = true →
      (∀ name location, bench.program.uniformLocation name = some location →
        ∃ handle, bench.program.handle = some handle ∧
          .called (.uniformLocation handle name) (.ok (some location)) ∈ bench.session.events) ∧
      (∀ name location, bench.program.attributeLocation name = some location →
        ∃ handle, bench.program.handle = some handle ∧
          .called (.attributeLocation handle name)
            (.ok (some location)) ∈ bench.session.events) ∧
      (bench.program.handle = none → ∀ name value,
        (setUniform device name value).on bench = (.ok false, bench))) := by
  obtain ⟨traced, clean, -⟩ := history.cached
  obtain ⟨object, answers, same⟩ := traced
  have uniforms (name : String) (location : UniformLocation)
      (found : bench.program.uniformLocation name = some location) :=
    answers.uniforms _ (Association.mem_of_lookup found)
  have attributes (name : String) (location : AttributeLocation)
      (found : bench.program.attributeLocation name = some location) :=
    answers.attributes _ (Association.mem_of_lookup found)
  refine ⟨fun handle held => ?_, fun recovery => ⟨fun name location found => ?_,
    fun name location found => ?_, fun none =>
      setUniform_of_blank device (clean recovery none)⟩⟩
  · obtain rfl := same handle held
    exact ⟨uniforms, attributes⟩
  · cases held : bench.program.handle with
    | none =>
        rw [uniformLocation, (clean recovery held).uniforms] at found
        cases found
    | some handle =>
        obtain rfl := same handle held
        exact ⟨handle, rfl, uniforms name location found⟩
  · cases held : bench.program.handle with
    | none =>
        rw [attributeLocation, (clean recovery held).attributes] at found
        cases found
    | some handle =>
        obtain rfl := same handle held
        exact ⟨handle, rfl, attributes name location found⟩

/-- A program with two uniforms. -/
def twoUniforms : Program :=
  { name := "", vertexText := "uniform float a;\nuniform float b;\n", fragmentText := "" }

/-- A device that refuses the second query for a uniform. -/
def forgetful : Script :=
  { faults := [{ call := "uniform_location", fault := .outOfMemory, skip := 1 }] }

/-- After a use that failed at a location, the next use makes the locations right again. -/
theorem History.locations_current_retried :
    let last := replay Script.device twoUniforms {}
      [(.apply, forgetful), (.apply, { nextHandle := 4 })]
    recovered last.1 = true ∧
      last.2.program.uniformLocation "b" = some ⟨2⟩ ∧
      ∃ handle, last.2.program.handle = some handle ∧
        .called (.uniformLocation handle "b") (.ok (some ⟨2⟩)) ∈ last.2.session.events := by
  intro last
  have recovery : recovered last.1 = true := by decide +kernel
  have known : last.2.program.uniformLocation "b" = some ⟨2⟩ := by decide +kernel
  have history : History Script.device last.1 last.2 := history_replay _ (.texts "" _ "") _ _
  exact ⟨recovery, known, ((History.locations_current history).2 recovery).1 "b" ⟨2⟩ known⟩

/-- A use that fails at a location leaves an earlier one behind although the program object is
gone, and an upload reaches the device. -/
theorem stale_location_after_refused_query :
    let last := (replay Script.device twoUniforms {} [(.apply, forgetful)]).2
    last.program.handle = none ∧
      last.program.uniformLocation "a" = some ⟨1⟩ ∧
      ((setUniform Script.device "a" (.int 1)).on last).1 = .ok true ∧
      ((setUniform Script.device "a" (.int 1)).on last).2.session.events.length =
        last.session.events.length + 1 := by
  decide +kernel

end Program
end ShaderLoom
