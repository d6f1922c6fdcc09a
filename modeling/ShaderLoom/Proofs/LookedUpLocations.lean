import Mathlib.Data.List.Forall2
import ShaderLoom.Gpu.Scripted
import ShaderLoom.Proofs.BuildVerdicts
import ShaderLoom.Proofs.MergedDeclarations
import ShaderLoom.Proofs.ProgramSharing

/-!
# The locations of a program that was just built

A program that was linked asks its device for the location of every name that its texts declare,
and keeps the locations it is told.  `Program.Located` says of some events that they contain one
answered query for each of a list of declarations, in order, and that the known locations are
those answers.  Looking up one more declaration extends the list by one
(`Program.Located.concat`), and what was known before the first query is dropped, so that after
a use that had to build the program the known locations are the answers of this use and nothing
else, whatever was known before.

## Main definitions

* `Event.Asks` — an answered query for the location of a declared name
* `Program.Located` — the known locations are the answers to queries for some declarations
* `Program.LocatedAt` — the queries so far, at each point of a use
* `Program.activeNames` — the names whose locations are known

## Main results

* `Program.Located.activeNames_eq` — the known names are the declared ones that were answered
* `Program.apply_locates` — what is known after a use that had to build the program
-/

namespace ShaderLoom

/-! ## Queries -/

namespace Event

/-- A query for a location. -/
def queries : Event → Bool
  | called (.uniformLocation _ _) _ => true
  | called (.attributeLocation _ _) _ => true
  | _ => false

/-- The location of a uniform that a device told, with its name. -/
def uniform? : Event → Option (String × UniformLocation)
  | called (.uniformLocation _ name) (.ok (some location)) => some (name, location)
  | _ => none

/-- The location of an attribute that a device told, with its name. -/
def attribute? : Event → Option (String × AttributeLocation)
  | called (.attributeLocation _ name) (.ok (some location)) => some (name, location)
  | _ => none

/-- A device told the location of a declared name of a program object. -/
def locates (handle : ProgramHandle) (declaration : Declaration) : Event → Bool
  | called (.uniformLocation asked name) (.ok (some _)) =>
    declaration.qualifier = .uniform ∧ asked = handle ∧ name = declaration.name
  | called (.attributeLocation asked name) (.ok (some _)) =>
    declaration.qualifier = .attr ∧ asked = handle ∧ name = declaration.name
  | _ => false

/-- An answered query for the location of a declared name, which may have none. -/
inductive Asks (handle : ProgramHandle) (declaration : Declaration) : Event → Prop where
  | uniform (qualifier : declaration.qualifier = .uniform) (location : Option UniformLocation) :
      Asks handle declaration (called (.uniformLocation handle declaration.name) (.ok location))
  | attr (qualifier : declaration.qualifier = .attr) (location : Option AttributeLocation) :
      Asks handle declaration
        (called (.attributeLocation handle declaration.name) (.ok location))

theorem uniform?_eq_some_iff {event : Event} {name : String} {location : UniformLocation} :
    event.uniform? = some (name, location) ↔
      ∃ handle, event = called (.uniformLocation handle name) (.ok (some location)) := by
  constructor
  · intro told
    unfold uniform? at told
    split at told
    · obtain ⟨rfl, rfl⟩ := Prod.mk.inj (Option.some.inj told)
      exact ⟨_, rfl⟩
    · cases told
  · rintro ⟨handle, rfl⟩
    rfl

theorem attribute?_eq_some_iff {event : Event} {name : String} {location : AttributeLocation} :
    event.attribute? = some (name, location) ↔
      ∃ handle, event = called (.attributeLocation handle name) (.ok (some location)) := by
  constructor
  · intro told
    unfold attribute? at told
    split at told
    · obtain ⟨rfl, rfl⟩ := Prod.mk.inj (Option.some.inj told)
      exact ⟨_, rfl⟩
    · cases told
  · rintro ⟨handle, rfl⟩
    rfl

/-- A way to read the locations of one kind of names off the answers of a device. -/
structure Tells {κ : Type} (handle : ProgramHandle) (qualifier : Qualifier)
    (tells : Event → Option (String × κ)) : Prop where
  silent : ∀ {event : Event}, event.queries = false → tells event = none
  asked : ∀ {event : Event} {declaration : Declaration} {entry : String × κ},
    event.Asks handle declaration → tells event = some entry →
      declaration.qualifier = qualifier ∧ entry.1 = declaration.name ∧
        event.locates handle declaration = true
  located : ∀ {event : Event} {declaration : Declaration},
    event.locates handle declaration = true → declaration.qualifier = qualifier →
      ∃ location, tells event = some (declaration.name, location)

theorem tells_uniform (handle : ProgramHandle) : Tells handle .uniform uniform? where
  silent := by
    intro event silent
    refine Option.eq_none_iff_forall_ne_some.mpr fun entry told => ?_
    obtain ⟨handle, rfl⟩ := uniform?_eq_some_iff.mp told
    cases silent
  asked := by
    rintro event declaration ⟨name, location⟩ asks told
    obtain ⟨asked, rfl⟩ := uniform?_eq_some_iff.mp told
    cases asks with
    | uniform qualifier => exact ⟨qualifier, rfl, by simp [locates, qualifier]⟩
  located := by
    intro event declaration locates qualifier
    unfold Event.locates at locates
    split at locates
    · obtain ⟨-, -, rfl⟩ := of_decide_eq_true locates
      exact ⟨_, rfl⟩
    · rw [(of_decide_eq_true locates).1] at qualifier
      cases qualifier
    · cases locates

theorem tells_attribute (handle : ProgramHandle) : Tells handle .attr attribute? where
  silent := by
    intro event silent
    refine Option.eq_none_iff_forall_ne_some.mpr fun entry told => ?_
    obtain ⟨handle, rfl⟩ := attribute?_eq_some_iff.mp told
    cases silent
  asked := by
    rintro event declaration ⟨name, location⟩ asks told
    obtain ⟨asked, rfl⟩ := attribute?_eq_some_iff.mp told
    cases asks with
    | attr qualifier => exact ⟨qualifier, rfl, by simp [locates, qualifier]⟩
  located := by
    intro event declaration locates qualifier
    unfold Event.locates at locates
    split at locates
    · rw [(of_decide_eq_true locates).1] at qualifier
      cases qualifier
    · obtain ⟨-, -, rfl⟩ := of_decide_eq_true locates
      exact ⟨_, rfl⟩
    · cases locates

theorem filterMap_concat {κ : Type} (tells : Event → Option κ) (own : List Event)
    (event : Event) :
    (own ++ [event]).filterMap tells = own.filterMap tells ++ (tells event).toList := by
  rw [List.filterMap_append]
  cases told : tells event with
  | none => rw [List.filterMap_cons_none told]; rfl
  | some entry => rw [List.filterMap_cons_some told]; rfl

section Asked

variable {κ : Type} {handle : ProgramHandle} {qualifier : Qualifier}
  {tells : Event → Option (String × κ)} {declarations : List Declaration} {own : List Event}

theorem Tells.filterMap_queries (reading : Tells handle qualifier tells) (own : List Event) :
    (own.filter queries).filterMap tells = own.filterMap tells := by
  rw [List.filterMap_filter]
  refine List.filterMap_congr fun event _ => ?_
  split
  · rfl
  · rename_i silent
    exact (reading.silent (Bool.eq_false_iff.mpr silent)).symm

theorem exists_asks {asked : List Event}
    (answers : List.Forall₂ (fun declaration event => Asks handle declaration event)
      declarations asked) {event : Event} (member : event ∈ asked) :
    ∃ declaration ∈ declarations, event.Asks handle declaration := by
  induction answers with
  | nil => cases member
  | cons asks _ ih =>
      rcases List.mem_cons.mp member with rfl | later
      · exact ⟨_, List.mem_cons_self, asks⟩
      · obtain ⟨declaration, known, asks⟩ := ih later
        exact ⟨declaration, List.mem_cons_of_mem _ known, asks⟩

/-- The names whose locations were told are declared in this order. -/
theorem Tells.sublist (reading : Tells handle qualifier tells) {asked : List Event}
    (answers : List.Forall₂ (fun declaration event => Asks handle declaration event)
      declarations asked) :
    List.Sublist ((asked.filterMap tells).map Prod.fst)
      ((declarations.filter (·.qualifier = qualifier)).map Declaration.name) := by
  induction answers with
  | nil => exact List.Sublist.slnil
  | @cons declaration event declarations asked asks _ ih =>
      cases told : tells event with
      | none =>
          rw [List.filterMap_cons_none told]
          exact ih.trans (((List.sublist_cons_self declaration declarations).filter _).map _)
      | some entry =>
          obtain ⟨same, name, -⟩ := reading.asked asks told
          rw [List.filterMap_cons_some told, List.filter_cons, if_pos (decide_eq_true same),
            List.map_cons, List.map_cons, name]
          exact ih.cons_cons _

end Asked

end Event

/-- A part of a list without repeats is found by its members. -/
theorem eq_filter_mem_of_sublist {names known : List String} (part : names.Sublist known)
    (distinct : known.Nodup) : names = known.filter (· ∈ names) := by
  induction part with
  | slnil => rfl
  | @cons names known name part ih =>
      obtain ⟨fresh, distinct⟩ := List.nodup_cons.mp distinct
      rw [List.filter_cons_of_neg (by simpa using fun member => fresh (part.subset member))]
      exact ih distinct
  | @cons_cons names known name part ih =>
      obtain ⟨fresh, distinct⟩ := List.nodup_cons.mp distinct
      rw [List.filter_cons_of_pos (by simp)]
      refine congrArg (name :: ·)
        ((ih distinct).trans (List.filter_congr fun other member => ?_))
      have different : other ≠ name := fun same => fresh (same ▸ member)
      simp [different]

namespace Program

variable {σ : Type}

open Step

/-- The names of one kind whose locations are known. -/
def activeNames (program : Program) : Qualifier → List String
  | .uniform => program.uniforms.map Prod.fst
  | .attr => program.attributes.map Prod.fst

/-! ## Looking up -/

/-- A use that has not looked for locations yet.  It created the program object `object`, if
any. -/
structure Unasked (start : Program) (object : Option ProgramHandle) (program : Program)
    (own : List Event) : Prop where
  identity : program.identity = start.identity
  created : ∀ handle ∈ object, .called .createProgram (.ok handle) ∈ own
  silent : ∀ event ∈ own, event.queries = false

/-- A use that created a program object and was told the locations of some declarations of it,
which are all that is known. -/
structure Located (handle : ProgramHandle) (declarations : List Declaration) (program : Program)
    (own : List Event) : Prop where
  created : .called .createProgram (.ok handle) ∈ own
  asked : List.Forall₂
    (fun declaration event => Event.Asks handle declaration event) declarations
    (own.filter Event.queries)
  uniforms : program.uniforms = own.filterMap Event.uniform?
  attributes : program.attributes = own.filterMap Event.attribute?

/-- A use that built the program: it was told the locations of all declarations. -/
def Built (start : Program) : Assertion :=
  fun program own => ∃ handle declarations, program.handle = some handle ∧
    start.identity.scan = .ok declarations ∧ Located handle declarations program own

/-- What a use that has to build the program has asked for at each point.  Nothing more is said
of a use that does not make the program current. -/
def LocatedAt (start : Program) : Point → Assertion
  | .begun _ => fun program own => program = start ∧ own = []
  | .wanting _ => Unasked start none
  | .compiling _ _ _ => Unasked start none
  | .linking handle => Unasked start (some handle)
  | .linked handle => Unasked start (some handle)
  | .locating handle later => fun program own => ∃ asked,
      start.identity.scan = .ok (asked ++ later) ∧ Located handle asked program own
  | .ready => Built start
  | .ended .apply .bound => Built start
  | _ => fun _ _ => True

section Steps

variable {start program : Program} {object : Option ProgramHandle} {handle : ProgramHandle}
  {declarations : List Declaration} {front own : List Event} {event : Event}

theorem Unasked.quiet (unasked : Unasked start object program own)
    (silent : event.queries = false) : Unasked start object program (own ++ [event]) where
  identity := unasked.identity
  created := fun handle member => List.mem_append_left _ (unasked.created handle member)
  silent := by
    intro other member
    rcases List.mem_append.mp member with earlier | new
    · exact unasked.silent other earlier
    · rw [List.mem_singleton.mp new]
      exact silent

theorem Unasked.congr {program' : Program} (unasked : Unasked start object program own)
    (identity : program'.identity = program.identity) : Unasked start object program' own where
  identity := identity.trans unasked.identity
  created := unasked.created
  silent := unasked.silent

/-- As long as nothing was asked, no locations are the right ones. -/
theorem Unasked.located (unasked : Unasked start (some handle) program own) :
    Located handle [] { program with uniforms := [], attributes := [] } own where
  created := unasked.created handle rfl
  asked := by
    rw [List.filter_eq_nil_iff.mpr fun event member => by simp [unasked.silent event member]]
    exact .nil
  uniforms := (List.filterMap_eq_nil_iff.mpr fun event member =>
    (Event.tells_uniform handle).silent (unasked.silent event member)).symm
  attributes := (List.filterMap_eq_nil_iff.mpr fun event member =>
    (Event.tells_attribute handle).silent (unasked.silent event member)).symm

theorem Located.quiet (located : Located handle declarations program own)
    (silent : event.queries = false) :
    Located handle declarations program (own ++ [event]) where
  created := List.mem_append_left _ located.created
  asked := by
    rw [List.filter_append, List.filter_cons_of_neg (by rw [silent]; decide), List.filter_nil,
      List.append_nil]
    exact located.asked
  uniforms := by
    rw [Event.filterMap_concat, (Event.tells_uniform handle).silent silent, Option.toList_none,
      List.append_nil, located.uniforms]
  attributes := by
    rw [Event.filterMap_concat, (Event.tells_attribute handle).silent silent,
      Option.toList_none, List.append_nil, located.attributes]

/-- One more declaration is looked up. -/
theorem Located.concat {program' : Program} (located : Located handle declarations program own)
    {declaration : Declaration} (asks : event.Asks handle declaration)
    (uniforms : program'.uniforms = program.uniforms ++ event.uniform?.toList)
    (attributes : program'.attributes = program.attributes ++ event.attribute?.toList) :
    Located handle (declarations ++ [declaration]) program' (own ++ [event]) where
  created := List.mem_append_left _ located.created
  asked := by
    have query : event.queries = true := by cases asks <;> rfl
    rw [List.filter_append, List.filter_cons_of_pos query, List.filter_nil]
    exact List.rel_append located.asked (.cons asks .nil)
  uniforms := by
    rw [uniforms, located.uniforms, Event.filterMap_concat]
  attributes := by
    rw [attributes, located.attributes, Event.filterMap_concat]

theorem Built.quiet (built : Built start program own) (silent : event.queries = false) :
    Built start program (own ++ [event]) := by
  obtain ⟨handle, declarations, held, scanned, located⟩ := built
  exact ⟨handle, declarations, held, scanned, located.quiet silent⟩

variable {point : Point}

theorem locatedAt_answered {request : Call} {next : request.Answer → Point × Program}
    (requests : Requests program point request next) (answer : request.Answer)
    (own : List Event) (holds : LocatedAt start point program own) :
    LocatedAt start (next answer).1 (next answer).2
      (own ++ [.called request (.ok answer)]) := by
  cases requests with
  | createShader => exact holds.quiet rfl
  | shaderSource => exact holds.quiet rfl
  | compileShader => exact holds.quiet rfl
  | compileStatus =>
      cases answer with
      | false => trivial
      | true => exact (holds.quiet rfl).congr (identity_withShader program _ _)
  | createProgram =>
      refine ⟨holds.identity, ?_, (holds.quiet rfl).silent⟩
      rintro _ ⟨⟩
      exact List.mem_append_right _ (List.mem_singleton_self _)
  | attachShader => exact holds.quiet rfl
  | linkProgram => exact holds.quiet rfl
  | linkStatus =>
      cases answer with
      | false => trivial
      | true => exact holds.quiet rfl
  | validateProgram => exact holds.quiet rfl
  | @uniformLocation handle declaration later qualifier =>
      obtain ⟨asked, scanned, located⟩ := holds
      refine ⟨asked ++ [declaration], by rw [← List.append_cons]; exact scanned,
        located.concat (.uniform qualifier answer) ?_ (List.append_nil _).symm⟩
      cases answer <;> rfl
  | @attributeLocation handle declaration later qualifier =>
      obtain ⟨asked, scanned, located⟩ := holds
      refine ⟨asked ++ [declaration], by rw [← List.append_cons]; exact scanned,
        located.concat (.attr qualifier answer) (List.append_nil _).symm ?_⟩
      cases answer <;> rfl
  | useProgram => exact holds.quiet rfl
  | _ => trivial

theorem locatedAt_shifted (pending : start.handle = none ∨ start.dirty = true)
    {program' : Program} {next : Point} (shifts : Shifts program point next program')
    (own : List Event) (holds : LocatedAt start point program own) :
    LocatedAt start next program' own := by
  cases shifts with
  | reuse ordinary held clean =>
      obtain ⟨rfl, -⟩ := holds
      rcases pending with vacant | dirty
      · rw [vacant] at held
        cases held
      · rw [dirty] at clean
        cases clean
  | build =>
      obtain ⟨rfl, rfl⟩ := holds
      exact ⟨rfl, by rintro _ ⟨⟩, by rintro _ ⟨⟩⟩
  | keepShader => exact holds
  | forget scanned =>
      refine ⟨[], ?_, holds.located⟩
      rw [← holds.identity]
      exact scanned
  | store =>
      obtain ⟨asked, scanned, located⟩ := holds
      rw [List.append_nil] at scanned
      exact ⟨_, asked, rfl, scanned, located.created, located.asked, located.uniforms,
        located.attributes⟩
  | _ => trivial

/-- What was asked for is kept by all that can happen in a use that has to build the program. -/
theorem invariant_locatedAt (pending : start.handle = none ∨ start.dirty = true) :
    Invariant (LocatedAt start) where
  answered := locatedAt_answered
  refused := fun requests _ _ _ => by cases requests <;> trivial
  asked := fun asks lost _ _ => by cases asks <;> cases lost <;> trivial
  deserted := fun _ _ _ => trivial
  shifted := locatedAt_shifted pending

end Steps

/-! ## What is known -/

section Known

variable {program : Program} {handle : ProgramHandle} {declarations : List Declaration}
  {own : List Event}

section Reading

variable {κ : Type} {qualifier : Qualifier} {tells : Event → Option (String × κ)}
  (reading : Event.Tells handle qualifier tells)
  (asked : List.Forall₂ (fun declaration event => Event.Asks handle declaration event)
    declarations (own.filter Event.queries))
  (distinct : (declarations.map Declaration.name).Nodup)

include reading asked distinct

/-- A declared name was told a location if the device has one for it.  Another declaration
cannot have got it, since no name is declared twice. -/
theorem mem_told_names_iff {declaration : Declaration} (member : declaration ∈ declarations)
    (same : declaration.qualifier = qualifier) :
    declaration.name ∈ (own.filterMap tells).map Prod.fst ↔
      own.any (Event.locates handle declaration) = true := by
  rw [List.any_eq_true]
  constructor
  · intro told
    obtain ⟨entry, told, named⟩ := List.mem_map.mp told
    obtain ⟨event, happened, told⟩ := List.mem_filterMap.mp told
    have query : event.queries = true := by
      refine Bool.eq_true_of_not_eq_false fun silent => ?_
      rw [reading.silent silent] at told
      cases told
    obtain ⟨other, known, asks⟩ :=
      Event.exists_asks asked (List.mem_filter.mpr ⟨happened, query⟩)
    obtain ⟨-, name, locates⟩ := reading.asked asks told
    obtain rfl := List.inj_on_of_nodup_map distinct known member (name.symm.trans named)
    exact ⟨event, happened, locates⟩
  · rintro ⟨event, happened, locates⟩
    obtain ⟨location, told⟩ := reading.located locates same
    exact List.mem_map.mpr ⟨_, List.mem_filterMap.mpr ⟨event, happened, told⟩, rfl⟩

/-- The names of one kind are those declared ones that the device has a location for. -/
theorem told_names :
    (own.filterMap tells).map Prod.fst = (declarations.filter fun declaration =>
        declaration.qualifier = qualifier ∧
          own.any (Event.locates handle declaration)).map Declaration.name ∧
      ((own.filterMap tells).map Prod.fst).Nodup := by
  have part := reading.sublist asked
  rw [reading.filterMap_queries] at part
  have known : ((declarations.filter (·.qualifier = qualifier)).map Declaration.name).Nodup :=
    (List.filter_sublist.map _).nodup distinct
  refine ⟨?_, part.nodup known⟩
  rw [eq_filter_mem_of_sublist part known, List.filter_map, List.filter_filter]
  refine congrArg _ (List.filter_congr fun declaration member => ?_)
  rw [Function.comp_apply, ← Bool.decide_and, decide_eq_decide, and_comm]
  exact and_congr_right fun same => mem_told_names_iff reading asked distinct member same

end Reading

theorem Located.activeNames_eq (located : Located handle declarations program own)
    (distinct : (declarations.map Declaration.name).Nodup) (qualifier : Qualifier) :
    program.activeNames qualifier = (declarations.filter fun declaration =>
        declaration.qualifier = qualifier ∧
          own.any (Event.locates handle declaration)).map Declaration.name ∧
      (program.activeNames qualifier).Nodup := by
  cases qualifier with
  | uniform =>
      rw [activeNames, located.uniforms]
      exact told_names (Event.tells_uniform handle) located.asked distinct
  | attr =>
      rw [activeNames, located.attributes]
      exact told_names (Event.tells_attribute handle) located.asked distinct

/-- The known locations are the answers of the device about the program object. -/
theorem Located.uniformLocation_iff (located : Located handle declarations program own)
    (distinct : (declarations.map Declaration.name).Nodup) (name : String)
    (location : UniformLocation) : program.uniformLocation name = some location ↔
      .called (.uniformLocation handle name) (.ok (some location)) ∈ own := by
  have names := (told_names (Event.tells_uniform handle) located.asked distinct).2
  rw [uniformLocation, located.uniforms, Association.lookup_eq_some_iff_mem names,
    List.mem_filterMap]
  constructor
  · rintro ⟨event, happened, told⟩
    obtain ⟨asked, rfl⟩ := Event.uniform?_eq_some_iff.mp told
    obtain ⟨declaration, -, asks⟩ :=
      Event.exists_asks located.asked (List.mem_filter.mpr ⟨happened, rfl⟩)
    cases asks
    exact happened
  · exact fun happened => ⟨_, happened, rfl⟩

theorem Located.attributeLocation_iff (located : Located handle declarations program own)
    (distinct : (declarations.map Declaration.name).Nodup) (name : String)
    (location : AttributeLocation) : program.attributeLocation name = some location ↔
      .called (.attributeLocation handle name) (.ok (some location)) ∈ own := by
  have names := (told_names (Event.tells_attribute handle) located.asked distinct).2
  rw [attributeLocation, located.attributes, Association.lookup_eq_some_iff_mem names,
    List.mem_filterMap]
  constructor
  · rintro ⟨event, happened, told⟩
    obtain ⟨asked, rfl⟩ := Event.attribute?_eq_some_iff.mp told
    obtain ⟨declaration, -, asks⟩ :=
      Event.exists_asks located.asked (List.mem_filter.mpr ⟨happened, rfl⟩)
    cases asks
    exact happened
  · exact fun happened => ⟨_, happened, rfl⟩

end Known

/-- **Locations after a build.**  Whatever is known about a program, and whatever the device
answers: if a use has to build the program and makes it current, then afterwards the names of
each kind are those that the texts declare and that the device told a location for, in the order
in which they are declared and none twice; and the known locations are the answers that the
device gave in this use about the new program object. -/
theorem apply_locates (device : Device σ) (bench : Bench σ)
    (pending : bench.program.handle = none ∨ bench.program.dirty = true)
    (bound : (Episode.begin device .apply bench).outcome = .ok .bound) :
    let use := Episode.begin device .apply bench
    let known := use.after.program
    ∃ handle declarations, known.handle = some handle ∧
      .called .createProgram (.ok handle) ∈ use.events ∧
      Declaration.scan bench.program.vertexText bench.program.fragmentText = .ok declarations ∧
      (∀ qualifier,
        known.activeNames qualifier = (declarations.filter fun declaration =>
          declaration.qualifier = qualifier ∧
            use.events.any (Event.locates handle declaration)).map Declaration.name ∧
        (known.activeNames qualifier).Nodup) ∧
      (∀ name location, known.uniformLocation name = some location ↔
        .called (.uniformLocation handle name) (.ok (some location)) ∈ use.events) ∧
      ∀ name location, known.attributeLocation name = some location ↔
        .called (.attributeLocation handle name) (.ok (some location)) ∈ use.events := by
  intro use known
  have invariant := (invariant_locatedAt pending).after bench.session.events
  have post := (invariant.step device .apply).episode bench (after_nil ⟨rfl, rfl⟩)
  rw [bound] at post
  have ended : After bench.session.events (Built bench.program) known
      use.after.session.events := post
  obtain ⟨handle, declarations, held, scanned, located⟩ := ended.drop
  have distinct := Declaration.scan_nodup scanned
  exact ⟨handle, declarations, held, located.created, scanned,
    located.activeNames_eq distinct, located.uniformLocation_iff distinct,
    located.attributeLocation_iff distinct⟩

/-- A program of which one uniform is not active is built again after a use that failed when it
looked up the second location. -/
theorem apply_locates_retried :
    let start : Program :=
      { name := "", vertexText := "uniform int a;uniform int b;"
        fragmentText := "uniform int c;uniform int a;" }
    let failed := (replay Script.device start {} [(.apply,
      { faults := [{ call := "uniform_location", fault := .outOfMemory, skip := 1 }] })]).2
    let bench := failed.withDevice { nextHandle := 4, nextLocation := 7, inactive := ["b"] }
    let use := Episode.begin Script.device .apply bench
    failed.program.uniformLocation "a" = some ⟨1⟩ ∧
      use.outcome = .ok .bound ∧
      use.after.program.activeNames .uniform = ["a", "c"] ∧
      ∀ name location, use.after.program.uniformLocation name = some location ↔
        .called (.uniformLocation ⟨4⟩ name) (.ok (some location)) ∈ use.events := by
  intro start failed bench use
  have facts : failed.program.uniformLocation "a" = some ⟨1⟩ ∧ bench.program.handle = none ∧
      ((apply Script.device).on bench).1 = .ok .bound ∧
      use.after.program.activeNames .uniform = ["a", "c"] ∧
      use.after.program.handle = some ⟨4⟩ := by decide +kernel
  obtain ⟨stale, vacant, bound, names, object⟩ := facts
  obtain ⟨handle, declarations, held, -, -, -, uniforms, -⟩ :=
    apply_locates Script.device bench (.inl vacant) bound
  obtain rfl : handle = ⟨4⟩ := Option.some.inj (held.symm.trans object)
  exact ⟨stale, bound, names, uniforms⟩

end Program
end ShaderLoom
