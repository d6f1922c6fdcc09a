import ShaderLoom.Proofs.VaryingAgreement

/-!
# Generated code assigns every variable once, before it is read

The statements of a stage are assignments.  No two of them are to the same variable, none is to
an attribute or a uniform or, in the fragment stage, to a varying; and a local variable is only
read by statements that come after the one that assigns it.

What a statement reads is found in its text (`Glsl.effects`).  Its names are names of variables
that the node behind the statement reads.  The order of statements is that of the nodes in the
schedule, where nodes stand behind all that they depend on.  What remains to be seen is that
every temporary that is read has a node that writes it, although requests that were folded into
others left their temporaries without one.  It holds since reads are redirected to what is
written, and what is read was available when it was requested.

## Main definitions

* `Glsl.SingleAssignment` — statements that assign every variable once, before it is read

## Main results

* `Wire.Draft.nodup_writes_scheduled` — scheduled nodes write every variable once
* `Wire.Draft.exists_writer_before` — and temporaries before they are read
* `RenderState.statements_singleAssignment` — generated code is in single-assignment form
-/

namespace ShaderLoom

/-- Statements of a stage that assign every variable once and local variables before they are
read, where some variables have been assigned before.  Every statement assigns an expression to
a variable of the table that the stage does not get from outside.  The expression stores
nothing, and every name that it mentions is that of a variable of the table; if this is a local
variable, it has been assigned. -/
inductive Glsl.SingleAssignment (stage : Stage) (table : SymbolTable) :
    (assigned : List Variable) → (statements : List String) → Prop
  | done (assigned : List Variable) : SingleAssignment stage table assigned []
  | assign {assigned : List Variable} {target : Variable} {expression : String}
      {statements : List String} (declared : target ∈ table.symbols) (fresh : target ∉ assigned)
      (output : target.storage ≠ .attr ∧ target.storage ≠ .uniform ∧
        (stage = .fragment → target.storage ≠ .varying))
      (effects : ∀ effect ∈ Glsl.effects expression, ∃ v ∈ table.symbols,
        effect = .read v.name ∧ (v.storage = .temporary → v ∈ assigned))
      (rest : SingleAssignment stage table (assigned ++ [target]) statements) :
      SingleAssignment stage table assigned
        ((target.name ++ " = " ++ expression ++ ";") :: statements)

namespace Wire

open StageGraph Schedule

variable {V : Vocabulary} {name : String} (draft : Draft V name) {order : List NodeId}

namespace Draft

/-- Schedules list nodes once, each behind those it depends on. -/
theorem settled_schedule (scheduled : draft.graph.schedule = .ok order) :
    Settled draft.graph.dependencies order := by
  rw [schedule_eq_foldlM draft.builtin?_isSome] at scheduled
  exact (foldlM_scheduleRoot_grown Settled.nil scheduled).2.settled

/-- **Scheduled nodes write every variable once.** -/
theorem nodup_writes_scheduled (scheduled : draft.graph.schedule = .ok order) :
    ((order.filterMap draft.graph.resolvedNode?).flatMap Node.writes).Nodup := by
  rw [List.nodup_flatMap]
  constructor
  · intro node member
    obtain ⟨n, _, found⟩ := List.mem_filterMap.mp member
    obtain ⟨stored, present, rfl⟩ := Option.map_eq_some_iff.mp found
    rw [Node.writes_mapReads]
    exact draft.faithful.nodup_writes (List.mem_of_getElem? present)
  · rw [List.pairwise_filterMap]
    refine (draft.settled_schedule scheduled).nodup.imp ?_
    intro n m other first foundFirst second foundSecond v writes writesToo
    obtain ⟨storedFirst, presentFirst, rfl⟩ := Option.map_eq_some_iff.mp foundFirst
    obtain ⟨storedSecond, presentSecond, rfl⟩ := Option.map_eq_some_iff.mp foundSecond
    exact other (draft.faithful.eq_of_writers (mem_writers.mpr ⟨_, presentFirst, writes⟩)
      (mem_writers.mpr ⟨_, presentSecond, writesToo⟩))

/-- **Temporaries are written before they are read.** -/
theorem exists_writer_before (scheduled : draft.graph.schedule = .ok order)
    {front back : List Node} {node : Node}
    (split : order.filterMap draft.graph.resolvedNode? = front ++ node :: back) {v : Variable}
    (reads : v ∈ node.reads) (temporary : v.storage = .temporary) :
    v ∈ front.flatMap Node.writes := by
  have member : node ∈ order.filterMap draft.graph.resolvedNode? := by
    rw [split]
    exact List.mem_append_right _ List.mem_cons_self
  obtain ⟨early, rest, rfl, rfl, starts⟩ := List.filterMap_eq_append_iff.mp split
  obtain ⟨skipped, n, late, rfl, none, found, _⟩ := List.filterMap_eq_cons_iff.mp starts
  obtain ⟨stored, present, rfl⟩ := Option.map_eq_some_iff.mp found
  obtain ⟨w, read, rfl⟩ := Node.mem_reads_mapReads.mp reads
  -- What is read has been written, by a node that the reader depends on.
  have written : draft.graph.resolve w ∈ written draft.edits :=
    (draft.has_of_reads member reads).2.resolve_left (not_readable_of_temporary temporary)
  obtain ⟨p, producer⟩ := List.exists_mem_of_ne_nil _ (draft.producers_ne_nil written)
  rw [producers, draft.laws.resolve_resolve] at producer
  have depends : p ∈ draft.graph.dependencies n := by
    have needs : draft.graph.DependsOn n p := draft.faithful.dependsOn present read producer
    rw [← needs_dependencies] at needs
    exact needs
  obtain ⟨source, foundSource, writes⟩ := mem_writers.mp producer
  have behind : p ∈ early ++ skipped :=
    (draft.settled_schedule scheduled).behind (by rw [List.append_assoc]) p depends
  have resolved : draft.graph.resolvedNode? p = some (source.mapReads draft.graph.resolve) :=
    Option.map_eq_some_iff.mpr ⟨source, foundSource, rfl⟩
  rcases List.mem_append.mp behind with inside | outside
  · exact List.mem_flatMap.mpr ⟨_, List.mem_filterMap.mpr ⟨p, inside, resolved⟩, writes⟩
  · rw [none p outside] at resolved
    cases resolved

/-- The statements of scheduled nodes are in this form behind the nodes that come before them,
which have assigned what they write. -/
theorem singleAssignment_behind [draft.Spelled] (scheduled : draft.graph.schedule = .ok order)
    {registry : Registry} {nodes : List Node} {parts : List Lowered}
    (lowers : List.Forall₂ (fun node part => node.lower registry = .ok part) nodes parts) :
    ∀ front, order.filterMap draft.graph.resolvedNode? = front ++ nodes →
      Glsl.SingleAssignment V.stage draft.graph.table (front.flatMap Node.writes)
        (parts.flatMap Lowered.statements) := by
  induction lowers with
  | nil => exact fun front _ => .done _
  | @cons node part nodes parts lowers _ ih =>
      intro front split
      have member : node ∈ order.filterMap draft.graph.resolvedNode? := by
        rw [split]
        exact List.mem_append_right _ List.mem_cons_self
      obtain ⟨v, single, ⟨expression, form, _, effects⟩, _⟩ :=
        draft.lower_of_scheduled member lowers
      have writes : v ∈ node.writes := by
        rw [single]
        exact List.mem_singleton_self v
      have distinct := draft.nodup_writes_scheduled scheduled
      rw [split, List.flatMap_append, List.flatMap_cons] at distinct
      have output := draft.not_readable_of_writes member writes
      rw [List.flatMap_cons, form]
      refine .assign (draft.writes_subset_symbols member writes) ?_ ?_ ?_ ?_
      · exact fun early =>
          List.disjoint_of_nodup_append distinct early (List.mem_append_left _ writes)
      · refine ⟨fun attr => output (.inl attr), fun uniform => output (.inr (.inl uniform)), ?_⟩
        exact fun fragment varying => output (.inr (.inr ⟨varying, fragment⟩))
      · intro effect among
        obtain ⟨u, reads, rfl⟩ := effects effect among
        exact ⟨u, draft.reads_subset_symbols member reads, rfl,
          fun temporary => draft.exists_writer_before scheduled split reads temporary⟩
      · have next := ih (front ++ [node]) (by rw [split, List.append_assoc]; rfl)
        rw [List.flatMap_append, List.flatMap_singleton, single] at next
        exact next

/-- **The statements of a stage assign every variable once, before it is read.** -/
theorem singleAssignment [draft.Spelled] {compiler : Compiler} {source : StageSource}
    (compiled : compiler.compile draft.graph = .ok source) :
    Glsl.SingleAssignment V.stage draft.graph.table [] source.statements := by
  obtain ⟨order, scheduled, done⟩ := Compiler.exists_of_compile compiled
  obtain ⟨lowered, lowers, statements, _⟩ := Compiler.exists_of_compileNodes done
  rw [statements]
  exact draft.singleAssignment_behind scheduled (forall₂_of_mapM lowers) [] rfl

end Draft

end Wire

namespace RenderState

/-- **Generated code is in single-assignment form and assigned before use.**  Both stages of a
valid render state can be wired, and compiled with the built-in snippets; and with any snippets,
if they are compiled, the statements of both are assignments to variables of their tables.  In
each stage, no variable is assigned twice, and every local variable that a statement reads was
assigned by an earlier one.  Attributes and uniforms are never assigned, and the fragment stage
assigns no varying.  The names of a table are distinct, so that they tell the variables
apart. -/
theorem statements_singleAssignment {state : RenderState} (valid : state.validate = .ok ())
    (name : String) : ∃ stages, state.stages name = .ok stages ∧
      stages.vertex.table.names.Nodup ∧ stages.fragment.table.names.Nodup ∧
      (∀ registry settings, ∃ sources,
        Compiler.compileStages { registry, settings } stages = .ok sources) ∧
      ∀ compiler sources, Compiler.compileStages compiler stages = .ok sources →
        Glsl.SingleAssignment .vertex stages.vertex.table [] sources.vertex.statements ∧
        Glsl.SingleAssignment .fragment stages.fragment.table
          [] sources.fragment.statements := by
  obtain ⟨wired⟩ := state.nonempty_wired valid name
  refine ⟨_, wired.stages, StageGraph.nodup_names_build _ _ _,
    StageGraph.nodup_names_build _ _ _, fun registry settings =>
      wired.exists_compileStages rfl, ?_⟩
  intro compiler sources compiled
  obtain ⟨vertex, fragment⟩ := Compiler.compile_of_compileStages compiled
  exact ⟨wired.vertex.singleAssignment vertex, wired.fragment.singleAssignment fragment⟩

/-- The color of the material is multiplied by that of the vertex and then by that of a texture;
both products are assigned once and then read. -/
theorem statements_singleAssignment_lavish : lavish.validate = .ok () ∧
    ∃ stages, lavish.stages "lavish" = .ok stages ∧
      ∃ sources, Compiler.compileStages {} stages = .ok sources ∧
        sources.fragment.statements.take 4 =
          ["vertexColor = uMaterialColor * vVertexColor;",
            "textureColor0 = texture2D(Texture0, vTexCoord2);",
            "texturedColor = vertexColor * textureColor0;",
              "normal = normalize(vViewNormal);"] ∧
        Glsl.SingleAssignment .vertex stages.vertex.table [] sources.vertex.statements ∧
        Glsl.SingleAssignment .fragment stages.fragment.table
          [] sources.fragment.statements := by
  have valid : lavish.validate = .ok () := rfl
  obtain ⟨stages, found, _, _, compiles, assigns⟩ := statements_singleAssignment valid "lavish"
  obtain ⟨sources, compiled⟩ := compiles {} {}
  obtain ⟨vertex, fragment⟩ := assigns _ _ compiled
  refine ⟨valid, stages, found, sources, compiled, ?_, vertex, fragment⟩
  obtain ⟨order, scheduled, done⟩ :=
    Compiler.exists_of_compile (Compiler.compile_of_compileStages compiled).2
  obtain ⟨lowered, lowers, statements, _⟩ := Compiler.exists_of_compileNodes done
  replace lowers : (order.filterMap stages.fragment.resolvedNode?).mapM (Node.lower []) =
    .ok lowered := lowers
  have listed : (lavish.stages "lavish").toOption.map (fun stages =>
      (stages.fragment.schedule.toOption.map fun order =>
        ((order.filterMap stages.fragment.resolvedNode?).mapM (Node.lower [])).toOption.map
          fun lowered => (lowered.flatMap Lowered.statements).take 4)) =
      some (some (some ["vertexColor = uMaterialColor * vVertexColor;",
        "textureColor0 = texture2D(Texture0, vTexCoord2);",
        "texturedColor = vertexColor * textureColor0;",
        "normal = normalize(vViewNormal);"])) := by
    decide +kernel
  rw [found] at listed
  simp only [Except.toOption, Option.map_some, scheduled, lowers, Option.some.injEq] at listed
  rw [statements]
  exact listed

end RenderState
end ShaderLoom
