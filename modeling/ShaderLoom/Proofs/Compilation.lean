import ShaderLoom.Proofs.LoweringTotality
import ShaderLoom.Proofs.StageEnvelope
import ShaderLoom.Proofs.StatementForm

/-!
# Compiling nodes

A stage is made of the statements of its scheduled nodes, the declarations of the variables that
they use, and the helpers that they call, put into a frame.  With the built-in snippets the
frame can always be filled in, so nodes that are complete can be compiled.

## Main definitions

* `Compiler.variablesOf` — the variables of some storages, storage by storage

## Main results

* `Compiler.exists_compileNodes`, `Compiler.exists_compile` — complete nodes can be compiled
* `Compiler.exists_of_compileNodes`, `Compiler.declarations_of_compileNodes` — what a generated
  stage is made of
* `Compiler.text_exact` — the text of a generated stage
-/

namespace ShaderLoom

/-- Variables that are not built in have declarations. -/
theorem Variable.exists_declaration {v : Variable} (external : v.storage ≠ .builtin) :
    ∃ text, v.declaration? = some text := by
  rw [Variable.declaration?]
  cases stored : v.storage with
  | builtin => exact absurd stored external
  | _ => exact ⟨_, rfl⟩

namespace Compiler

/-! ## Declarations -/

/-- The variables of some storages, storage by storage. -/
def variablesOf (storages : List Storage) (used : List Variable) : List Variable :=
  storages.flatMap fun storage => used.filter fun v => v.storage == storage

theorem mem_variablesOf {storages : List Storage} {used : List Variable} {v : Variable} :
    v ∈ variablesOf storages used ↔ v ∈ used ∧ v.storage ∈ storages := by
  simp only [variablesOf, List.mem_flatMap, List.mem_filter, beq_iff_eq]
  constructor
  · rintro ⟨storage, listed, used, rfl⟩
    exact ⟨used, listed⟩
  · rintro ⟨used, listed⟩
    exact ⟨v.storage, listed, used, rfl⟩

/-- The storages of declarations, in their order. -/
def declaredStorages : List Storage :=
  [.attr, .uniform, .varying, .temporary]

theorem globalDeclarations_eq (used : List Variable) : globalDeclarations used =
    (variablesOf [.attr, .uniform, .varying] used).filterMap Variable.declaration? := by
  simp [globalDeclarations, declarationsOf, variablesOf, List.filterMap_append]

theorem declarations_eq (used : List Variable) :
    globalDeclarations used ++ declarationsOf .temporary used =
      (variablesOf declaredStorages used).filterMap Variable.declaration? := by
  simp [globalDeclarations, declarationsOf, variablesOf, declaredStorages,
    List.filterMap_append]

theorem mem_declaredStorages {storage : Storage} :
    storage ∈ declaredStorages ↔ storage ≠ .builtin := by
  cases storage <;> decide

/-! ## Sources -/

/-- Complete nodes can be compiled with the built-in snippets. -/
theorem exists_compileNodes {compiler : Compiler} (plain : compiler.library = {})
    (stage : Stage) (name : String) {nodes : List Node}
    (complete : ∀ node ∈ nodes, node.Complete) :
    ∃ source, compiler.compileNodes stage name nodes = .ok source := by
  have lowers : ∀ node ∈ nodes, ∃ lowered, node.lower compiler.registry = .ok lowered := by
    intro node member
    obtain ⟨lowered, written, _⟩ := (complete node member).lower compiler.registry
    exact ⟨lowered, written⟩
  obtain ⟨lowered, written, origin⟩ := exists_mapM_eq_ok lowers
  have renders : ∀ helper ∈ (lowered.flatMap Lowered.helpers).eraseDups,
      ∃ text, compiler.renderHelper helper = .ok text := by
    intro helper member
    obtain ⟨part, among, calls⟩ := List.mem_flatMap.mp (List.mem_eraseDups.mp member)
    obtain ⟨node, present, gives⟩ := origin part among
    obtain ⟨same, writes, renderable⟩ := (complete node present).lower compiler.registry
    rw [gives] at writes
    cases writes
    obtain ⟨text, rendered⟩ := renderable helper calls
    refine ⟨String.ofList (Text.trimEnd text.toList), ?_⟩
    rw [renderHelper, plain, rendered]
    rfl
  obtain ⟨helpers, rendered, _⟩ := exists_mapM_eq_ok renders
  have builtin : compiler.library.registered.lookup frameSnippet = none := by rw [plain]; rfl
  simp only [compileNodes, written, rendered, render_frame _ _ _ _ _ _ builtin,
    bind, Except.bind]
  exact ⟨_, rfl⟩

/-- The source of a graph is that of its scheduled nodes. -/
theorem compile_eq {compiler : Compiler} {graph : StageGraph} {nodes : List Node}
    (scheduled : scheduledNodes graph = .ok nodes) :
    compiler.compile graph = compiler.compileNodes graph.stage graph.name nodes := by
  rw [compile, scheduled]
  rfl

/-- A graph can be compiled with the built-in snippets if its scheduled nodes are complete. -/
theorem exists_compile {compiler : Compiler} (plain : compiler.library = {})
    {graph : StageGraph} {nodes : List Node} (scheduled : scheduledNodes graph = .ok nodes)
    (complete : ∀ node ∈ nodes, node.Complete) :
    ∃ source, compiler.compile graph = .ok source := by
  rw [compile_eq scheduled]
  exact exists_compileNodes plain graph.stage graph.name complete

section Inversion

variable {compiler : Compiler} {source : StageSource}

section Nodes

variable {stage : Stage} {name : String} {nodes : List Node}
  (done : compiler.compileNodes stage name nodes = .ok source)
include done

/-- What a generated stage is made of. -/
theorem exists_of_compileNodes :
    ∃ lowered, nodes.mapM (Node.lower compiler.registry) = .ok lowered ∧
      source.statements = lowered.flatMap Lowered.statements ∧
      (lowered.flatMap Lowered.helpers).eraseDups.mapM compiler.renderHelper =
        .ok source.helpers ∧
      compiler.library.render frameSnippet (frameContext compiler.settings name
        (globalDeclarations (usedVariables nodes)) source.helpers
        (declarationsOf .temporary (usedVariables nodes)) source.statements) =
          .ok source.text := by
  obtain ⟨lowered, written, done⟩ := exists_of_bind_eq_ok done
  obtain ⟨helpers, rendered, done⟩ := exists_of_bind_eq_ok done
  obtain ⟨text, framed, done⟩ := exists_of_bind_eq_ok done
  cases done
  exact ⟨lowered, written, rfl, rendered, framed⟩

/-- **The declarations of a generated stage** are those of the variables that its nodes use. -/
theorem declarations_of_compileNodes : source.declarations =
    (variablesOf declaredStorages (usedVariables nodes)).filterMap Variable.declaration? := by
  obtain ⟨_, _, done⟩ := exists_of_bind_eq_ok done
  obtain ⟨_, _, done⟩ := exists_of_bind_eq_ok done
  obtain ⟨_, _, done⟩ := exists_of_bind_eq_ok done
  cases done
  exact declarations_eq (usedVariables nodes)

end Nodes

/-- What is compiled are the scheduled nodes. -/
theorem exists_of_compile {graph : StageGraph} (done : compiler.compile graph = .ok source) :
    ∃ order, graph.schedule = .ok order ∧ compiler.compileNodes graph.stage graph.name
      (order.filterMap graph.resolvedNode?) = .ok source := by
  obtain ⟨nodes, scheduled, done⟩ := exists_of_bind_eq_ok done
  obtain ⟨order, found, same⟩ := exists_of_bind_eq_ok scheduled
  cases same
  exact ⟨order, found, done⟩

end Inversion

/-! ## Texts -/

/-- **The text of a stage is exactly its lines.**  If the host has not replaced the frame, the
frame can be filled in with any texts, and it copies them: each stands in its place, once and
unread.  So the text of a compiled graph consists of the declarations of the variables that its
scheduled nodes use, of the helpers and of the statements, all of which are listed in the source
as well. -/
theorem text_exact {compiler : Compiler}
    (builtin : compiler.library.registered.lookup frameSnippet = none) :
    (∀ name globals helpers locals statements,
      compiler.library.render frameSnippet
          (frameContext compiler.settings name globals helpers locals statements) =
        .ok (stageText compiler.settings name globals helpers locals statements)) ∧
    ∀ graph source, compiler.compile graph = .ok source →
      ∃ nodes, scheduledNodes graph = .ok nodes ∧
      source.declarations = globalDeclarations (usedVariables nodes) ++
        declarationsOf .temporary (usedVariables nodes) ∧
      source.text = stageText compiler.settings graph.name
        (globalDeclarations (usedVariables nodes)) source.helpers
        (declarationsOf .temporary (usedVariables nodes)) source.statements := by
  refine ⟨fun _ _ _ _ _ => render_frame _ _ _ _ _ _ builtin, ?_⟩
  intro graph source compiled
  obtain ⟨nodes, scheduled, done⟩ := exists_of_bind_eq_ok compiled
  obtain ⟨_, _, _, _, framed⟩ := exists_of_compileNodes done
  rw [render_frame _ _ _ _ _ _ builtin] at framed
  refine ⟨nodes, scheduled, ?_, (Except.ok.inj framed).symm⟩
  rw [declarations_of_compileNodes done, declarations_eq]

/-- Settings with an empty version and no precision. -/
def bare : Compiler :=
  { settings := { glslVersion := some "", precision := none } }

/-- A node with the marks of templates in its operand. -/
def quotingNode : Node :=
  { operation := .assign
    inputs := [("in", .literal "$$ if x\n% 1.0")]
    outputs :=
      [("out", { name := StageGraph.fragColorName, type := .vec4, storage := .builtin })] }

/-- A fragment stage with the marks of templates in its name and in its statement. -/
def quoting : StageGraph :=
  ((StageGraph.new .fragment "\x7b\x7b name \x7d\x7d").add quotingNode).2

/-- Marks of templates are copied, and so are newlines and repeated texts. -/
theorem text_exact_quoting : bare.library.registered.lookup frameSnippet = none ∧
    bare.library.render frameSnippet (frameContext bare.settings "$$ endif"
        ["\x7b\x7b a \x7d\x7d", "\x7b\x7b a \x7d\x7d"] ["$$ for b in c\n"] ["%"] ["d;", ""]) =
      .ok ("#define SHADER_NAME $$ endif\n\n\x7b\x7b a \x7d\x7d\n\x7b\x7b a \x7d\x7d\n\n" ++
        "$$ for b in c\n\n\nvoid main() \x7b\n    %\n    d;\n    \n\x7d") ∧
    ∃ source, bare.compile quoting = .ok source ∧ source.text =
      "#define SHADER_NAME \x7b\x7b name \x7d\x7d\n\n\nvoid main() \x7b\n" ++
        "    gl_FragColor = $$ if x\n% 1.0;\n\x7d" := by
  have builtin : bare.library.registered.lookup frameSnippet = none := rfl
  obtain ⟨filled, compiled⟩ := text_exact builtin
  have scheduled : scheduledNodes quoting = .ok [quotingNode] := by decide +kernel
  have complete : ∀ node ∈ [quotingNode], node.Complete := List.forall_mem_singleton.mpr
    (Node.Complete.of_slots (List.Subset.refl _) (List.Subset.refl _) nofun trivial)
  have lowers : [quotingNode].mapM (Node.lower []) =
      .ok [{ statements := ["gl_FragColor = $$ if x\n% 1.0;"] }] := by decide +kernel
  have compiles : ∃ source, bare.compile quoting = .ok source :=
    exists_compile rfl scheduled complete
  obtain ⟨source, done⟩ := compiles
  obtain ⟨lowered, written, statements, helpers, _⟩ :=
    exists_of_compileNodes ((compile_eq scheduled).symm.trans done)
  obtain rfl := Except.ok.inj (lowers.symm.trans written)
  obtain ⟨nodes, found, _, text⟩ := compiled quoting source done
  obtain rfl := Except.ok.inj (scheduled.symm.trans found)
  obtain none := Except.ok.inj helpers
  refine ⟨builtin, (filled _ _ _ _ _).trans (congrArg _ (by decide +kernel)), source, done, ?_⟩
  rw [text, statements, ← none]
  decide +kernel

end Compiler

end ShaderLoom
