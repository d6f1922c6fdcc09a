import ShaderLoom.Proofs.DeclarationOrder
import ShaderLoom.Proofs.FrameText
import ShaderLoom.Proofs.MergedDeclarations
import ShaderLoom.Proofs.VaryingAgreement

/-!
# Introspection finds what was declared

The declarations that are read off the texts of generated shaders are those that were put into
them: the attributes and uniforms of the vertex stage, then the uniforms of the fragment stage,
each with its type and its name, in the order in which they are declared.  Nothing else in the
texts looks like a declaration, and no name is declared twice.

In a text, declarations stand on lines of their own, local variables and statements say nothing
since their first words are no qualifiers, and helpers say nothing by their templates.  Within a
stage, names are distinct by the symbol table.  The stages do not share names either: four
letters tell the inputs of one from those of the other.

## Main definitions

* `Declaration.WrittenAs` — how a declaration is written

## Main results

* `Wire.Draft.declares_text` — the text of a stage declares the variables that are used
* `Compiler.scan_generate` — introspection finds what was declared
-/

namespace ShaderLoom

open Declaration (Announces Declares IsWord Harmless)

/-! ## Names -/

namespace Declaration

theorem isWord_of_isLasting {name : String} (lasting : Wire.isLasting name = true) :
    IsWord name.toList :=
  isWord_of_isIdentifier (Wire.isIdentifier_of_isLasting lasting)

theorem harmless_of_isLasting {name : String} (lasting : Wire.isLasting name = true) :
    Harmless name.toList := by
  rw [Wire.isLasting, Bool.and_eq_true, Bool.not_eq_true'] at lasting
  have other := lasting.2
  intro qualifier same
  rw [Wire.opensQualifier, Wire.opening, ← same] at other
  cases qualifier <;> cases other

/-! ## Declarations as texts -/

/-- How a declaration is written: its qualifier, its type and its name, with the length of an
array. -/
def WrittenAs (declaration : Declaration) (text : String) : Prop :=
  IsWord declaration.type.toList ∧ IsWord declaration.name.toList ∧
    ∃ suffix, (suffix = "" ∨ ∃ n : Nat, suffix = "[" ++ toString n ++ "]") ∧
      text = declaration.qualifier.word ++ " " ++ declaration.type ++ " " ++ declaration.name ++
        suffix ++ ";"

/-- Declarations of attributes and uniforms are written like that. -/
theorem writtenAs_declaration {v : Variable} (spelled : IsWord v.name.toList) {text : String}
    (declared : v.declaration? = some text) {qualifier : Qualifier}
    (stored : v.storage.input? = some qualifier) :
    WrittenAs { qualifier, type := v.type.word, name := v.name } text := by
  refine ⟨isWord_word v.type, spelled, v.arraySuffix, ?_, ?_⟩
  · rw [Variable.arraySuffix]
    cases v.arrayLength with
    | none => exact .inl rfl
    | some n => exact .inr ⟨n, rfl⟩
  · have word : v.storage.qualifier? = some qualifier.word := by
      cases storage : v.storage <;> rw [storage] at stored <;> cases stored <;> rfl
    have written := Variable.toList_declaration declared
    rw [word] at written
    rw [← String.toList_inj, written]
    simp

/-! ## Declarations of variables -/

section Variables

variable {qualifiers : List Qualifier}

/-- The storage of the variables that a qualifier declares. -/
def storageOf : Qualifier → Storage
  | .attr => .attr
  | .uniform => .uniform

theorem input?_eq_some_iff {storage : Storage} {qualifier : Qualifier} :
    storage.input? = some qualifier ↔ storage = storageOf qualifier := by
  cases storage <;> cases qualifier <;> decide

/-- Variables that can be declared, with names that are words. -/
def Declarable (v : Variable) : Prop :=
  v.storage ≠ .builtin ∧ IsWord v.name.toList

/-- Declarations on lines of their own say what their variables are. -/
theorem declares_declarations {vs : List Variable} (declarable : ∀ v ∈ vs, Declarable v) :
    List.Forall₂ (Declares qualifiers) ((vs.filterMap Variable.declaration?).map String.toList)
      (vs.map (Variable.entries qualifiers)) := by
  induction vs with
  | nil => exact .nil
  | cons v vs ih =>
      obtain ⟨here, others⟩ := List.forall_mem_cons.mp declarable
      obtain ⟨text, declared⟩ := Variable.exists_declaration here.1
      rw [List.filterMap_cons_some declared, List.map_cons, List.map_cons]
      have announced : Announces qualifiers text.toList (v.entries qualifiers) :=
        announces_declaration here.2 declared 0
      exact .cons announced.declares (ih others)

/-- What is found of variables are the declarations of the storages that are looked for. -/
theorem writtenAs_declarations {vs : List Variable} (declarable : ∀ v ∈ vs, Declarable v) :
    List.Forall₂ WrittenAs (vs.flatMap (Variable.entries qualifiers))
      ((vs.filterMap Variable.declaration?).filter fun text =>
        (qualifiers.map storageOf).any fun storage => storage.declares text) := by
  induction vs with
  | nil => exact .nil
  | cons v vs ih =>
      obtain ⟨here, others⟩ := List.forall_mem_cons.mp declarable
      obtain ⟨text, declared⟩ := Variable.exists_declaration here.1
      rw [List.filterMap_cons_some declared, List.flatMap_cons, List.filter_cons]
      have looked :
          ((qualifiers.map storageOf).any fun storage => storage.declares text) = true ↔
          ∃ qualifier ∈ qualifiers, v.storage.input? = some qualifier := by
        have told : ∀ qualifier, (storageOf qualifier).declares text = true ↔
            v.storage.input? = some qualifier := by
          intro qualifier
          have isGlobal : (storageOf qualifier).isGlobal = true := by cases qualifier <;> rfl
          rw [Storage.declares_iff isGlobal declared, input?_eq_some_iff]
        simp only [List.any_map, List.any_eq_true, Function.comp_apply, told]
      by_cases found : ∃ qualifier ∈ qualifiers, v.storage.input? = some qualifier
      · obtain ⟨qualifier, member, stored⟩ := found
        have entries :
            v.entries qualifiers = [{ qualifier, type := v.type.word, name := v.name }] := by
          simp only [Variable.entries, stored, if_pos member]
        rw [if_pos (looked.mpr ⟨qualifier, member, stored⟩), entries, List.singleton_append]
        exact .cons (writtenAs_declaration here.2 declared stored) (ih others)
      · have entries : v.entries qualifiers = [] := by
          rw [Variable.entries]
          split
          · rfl
          · rename_i qualifier stored
            rw [if_neg fun member => found ⟨qualifier, member, stored⟩]
        rw [if_neg fun asked => found (looked.mp asked), entries, List.nil_append]
        exact ih others

/-- What is found of a variable has its storage, its type and its name. -/
theorem mem_entries {v : Variable} {declaration : Declaration} :
    declaration ∈ v.entries qualifiers ↔
      declaration.qualifier ∈ qualifiers ∧ v.storage = storageOf declaration.qualifier ∧
        declaration.type = v.type.word ∧ declaration.name = v.name := by
  rw [Variable.entries, ← input?_eq_some_iff]
  cases stored : v.storage.input? with
  | none => simp
  | some qualifier =>
      dsimp only
      by_cases asked : qualifier ∈ qualifiers
      · rw [if_pos asked, List.mem_singleton]
        constructor
        · rintro rfl
          exact ⟨asked, rfl, rfl, rfl⟩
        · rintro ⟨_, same, typed, named⟩
          cases same
          cases declaration
          cases typed
          cases named
          rfl
      · rw [if_neg asked]
        constructor
        · exact fun member => absurd member List.not_mem_nil
        · rintro ⟨listed, same, _⟩
          cases same
          exact absurd listed asked

theorem names_entries_sublist (vs : List Variable) :
    ((vs.flatMap (Variable.entries qualifiers)).map Declaration.name).Sublist
      (vs.map Variable.name) := by
  induction vs with
  | nil => exact .slnil
  | cons v vs ih =>
      rw [List.flatMap_cons, List.map_append, List.map_cons, ← List.singleton_append]
      refine List.Sublist.append ?_ ih
      rw [Variable.entries]
      split
      · exact List.nil_sublist _
      · split
        · exact List.Sublist.refl _
        · exact List.nil_sublist _

end Variables

end Declaration

/-! ## The text of a stage -/

namespace Compiler

/-- Nothing is found of local variables. -/
theorem flatMap_entries_eq (qualifiers : List Qualifier) (used : List Variable) :
    (variablesOf declaredStorages used).flatMap (Variable.entries qualifiers) =
      ((variablesOf [.attr, .uniform, .varying] used).map
        (Variable.entries qualifiers)).flatten := by
  have none : (used.filter fun v => v.storage == .temporary).flatMap
      (Variable.entries qualifiers) = [] := by
    rw [List.flatMap_eq_nil_iff]
    intro v listed
    rw [Variable.entries, beq_iff_eq.mp (List.mem_filter.mp listed).2]
    rfl
  rw [← List.flatMap_def]
  simp [variablesOf, declaredStorages, none]

end Compiler

namespace Wire

open Compiler (usedVariables variablesOf declaredStorages)

variable {V : Vocabulary} {name : String} (draft : Draft V name) {order : List NodeId}

/-- The variables of a stage have names that are words. -/
theorem Draft.declarable_of_used [draft.Spelled] {storages : List Storage}
    (some : .builtin ∉ storages) {v : Variable}
    (listed : v ∈ variablesOf storages
      (usedVariables (order.filterMap draft.graph.resolvedNode?))) :
    Declaration.Declarable v := by
  obtain ⟨used, stored⟩ := Compiler.mem_variablesOf.mp listed
  refine ⟨fun builtin => some (builtin ▸ stored), ?_⟩
  exact Declaration.isWord_of_isLasting (draft.isLasting_name (draft.used_subset_symbols used))

/-- What scheduled nodes are written as are assignments to variables of the stage. -/
theorem Draft.assigns_of_lowered [draft.Spelled] {registry : Registry} {lowered : List Lowered}
    (lowers : (order.filterMap draft.graph.resolvedNode?).mapM (Node.lower registry) =
      .ok lowered)
    {part : Lowered} (member : part ∈ lowered) :
    ∃ v ∈ draft.graph.table.symbols, ∃ known, part.Assigns v known := by
  obtain ⟨node, among, gives⟩ := exists_of_mem_mapM lowers part member
  obtain ⟨v, single, assigns⟩ := draft.lower_of_scheduled among gives
  refine ⟨v, draft.writes_subset_symbols among ?_, _, assigns⟩
  rw [single]
  exact List.mem_singleton_self v

/-- **The text of a stage declares the variables that are used.** -/
theorem Draft.declares_text [draft.Spelled] {registry : Registry} {source : StageSource}
    (named : Text.Calm name)
    (done : Compiler.compileNodes { registry } draft.graph.stage draft.graph.name
      (order.filterMap draft.graph.resolvedNode?) = .ok source) (qualifiers : List Qualifier) :
    Declares qualifiers source.text.toList ((variablesOf declaredStorages
      (usedVariables (order.filterMap draft.graph.resolvedNode?))).flatMap
        (Variable.entries qualifiers)) := by
  obtain ⟨lowered, lowers, statements, helpers, framed⟩ := Compiler.exists_of_compileNodes done
  have title : Text.Calm draft.graph.name := by
    rw [Draft.graph, StageGraph.build_name]
    exact named
  rw [Compiler.globalDeclarations_eq, statements] at framed
  have declarable : ∀ v ∈ variablesOf [.attr, .uniform, .varying]
      (usedVariables (order.filterMap draft.graph.resolvedNode?)), Declaration.Declarable v :=
    fun v listed => draft.declarable_of_used (by decide) listed
  rw [Compiler.flatMap_entries_eq]
  refine Compiler.declares_frame framed title
    (Declaration.declares_declarations declarable) ?_ ?_
  · intro text member
    obtain ⟨helper, called, rendered⟩ := exists_of_mem_mapM helpers text member
    obtain ⟨part, among, calls⟩ := List.mem_flatMap.mp (List.mem_eraseDups.mp called)
    obtain ⟨v, _, _, assigns⟩ := draft.assigns_of_lowered lowers among
    exact Declaration.declares_nil ((assigns.2 helper calls).announces rfl rendered qualifiers)
  · intro line member
    rcases List.mem_append.mp member with declaration | statement
    · obtain ⟨v, listed, declared⟩ := List.mem_filterMap.mp declaration
      obtain ⟨used, stored⟩ := List.mem_filter.mp listed
      have lasting := draft.isLasting_name (draft.used_subset_symbols used)
      have announced : Announces qualifiers _ _ := Declaration.announces_declaration
        (Declaration.isWord_of_isLasting lasting) declared 4
      rw [Variable.entries, beq_iff_eq.mp stored] at announced
      exact announced.declares
    · obtain ⟨part, among, written⟩ := List.mem_flatMap.mp statement
      obtain ⟨v, known, _, ⟨expression, form, calm, _⟩, _⟩ :=
        draft.assigns_of_lowered lowers among
      rw [form] at written
      rw [List.mem_singleton.mp written]
      have lasting := draft.isLasting_name known
      exact (Declaration.announces_assignment (Declaration.isWord_of_isLasting lasting)
        (Declaration.harmless_of_isLasting lasting) calm 4).declares

/-- The declarations of a stage are those of the variables that are used. -/
theorem Draft.writtenAs_declared [draft.Spelled] {compiler : Compiler} {source : StageSource}
    {stage : Stage} {title : String} (done : compiler.compileNodes stage title
      (order.filterMap draft.graph.resolvedNode?) = .ok source) (qualifiers : List Qualifier) :
    List.Forall₂ Declaration.WrittenAs ((variablesOf declaredStorages
      (usedVariables (order.filterMap draft.graph.resolvedNode?))).flatMap
        (Variable.entries qualifiers))
      (source.declared (qualifiers.map Declaration.storageOf)) := by
  rw [StageSource.declared, Compiler.declarations_of_compileNodes done]
  exact Declaration.writtenAs_declarations fun v listed =>
    draft.declarable_of_used (by decide) listed

/-- No name is declared twice. -/
theorem Draft.nodup_names_declared : ((variablesOf declaredStorages
    (usedVariables (order.filterMap draft.graph.resolvedNode?))).map Variable.name).Nodup := by
  have distinct : (draft.graph.table.symbols.map Variable.name).Nodup :=
    StageGraph.nodup_names_build V.stage name draft.edits
  have known : ∀ v ∈ variablesOf declaredStorages
      (usedVariables (order.filterMap draft.graph.resolvedNode?)),
      v ∈ draft.graph.table.symbols :=
    fun v listed => draft.used_subset_symbols (Compiler.mem_variablesOf.mp listed).1
  refine List.Nodup.map_on ?_ (Compiler.nodup_variablesOf _)
  intro v first w second same
  exact List.inj_on_of_nodup_map distinct (known v first) (known w second) same

end Wire

/-! ## Names of both stages -/

/-- The first four letters of a name. -/
def stem (name : String) : List Char :=
  name.toList.take 4

theorem stem_append {text : String} (long : 4 ≤ text.toList.length) (more : String) :
    stem (text ++ more) = stem text := by
  rw [stem, String.toList_append, List.take_append_of_le_length long, stem]

/-- How the names of the inputs of the vertex stage start. -/
def Vertex.inputStems : List (List Char) :=
  ["Vert", "Norm", "Tang", "Weig", "Bone", "Colo", "TexC", "uTar", "uBon", "uMod", "uPro",
    "uPoi", "uArr"].map String.toList

/-- How the names of the uniforms of the fragment stage start. -/
def Fragment.uniformStems : List (List Char) :=
  ["uMat", "Text", "uLig", "uSha"].map String.toList

theorem Vertex.Input.stem_mem {state : RenderState} {v : Variable} (input : Input state v) :
    stem v.name ∈ inputStems := by
  cases input with
  | stream quantity => cases quantity <;> decide
  | target quantity index =>
      have same : ∀ {name : String}, 4 ≤ name.toList.length →
          stem s!"{name}_{index}" = stem name := by
        intro name long
        have grown : 4 ≤ (name ++ "_").toList.length := by
          rw [String.toList_append, List.length_append]
          omega
        exact (stem_append grown (toString index)).trans (stem_append long "_")
      cases quantity <;>
        · rw [same (by decide)]
          decide
  | texcoord set =>
      have same : stem s!"TexCoord{set.toNat}" = stem "TexCoord" := stem_append (by decide) _
      rw [same]
      decide
  | pointMatrix space => cases space <;> decide
  | directionMatrix space => cases space <;> decide
  | palette =>
      have listed : stem "uBones" ∈ inputStems := by decide
      exact listed
  | _ => decide

theorem Fragment.Declares.stem_mem {state : RenderState} {v : Variable}
    (declares : Fragment.Declares state v) (uniform : v.storage = .uniform) :
    stem v.name ∈ uniformStems := by
  -- The numbers and fields of lights and shadows come later.
  have numbered : ∀ text : String, 4 ≤ text.toList.length → stem text ∈ uniformStems →
      ∀ (n : Nat) (field : String), stem (text ++ toString n ++ field) ∈ uniformStems := by
    intro text long listed n field
    have grown : 4 ≤ (text ++ toString n).toList.length := by
      rw [String.toList_append, List.length_append]
      omega
    rw [stem_append grown, stem_append long]
    exact listed
  have shadow := numbered "uShadow" (by decide) (by decide)
  have light := numbered "uLight" (by decide) (by decide)
  cases declares with
  | varying demands => cases demands.interface <;> cases uniform
  | materialColor => decide
  | texture unit =>
      have same : stem s!"Texture{unit.toNat}" = stem "Texture" := stem_append (by decide) _
      rw [same]
      decide
  | @light index kind parameter member =>
      have listed := light index ("_" ++ parameter.1)
      rw [← String.append_assoc] at listed
      exact listed
  | shadowMatrix index => exact shadow index "_matrix"
  | shadowMap index => exact shadow index "_depthMap"
  | shadowTexel index => exact shadow index "_texelSize"
  | shadowBias index => exact shadow index "_bias"

namespace RenderState

open Wire
open Compiler (usedVariables variablesOf declaredStorages)

/-- What is found in the vertex stage starts like an input. -/
theorem stem_mem_of_vertex {state : RenderState} {name : String}
    (draft : Draft (Vertex.vocabulary state) name) {v : Variable}
    (member : v ∈ draft.graph.table.symbols)
    (input : v.storage = .attr ∨ v.storage = .uniform) : stem v.name ∈ Vertex.inputStems := by
  rcases draft.sound.known v member with builtin | ⟨temporary, _⟩ | interface | found
  · have provided : ∀ w ∈ StageGraph.builtins .vertex, w.storage = .builtin := by decide
    rw [provided v builtin] at input
    rcases input with same | same <;> cases same
  · rw [temporary] at input
    rcases input with same | same <;> cases same
  · cases interface <;> rcases input with same | same <;> cases same
  · exact found.stem_mem

/-- What is found in the fragment stage starts like a uniform. -/
theorem stem_mem_of_fragment {state : RenderState} {name : String}
    (draft : Draft (Fragment.vocabulary state) name) {v : Variable}
    (member : v ∈ draft.graph.table.symbols) (uniform : v.storage = .uniform) :
    stem v.name ∈ Fragment.uniformStems := by
  rcases draft.sound.known v member with builtin | ⟨temporary, _⟩ | declares
  · rw [List.mem_singleton.mp builtin] at uniform
    cases uniform
  · rw [temporary] at uniform
    cases uniform
  · exact Fragment.Declares.stem_mem declares uniform

/-- The name of a render state is calm. -/
theorem calm_variantName (state : RenderState) : Text.Calm state.variantName := by
  have single : ∀ {text : String}, Text.Calm text → ∀ part ∈ [text], Text.Calm part :=
    fun calm => List.forall_mem_singleton.mpr calm
  have numbered : ∀ {text : String} (n : Nat), Text.Calm text →
      Text.Calm (text ++ toString n) :=
    fun n calm => calm.append (Text.calm_toString n)
  have parts : ∀ part ∈ state.variantParts, Text.Calm part := by
    rw [variantParts]
    simp only [List.forall_mem_append]
    refine ⟨⟨⟨⟨⟨⟨?_, ?_⟩, ?_⟩, ?_⟩, ?_⟩, ?_⟩, ?_⟩
    · cases state.activeMorph with
      | none => exact List.forall_mem_nil _
      | some morph => exact single (numbered morph.targetCount.toNat rfl)
    · cases state.activeSkin with
      | none => exact List.forall_mem_nil _
      | some skin => exact single (numbered skin.boneCount.toNat rfl)
    · split
      · exact List.forall_mem_nil _
      · exact single (numbered _ rfl)
    · cases state.activeShadow with
      | none => exact List.forall_mem_nil _
      | some technique =>
          cases technique <;> exact single rfl
    · split
      · exact List.forall_mem_nil _
      · exact single (numbered _ rfl)
    · split
      · exact single rfl
      · exact List.forall_mem_nil _
    · split
      · exact single rfl
      · exact List.forall_mem_nil _
  rw [variantName]
  split
  · rfl
  · exact Text.calm_intercalate rfl parts

/-- **No name is found twice** in both stages. -/
theorem nodup_names_found {state : RenderState} {name : String}
    (vertex : Draft (Vertex.vocabulary state) name)
    (fragment : Draft (Fragment.vocabulary state) name)
    (vertexOrder fragmentOrder : List NodeId) :
    (((variablesOf declaredStorages
        (usedVariables (vertexOrder.filterMap vertex.graph.resolvedNode?))).flatMap
          (Variable.entries [.attr, .uniform]) ++
      (variablesOf declaredStorages
        (usedVariables (fragmentOrder.filterMap fragment.graph.resolvedNode?))).flatMap
          (Variable.entries [.uniform])).map Declaration.name).Nodup := by
  rw [List.map_append, List.nodup_append]
  refine ⟨?_, ?_, ?_⟩
  · exact vertex.nodup_names_declared.sublist (Declaration.names_entries_sublist _)
  · exact fragment.nodup_names_declared.sublist (Declaration.names_entries_sublist _)
  · intro first inVertex second inFragment same
    obtain ⟨declaration, found, rfl⟩ := List.mem_map.mp inVertex
    obtain ⟨other, foundOther, rfl⟩ := List.mem_map.mp inFragment
    obtain ⟨v, listed, entry⟩ := List.mem_flatMap.mp found
    obtain ⟨w, listedOther, entryOther⟩ := List.mem_flatMap.mp foundOther
    obtain ⟨_, storedV, _, nameV⟩ := Declaration.mem_entries.mp entry
    obtain ⟨uniform, storedW, _, nameW⟩ := Declaration.mem_entries.mp entryOther
    rw [List.mem_singleton.mp uniform] at storedW
    have input : v.storage = .attr ∨ v.storage = .uniform := by
      rw [storedV]
      cases declaration.qualifier with
      | attr => exact .inl rfl
      | uniform => exact .inr rfl
    have stemV := stem_mem_of_vertex vertex
      (vertex.used_subset_symbols (Compiler.mem_variablesOf.mp listed).1) input
    have stemW := stem_mem_of_fragment fragment
      (fragment.used_subset_symbols (Compiler.mem_variablesOf.mp listedOther).1) storedW
    rw [← nameV, same, nameW] at stemV
    have apart : ∀ stem ∈ Vertex.inputStems, stem ∉ Fragment.uniformStems := by decide
    exact apart _ stemV stemW

end RenderState

namespace Compiler

/-- **Introspection finds what was declared.**  Every valid render state has shaders with the
built-in snippets and the default settings, under its own name; and reading their texts gives,
in this order, the attributes and uniforms that the vertex stage declares and the uniforms that
the fragment stage declares: one entry for each declaration, with its qualifier, its type and
its name. -/
theorem scan_generate {state : RenderState} (valid : state.validate = .ok ())
    (registry : Registry) :
    ∃ sources, Compiler.generate { registry } state state.variantName = .ok sources ∧
      ∃ fromVertex fromFragment,
        Declaration.scan sources.vertex.text sources.fragment.text =
          .ok (fromVertex ++ fromFragment) ∧
        List.Forall₂ Declaration.WrittenAs fromVertex
          (sources.vertex.declared [.attr, .uniform]) ∧
        List.Forall₂ Declaration.WrittenAs fromFragment
          (sources.fragment.declared [.uniform]) := by
  obtain ⟨wired⟩ := state.nonempty_wired valid state.variantName
  have compiles : ∃ sources, Compiler.compileStages { registry }
      { vertex := wired.vertex.graph, fragment := wired.fragment.graph } = .ok sources :=
    wired.exists_compileStages rfl
  obtain ⟨sources, compiled⟩ := compiles
  have generated : Compiler.generate { registry } state state.variantName = .ok sources := by
    rw [wired.generate_eq]
    exact compiled
  obtain ⟨compiledVertex, compiledFragment⟩ := compile_of_compileStages compiled
  obtain ⟨vertexOrder, _, vertexDone⟩ := exists_of_compile compiledVertex
  obtain ⟨fragmentOrder, _, fragmentDone⟩ := exists_of_compile compiledFragment
  have named := state.calm_variantName
  have inVertex := wired.vertex.declares_text named vertexDone [.attr, .uniform]
  have inFragment := wired.fragment.declares_text named fragmentDone [.uniform]
  refine ⟨_, generated, _, _, ?_, wired.vertex.writtenAs_declared vertexDone [.attr, .uniform],
    wired.fragment.writtenAs_declared fragmentDone [.uniform]⟩
  rw [Declaration.scan, Declaration.inProgram, Declaration.inText_of_declares inVertex,
    Declaration.inText_of_declares inFragment]
  exact Declaration.merge_of_nodup
    (RenderState.nodup_names_found wired.vertex wired.fragment vertexOrder fragmentOrder)

/-- With nearly every feature in use, as many entries are found as there are declarations. -/
theorem scan_generate_lavish : RenderState.lavish.validate = .ok () ∧
    ∃ sources,
      Compiler.generate {} RenderState.lavish RenderState.lavish.variantName = .ok sources ∧
      ∃ found, Declaration.scan sources.vertex.text sources.fragment.text = .ok found ∧
        found.length = (sources.vertex.declared [.attr, .uniform]).length +
          (sources.fragment.declared [.uniform]).length := by
  have valid : RenderState.lavish.validate = .ok () := rfl
  obtain ⟨sources, generated, fromVertex, fromFragment, scanned, inVertex, inFragment⟩ :=
    scan_generate valid []
  refine ⟨valid, sources, generated, _, scanned, ?_⟩
  rw [List.length_append, inVertex.length_eq, inFragment.length_eq]

end Compiler

end ShaderLoom
