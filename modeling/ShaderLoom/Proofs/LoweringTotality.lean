import ShaderLoom.Proofs.Numerals
import ShaderLoom.Proofs.SnippetRendering
import ShaderLoom.Stage.Lowering

/-!
# Nodes that can be written in GLSL

Writing a node fails if a slot is missing that its operation needs, if its code mentions a slot
that is not there, if its kind is custom, or if a helper that it calls cannot be filled in.  A
node with none of these faults is `Complete`, and it can be written whatever variables it reads
(`Node.Complete.lower`).

## Main definitions

* `Operation.inputSlots`, `Operation.outputSlots` — the slots that an operation needs
* `Node.mentioned` — the slots that code mentions
* `Helper.Renderable` — a helper that the built-in snippets can supply
* `Node.Complete` — a node with all that it needs

## Main results

* `Node.Complete.lower` — complete nodes can be written
* `Node.Complete.mapReads` — whatever they read
-/

namespace ShaderLoom

/-- A helper that the built-in snippets can supply. -/
def Helper.Renderable (helper : Helper) : Prop :=
  ∃ text, SnippetLibrary.renderHelper {} helper = .ok text

theorem Helper.renderable_of_fits {snippet source : String}
    {parameters : List (String × String)} (known : (snippet, source) ∈ Snippet.builtin)
    (fits : Template.Fits (Helper.context { snippet, parameters })
      (Snippet.parameterShapes snippet)) : Helper.Renderable { snippet, parameters } :=
  SnippetLibrary.render_builtin known fits

theorem fits_ofText {context : Template.Context} {shapes : Template.Shapes}
    (fits : Template.Fits context shapes) {name : String} (free : name ≠ "range")
    (text : String) :
    Template.Fits ((name, .ofText text) :: context) ((name, .datum) :: shapes) :=
  fits.cons ⟨_, rfl⟩ free

namespace Operation

/-- The input slots that an operation needs. -/
def inputSlots : Operation → List String
  | assign => ["in"]
  | transformPoint _ => ["matrix", "vec"]
  | transformDirection _ => ["matrix", "vec"]
  | normalize => ["vec"]
  | setAlpha => ["color", "alpha"]
  | skinning _ => ["weights", "bonesIndex", "matrixPalette"]
  | morphing count => "vertex" :: "weights" :: (List.range count).map fun i => s!"target{i}"
  | billboard => ["Vertex", "ModelViewMatrix", "ProjectionMatrix"]
  | textureSample => ["sampler", "uv"]
  | inlineCode _ | call _ _ | custom _ => []

/-- The output slots that an operation needs. -/
def outputSlots : Operation → List String
  | assign => ["out"]
  | transformPoint _ => ["vec"]
  | transformDirection _ => ["vec"]
  | textureSample => ["color"]
  | inlineCode _ | call _ _ | custom _ => []
  | _ => ["result"]

/-- What an operation needs besides its slots: a known kind, and a helper that can be
supplied. -/
def Supported : Operation → Prop
  | morphing count => count ≤ Template.Value.maxRange
  | call _ helper => ∀ required ∈ helper, required.Renderable
  | custom _ => False
  | _ => True

end Operation

namespace Node

/-! ## Slots -/

/-- The names of the input slots. -/
def inputNames (node : Node) : List String :=
  node.inputs.map Prod.fst

/-- The names of the output slots. -/
def outputNames (node : Node) : List String :=
  node.outputs.map Prod.fst

theorem inputNames_mapReads (f : Variable → Variable) (node : Node) :
    (node.mapReads f).inputNames = node.inputNames := by
  rw [inputNames, mapReads, List.map_map]
  rfl

theorem lookup_of_mem {α : Type} {entries : List (String × α)} {slot : String}
    (member : slot ∈ entries.map Prod.fst) : ∃ value, entries.lookup slot = some value := by
  cases found : entries.lookup slot with
  | some value => exact ⟨value, rfl⟩
  | none =>
      obtain ⟨entry, among, rfl⟩ := List.mem_map.mp member
      have other := List.lookup_eq_none_iff.mp found entry among
      rw [bne_self_eq_false] at other
      cases other

theorem input_of_mem {node : Node} {slot : String} (member : slot ∈ node.inputNames) :
    ∃ operand, node.input slot = .ok operand := by
  obtain ⟨operand, found⟩ := lookup_of_mem member
  refine ⟨operand, ?_⟩
  rw [input, input?, found]

theorem output_of_mem {node : Node} {slot : String} (member : slot ∈ node.outputNames) :
    ∃ v, node.output slot = .ok v := by
  obtain ⟨v, found⟩ := lookup_of_mem member
  refine ⟨v, ?_⟩
  rw [output, output?, found]

/-! ## Code with slots -/

/-- The slots that code mentions, in order.  After a percent sign, `reading` holds the
characters of the slot name so far, newest first. -/
def mentioned : (reading : Option (List Char)) → List Char → List (List Char)
  | none, [] => []
  | none, c :: rest => if c = '%' then mentioned (some []) rest else mentioned none rest
  | some slot, [] => [slot.reverse]
  | some slot, c :: rest =>
    if isSlotPart c then mentioned (some (c :: slot)) rest
    else if c = '%' then slot.reverse :: mentioned (some []) rest
    else slot.reverse :: mentioned none rest

/-- A slot name in code stands for something: a percent sign, an input or an output. -/
def Answers (node : Node) (slot : List Char) : Prop :=
  slot = [] ∨ String.ofList slot ∈ node.inputNames ∨ String.ofList slot ∈ node.outputNames

theorem slotText_of_answers {node : Node} {slot : List Char} (answers : node.Answers slot) :
    ∃ text, node.slotText slot = .ok text := by
  rcases answers with rfl | input | output
  · exact ⟨_, rfl⟩
  · obtain ⟨operand, found⟩ := lookup_of_mem input
    rw [slotText]
    split
    · exact ⟨_, rfl⟩
    · simp only [input?, found]
      exact ⟨_, rfl⟩
  · obtain ⟨v, found⟩ := lookup_of_mem output
    rw [slotText]
    split
    · exact ⟨_, rfl⟩
    · simp only [output?, found]
      cases node.input? (String.ofList slot) <;> exact ⟨_, rfl⟩

/-- Code can be filled in if all slots that it mentions stand for something. -/
theorem substitute_of_mentioned {node : Node} :
    ∀ {code : List Char} {reading : Option (List Char)},
    (∀ slot ∈ mentioned reading code, node.Answers slot) →
      ∃ text, node.substitute reading code = .ok text := by
  intro code
  induction code with
  | nil =>
      intro reading answers
      cases reading with
      | none => exact ⟨[], rfl⟩
      | some slot => exact slotText_of_answers (answers _ (List.mem_singleton_self _))
  | cons c rest ih =>
      intro reading answers
      cases reading with
      | none =>
          rw [mentioned] at answers
          rw [substitute]
          split
          · rename_i percent
            rw [if_pos percent] at answers
            exact ih answers
          · rename_i plain
            rw [if_neg plain] at answers
            obtain ⟨text, filled⟩ := ih answers
            rw [filled]
            exact ⟨_, rfl⟩
      | some slot =>
          rw [mentioned] at answers
          rw [substitute]
          split
          · rename_i part
            rw [if_pos part] at answers
            exact ih answers
          · -- The slot name ends here, and the character may open the next one.
            rename_i ends
            rw [if_neg ends] at answers
            by_cases percent : c = '%'
            · rw [if_pos percent] at answers
              obtain ⟨text, first⟩ := slotText_of_answers (answers _ List.mem_cons_self)
              obtain ⟨more, filled⟩ := ih fun other member =>
                answers other (List.mem_cons_of_mem _ member)
              simp only [first, percent, filled, bind, Except.bind, if_true]
              exact ⟨_, rfl⟩
            · rw [if_neg percent] at answers
              obtain ⟨text, first⟩ := slotText_of_answers (answers _ List.mem_cons_self)
              obtain ⟨more, filled⟩ := ih fun other member =>
                answers other (List.mem_cons_of_mem _ member)
              simp only [first, percent, filled, bind, Except.bind, if_false]
              exact ⟨_, rfl⟩

/-- Text without percent signs mentions nothing. -/
theorem mentioned_append {text : List Char} (plain : '%' ∉ text) (rest : List Char) :
    mentioned none (text ++ rest) = mentioned none rest := by
  induction text with
  | nil => rfl
  | cons c text ih =>
      rw [List.mem_cons, not_or] at plain
      rw [List.cons_append, mentioned, if_neg (Ne.symm plain.1), ih plain.2]

/-- A percent sign and a word mention the word, whatever character ends it. -/
theorem mentioned_word {word : List Char}
    (parts : ∀ c ∈ word, isSlotPart c = true) {last : Char} (ends : isSlotPart last = false)
    (plain : last ≠ '%') (rest : List Char) :
    mentioned none ('%' :: word ++ last :: rest) = word :: mentioned none rest := by
  have reading : ∀ {held : List Char}, mentioned (some held) (word ++ last :: rest) =
      (held.reverse ++ word) :: mentioned none rest := by
    induction word with
    | nil =>
        intro held
        rw [List.nil_append, List.append_nil, mentioned, if_neg (by rw [ends]; decide),
          if_neg plain]
    | cons c word ih =>
        intro held
        rw [List.cons_append, mentioned, if_pos (parts c List.mem_cons_self),
          ih fun d member => parts d (List.mem_cons_of_mem _ member), List.reverse_cons,
          List.append_assoc, List.singleton_append]
  rw [List.cons_append, mentioned, if_pos rfl, reading]
  rfl

/-! ## Complete nodes -/

/-- A node that has all that its operation needs. -/
structure Complete (node : Node) : Prop where
  inputs : ∀ slot ∈ node.operation.inputSlots, slot ∈ node.inputNames
  outputs : ∀ slot ∈ node.operation.outputSlots, slot ∈ node.outputNames
  code : ∀ code, node.operation = .inlineCode code →
    ∀ slot ∈ mentioned none code.toList, node.Answers slot
  supported : node.operation.Supported

/-- What a node reads does not matter. -/
theorem Complete.mapReads {node : Node} (complete : node.Complete) (f : Variable → Variable) :
    (node.mapReads f).Complete := by
  refine ⟨?_, complete.outputs, ?_, complete.supported⟩
  · rw [inputNames_mapReads]
    exact complete.inputs
  · intro code operation slot member
    rw [Answers, inputNames_mapReads]
    exact complete.code code operation slot member

/-- A node whose operation is not code needs no more than its slots. -/
theorem Complete.of_slots {node : Node} (inputs : node.operation.inputSlots ⊆ node.inputNames)
    (outputs : node.operation.outputSlots ⊆ node.outputNames)
    (plain : ∀ code, node.operation ≠ .inlineCode code) (supported : node.operation.Supported) :
    node.Complete :=
  ⟨fun _ member => inputs member, fun _ member => outputs member,
    fun code operation => absurd operation (plain code), supported⟩

/-- A node whose operation is code needs the slots that the code mentions. -/
theorem Complete.of_code {node : Node} {code : String}
    (operation : node.operation = .inlineCode code)
    (answers : ∀ slot ∈ mentioned none code.toList, node.Answers slot) : node.Complete := by
  refine ⟨?_, ?_, ?_, ?_⟩
  · rw [operation]
    exact List.forall_mem_nil _
  · rw [operation]
    exact List.forall_mem_nil _
  · intro other same
    rw [operation] at same
    cases same
    exact answers
  · rw [operation]
    trivial

/-- Code that is written out is checked by calculation. -/
theorem Complete.of_spells {node : Node} {code : String} {chars : List Char}
    (operation : node.operation = .inlineCode code) (spelled : Snippet.Spells chars code)
    (names : List String) (slots : node.inputNames ++ node.outputNames = names)
    (checked : (mentioned none chars).all
      (fun slot => names.contains (String.ofList slot)) = true) : node.Complete := by
  refine Complete.of_code operation ?_
  rw [spelled, String.toList_ofList]
  intro slot member
  have present := List.all_eq_true.mp checked slot member
  rw [List.contains_iff_mem, ← slots] at present
  exact .inr (List.mem_append.mp present)

/-! ## Writing complete nodes -/

/-- Targets that are all there are collected in order. -/
theorem targetsFrom_eq_ok {node : Node} {target : Nat → Operand} : ∀ {count index : Nat},
    (∀ i, index ≤ i → i < index + count → node.input s!"target{i}" = .ok (target i)) →
      node.targetsFrom count index = .ok ((List.range' index count).map target) := by
  intro count
  induction count with
  | zero =>
      intro index _
      rfl
  | succ count ih =>
      intro index present
      have first := present index (Nat.le_refl index) (by omega)
      have others : node.targetsFrom count (index + 1) =
          .ok ((List.range' (index + 1) count).map target) :=
        ih fun i low high => present i (by omega) (by omega)
      rw [targetsFrom, first, others]
      rfl

theorem targetsFrom_of_mem {node : Node} {count index : Nat}
    (present : ∀ i, index ≤ i → i < index + count → s!"target{i}" ∈ node.inputNames) :
    ∃ targets, node.targetsFrom count index = .ok targets := by
  have found : ∀ i, ∃ operand, index ≤ i → i < index + count →
      node.input s!"target{i}" = .ok operand := by
    intro i
    by_cases inside : index ≤ i ∧ i < index + count
    · obtain ⟨operand, found⟩ := input_of_mem (present i inside.1 inside.2)
      exact ⟨operand, fun _ _ => found⟩
    · exact ⟨default, fun low high => absurd ⟨low, high⟩ inside⟩
  obtain ⟨target, found⟩ := Classical.skolem.mp found
  exact ⟨_, targetsFrom_eq_ok found⟩

/-- The helper of a morphing operation of moderate size can be supplied. -/
theorem renderable_morphing {count : Nat} (small : count ≤ Template.Value.maxRange) :
    Helper.Renderable
      { snippet := "morphing", parameters := [("target_count", toString count)] } := by
  have known : ("morphing", Snippet.morphing) ∈ Snippet.builtin := by simp [Snippet.builtin]
  refine Helper.renderable_of_fits known (Template.Fits.nil.cons ?_ (by decide))
  refine ⟨toString count, Int.ofNat count, rfl, ?_, ?_⟩
  · refine Text.readInteger_toString (Nat.lt_of_le_of_lt small ?_)
    decide
  · exact Template.inRange_ofNat small

theorem renderable_skinning (palette bones : String) :
    Helper.Renderable
      { snippet := "skinning",
        parameters := [("palette", palette), ("bone_count", bones)] } := by
  have known : ("skinning", Snippet.skinning) ∈ Snippet.builtin := by simp [Snippet.builtin]
  exact Helper.renderable_of_fits known
    (fits_ofText (fits_ofText Template.Fits.nil (by decide) palette) (by decide) bones)

theorem renderable_billboard : Helper.Renderable { snippet := "billboard" } := by
  have known : ("billboard", Snippet.billboard) ∈ Snippet.builtin := by simp [Snippet.builtin]
  exact Helper.renderable_of_fits known Template.Fits.nil

/-- **Complete nodes can be written**, and the helpers that they call can be supplied. -/
theorem Complete.lower {node : Node} (complete : node.Complete) (registry : Registry) :
    ∃ lowered, node.lower registry = .ok lowered ∧
      ∀ helper ∈ lowered.helpers, helper.Renderable := by
  have inputs := complete.inputs
  have outputs := complete.outputs
  have supported := complete.supported
  rw [Node.lower]
  cases operation : node.operation with
  | assign =>
      rw [operation] at inputs outputs
      obtain ⟨value, foundValue⟩ := input_of_mem (inputs "in" (by decide))
      obtain ⟨out, foundOut⟩ := output_of_mem (outputs "out" (by decide))
      simp only [lowerAssign, foundValue, foundOut, bind, Except.bind]
      exact ⟨_, rfl, List.forall_mem_nil _⟩
  | inlineCode code =>
      obtain ⟨text, filled⟩ := substitute_of_mentioned (complete.code code operation)
      simp only [lowerInline, filled, bind, Except.bind]
      exact ⟨_, rfl, List.forall_mem_nil _⟩
  | transformPoint inverse =>
      rw [operation] at inputs outputs
      obtain ⟨matrix, foundMatrix⟩ :=
        input_of_mem (inputs "matrix" (by simp [Operation.inputSlots]))
      obtain ⟨vector, foundVector⟩ :=
        input_of_mem (inputs "vec" (by simp [Operation.inputSlots]))
      obtain ⟨out, foundOut⟩ := output_of_mem (outputs "vec" (by simp [Operation.outputSlots]))
      simp only [lowerTransformPoint, foundMatrix, foundVector, foundOut, bind, Except.bind]
      split <;> exact ⟨_, rfl, List.forall_mem_nil _⟩
  | transformDirection inverse =>
      rw [operation] at inputs outputs
      obtain ⟨matrix, foundMatrix⟩ :=
        input_of_mem (inputs "matrix" (by simp [Operation.inputSlots]))
      obtain ⟨vector, foundVector⟩ :=
        input_of_mem (inputs "vec" (by simp [Operation.inputSlots]))
      obtain ⟨out, foundOut⟩ := output_of_mem (outputs "vec" (by simp [Operation.outputSlots]))
      simp only [lowerTransformDirection, foundMatrix, foundVector, foundOut, bind, Except.bind]
      exact ⟨_, rfl, List.forall_mem_nil _⟩
  | normalize =>
      rw [operation] at inputs outputs
      obtain ⟨vector, foundVector⟩ := input_of_mem (inputs "vec" (by decide))
      obtain ⟨out, foundOut⟩ := output_of_mem (outputs "result" (by decide))
      simp only [lowerNormalize, foundVector, foundOut, bind, Except.bind]
      exact ⟨_, rfl, List.forall_mem_nil _⟩
  | setAlpha =>
      rw [operation] at inputs outputs
      obtain ⟨color, foundColor⟩ := input_of_mem (inputs "color" (by decide))
      obtain ⟨alpha, foundAlpha⟩ := input_of_mem (inputs "alpha" (by decide))
      obtain ⟨out, foundOut⟩ := output_of_mem (outputs "result" (by decide))
      simp only [lowerSetAlpha, foundColor, foundAlpha, foundOut, bind, Except.bind]
      exact ⟨_, rfl, List.forall_mem_nil _⟩
  | skinning boneCount =>
      rw [operation] at inputs outputs
      obtain ⟨weights, foundWeights⟩ :=
        input_of_mem (inputs "weights" (by simp [Operation.inputSlots]))
      obtain ⟨bones, foundBones⟩ :=
        input_of_mem (inputs "bonesIndex" (by simp [Operation.inputSlots]))
      obtain ⟨palette, foundPalette⟩ :=
        input_of_mem (inputs "matrixPalette" (by simp [Operation.inputSlots]))
      obtain ⟨out, foundOut⟩ :=
        output_of_mem (outputs "result" (by simp [Operation.outputSlots]))
      simp only [lowerSkinning, foundWeights, foundBones, foundPalette, foundOut,
        bind, Except.bind]
      refine ⟨_, rfl, ?_⟩
      intro helper member
      rw [List.mem_singleton.mp member]
      exact renderable_skinning _ _
  | morphing targetCount =>
      rw [operation] at inputs outputs supported
      obtain ⟨base, foundBase⟩ :=
        input_of_mem (inputs "vertex" (by simp [Operation.inputSlots]))
      obtain ⟨weights, foundWeights⟩ :=
        input_of_mem (inputs "weights" (by simp [Operation.inputSlots]))
      obtain ⟨out, foundOut⟩ :=
        output_of_mem (outputs "result" (by simp [Operation.outputSlots]))
      have present : ∀ i, 0 ≤ i → i < 0 + targetCount → s!"target{i}" ∈ node.inputNames := by
        intro i _ high
        refine inputs _ (List.mem_cons_of_mem _ (List.mem_cons_of_mem _ ?_))
        exact List.mem_map.mpr ⟨i, List.mem_range.mpr (by omega), rfl⟩
      obtain ⟨targets, foundTargets⟩ := targetsFrom_of_mem present
      simp only [lowerMorphing, foundBase, foundWeights, foundOut, foundTargets,
        bind, Except.bind]
      refine ⟨_, rfl, ?_⟩
      intro helper member
      rw [List.mem_singleton.mp member]
      exact renderable_morphing supported
  | billboard =>
      rw [operation] at inputs outputs
      obtain ⟨vertex, foundVertex⟩ :=
        input_of_mem (inputs "Vertex" (by simp [Operation.inputSlots]))
      obtain ⟨modelView, foundModelView⟩ :=
        input_of_mem (inputs "ModelViewMatrix" (by simp [Operation.inputSlots]))
      obtain ⟨projection, foundProjection⟩ :=
        input_of_mem (inputs "ProjectionMatrix" (by simp [Operation.inputSlots]))
      obtain ⟨out, foundOut⟩ :=
        output_of_mem (outputs "result" (by simp [Operation.outputSlots]))
      simp only [lowerBillboard, foundVertex, foundModelView, foundProjection, foundOut, bind,
        Except.bind]
      refine ⟨_, rfl, ?_⟩
      intro helper member
      rw [List.mem_singleton.mp member]
      exact renderable_billboard
  | textureSample =>
      rw [operation] at inputs outputs
      obtain ⟨sampler, foundSampler⟩ := input_of_mem (inputs "sampler" (by decide))
      obtain ⟨uv, foundUv⟩ := input_of_mem (inputs "uv" (by decide))
      obtain ⟨out, foundOut⟩ := output_of_mem (outputs "color" (by decide))
      simp only [lowerTextureSample, foundSampler, foundUv, foundOut, bind, Except.bind]
      exact ⟨_, rfl, List.forall_mem_nil _⟩
  | call function helper =>
      rw [operation] at supported
      refine ⟨_, rfl, ?_⟩
      intro required member
      exact supported required (Option.mem_toList.mp member)
  | custom kind =>
      rw [operation] at supported
      exact absurd supported id

end Node
end ShaderLoom
