import Mathlib.Data.List.Count
import ShaderLoom.Proofs.FunctionDefinitions
import ShaderLoom.Proofs.LoweringTotality
import ShaderLoom.Proofs.StageEnvelope

/-!
# Morph targets in calls and definitions

A morphing node is written as a call with one argument for each target, and the function that it
calls comes from a snippet that repeats parts of itself for each target.  The number of targets
goes from the one to the other as a numeral in a text.  Both sides agree for every number of
targets that a template can count to: the call hands over the targets in the order in which the
function takes them, and the function adds each of them once.

The function is described by its parts (`Glsl.blend`), and the snippet filled in is the text of
that description (`SnippetLibrary.renderHelper_morphing`).

## Main definitions

* `Glsl.blend` — the function that blends toward a number of targets
* `Snippet.blendTemplate` — the snippet as a template

## Main results

* `SnippetLibrary.renderHelper_morphing` — what the helper of a morphing node is filled in to
* `Node.lower_morphing_agrees` — calls and definitions agree
-/

namespace ShaderLoom

/-! ## The function -/

/-- The slot and the parameter of a target. -/
def targetName (index : Nat) : String :=
  s!"target{index}"

theorem toList_targetName (index : Nat) :
    (targetName index).toList = "target".toList ++ (toString index).toList :=
  String.toList_append

namespace Glsl

open Declaration (IsWord)

theorem isWord_numbered (stem : String) (word : IsWord stem.toList) (n : Nat) :
    IsWord (stem ++ toString n).toList := by
  rw [String.toList_append]
  refine ⟨List.append_ne_nil_of_left_ne_nil word.ne_nil _, fun c member => ?_⟩
  rcases List.mem_append.mp member with letter | digit
  · exact word.parts c letter
  · exact List.all_eq_true.mp (Text.all_isSlotPart_toString n) c digit

theorem isWord_targetName (index : Nat) : IsWord (targetName index).toList :=
  isWord_numbered "target" ⟨List.cons_ne_nil _ _, List.all_eq_true.mp rfl⟩ index

/-- The statement that adds what a target contributes. -/
def addition (index : Nat) : String :=
  "result += weights[" ++ toString index ++ "] * (" ++ targetName index ++ " - base)"

theorem toList_addition (index : Nat) : (addition index).toList =
    "result += weights[".toList ++ ((toString index).toList ++ ("] * (".toList ++
      ((targetName index).toList ++ " - base)".toList))) := by
  unfold addition
  simp only [String.toList_append, List.append_assoc]

theorem not_mem_addition {c : Char} (mark : c ∈ ['\x7b', '\x7d', '/']) (index : Nat) :
    c ∉ (addition index).toList := by
  have marks : ∀ c ∈ ['\x7b', '\x7d', '/'], Node.isSlotPart c = false ∧
      c ∉ "result += weights[".toList ∧ c ∉ "] * (".toList ∧ c ∉ " - base)".toList :=
    forall_marks (by decide) (by decide) (by decide)
  obtain ⟨apart, front, middle, back⟩ := marks c mark
  have digits : c ∉ (toString index).toList := fun member =>
    Text.ne_of_isSlotPart
      (List.all_eq_true.mp (Text.all_isSlotPart_toString index) c member) apart
      rfl
  have target := (isWord_targetName index).not_mem apart
  rw [toList_addition]
  simp only [List.mem_append, not_or]
  exact ⟨front, digits, middle, target, back⟩

/-- The statement tells which target it adds. -/
theorem addition_injective : Function.Injective addition := by
  intro i j same
  have letters := congrArg String.toList same
  rw [toList_addition, toList_addition] at letters
  have parts (n : Nat) : ∀ c ∈ (toString n).toList, Node.isSlotPart c = true :=
    List.all_eq_true.mp (Text.all_isSlotPart_toString n)
  obtain ⟨numerals, _⟩ := Text.append_inj_of_kind (parts i) (parts j) (by decide) (by decide)
    (List.append_cancel_left letters)
  rw [Nat.toString_eq_ofList_toDigits, Nat.toString_eq_ofList_toDigits, String.toList_ofList,
    String.toList_ofList] at numerals
  exact Text.toDigits_inj numerals

/-- The function that blends a value toward a number of targets, by their weights. -/
def blend (targets : Nat) : Definition where
  name := "morphTransform" ++ toString targets
  parameters :=
    { type := .vec3, name := "base"
      spelled := ⟨List.cons_ne_nil _ _, List.all_eq_true.mp rfl⟩ } ::
    { type := .vec4, name := "weights"
      spelled := ⟨List.cons_ne_nil _ _, List.all_eq_true.mp rfl⟩ } ::
    (List.range targets).map fun index =>
      { type := .vec3, name := targetName index, spelled := isWord_targetName index }
  result := .vec3
  statements := "vec3 result = base" :: (List.range targets).map addition ++ ["return result"]
  spelled :=
    isWord_numbered "morphTransform" ⟨List.cons_ne_nil _ _, List.all_eq_true.mp rfl⟩ targets
  takes := List.cons_ne_nil _ _
  flat := by
    intro statement member
    rcases List.mem_append.mp member with early | last
    · rcases List.mem_cons.mp early with rfl | step
      · exact forall_marks (by decide) (by decide) (by decide)
      · obtain ⟨index, _, rfl⟩ := List.mem_map.mp step
        exact fun c mark => not_mem_addition mark index
    · rw [List.mem_singleton.mp last]
      exact forall_marks (by decide) (by decide) (by decide)

/-- Each target is added once, and there are no others. -/
theorem count_addition_blend (targets index : Nat) :
    (blend targets).statements.count (addition index) = if index < targets then 1 else 0 := by
  have start : "vec3 result = base" ≠ addition index := by
    intro same
    have letters := congrArg String.toList same
    rw [toList_addition] at letters
    exact absurd (List.cons.inj letters).1 (by decide)
  have finish : "return result" ≠ addition index := by
    intro same
    have letters := congrArg String.toList same
    rw [toList_addition] at letters
    exact absurd (List.cons.inj (List.cons.inj (List.cons.inj letters).2).2).1 (by decide)
  have once : ((List.range targets).map addition).count (addition index) =
      if index < targets then 1 else 0 := by
    rw [List.count_map_of_injective _ _ addition_injective, List.nodup_range.count]
    simp only [List.mem_range]
  change ("vec3 result = base" :: (List.range targets).map addition ++ ["return result"]).count
    (addition index) = _
  rw [List.count_append, List.count_cons_of_ne start, List.count_singleton, once]
  simp [finish]

theorem toList_inside_blend (targets : Nat) : (blend targets).inside.toList =
    "const in vec3 base, const in vec4 weights".toList ++
      (List.range targets).flatMap fun index =>
        ", const in vec3 ".toList ++ (targetName index).toList := by
  unfold Definition.inside blend
  simp only [List.map_cons, List.map_map]
  rw [Text.toList_intercalate_cons, List.flatMap_cons, List.flatMap_map]
  simp [Parameter.text, DataType.word]

theorem heading_blend (targets : Nat) : (blend targets).heading =
    "vec3 morphTransform".toList ++ ((toString targets).toList ++ '(' ::
      ((blend targets).inside.toList ++ ") ".toList)) := by
  have name : (blend targets).name.toList =
      "morphTransform".toList ++ (toString targets).toList :=
    String.toList_append
  have result : (blend targets).result.word.toList = "vec3".toList := rfl
  rw [Definition.heading, name, result]
  simp

theorem toList_body_blend (targets : Nat) : (blend targets).body.toList =
    "    vec3 result = base;\n".toList ++
      (List.range targets).flatMap (fun index =>
        "    ".toList ++ (addition index).toList ++ ";\n".toList) ++
      "    return result;\n".toList := by
  unfold Definition.body blend
  rw [String.toList_join, List.flatMap_map]
  simp [List.flatMap_map]

end Glsl

/-! ## The snippet -/

namespace Template

/-- A name that stands for a number. -/
theorem pieces_emit_number {context : Context} {rest : Template} {others : List String}
    {name : String} {n : Nat} (found : context.lookup name = some (.data (.integer n)))
    (later : rest.pieces context = .ok others) :
    (emit (.name name) rest).pieces context = .ok (toString n :: others) := by
  rw [pieces, force_name_data found, later]
  rfl

/-- The numbers below one that is given as a numeral. -/
theorem force_range {context : Context} {name : String} {n : Nat} (few : n ≤ Value.maxRange)
    (found : context.lookup name = some (.ofText (toString n)))
    (free : context.lookup "range" = none) :
    (Expression.range (.toInteger (.name name))).force context =
      .ok (.data (.list ((List.range n).map fun (i : Nat) => .integer i))) := by
  have read : Text.readInteger (toString n).toList = some (Int.ofNat n) :=
    Text.readInteger_toString (Nat.lt_of_le_of_lt few (by decide))
  have number : (Value.ofText (toString n)).toInteger = .ok (Int.ofNat n) := by
    rw [Value.ofText, Value.toInteger, read]
  have numbers : (Value.data (.integer (Int.ofNat n))).range =
      .ok ((List.range n).map fun (i : Nat) => .integer i) := by
    rw [Value.range, if_neg (inRange_ofNat few)]
    rfl
  have named : context.value? name = some (.ofText (toString n)) := by
    rw [Context.value?, found]
  simp only [Expression.force, Expression.evaluate, named, free, bind, Except.bind,
    Value.defined, number, numbers, pure, Except.pure]
  rfl

end Template

namespace Snippet

/-- The function for morph targets, with the number of targets left open. -/
def blendTemplate : Template :=
  .text ("// targets hold absolute positions, weights blend toward them\n" ++
    "vec3 morphTransform").toList <|
  .emit (.name "target_count") <|
  .text "(const in vec3 base, const in vec4 weights".toList <|
  .loop "i" (.range (.toInteger (.name "target_count")))
    (.text ", const in vec3 target".toList <| .emit (.name "i") .done) <|
  .text ") \x7b\n    vec3 result = base;\n".toList <|
  .loop "i" (.range (.toInteger (.name "target_count")))
    (.text "    result += weights[".toList <| .emit (.name "i") <|
      .text "] * (target".toList <| .emit (.name "i") <| .text " - base);\n".toList .done) <|
  .text "    return result;\n\x7d".toList .done

set_option maxRecDepth 100000 in
/-- The built-in snippet is this template. -/
theorem parse_morphing : Template.parse morphing = .ok blendTemplate := by
  apply parse_lines
  · repeat' first
      | apply List.Forall₂.nil
      | apply List.Forall₂.cons
      | apply Spells.append
      | exact spells_literal rfl
  · decide +kernel

/-- What stands in front of the function. -/
def blendNote : String :=
  " targets hold absolute positions, weights blend toward them"

/-- The pieces of the snippet. -/
theorem pieces_blendTemplate {count : Nat} (few : count ≤ Template.Value.maxRange) :
    blendTemplate.pieces [("target_count", .ofText (toString count))] = .ok
      ("// targets hold absolute positions, weights blend toward them\nvec3 morphTransform" ::
        toString count :: "(const in vec3 base, const in vec4 weights" ::
        ((List.range count).flatMap (fun index => [", const in vec3 target", toString index]) ++
          ") \x7b\n    vec3 result = base;\n" ::
          ((List.range count).flatMap (fun index => ["    result += weights[", toString index,
            "] * (target", toString index, " - base);\n"]) ++
            ["    return result;\n\x7d"]))) := by
  have numbers : (Template.Expression.range (.toInteger (.name "target_count"))).force
      [("target_count", .ofText (toString count))] =
        .ok (.data (.list ((List.range count).map fun (i : Nat) => .integer i))) :=
    Template.force_range few rfl rfl
  refine Template.pieces_text (Template.pieces_emit rfl (Template.pieces_text ?_ _)) _
  refine Template.pieces_loop_map numbers rfl (fun _ _ => Template.pieces_text
    (Template.pieces_emit_number rfl rfl) _) ?_
  refine Template.pieces_text ?_ _
  refine Template.pieces_loop_map numbers rfl (fun _ _ => Template.pieces_text
    (Template.pieces_emit_number rfl (Template.pieces_text
      (Template.pieces_emit_number rfl (Template.pieces_text rfl _)) _)) _) ?_
  exact Template.pieces_text rfl _

end Snippet

/-- **The snippet filled in is the function**, for a library in which the snippet is the
built-in one. -/
theorem SnippetLibrary.renderHelper_morphing {library : SnippetLibrary} {count : Nat}
    (few : count ≤ Template.Value.maxRange)
    (unregistered : library.registered.lookup "morphing" = none) :
    library.renderHelper (HelperFunction.morphing count).helper =
      .ok ("//" ++ Snippet.blendNote ++ "\n" ++ (Glsl.blend count).text) := by
  have known : ("morphing", Snippet.morphing) ∈ Snippet.builtin := by simp [Snippet.builtin]
  have found := SnippetLibrary.template_builtin unregistered known Snippet.parse_morphing
  have context : (HelperFunction.morphing count).helper.context =
      [("target_count", .ofText (toString count))] := rfl
  unfold SnippetLibrary.renderHelper SnippetLibrary.render
  rw [context]
  simp only [HelperFunction.helper, found, Template.render,
    Snippet.pieces_blendTemplate few, bind, Except.bind, pure, Except.pure]
  congr 1
  -- The pieces of the snippet are cut in other places than the parts of the function, so the
  -- two are compared by their characters.
  apply String.toList_injective
  simp [Glsl.Definition.toList_text, Glsl.heading_blend, Glsl.toList_inside_blend,
    Glsl.toList_body_blend, Glsl.toList_addition, toList_targetName, String.toList_join,
    List.flatMap_assoc, Snippet.blendNote]

/-! ## The call -/

namespace Node

variable {node : Node}

theorem input_eq_ok {slot : String} {operand : Operand}
    (found : node.input? slot = some operand) : node.input slot = .ok operand := by
  rw [input, found]

theorem input_eq_error {slot : String} (absent : node.input? slot = none) :
    node.input slot = .error (node.missing slot) := by
  rw [input, absent]

/-- The first target that is not there is the one that is reported. -/
theorem targetsFrom_eq_error {i : Nat} (absent : node.input? (targetName i) = none) :
    ∀ {count index : Nat}, index ≤ i → i < index + count →
      (∀ j, index ≤ j → j < i → node.input? (targetName j) ≠ none) →
        node.targetsFrom count index = .error (node.missing (targetName i)) := by
  intro count
  induction count with
  | zero =>
      intro index low high _
      omega
  | succ count ih =>
      intro index low high present
      rw [targetsFrom]
      rcases Nat.eq_or_lt_of_le low with rfl | later
      · have first : node.input s!"target{index}" = .error (node.missing (targetName index)) :=
          input_eq_error absent
        rw [first]
        rfl
      · obtain ⟨operand, found⟩ :=
          Option.ne_none_iff_exists'.mp (present index (Nat.le_refl index) later)
        have first : node.input s!"target{index}" = .ok operand := input_eq_ok found
        rw [first, ih later (by omega) fun j low high => present j (by omega) high]
        rfl

/-- **Calls and definitions of morph functions agree**, for every number of targets that a
template counts to.  If all targets are there, they are handed over in order, and the function
takes them in the same order and adds each of them once.  Otherwise the first that is not there
is reported. -/
theorem lower_morphing_agrees {count : Nat} (few : count ≤ Template.Value.maxRange)
    (morphs : node.operation = .morphing count) {base weights : Operand} {out : Variable}
    (hasBase : node.input? "vertex" = some base)
    (hasWeights : node.input? "weights" = some weights)
    (hasResult : node.output? "result" = some out) (registry : Registry)
    {library : SnippetLibrary} (unregistered : library.registered.lookup "morphing" = none) :
    (∀ target : Nat → Operand, (∀ i < count, node.input? (targetName i) = some (target i)) →
      ∃ arguments helper text,
        arguments = base.convert .vec3 "1.0" :: weights.text ::
          (List.range count).map (fun i => (target i).convert .vec3 "1.0") ∧
        node.lower registry = .ok
          { statements := [out.name ++ " = " ++ convert
              ((Glsl.blend count).name ++ "(" ++ ", ".intercalate arguments ++ ")")
              (some (Glsl.blend count).result) out.type "1.0" ++ ";"]
            helpers := [helper] } ∧
        library.renderHelper helper = .ok text ∧
        text = "//" ++ Snippet.blendNote ++ "\n" ++ (Glsl.blend count).text ∧
        Glsl.definitions? text = some [(Glsl.blend count).signature] ∧
        (Glsl.blend count).name = "morphTransform" ++ toString count ∧
        (Glsl.blend count).parameters.map Glsl.Parameter.name =
          "base" :: "weights" :: (List.range count).map targetName ∧
        ∀ i, (Glsl.blend count).statements.count (Glsl.addition i) =
          if i < count then 1 else 0) ∧
    (∀ i < count, node.input? (targetName i) = none →
      ∃ first ≤ i, node.input? (targetName first) = none ∧
        (∀ j < first, node.input? (targetName j) ≠ none) ∧
        node.lower registry = .error (.missingSlot "Morphing" (targetName first))) := by
  have lowered : node.lower registry = node.lowerMorphing count := by
    rw [lower, morphs]
  have result : node.output "result" = .ok out := by
    rw [output, hasResult]
  constructor
  · intro target present
    have targets : node.targetsFrom count 0 = .ok ((List.range count).map target) := by
      rw [List.range_eq_range']
      exact targetsFrom_eq_ok fun i _ high => input_eq_ok (present i (by omega))
    refine ⟨_, (HelperFunction.morphing count).helper, _, rfl, ?_,
      SnippetLibrary.renderHelper_morphing few unregistered, rfl,
      Glsl.Definition.definitions?_text _ (by decide), rfl, ?_, Glsl.count_addition_blend count⟩
    · rw [lowered, lowerMorphing, input_eq_ok hasBase, input_eq_ok hasWeights, result, targets]
      simp only [bind, Except.bind, List.map_map]
      rfl
    · change "base" :: "weights" :: ((List.range count).map _).map Glsl.Parameter.name = _
      rw [List.map_map]
      rfl
  · intro i inside absent
    have some : ∃ j, node.input? (targetName j) = none := ⟨i, absent⟩
    refine ⟨Nat.find some, Nat.find_min' some absent, Nat.find_spec some,
      fun j early => Nat.find_min some early, ?_⟩
    have before : Nat.find some < 0 + count := by
      have least := Nat.find_min' some absent
      omega
    have targets := targetsFrom_eq_error (Nat.find_spec some) (Nat.zero_le _) before
      fun j _ early => Nat.find_min some early
    rw [lowered, lowerMorphing, input_eq_ok hasBase, input_eq_ok hasWeights, result, targets,
      missing, morphs]
    rfl

/-- A node with targets that are wired out of order.  One is a literal, and its slot is there
twice. -/
def shuffled (count : Nat) : Node :=
  { operation := .morphing count
    inputs :=
      [("target2", .read { name := "c", type := .vec4, storage := .attr }),
        ("weights", .read { name := "w", type := .vec4, storage := .uniform }),
        ("target0", .literal "vec3(0.0)"),
        ("vertex", .read { name := "position", type := .vec4, storage := .attr }),
        ("target1", .read { name := "b", type := .vec3, storage := .attr }),
        ("target0", .read { name := "a", type := .vec3, storage := .attr })]
    outputs := [("result", { name := "moved", type := .vec4, storage := .temporary })] }

/-- Targets are handed over by their numbers, and of two that are not there the first is
reported. -/
theorem lower_morphing_agrees_shuffled :
    (∃ helper text, (shuffled 3).lower [] = .ok
        { statements :=
            ["moved = vec4(morphTransform3(vec3(position), w, vec3(0.0), b, vec3(c)), 1.0);"]
          helpers := [helper] } ∧
      SnippetLibrary.renderHelper {} helper = .ok text ∧
      Glsl.definitions? text = some [(Glsl.blend 3).signature]) ∧
    (shuffled 5).lower [] = .error (.missingSlot "Morphing" "target3") := by
  have builtin : (SnippetLibrary.mk []).registered.lookup "morphing" = none := rfl
  constructor
  · have present : ∀ i < 3, (shuffled 3).input? (targetName i) = some (([.literal "vec3(0.0)",
        .read { name := "b", type := .vec3, storage := .attr },
        .read { name := "c", type := .vec4, storage := .attr }] : List Operand).getD i
          default) := by
      decide +kernel
    obtain ⟨arguments, helper, text, handed, lowered, rendered, _, defined, _⟩ :=
      (lower_morphing_agrees (by decide) rfl rfl rfl rfl [] builtin).1 _ present
    refine ⟨helper, text, ?_, rendered, defined⟩
    rw [lowered, handed]
    refine congrArg (fun lines => Except.ok (Lowered.mk lines [helper])) ?_
    decide +kernel
  · have absent : (shuffled 5).input? (targetName 4) = none := by decide +kernel
    obtain ⟨first, _, missing, present, reported⟩ :=
      (lower_morphing_agrees (by decide) rfl rfl rfl rfl [] builtin).2 4 (by decide) absent
    have early : ∀ j < 3, (shuffled 5).input? (targetName j) ≠ none := by decide +kernel
    have third : first = 3 := by
      rcases Nat.lt_trichotomy first 3 with low | same | high
      · exact absurd missing (early first low)
      · exact same
      · exact absurd (by decide +kernel) (present 3 high)
    rw [reported, third]
    rfl

end Node

end ShaderLoom
