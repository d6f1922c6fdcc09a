import ShaderLoom.Proofs.HelperDefinitions

/-!
# Writing function definitions

A function definition with its parts, and its text: a heading with the parameters, and the
statements in a block, one on each line.  The parts carry what makes the text readable: names
are words, there is a parameter, and statements have no blocks and no comments in them.  So what
is written is read back as the definition of that function and no other
(`Glsl.Definition.definitions?_text`).

## Main definitions

* `Glsl.Parameter`, `Glsl.Definition` — a parameter and a definition
* `Glsl.Definition.text`, `Glsl.Definition.signature` — how it is written, and what it takes and
  gives

## Main results

* `Glsl.Definition.definitions?_text` — a definition is read back
-/

namespace ShaderLoom

namespace Glsl

open Declaration (IsWord isWord_word)
open Text (cutAt isBlank words)

/-! ## Parts -/

/-- What holds of the marks of blocks and comments one by one. -/
theorem forall_marks {P : Char → Prop} (opening : P '\x7b') (closing : P '\x7d')
    (slash : P '/') : ∀ c ∈ ['\x7b', '\x7d', '/'], P c :=
  List.forall_mem_cons.mpr ⟨opening, List.forall_mem_cons.mpr ⟨closing,
    List.forall_mem_singleton.mpr slash⟩⟩

/-- A parameter that is handed in. -/
structure Parameter where
  type : DataType
  name : String
  spelled : IsWord name.toList

/-- A function that takes at least one parameter and has no blocks in its body. -/
structure Definition where
  name : String
  parameters : List Parameter
  result : DataType
  /-- The statements, without the marks at their ends. -/
  statements : List String
  spelled : IsWord name.toList
  takes : parameters ≠ []
  flat : ∀ statement ∈ statements, ∀ c ∈ ['\x7b', '\x7d', '/'], c ∉ statement.toList

/-- How a parameter is written. -/
def Parameter.text (parameter : Parameter) : String :=
  "const in " ++ parameter.type.word ++ " " ++ parameter.name

namespace Definition

variable (definition : Definition)

/-- What the function takes and gives. -/
def signature : Signature where
  name := definition.name
  parameters := definition.parameters.map Parameter.type
  result := definition.result

/-- The parameters between the parentheses. -/
def inside : String :=
  ", ".intercalate (definition.parameters.map Parameter.text)

/-- What stands in front of the block. -/
def heading : List Char :=
  (definition.result.word.toList ++ ' ' :: definition.name.toList) ++
    '(' :: (definition.inside.toList ++ [')', ' '])

/-- The lines of the block. -/
def body : String :=
  String.join (definition.statements.map fun statement => "    " ++ statement ++ ";\n")

/-- How a definition is written. -/
def text : String :=
  definition.result.word ++ " " ++ definition.name ++ "(" ++ definition.inside ++ ") \x7b\n" ++
    definition.body ++ "\x7d"

end Definition

/-! ## Reading parameters -/

theorem isWord_const : IsWord "const".toList :=
  ⟨List.cons_ne_nil _ _, List.all_eq_true.mp rfl⟩

theorem isWord_in : IsWord "in".toList :=
  ⟨List.cons_ne_nil _ _, List.all_eq_true.mp rfl⟩

theorem Parameter.toList_text (parameter : Parameter) :
    parameter.text.toList = "const".toList ++ ' ' :: ("in".toList ++ ' ' ::
      (parameter.type.word.toList ++ ' ' :: parameter.name.toList)) := by
  simp [text]

/-- A parameter is spelled with letters, digits, underscores and spaces. -/
theorem Parameter.not_mem_text (parameter : Parameter) {c : Char}
    (mark : Node.isSlotPart c = false) (other : c ≠ ' ') : c ∉ parameter.text.toList := by
  rw [parameter.toList_text]
  simp only [List.mem_append, List.mem_cons, not_or]
  exact ⟨isWord_const.not_mem mark, other, isWord_in.not_mem mark, other,
    (isWord_word _).not_mem mark, other, parameter.spelled.not_mem mark⟩

/-- **A parameter is read back.** -/
theorem parameterType?_text (parameter : Parameter) :
    parameterType? parameter.text.toList = some parameter.type := by
  have type := isWord_word parameter.type
  have read : words parameter.text.toList =
      ["const".toList, "in".toList, parameter.type.word.toList, parameter.name.toList] := by
    rw [parameter.toList_text, Text.words_append isWord_const.solid rfl,
      Text.words_append isWord_in.solid rfl, Text.words_append type.solid rfl,
      parameter.spelled.solid.words_eq]
  rw [parameterType?, read]
  simp only [List.map_cons, List.map_nil, String.ofList_toList]
  have qualified : ["const", "in", parameter.type.word, parameter.name].dropWhile
      (fun word => word == "const" || word == "in") =
        [parameter.type.word, parameter.name] := by
    generalize parameter.type = type
    cases type <;> rfl
  rw [qualified]
  exact DataType.ofWord?_word parameter.type

theorem parameterType?_indented (parameter : Parameter) :
    parameterType? (' ' :: parameter.text.toList) = some parameter.type := by
  rw [parameterType?, Text.words_cons_blank rfl]
  exact parameterType?_text parameter

/-- Parameters are read back one by one. -/
theorem mapM_parameterType? (definition : Definition) :
    (cutAt ',' definition.inside.toList).mapM parameterType? =
      some definition.signature.parameters := by
  obtain ⟨first, others, same⟩ := List.exists_cons_of_ne_nil definition.takes
  rw [Definition.inside, Definition.signature, same]
  have joined : (", ".intercalate ((first :: others).map Parameter.text)).toList =
      first.text.toList ++
        (others.map fun parameter => ' ' :: parameter.text.toList).flatMap (',' :: ·) := by
    rw [List.map_cons, Text.toList_intercalate_cons, List.flatMap_map, List.flatMap_map]
    rfl
  have free : ∀ piece ∈ first.text.toList ::
      others.map (fun parameter => ' ' :: parameter.text.toList), ',' ∉ piece := by
    rw [List.forall_mem_cons, List.forall_mem_map]
    refine ⟨first.not_mem_text (by decide) (by decide), fun parameter _ => ?_⟩
    exact List.not_mem_cons_of_ne_of_not_mem (by decide)
      (parameter.not_mem_text (by decide) (by decide))
  have later : (others.map fun parameter => ' ' :: parameter.text.toList).mapM parameterType? =
      some (others.map Parameter.type) := by
    clear joined free same
    induction others with
    | nil => rfl
    | cons next others ih =>
        rw [List.map_cons, List.mapM_cons, parameterType?_indented, ih]
        rfl
  rw [joined, Text.cutAt_flatMap free, List.mapM_cons, parameterType?_text, later]
  rfl

/-- Parameters are spelled with letters, digits, underscores, spaces and commas. -/
theorem Definition.not_mem_inside (definition : Definition) {c : Char}
    (mark : Node.isSlotPart c = false) (other : c ≠ ' ') (comma : c ≠ ',') :
    c ∉ definition.inside.toList := by
  refine Text.not_mem_intercalate ?_ (List.forall_mem_map.mpr fun parameter _ => ?_)
  · simp [other, comma]
  · exact parameter.not_mem_text mark other

/-- **A heading is read back.** -/
theorem signature?_heading (definition : Definition) :
    signature? ('\n' :: definition.heading) = some definition.signature := by
  have type := isWord_word definition.result
  have name := definition.spelled
  have front :
      '(' ∉ '\n' :: (definition.result.word.toList ++ ' ' :: definition.name.toList) := by
    simp only [List.mem_cons, List.mem_append, not_or]
    exact ⟨by decide, type.not_mem (by decide), by decide, name.not_mem (by decide)⟩
  have back : '(' ∉ definition.inside.toList ++ [')', ' '] := by
    rw [List.mem_append, not_or]
    exact ⟨definition.not_mem_inside (by decide) (by decide) (by decide), by decide⟩
  have opened :
      words ('\n' :: (definition.result.word.toList ++ ' ' :: definition.name.toList)) =
      [definition.result.word.toList, definition.name.toList] := by
    rw [Text.words_cons_blank rfl, Text.words_append type.solid rfl, name.solid.words_eq]
  have closed : cutAt ')' (definition.inside.toList ++ [')', ' ']) =
      [definition.inside.toList, [' ']] := by
    rw [Text.cutAt_append, Text.cutAt_of_not_mem
      (definition.not_mem_inside (by decide) (by decide) (by decide))]
    rfl
  rw [signature?, Definition.heading, ← List.cons_append, Text.cutAt_append,
    Text.cutAt_of_not_mem front, Text.cutAt_of_not_mem back]
  simp only [List.singleton_append, opened, closed, mapM_parameterType?, String.ofList_toList,
    DataType.ofWord?_word]
  rfl

/-! ## Reading definitions -/

/-- A block without blocks in it ends at its closing brace. -/
theorem headings_block {body : List Char} (flat : ∀ c ∈ body, c ≠ '\x7b' ∧ c ≠ '\x7d')
    (rest : List Char) : headings 1 [] (body ++ '\x7d' :: rest) = headings 0 [] rest := by
  induction body with
  | nil => rfl
  | cons c body ih =>
      obtain ⟨here, others⟩ := List.forall_mem_cons.mp flat
      rw [List.cons_append, headings, if_neg here.1, if_neg here.2, if_neg Nat.one_ne_zero]
      exact ih others

/-- A heading goes up to the opening brace of its block. -/
theorem headings_heading {heading : List Char} (flat : ∀ c ∈ heading, c ≠ '\x7b' ∧ c ≠ '\x7d')
    (rest held : List Char) :
    headings 0 held (heading ++ '\x7b' :: rest) =
      (held.reverse ++ heading) :: headings 1 [] rest := by
  induction heading generalizing held with
  | nil => rw [List.nil_append, List.append_nil, headings, if_pos rfl, if_pos rfl]
  | cons c heading ih =>
      obtain ⟨here, others⟩ := List.forall_mem_cons.mp flat
      rw [List.cons_append, headings, if_neg here.1, if_neg here.2, if_pos rfl, ih others,
        List.reverse_cons, List.append_assoc, List.singleton_append]

theorem strip_of_not_mem {text : List Char} (plain : '/' ∉ text) : strip .code text = text := by
  rw [strip_eq, Skip.rest]
  induction text with
  | nil => rw [stripComments]
  | cons c text ih =>
      rw [List.mem_cons, not_or] at plain
      rw [stripComments_cons (Ne.symm plain.1), ih plain.2]

namespace Definition

variable (definition : Definition)

theorem toList_text : definition.text.toList =
    definition.heading ++ '\x7b' :: (('\n' :: definition.body.toList) ++ ['\x7d']) := by
  simp [text, heading]

/-- The marks that the heading does not hold. -/
theorem not_mem_heading {c : Char} (mark : c ∈ ['\x7b', '\x7d', '/']) :
    c ∉ definition.heading := by
  have marks : ∀ c ∈ ['\x7b', '\x7d', '/'], Node.isSlotPart c = false ∧
      c ∉ [' ', '(', ')', ','] :=
    forall_marks (by decide) (by decide) (by decide)
  obtain ⟨apart, other⟩ := marks c mark
  simp only [List.mem_cons, List.not_mem_nil, or_false, not_or] at other
  simp only [heading, List.mem_append, List.mem_cons, List.not_mem_nil, or_false, not_or]
  exact ⟨⟨(isWord_word _).not_mem apart, other.1, definition.spelled.not_mem apart⟩, other.2.1,
    definition.not_mem_inside apart other.1 other.2.2.2, other.2.2.1, other.1⟩

/-- The marks that the block does not hold. -/
theorem not_mem_body {c : Char} (mark : c ∈ ['\x7b', '\x7d', '/']) :
    c ∉ '\n' :: definition.body.toList := by
  have marks : ∀ c ∈ ['\x7b', '\x7d', '/'], c ∉ ['\n', ' ', ';'] :=
    forall_marks (by decide) (by decide) (by decide)
  have other := marks c mark
  simp only [List.mem_cons, List.not_mem_nil, or_false, not_or] at other
  refine List.not_mem_cons_of_ne_of_not_mem other.1 fun member => ?_
  rw [body, String.toList_join, List.flatMap_map] at member
  obtain ⟨statement, among, member⟩ := List.mem_flatMap.mp member
  have plain := definition.flat statement among c mark
  simp [other, plain] at member

/-- **A definition is read back**, from behind a comment. -/
theorem definitions?_text {comment : String} (single : '\n' ∉ comment.toList) :
    definitions? ("//" ++ comment ++ "\n" ++ definition.text) =
      some [definition.signature] := by
  have spelled : ("//" ++ comment ++ "\n" ++ definition.text).toList =
      '/' :: '/' :: (comment.toList ++ '\n' :: definition.text.toList) := by simp
  have plain : '/' ∉ definition.text.toList := by
    rw [toList_text]
    intro member
    rcases List.mem_append.mp member with early | late
    · exact definition.not_mem_heading (by simp) early
    · rcases List.mem_cons.mp late with same | late
      · exact absurd same (by decide)
      · rcases List.mem_append.mp late with within | last
        · exact definition.not_mem_body (by simp) within
        · exact absurd last (by decide)
  have code : strip .code ('/' :: '/' :: (comment.toList ++ '\n' :: definition.text.toList)) =
      '\n' :: definition.text.toList := by
    rw [strip, strip_line_append single, strip, strip_of_not_mem plain]
  have heading : ∀ c ∈ '\n' :: definition.heading, c ≠ '\x7b' ∧ c ≠ '\x7d' := by
    refine List.forall_mem_cons.mpr ⟨by decide, fun c member => ⟨?_, ?_⟩⟩
    · rintro rfl
      exact definition.not_mem_heading (by simp) member
    · rintro rfl
      exact definition.not_mem_heading (by simp) member
  have block : ∀ c ∈ '\n' :: definition.body.toList, c ≠ '\x7b' ∧ c ≠ '\x7d' := by
    refine fun c member => ⟨?_, ?_⟩
    · rintro rfl
      exact definition.not_mem_body (by simp) member
    · rintro rfl
      exact definition.not_mem_body (by simp) member
  rw [definitions?_eq, spelled, code, toList_text, definitionsIn?, ← List.cons_append,
    headings_heading heading, headings_block block]
  change ['\n' :: definition.heading].mapM signature? = _
  rw [List.mapM_cons, signature?_heading]
  rfl

end Definition
end Glsl
end ShaderLoom
