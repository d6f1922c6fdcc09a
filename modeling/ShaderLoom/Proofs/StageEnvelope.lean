import ShaderLoom.Proofs.SnippetRendering
import ShaderLoom.Stage.Source

/-!
# The text around the parts of a stage

What is generated for a stage is put into a frame: the dialect and the name of the stage, its
default precision, the global declarations, the helpers, and `main` with the local variables and
the statements.  The frame is a template, which is written out here (`Snippet.frame`); that the
built-in snippet is this template is a calculation.

Filling it in gives one line after another (`Compiler.stageLines`), whatever the texts are that
it is filled in with.  They are copied: nothing in them is read as a part of the template.

## Main definitions

* `Snippet.frame` — the frame as a template
* `Compiler.stageLines`, `Compiler.stageText` — the lines of a stage, and its text

## Main results

* `Compiler.render_frame` — the frame filled in is the text of the stage
-/

namespace ShaderLoom

/-! ## The frame -/

namespace Template

theorem pieces_text {context : Context} {rest : Template} {others : List String}
    (later : rest.pieces context = .ok others) (value : String) :
    (text value.toList rest).pieces context = .ok (value :: others) := by
  rw [pieces, later, String.ofList_toList]
  rfl

theorem force_name_data {context : Context} {name : String} {document : Document}
    (found : context.lookup name = some (.data document)) :
    (Expression.name name).force context = .ok (.data document) := by
  rw [Expression.force, Expression.evaluate, Context.value?, found]
  rfl

/-- A name that stands for a text. -/
theorem pieces_emit {context : Context} {rest : Template} {others : List String}
    {name value : String} (found : context.lookup name = some (.ofText value))
    (later : rest.pieces context = .ok others) :
    (emit (.name name) rest).pieces context = .ok (value :: others) := by
  rw [pieces, force_name_data found, later]
  rfl

/-- A part that stands there only if a text is present and not empty. -/
theorem pieces_optional {context : Context} {yes rest : Template} {others : List String}
    {name : String} {text : Option String} {piece : String → List String}
    (found : context.lookup name = some (Compiler.textOption text))
    (here : ∀ value, context.lookup name = some (.ofText value) →
      yes.pieces context = .ok (piece value))
    (later : rest.pieces context = .ok others) :
    (choose (.name name) yes .done rest).pieces context =
      .ok ((text.filter (· ≠ "")).toList.flatMap piece ++ others) := by
  rw [pieces, force_name_data found, later]
  cases text with
  | none => rfl
  | some value =>
      change (do
        let chosen ← if (!value.isEmpty) = true then yes.pieces context else done.pieces context
        return chosen ++ others) = _
      by_cases empty : value = ""
      · subst empty
        rfl
      · have present : (!value.isEmpty) = true := by simp [empty]
        rw [if_pos present, here value found, Option.filter_some_pos (by simp [empty])]
        simp only [Option.toList_some, List.flatMap_cons, List.flatMap_nil, List.append_nil]
        rfl

/-- A loop, round by round. -/
theorem pieces_loop_map {α : Type} {context : Context} {item : String} {source : Expression}
    {value : Value} {items : List α} {document : α → Document} {body rest : Template}
    {piece : α → List String} {others : List String} (forced : source.force context = .ok value)
    (listed : value.items = .ok (items.map document))
    (each : ∀ x progress,
      body.pieces ((item, .data (document x)) :: ("loop", progress) :: context) =
        .ok (piece x))
    (later : rest.pieces context = .ok others) :
    (loop item source body rest).pieces context = .ok (items.flatMap piece ++ others) := by
  -- The rounds are numbered, and the number does not matter.
  have rounds : ∀ (start count : Nat),
      ((items.map document).zipIdx start).mapM (fun entry => body.pieces
        ((item, .data entry.1) :: ("loop", .progress entry.2 count) :: context)) =
          .ok (items.map piece) := by
    intro start count
    clear listed
    induction items generalizing start with
    | nil => rfl
    | cons x items ih =>
        rw [List.map_cons, List.zipIdx_cons, List.mapM_cons, ih, each x]
        rfl
  rw [pieces, forced]
  simp only [bind, Except.bind, listed, later, rounds]
  rfl

/-- A loop over a list of texts. -/
theorem pieces_loop {context : Context} {item list : String} {texts : List String}
    {body rest : Template} {piece : String → List String} {others : List String}
    (found : context.lookup list = some (Compiler.textList texts))
    (each : ∀ text progress,
      body.pieces ((item, .ofText text) :: ("loop", progress) :: context) = .ok (piece text))
    (later : rest.pieces context = .ok others) :
    (loop item (.name list) body rest).pieces context = .ok (texts.flatMap piece ++ others) :=
  pieces_loop_map (force_name_data found) rfl each later

end Template

namespace Snippet

/-- The frame of a stage. -/
def frame : Template :=
  .choose (.name "header") (.emit (.name "header") (.text ['\n'] .done)) .done <|
  .text "#define SHADER_NAME ".toList <| .emit (.name "name") <| .text ['\n'] <|
  .choose (.name "precision")
    (.text "precision ".toList <| .emit (.name "precision") <| .text " float;\n".toList .done)
    .done <|
  .text ['\n'] <|
  .loop "decl" (.name "globals") (.emit (.name "decl") <| .text ['\n'] .done) <|
  .text ['\n'] <|
  .loop "helper" (.name "helpers") (.emit (.name "helper") <| .text ['\n', '\n'] .done) <|
  .text "void main() \x7b\n".toList <|
  .loop "decl" (.name "locals")
    (.text "    ".toList <| .emit (.name "decl") <| .text ['\n'] .done) <|
  .loop "line" (.name "body")
    (.text "    ".toList <| .emit (.name "line") <| .text ['\n'] .done) <|
  .text ['\x7d'] .done

set_option maxRecDepth 100000 in
/-- The built-in frame is the frame. -/
theorem parse_program : Template.parse program = .ok frame := by
  apply parse_lines
  · repeat' first
      | apply List.Forall₂.nil
      | apply List.Forall₂.cons
      | apply Spells.append
      | exact spells_literal rfl
  · decide +kernel

end Snippet

/-! ## The text -/

/-- Lines with a newline after each of them but the last. -/
theorem Text.intercalate_concat (lines : List String) (last : String) :
    "\n".intercalate (lines ++ [last]) =
      String.join (lines.flatMap fun line => [line, "\n"]) ++ last := by
  induction lines with
  | nil => simp
  | cons line lines ih =>
      rw [List.cons_append, String.intercalate_cons_of_ne_nil (by simp), ih, List.flatMap_cons]
      simp [String.append_assoc]

/-- No precision is written as an empty text. -/
theorem Precision.filter_word (precision : Option Precision) :
    (precision.map word).filter (· ≠ "") = precision.map word := by
  rcases precision with _ | _ | _ | _ <;> rfl

namespace Compiler

variable (settings : Settings) (name : String) (globals helpers locals statements : List String)

/-- The lines of a stage.  A part with several lines of its own counts as one. -/
def stageLines : List String :=
  (settings.glslVersion.filter (· ≠ "")).toList ++ ["#define SHADER_NAME " ++ name] ++
    (settings.precision.map fun precision =>
      "precision " ++ precision.word ++ " float;").toList ++
    [""] ++ globals ++ [""] ++ helpers.flatMap (fun helper => [helper, ""]) ++
    ["void main() \x7b"] ++ (locals ++ statements).map ("    " ++ ·) ++ ["\x7d"]

/-- The text of a stage: its lines, with no newline after the last. -/
def stageText : String :=
  "\n".intercalate (stageLines settings name globals helpers locals statements)

/-- The pieces of the frame. -/
theorem pieces_frame :
    Snippet.frame.pieces (frameContext settings name globals helpers locals statements) = .ok
      ((settings.glslVersion.filter (· ≠ "")).toList.flatMap (fun text => [text, "\n"]) ++
        "#define SHADER_NAME " :: name :: "\n" ::
        (((settings.precision.map Precision.word).filter (· ≠ "")).toList.flatMap
            (fun text => ["precision ", text, " float;\n"]) ++ "\n" ::
          (globals.flatMap (fun text => [text, "\n"]) ++ "\n" ::
            (helpers.flatMap (fun text => [text, "\n\n"]) ++ "void main() \x7b\n" ::
              (locals.flatMap (fun text => ["    ", text, "\n"]) ++
                (statements.flatMap (fun text => ["    ", text, "\n"]) ++ ["\x7d"])))))) := by
  refine Template.pieces_optional rfl
    (fun _ found => Template.pieces_emit found (Template.pieces_text rfl "\n")) ?_
  refine Template.pieces_text (Template.pieces_emit rfl (Template.pieces_text ?_ "\n")) _
  refine Template.pieces_optional rfl (fun _ found => Template.pieces_text
    (Template.pieces_emit found (Template.pieces_text rfl _)) _) ?_
  refine Template.pieces_text ?_ "\n"
  refine Template.pieces_loop rfl
    (fun _ _ => Template.pieces_emit rfl (Template.pieces_text rfl "\n")) ?_
  refine Template.pieces_text ?_ "\n"
  refine Template.pieces_loop rfl
    (fun _ _ => Template.pieces_emit rfl (Template.pieces_text rfl "\n\n")) ?_
  refine Template.pieces_text ?_ _
  refine Template.pieces_loop rfl (fun _ _ => Template.pieces_text
    (Template.pieces_emit rfl (Template.pieces_text rfl "\n")) _) ?_
  refine Template.pieces_loop rfl (fun _ _ => Template.pieces_text
    (Template.pieces_emit rfl (Template.pieces_text rfl "\n")) _) ?_
  exact Template.pieces_text rfl "\x7d"

/-- **The frame filled in is the text of the stage**, for a library in which the frame is the
built-in one. -/
theorem render_frame {library : SnippetLibrary}
    (unregistered : library.registered.lookup frameSnippet = none) :
    library.render frameSnippet (frameContext settings name globals helpers locals statements) =
      .ok (stageText settings name globals helpers locals statements) := by
  have known : (frameSnippet, Snippet.program) ∈ Snippet.builtin := by
    simp [Snippet.builtin, frameSnippet]
  rw [SnippetLibrary.render,
    SnippetLibrary.template_builtin unregistered known Snippet.parse_program]
  simp only [Template.render, pieces_frame, bind, Except.bind, pure, Except.pure]
  rw [stageText, stageLines, Text.intercalate_concat, Precision.filter_word]
  congr 1
  apply String.toList_injective
  rcases settings.precision with _ | precision <;>
  simp [String.toList_join, List.flatMap_assoc, List.flatMap_map]

end Compiler
end ShaderLoom
