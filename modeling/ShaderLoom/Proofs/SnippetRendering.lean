import Mathlib.Data.List.Forall2
import ShaderLoom.Proofs.TemplateTyping
import ShaderLoom.Snippet.Library

/-!
# The built-in snippets can be filled in

Every built-in snippet is a template, and it is well shaped for the parameters that it is
written for (`builtin_wellShaped`).  So the library without registered snippets renders each of
them from every context that fits these parameters (`SnippetLibrary.render_builtin`).

That a text is a template is a calculation on its characters.  A text given as a literal is
first written out as a list of characters (`Spells`), on which the calculation is quick.

## Main definitions

* `Snippet.Spells` — a text and its characters
* `Snippet.parameterShapes` — the parameters of the built-in snippets

## Main results

* `Snippet.builtin_wellShaped`
* `SnippetLibrary.render_builtin`
-/

namespace ShaderLoom
namespace Snippet

open Template (Shape Shapes Fits)

/-! ## Texts as characters -/

/-- A text and its characters. -/
def Spells (chars : List Char) (text : String) : Prop :=
  text = String.ofList chars

theorem spells_literal {chars : List Char} {text : String} (same : text = String.ofList chars) :
    Spells chars text :=
  same

theorem Spells.append {chars more : List Char} {text rest : String} (first : Spells chars text)
    (second : Spells more rest) : Spells (chars ++ more) (text ++ rest) := by
  unfold Spells at *
  rw [first, second, String.ofList_append]

/-- The characters of a text of several lines. -/
theorem toList_lines {chars : List (List Char)} {texts : List String}
    (spelled : List.Forall₂ Spells chars texts) :
    (lines texts).toList = chars.flatMap fun line => line ++ ['\n'] := by
  unfold lines
  induction spelled with
  | nil => rfl
  | @cons line text lines texts first _ ih =>
      rw [List.map_cons, String.join_cons, String.toList_append, ih, List.flatMap_cons,
        String.toList_append, first, String.toList_ofList]
      rfl

/-- A calculation on the characters of a text finds its template and checks it. -/
theorem exists_template {chars : List (List Char)} {texts : List String}
    {check : Template → Bool} (spelled : List.Forall₂ Spells chars texts)
    (checked : (Template.ofText? (Template.dropLast '\r' (Template.dropLast '\n'
      (chars.flatMap fun line => line ++ ['\n'])))).any check = true) :
    ∃ template, Template.parse (lines texts) = .ok template ∧ check template = true := by
  rw [← toList_lines spelled] at checked
  rw [Template.parse]
  cases found : Template.ofText?
      (Template.dropLast '\r' (Template.dropLast '\n' (lines texts).toList)) with
  | none => rw [found] at checked; cases checked
  | some template =>
      rw [found] at checked
      exact ⟨template, rfl, checked⟩

/-- A calculation on the characters of a text finds that it is a given template. -/
theorem parse_lines {chars : List (List Char)} {texts : List String} {template : Template}
    (spelled : List.Forall₂ Spells chars texts)
    (read : (Template.ofText? (Template.dropLast '\r' (Template.dropLast '\n'
      (chars.flatMap fun line => line ++ ['\n'])))).any (· == template) = true) :
    Template.parse (lines texts) = .ok template := by
  obtain ⟨found, parsed, same⟩ := exists_template spelled read
  rw [parsed, beq_iff_eq.mp same]

/-! ## The built-in snippets -/

/-- The shapes of the parameters of the built-in snippets. -/
def parameterShapes (name : String) : Shapes :=
  if name = "program" then
    [("header", .datum), ("name", .datum), ("precision", .datum), ("globals", .list),
      ("helpers", .list), ("locals", .list), ("body", .list)]
  else if name = "lighting" then [("kind", .datum)]
  else if name = "morphing" then [("target_count", .numeral)]
  else if name = "shadow" then [("technique", .datum)]
  else if name = "skinning" then [("bone_count", .datum), ("palette", .datum)]
  else []

set_option maxRecDepth 100000 in
/-- **The built-in snippets are well-shaped templates.** -/
theorem builtin_wellShaped :
    ∀ entry ∈ builtin, ∃ template, Template.parse entry.2 = .ok template ∧
      template.wellShaped (parameterShapes entry.1) = true := by
  simp only [builtin, List.forall_mem_cons]
  refine ⟨?_, ?_, ?_, ?_, ?_, ?_, List.forall_mem_nil _⟩
  all_goals
    apply exists_template
    · repeat' first
        | apply List.Forall₂.nil
        | apply List.Forall₂.cons
        | apply Spells.append
        | exact spells_literal rfl
    · decide +kernel

theorem builtin?_of_mem : ∀ entry ∈ builtin, builtin? entry.1 = some entry.2 := by
  simp only [builtin, List.forall_mem_cons]
  refine ⟨rfl, rfl, rfl, rfl, rfl, rfl, List.forall_mem_nil _⟩

end Snippet

/-- A library has the built-in snippets whose names are not registered. -/
theorem SnippetLibrary.template_builtin {library : SnippetLibrary} {name source : String}
    (unregistered : library.registered.lookup name = none)
    (known : (name, source) ∈ Snippet.builtin) {template : Template}
    (parsed : Template.parse source = .ok template) :
    library.template name = .ok template := by
  simp only [SnippetLibrary.template, unregistered, Snippet.builtin?_of_mem _ known,
    SnippetLibrary.parse, parsed]

/-- **The built-in snippets can be filled in** from every context that fits their parameters. -/
theorem SnippetLibrary.render_builtin {name source : String} {context : Template.Context}
    (known : (name, source) ∈ Snippet.builtin)
    (fits : Template.Fits context (Snippet.parameterShapes name)) :
    ∃ text, SnippetLibrary.render {} name context = .ok text := by
  obtain ⟨template, parsed, shaped⟩ := Snippet.builtin_wellShaped _ known
  obtain ⟨text, rendered⟩ := Template.render_of_wellShaped fits shaped
  have found : SnippetLibrary.template {} name = .ok template :=
    template_builtin rfl known parsed
  refine ⟨text, ?_⟩
  simp only [SnippetLibrary.render, found, bind, Except.bind, rendered]
  rfl

end ShaderLoom
