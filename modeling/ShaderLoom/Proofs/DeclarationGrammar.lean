import Mathlib.Data.List.Infix
import ShaderLoom.Proofs.Introspection
import ShaderLoom.Proofs.SilentSnippets

/-!
# Texts that are read completely

A program text is read without a grammar: comments are taken out, directive lines are dropped,
the rest is cut at semicolons, and of each piece only what follows the last brace is looked at.
Each of these steps could swallow a declaration next to it, or find one where there is none.
This does not happen in texts that consist of items on lines of their own: declarations of
attributes and uniforms, comments of both kinds, directives, and functions in whose statements
no qualifier comes first.

An item may extend over several lines, and what looks like a line of it may be part of a
comment, so that items are not read line by line.  `Declaration.Yields` says what an item
declares on its own, whatever comes after it: comments end within it, and no statement is left
that the next item would continue.

## Main definitions

* `Glsl.Item`, `Glsl.Item.text` — items and how they are written
* `Glsl.Item.declared` — what is declared by an item
* `Declaration.Yields` — what is found in an item, whatever comes after it

## Main results

* `Declaration.inText_of_yields` — a text declares what its items do
* `Declaration.yields_block`, `Declaration.yields_function` — comments and functions
* `Declaration.scan_join` — exactly the declarations among the items are found
-/

namespace ShaderLoom

open Text (cutAt words isBlank)

/-! ## Items -/

/-- Whether the first word after the last brace of a statement qualifies a declaration. -/
def Declaration.isQualified (statement : List Char) : Bool :=
  [Qualifier.attr, Qualifier.uniform].any fun qualifier =>
    (words (Text.afterLast isBrace statement)).head? == some qualifier.word.toList

namespace Glsl

/-- An item of a program text. -/
inductive Item where
  /-- The declaration of an attribute or uniform. -/
  | declaration (v : Variable) (qualifier : Qualifier) (text : String)
      (stored : v.storage = Declaration.storageOf qualifier)
      (spelled : isIdentifier v.name.toList = true) (written : v.declaration? = some text)
  /-- A comment that ends with its line. -/
  | lineComment (content : List Char) (single : '\n' ∉ content)
  /-- A comment that ends with its closing mark. -/
  | blockComment (content : List Char) (unclosed : ¬ ['*', '/'] <:+: content)
  /-- A line whose first character that is not blank is a number sign. -/
  | directive (line : List Char) (sign : Declaration.isDirective line = true)
      (single : '\n' ∉ line) (free : CommentFree line)
  /-- A function.  No line of it is a directive, and of no statement in its body does the first
  word after the last brace qualify a declaration. -/
  | function (header body : List Char) (unended : ';' ∉ header)
      (free : CommentFree (header ++ '\x7b' :: (body ++ ['\x7d'])))
      (code : ∀ line ∈ cutAt '\n' (header ++ '\x7b' :: (body ++ ['\x7d'])),
        Declaration.isDirective line = false)
      (unqualified : ∀ statement ∈ cutAt ';' body, Declaration.isQualified statement = false)

namespace Item

/-- How an item is written. -/
def text : Item → List Char
  | declaration _ _ text _ _ _ => text.toList
  | lineComment content _ => '/' :: '/' :: content
  | blockComment content _ => '/' :: '*' :: (content ++ ['*', '/'])
  | directive line _ _ _ => line
  | function header body _ _ _ _ => header ++ '\x7b' :: (body ++ ['\x7d'])

/-- What is declared by an item. -/
def declared : Item → List Declaration
  | declaration v qualifier _ _ _ _ => [{ qualifier, type := v.type.word, name := v.name }]
  | _ => []

/-- Items on lines of their own. -/
def join (items : List Item) : String :=
  String.ofList (['\n'].intercalate (items.map text))

end Item

end Glsl

namespace Declaration

open Glsl (stripComments CommentFree)

section Yields

variable {qualifiers : List Qualifier}

/-! ## Reading items -/

/-- What is found in an item, whatever comes after it. -/
structure Yields (qualifiers : List Qualifier) (item : List Char) (found : List Declaration) :
    Prop where
  strips : ∀ rest, stripComments (item ++ '\n' :: rest) =
    stripComments item ++ '\n' :: stripComments rest
  reads : ∀ rest,
    inCode qualifiers [] ((cutAt '\n' (stripComments item)).flatMap shown ++ rest) =
    found ++ inCode qualifiers [] rest

theorem Announces.yields {line : List Char} {found : List Declaration}
    (announces : Announces qualifiers line found) : Yields qualifiers line found := by
  obtain ⟨kept, keeps, reads⟩ := announces
  refine ⟨fun rest => ?_, fun rest => ?_⟩
  · rw [keeps.last, keeps.more]
  · rw [keeps.last, Text.cutAt_of_not_mem keeps.single, List.flatMap_singleton, reads]

/-- **A text declares what its items do.** -/
theorem inText_of_yields {items : List (List Char)} {parts : List (List Declaration)}
    (each : List.Forall₂ (Yields qualifiers) items parts) :
    inText qualifiers (String.ofList (['\n'].intercalate items)) = parts.flatten := by
  rw [inText_eq, String.toList_ofList]
  induction each with
  | nil =>
      have newline : (cutAt '\n' (stripComments [])).flatMap shown = ['\n'] := by
        rw [stripComments]
        rfl
      rw [List.intercalate_nil, newline, inCode_cons_blank (by decide)]
      rfl
  | @cons item found items parts here others ih =>
      cases others with
      | nil =>
          rw [List.intercalate_singleton, ← List.append_nil (List.flatMap _ _), here.reads,
            List.flatten_cons]
          rfl
      | cons next others =>
          rw [List.intercalate_cons_cons, List.append_assoc, List.singleton_append, here.strips,
            Text.cutAt_append, List.flatMap_append, here.reads, ih]
          rfl

/-! ## Comments -/

/-- A comment says nothing, whatever lines it extends over. -/
theorem yields_block {content : List Char} (unclosed : ¬ ['*', '/'] <:+: content) :
    Yields qualifiers ('/' :: '*' :: (content ++ ['*', '/'])) [] := by
  have strips (rest : List Char) :
      stripComments ('/' :: '*' :: (content ++ '*' :: '/' :: rest)) =
      ' ' :: stripComments rest := by
    rw [stripComments, Glsl.afterBlockComment_append unclosed]
  have alone : stripComments ('/' :: '*' :: (content ++ ['*', '/'])) = [' '] := by
    rw [strips, stripComments]
  refine ⟨fun rest => ?_, fun rest => ?_⟩
  · rw [alone, List.cons_append, List.cons_append, List.append_assoc]
    refine (strips ('\n' :: rest)).trans ?_
    rw [Glsl.stripComments_cons (by decide)]
    rfl
  · rw [alone]
    change inCode qualifiers [] ('\n' :: ' ' :: rest) = _
    rw [inCode_cons_blank (by decide), inCode_cons_blank (by decide)]
    rfl

/-! ## Functions -/

/-- Lines that are not directives are kept. -/
theorem flatMap_shown {text : List Char}
    (code : ∀ line ∈ cutAt '\n' text, isDirective line = false) :
    (cutAt '\n' text).flatMap shown = '\n' :: text := by
  induction text using Text.line_induction with
  | last line single =>
      rw [Text.cutAt_of_not_mem single] at code ⊢
      rw [List.flatMap_singleton, shown, code line (List.mem_singleton_self line)]
      rfl
  | more line rest single ih =>
      rw [Text.cutAt_append, Text.cutAt_of_not_mem single, List.singleton_append] at code ⊢
      obtain ⟨here, later⟩ := List.forall_mem_cons.mp code
      rw [List.flatMap_cons, ih later, shown, here]
      rfl

/-- A brace ends what came before it. -/
theorem inCode_brace {c : Char} (brace : isBrace c = true) (pending rest : List Char) :
    inCode qualifiers pending (c :: rest) = inCode qualifiers [] rest := by
  have other : c ≠ ';' := by
    rintro rfl
    exact absurd brace (by decide)
  rw [inCode, if_neg other]
  refine inCode_congr (fun more => ?_) rest
  rw [List.append_assoc, List.singleton_append, inStatement_brace brace, List.nil_append]

theorem inStatement_of_unqualified {statement : List Char}
    (unqualified : isQualified statement = false) : inStatement qualifiers statement = [] := by
  rw [isQualified, List.any_eq_false] at unqualified
  rw [inStatement_eq]
  cases found : words (Text.afterLast isBrace statement) with
  | nil => rfl
  | cons first more =>
      refine ofWords_of_harmless (fun qualifier same => ?_) more
      refine unqualified qualifier (by cases qualifier <;> decide) ?_
      rw [found, same]
      exact beq_self_eq_true _

/-- A block in whose statements no qualifier comes first says nothing. -/
theorem inCode_block {body : List Char}
    (silent : ∀ statement ∈ cutAt ';' body, inStatement qualifiers statement = [])
    (rest : List Char) :
    inCode qualifiers [] (body ++ '\x7d' :: rest) = inCode qualifiers [] rest := by
  induction body using Text.piece_induction ';' with
  | last statement single =>
      rw [inCode_append single, inCode_brace (by decide)]
  | more statement body single ih =>
      rw [Text.cutAt_append, Text.cutAt_of_not_mem single, List.singleton_append] at silent
      obtain ⟨here, later⟩ := List.forall_mem_cons.mp silent
      rw [List.append_assoc, List.cons_append, inCode_append single, inCode, if_pos rfl,
        List.nil_append, here, List.nil_append, ih later]

/-- A function says nothing. -/
theorem yields_function {header body : List Char} (unended : ';' ∉ header)
    (free : CommentFree (header ++ '\x7b' :: (body ++ ['\x7d'])))
    (code : ∀ line ∈ cutAt '\n' (header ++ '\x7b' :: (body ++ ['\x7d'])),
      isDirective line = false)
    (silent : ∀ statement ∈ cutAt ';' body, inStatement qualifiers statement = []) :
    Yields qualifiers (header ++ '\x7b' :: (body ++ ['\x7d'])) [] := by
  refine ⟨fun rest => ?_, fun rest => ?_⟩
  · rw [free.stripComments_eq, free.stripComments_line]
  · have joined : header ++ '\x7b' :: (body ++ ['\x7d']) ++ rest =
        header ++ '\x7b' :: (body ++ '\x7d' :: rest) := by simp
    rw [free.stripComments_eq, flatMap_shown code, List.cons_append,
      inCode_cons_blank (by decide), joined, inCode_append unended, inCode_brace (by decide),
      inCode_block silent]
    rfl

/-! ## Texts -/

/-- **What an item says**: its declaration, if it is one. -/
theorem yields_item (item : Glsl.Item) :
    Yields [.attr, .uniform] item.text item.declared := by
  cases item with
  | declaration v qualifier text stored spelled written =>
      have announced : Announces [.attr, .uniform] text.toList (v.entries [.attr, .uniform]) :=
        announces_declaration (isWord_of_isIdentifier spelled) written 0
      have found : v.entries [.attr, .uniform] =
          [{ qualifier, type := v.type.word, name := v.name }] := by
        rw [Variable.entries, input?_eq_some_iff.mpr stored]
        cases qualifier <;> rfl
      exact (found ▸ announced).yields
  | lineComment content single => exact (Reader.announces_comment single).yields
  | blockComment content unclosed => exact yields_block unclosed
  | directive line sign single free => exact (announces_directive free single sign).yields
  | function header body unended free code unqualified =>
      exact yields_function unended free code fun statement member =>
        inStatement_of_unqualified (unqualified statement member)

end Yields

/-- **Exactly the declarations among the items of a text are found**, in order, whatever
comments, directives and functions stand between them, if no name is declared twice. -/
theorem scan_join (items : List Glsl.Item)
    (distinct : ((items.flatMap Glsl.Item.declared).map Declaration.name).Nodup) :
    scan (Glsl.Item.join items) "" = .ok (items.flatMap Glsl.Item.declared) := by
  have each : List.Forall₂ (Yields [.attr, .uniform]) (items.map Glsl.Item.text)
      (items.map Glsl.Item.declared) := by
    rw [List.forall₂_map_left_iff, List.forall₂_map_right_iff, List.forall₂_same]
    exact fun item _ => yields_item item
  have vertex : inText [.attr, .uniform] (Glsl.Item.join items) =
      items.flatMap Glsl.Item.declared := by
    rw [Glsl.Item.join, inText_of_yields each]
    exact List.flatMap_def.symm
  have fragment : inText [.uniform] "" = [] := by
    have none : List.Forall₂ (Yields [.uniform]) [] [] := .nil
    have found := inText_of_yields none
    rwa [List.intercalate_nil, String.ofList_nil] at found
  rw [scan, inProgram, vertex, fragment, List.append_nil, merge_of_nodup distinct]

/-- Openers in comments, a slash before the end of a line, and a declaration after a brace. -/
theorem scan_join_mixed :
    let items : List Glsl.Item :=
      [.lineComment "/* uniform float a;".toList (by decide),
        .blockComment "* // \x7b\n# uniform float b; *".toList (by decide),
        .directive " # define c uniform float d; /".toList (by decide) (by decide)
          ⟨by decide, by decide⟩,
        .function "void f()".toList " if (x / y) \x7b g(); \x7d h();\n".toList (by decide)
          ⟨by decide, by decide⟩ (by decide +kernel) (by decide +kernel),
        .declaration { name := "e", type := .vec3, storage := .attr } .attr
          "attribute vec3 e;" rfl
          rfl (by decide),
        .declaration { name := "f", type := .mat4, storage := .uniform, arrayLength := some 4 }
          .uniform "uniform mat4 f[4];" rfl rfl (by decide)]
    scan (Glsl.Item.join items) "" =
      .ok [{ qualifier := .attr, type := "vec3", name := "e" },
        { qualifier := .uniform, type := "mat4", name := "f" }] := by
  intro items
  exact scan_join items (by decide)

end Declaration
end ShaderLoom
