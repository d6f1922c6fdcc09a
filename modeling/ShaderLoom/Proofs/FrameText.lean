import ShaderLoom.Proofs.SilentSnippets
import ShaderLoom.Proofs.StageEnvelope

/-!
# The text of a stage

What the text of a stage declares under the default settings: two directives and the default
precision, a line for each declaration, the helpers with an empty line after each, and `main`
with a line for each local variable and each statement.

## Main results

* `Compiler.toList_of_render_frame` — the characters of a stage
* `Compiler.declares_frame` — what the text of a stage declares
-/

namespace ShaderLoom

open Declaration (Announces Declares)

namespace Compiler

variable {name : String} {globals helpers locals statements : List String} {text : String}
  (rendered : SnippetLibrary.render {} frameSnippet
    (frameContext {} name globals helpers locals statements) = .ok text)
include rendered

/-- The text of a stage. -/
theorem toList_of_render_frame : text.toList =
    "#version 100".toList ++ '\n' :: (("#define SHADER_NAME " ++ name).toList ++ '\n' ::
      ("precision highp float;".toList ++ '\n' :: ([] ++ '\n' ::
        ((globals.map String.toList).flatMap (fun line => line ++ ['\n']) ++ ([] ++ '\n' ::
          ((helpers.flatMap fun helper => [helper.toList, []]).flatMap
              (fun line => line ++ ['\n']) ++
            ("void main() \x7b".toList ++ '\n' ::
              (((locals ++ statements).map fun line =>
                List.replicate 4 ' ' ++ line.toList).flatMap
                (fun line => line ++ ['\n']) ++ ['\x7d'])))))))) := by
  obtain rfl := Except.ok.inj ((render_frame _ _ _ _ _ _ rfl).symm.trans rendered)
  rw [stageText, stageLines, Text.intercalate_concat]
  simp [Option.filter_some, Precision.word, String.toList_join, List.flatMap_assoc,
    List.flatMap_map]

/-- **The text of a stage declares what its declarations say**, if its helpers, its local
variables and its statements say nothing. -/
theorem declares_frame {qualifiers : List Qualifier} {found : List (List Declaration)}
    (named : Text.Calm name)
    (declared : List.Forall₂ (Declares qualifiers) (globals.map String.toList) found)
    (helping : ∀ helper ∈ helpers, Declares qualifiers helper.toList [])
    (working : ∀ line ∈ locals ++ statements,
      Declares qualifiers (List.replicate 4 ' ' ++ line.toList) []) :
    Declares qualifiers text.toList found.flatten := by
  have version : Announces qualifiers "#version 100".toList [] :=
    Declaration.announces_directive (Declaration.commentFree_of_isCalm rfl) (by decide) rfl
  have title : Announces qualifiers ("#define SHADER_NAME " ++ name).toList [] := by
    have calm : Text.Calm ("#define SHADER_NAME " ++ name) := .append rfl named
    refine Declaration.announces_directive (Declaration.commentFree_of_isCalm calm)
      (fun member => (Declaration.calm_mem calm member).2.1 rfl) ?_
    rw [String.toList_append]
    rfl
  have silent : ∀ line : List Char, Reader.run .start line = some .idle → '\n' ∉ line →
      Declares qualifiers line [] :=
    fun _ reads single => (Reader.announces_of_run_line reads rfl single).declares
  have precise := silent "precision highp float;".toList rfl (by decide)
  have opens := silent "void main() \x7b".toList rfl (by decide)
  have closes := silent ['\x7d'] rfl (by decide)
  have blank : Declares qualifiers [] [] :=
    (Reader.announces_code rfl rfl List.not_mem_nil).declares
  rw [toList_of_render_frame rendered, ← List.append_nil found.flatten]
  refine version.declares.cons (title.declares.cons (precise.cons (blank.cons ?_)))
  refine Declares.lines declared (blank.cons (Declares.silent_lines ?_ ?_))
  · intro line member
    obtain ⟨helper, among, member⟩ := List.mem_flatMap.mp member
    rcases List.mem_cons.mp member with rfl | member
    · exact helping helper among
    · rw [List.mem_singleton.mp member]
      exact blank
  · refine opens.cons (Declares.silent_lines ?_ closes)
    intro line member
    obtain ⟨text, among, rfl⟩ := List.mem_map.mp member
    exact working text among

end Compiler
end ShaderLoom
