import Mathlib.Tactic.IntervalCases
import ShaderLoom.Proofs.FunctionCalls
import ShaderLoom.Proofs.SilentSnippets
import ShaderLoom.Wiring.Fragment

/-!
# What helpers define

The functions that generated shaders call beyond those of the language, with the snippets that
define them.  A snippet is a template, written without regard to the statements that call into
it.  What it defines once it is filled in is a calculation on its characters.  Only the number
of bones is not bounded, and it stands in a comment.

## Main definitions

* `HelperFunction` — the functions that snippets define, with their signatures
* `Template.letters` — the text of a template, as a list of characters

## Main results

* `HelperFunction.definitions?_of_render` — what a helper defines
-/

namespace ShaderLoom

/-! ## Comments -/

namespace Glsl

/-- The rest of a comment line is skipped. -/
theorem strip_line_append {comment : List Char} (single : '\n' ∉ comment) (rest : List Char) :
    strip .line (comment ++ rest) = strip .line rest := by
  induction comment with
  | nil => rfl
  | cons c comment ih =>
      rw [List.mem_cons, not_or] at single
      rw [List.cons_append, strip]
      · exact ih single.2
      · rintro rfl
        exact single.1 rfl

theorem definitions?_eq (text : String) :
    definitions? text = definitionsIn? (strip .code text.toList) := by
  rw [definitions?, strip_eq, Skip.rest]

end Glsl

/-! ## Filling in -/

/-- What succeeds on the items of a list goes on to succeed when the results are mapped. -/
theorem mapM_map_of_mapM {α β γ ε : Type} {f : α → Except ε β} {g : α → Except ε γ} {h : β → γ}
    (follows : ∀ item result, f item = .ok result → g item = .ok (h result)) {items : List α} :
    ∀ {results : List β}, items.mapM f = .ok results → items.mapM g = .ok (results.map h) := by
  induction items with
  | nil =>
      intro results done
      cases done
      rfl
  | cons item items ih =>
      intro results done
      rw [List.mapM_cons] at done
      obtain ⟨first, here, done⟩ := exists_of_bind_eq_ok done
      obtain ⟨others, later, done⟩ := exists_of_bind_eq_ok done
      cases done
      rw [List.mapM_cons, follows item first here, ih later]
      rfl

namespace Template

/-- The characters that a template gives in a context. -/
def letters : Template → Context → Except TemplateFault (List Char)
  | done, _ => .ok []
  | text value rest, context => do
    return value ++ (← rest.letters context)
  | emit expression rest, context => do
    let value ← (← expression.force context).render
    return value.toList ++ (← rest.letters context)
  | choose condition yes no rest, context => do
    let value ← condition.force context
    let chosen ← if value.isTrue then yes.letters context else no.letters context
    return chosen ++ (← rest.letters context)
  | loop name source body rest, context => do
    let items ← (← source.force context).items
    let count := items.length
    let rounds ← items.zipIdx.mapM fun (item, index) =>
      body.letters ((name, .data item) :: ("loop", .progress index count) :: context)
    return rounds.flatten ++ (← rest.letters context)

/-- They are the characters of the pieces. -/
theorem letters_of_pieces {template : Template} : ∀ {context : Context} {pieces : List String},
    template.pieces context = .ok pieces →
      template.letters context = .ok (pieces.flatMap String.toList) := by
  induction template with
  | done =>
      intro context pieces filled
      cases filled
      rfl
  | text value rest ih =>
      intro context pieces filled
      obtain ⟨others, later, filled⟩ := exists_of_bind_eq_ok filled
      cases filled
      rw [letters, ih later, List.flatMap_cons, String.toList_ofList]
      rfl
  | emit expression rest ih =>
      intro context pieces filled
      obtain ⟨value, forced, filled⟩ := exists_of_bind_eq_ok filled
      obtain ⟨word, rendered, filled⟩ := exists_of_bind_eq_ok filled
      obtain ⟨others, later, filled⟩ := exists_of_bind_eq_ok filled
      cases filled
      simp only [letters, forced, bind, Except.bind, rendered, ih later]
      rfl
  | choose condition yes no rest ihYes ihNo ih =>
      intro context pieces filled
      obtain ⟨value, forced, filled⟩ := exists_of_bind_eq_ok filled
      rw [letters, forced]
      change (if value.isTrue then _ else _) = _ at filled
      change (if value.isTrue then _ else _) = _
      split at filled
      · rename_i holds
        obtain ⟨chosen, here, filled⟩ := exists_of_bind_eq_ok filled
        obtain ⟨others, later, filled⟩ := exists_of_bind_eq_ok filled
        cases filled
        rw [if_pos holds, ihYes here, ih later, List.flatMap_append]
        rfl
      · rename_i fails
        obtain ⟨chosen, here, filled⟩ := exists_of_bind_eq_ok filled
        obtain ⟨others, later, filled⟩ := exists_of_bind_eq_ok filled
        cases filled
        rw [if_neg fails, ihNo here, ih later, List.flatMap_append]
        rfl
  | loop name source body rest ihBody ih =>
      intro context pieces filled
      obtain ⟨value, forced, filled⟩ := exists_of_bind_eq_ok filled
      obtain ⟨items, listed, filled⟩ := exists_of_bind_eq_ok filled
      obtain ⟨rounds, done, filled⟩ := exists_of_bind_eq_ok filled
      obtain ⟨others, later, filled⟩ := exists_of_bind_eq_ok filled
      cases filled
      have each : items.zipIdx.mapM (fun (item, index) => body.letters
          ((name, .data item) :: ("loop", .progress index items.length) :: context)) =
            .ok (rounds.map fun round => round.flatMap String.toList) :=
        mapM_map_of_mapM (fun _ _ filled => ihBody filled) done
      have flat : (rounds.map fun round => round.flatMap String.toList).flatten =
          rounds.flatten.flatMap String.toList := by
        simp only [List.flatMap_def, List.map_flatten, List.flatten_flatten, List.map_map]
        rfl
      simp only [letters, forced, bind, Except.bind, listed, each, ih later,
        List.flatMap_append, flat]
      rfl

/-- Whether a template defines given functions in a context. -/
def defines (context : Context) (signatures : List Glsl.Signature)
    (template : Template) : Bool :=
  (template.letters context).toOption.any fun text =>
    Glsl.definitionsIn? (Glsl.strip .code (Text.trimEnd text)) == some signatures

/-- A template of texts and one parameter, with a word for the parameter. -/
def fill (name : String) (word : List Char) : Template → Option (List Char)
  | done => some []
  | text value rest => do return value ++ (← rest.fill name word)
  | emit (.name other) rest =>
    if other = name then do return word ++ (← rest.fill name word) else none
  | _ => none

/-- A parameter gives its word. -/
theorem exists_of_pieces_emit {name word : String} {rest : Template} {context : Context}
    (known : context.lookup name = some (.ofText word)) {pieces : List String}
    (filled : (emit (.name name) rest).pieces context = .ok pieces) :
    ∃ others, rest.pieces context = .ok others ∧ pieces = word :: others := by
  obtain ⟨value, forced, filled⟩ := exists_of_bind_eq_ok filled
  rw [Expression.force, Expression.evaluate, Context.value?, known] at forced
  cases forced
  obtain ⟨shown, rendered, filled⟩ := exists_of_bind_eq_ok filled
  cases rendered
  obtain ⟨others, later, filled⟩ := exists_of_bind_eq_ok filled
  cases filled
  exact ⟨others, later, rfl⟩

/-- It gives what the template gives in every context with that word. -/
theorem fill_of_pieces {name word : String} {template : Template} {context : Context}
    (known : context.lookup name = some (.ofText word)) :
    ∀ {pieces : List String} {text : List Char},
      template.pieces context = .ok pieces → template.fill name word.toList = some text →
        pieces.flatMap String.toList = text := by
  induction template with
  | done =>
      intro pieces text filled done
      cases filled
      cases done
      rfl
  | text value rest ih =>
      intro pieces text filled done
      obtain ⟨others, later, filled⟩ := exists_of_bind_eq_ok filled
      obtain ⟨more, behind, done⟩ := Option.bind_eq_some_iff.mp done
      cases filled
      cases done
      rw [List.flatMap_cons, String.toList_ofList, ih later behind]
  | emit expression rest ih =>
      intro pieces text filled done
      cases expression with
      | name other =>
          rw [fill] at done
          split at done
          · rename_i same
            obtain ⟨more, behind, done⟩ := Option.bind_eq_some_iff.mp done
            cases done
            obtain ⟨others, later, rfl⟩ := exists_of_pieces_emit (same ▸ known) filled
            rw [List.flatMap_cons, ih later behind]
          · cases done
      | _ => cases done
  | choose => intro _ _ _ done; cases done
  | loop => intro _ _ _ done; cases done

/-- What comes after two parameters in a comment at the start of a template. -/
def behindComment? (first second : String) : Template → Option Template
  | text ('/' :: '/' :: front) (emit (.name a) (text between (emit (.name b) rest))) =>
    if a = first ∧ b = second ∧ '\n' ∉ front ∧ '\n' ∉ between then some rest else none
  | _ => none

/-- The template gives a comment and what comes after it. -/
theorem exists_of_behindComment {first second : String} {template rest : Template}
    (behind : template.behindComment? first second = some rest) {context : Context}
    {a b : String} (knownFirst : context.lookup first = some (.ofText a))
    (single : '\n' ∉ a.toList) (knownSecond : context.lookup second = some (.ofText b))
    (singleToo : '\n' ∉ b.toList) {pieces : List String}
    (filled : template.pieces context = .ok pieces) :
    ∃ comment others, '\n' ∉ comment ∧ rest.pieces context = .ok others ∧
      pieces.flatMap String.toList =
        '/' :: '/' :: (comment ++ others.flatMap String.toList) := by
  rw [behindComment?.eq_def] at behind
  split at behind
  · rename_i front first' between second' rest'
    split at behind
    · rename_i shape
      obtain ⟨rfl, rfl, free, freeToo⟩ := shape
      cases behind
      obtain ⟨_, opened, same⟩ := exists_of_bind_eq_ok filled
      cases same
      obtain ⟨_, named, rfl⟩ := exists_of_pieces_emit knownFirst opened
      obtain ⟨_, reopened, same⟩ := exists_of_bind_eq_ok named
      cases same
      obtain ⟨others, later, rfl⟩ := exists_of_pieces_emit knownSecond reopened
      refine ⟨front ++ a.toList ++ between ++ b.toList, others, ?_, later, ?_⟩
      · simp only [List.mem_append, not_or]
        exact ⟨⟨⟨free, single⟩, freeToo⟩, singleToo⟩
      · simp only [List.flatMap_cons, String.toList_ofList, List.append_assoc, List.cons_append]
    · cases behind
  · cases behind

end Template

/-! ## Functions of helpers -/

/-- The functions that generated shaders call beyond those of the language. -/
inductive HelperFunction where
  /-- What a light of a kind contributes. -/
  | light (kind : LightKind)
  /-- The visibility of a light, by a technique. -/
  | shadow (technique : ShadowTechnique)
  /-- The weighted matrix of a number of bones. -/
  | skinning (bones : Nat)
  /-- A vertex value blended toward a number of targets. -/
  | morphing (targets : Nat)
  | billboard
  deriving DecidableEq

namespace HelperFunction

/-- What the function takes and gives. -/
def signature : HelperFunction → Glsl.Signature
  | light kind =>
    { name := kind.function
      parameters := .vec3 :: .vec4 :: kind.parameters.map Prod.snd
      result := .vec3 }
  | shadow _ =>
    { name := "computeShadow"
      parameters := [.sampler2D, .vec4, .vec2, .float]
      result := .float }
  | skinning _ => { name := "skeletalTransform", parameters := [.vec4, .vec4], result := .mat4 }
  | morphing targets =>
    { name := s!"morphTransform{targets}"
      parameters := .vec3 :: .vec4 :: List.replicate targets .vec3
      result := .vec3 }
  | billboard => { name := "billboard", parameters := [.vec3, .mat4, .mat4], result := .vec4 }

/-- The helper that defines the function. -/
def helper : HelperFunction → Helper
  | light kind => { snippet := "lighting", parameters := [("kind", kind.word)] }
  | shadow technique => { snippet := "shadow", parameters := [("technique", technique.word)] }
  | skinning bones =>
    { snippet := "skinning"
      parameters := [("palette", "uBones"), ("bone_count", toString bones)] }
  | morphing targets =>
    { snippet := "morphing", parameters := [("target_count", toString targets)] }
  | billboard => { snippet := "billboard" }

/-- All functions that the helper defines, in order. -/
def signatures : HelperFunction → List Glsl.Signature
  | skinning bones =>
    [{ name := "getBoneMat4", parameters := [.int], result := .mat4 },
      (skinning bones).signature]
  | other => [other.signature]

theorem signature_mem_signatures (function : HelperFunction) :
    function.signature ∈ function.signatures := by
  cases function with
  | skinning bones => exact List.mem_cons_of_mem _ List.mem_cons_self
  | _ => exact List.mem_cons_self

/-- There are no more morph targets than weights. -/
def Bounded (function : HelperFunction) : Prop :=
  ∀ targets, function = morphing targets → targets ≤ 4

/-- The functions of snippets whose parameters are bounded, snippet by snippet. -/
def bySnippet : List (String × List HelperFunction) :=
  [(Snippet.billboard, [billboard]),
    (Snippet.lighting, [light .directional, light .point, light .spot, light .hemi]),
    (Snippet.morphing, [morphing 0, morphing 1, morphing 2, morphing 3, morphing 4]),
    (Snippet.shadow, [shadow .hard, shadow .pcf, shadow .esm, shadow .vsm])]

set_option maxRecDepth 100000 in
theorem exists_defines :
    ∀ entry ∈ bySnippet, ∃ template, Template.parse entry.1 = .ok template ∧
      (entry.2.all fun function =>
        template.defines function.helper.context function.signatures) = true := by
  simp only [bySnippet, List.forall_mem_cons]
  refine ⟨?_, ?_, ?_, ?_, List.forall_mem_nil _⟩
  all_goals
    apply Snippet.exists_template
    · repeat' first
        | apply List.Forall₂.nil
        | apply List.Forall₂.cons
        | apply Snippet.Spells.append
        | exact Snippet.spells_literal rfl
    · decide +kernel

set_option maxRecDepth 100000 in
/-- The number of bones stands in a comment, and the rest has one parameter. -/
theorem exists_behindComment : ∃ template, Template.parse Snippet.skinning = .ok template ∧
    ((template.behindComment? "palette" "bone_count").any fun rest =>
      (rest.fill "palette" "uBones".toList).any fun text => !(Text.trimEnd text).isEmpty &&
        Glsl.definitionsIn? (Glsl.strip .line (Text.trimEnd text)) ==
          some (skinning 0).signatures) = true := by
  apply Snippet.exists_template
  · repeat' first
      | apply List.Forall₂.nil
      | apply List.Forall₂.cons
      | apply Snippet.Spells.append
      | exact Snippet.spells_literal rfl
  · decide +kernel

/-- A text of the snippet of a function whose parameters are bounded. -/
theorem exists_bySnippet {function : HelperFunction}
    (other : ∀ bones, function ≠ skinning bones) (bounded : function.Bounded) :
    ∃ entry ∈ bySnippet, function ∈ entry.2 ∧
      (function.helper.snippet, entry.1) ∈ Snippet.builtin := by
  cases function with
  | light kind =>
      refine ⟨_, List.mem_cons_of_mem _ List.mem_cons_self, ?_,
        by simp [Snippet.builtin, helper]⟩
      cases kind <;> simp
  | shadow technique =>
      refine ⟨_, List.mem_cons_of_mem _ (List.mem_cons_of_mem _ (List.mem_cons_of_mem _
        List.mem_cons_self)), ?_, by simp [Snippet.builtin, helper]⟩
      cases technique <;> simp
  | skinning bones => exact absurd rfl (other bones)
  | morphing targets =>
      refine ⟨_, List.mem_cons_of_mem _ (List.mem_cons_of_mem _ List.mem_cons_self), ?_,
        by simp [Snippet.builtin, helper]⟩
      have few := bounded targets rfl
      interval_cases targets <;> simp
  | billboard => exact ⟨_, List.mem_cons_self, by simp, by simp [Snippet.builtin, helper]⟩

/-- **What a helper defines.** -/
theorem definitions?_of_render {function : HelperFunction} (bounded : function.Bounded)
    {compiler : Compiler} (plain : compiler.library = {}) {text : String}
    (rendered : compiler.renderHelper function.helper = .ok text) :
    Glsl.definitions? text = some function.signatures := by
  by_cases skins : ∃ bones, function = skinning bones
  · obtain ⟨bones, rfl⟩ := skins
    obtain ⟨template, parsed, shaped⟩ := exists_behindComment
    obtain ⟨rest, behind, shaped⟩ := (Option.any_eq_true _ _).mp shaped
    obtain ⟨whole, fills, shaped⟩ := (Option.any_eq_true _ _).mp shaped
    rw [Bool.and_eq_true, Bool.not_eq_true', List.isEmpty_eq_false_iff, beq_iff_eq] at shaped
    have known : ("skinning", Snippet.skinning) ∈ Snippet.builtin := by simp [Snippet.builtin]
    obtain ⟨pieces, filled, spelled⟩ :=
      Compiler.exists_pieces_of_renderHelper plain known parsed rendered
    have numeral : '\n' ∉ (toString bones).toList := fun member => by
      have digit := List.all_eq_true.mp (Text.all_isSlotPart_toString bones) _ member
      exact absurd digit (by decide)
    obtain ⟨comment, others, single, later, same⟩ :=
      Template.exists_of_behindComment behind rfl (by decide) rfl numeral filled
    rw [Template.fill_of_pieces rfl later fills] at same
    rw [Glsl.definitions?_eq, spelled, same, ← List.cons_append, ← List.cons_append,
      Text.trimEnd_append shaped.1]
    change Glsl.definitionsIn? (Glsl.strip .line (comment ++ Text.trimEnd whole)) = _
    rw [Glsl.strip_line_append single]
    exact shaped.2
  · rw [not_exists] at skins
    obtain ⟨entry, member, among, known⟩ := exists_bySnippet skins bounded
    obtain ⟨template, parsed, defines⟩ := exists_defines entry member
    obtain ⟨pieces, filled, spelled⟩ :=
      Compiler.exists_pieces_of_renderHelper plain known parsed rendered
    have defined := List.all_eq_true.mp defines function among
    rw [Template.defines, Template.letters_of_pieces filled] at defined
    rw [Glsl.definitions?_eq, spelled]
    exact beq_iff_eq.mp defined

end HelperFunction
end ShaderLoom
