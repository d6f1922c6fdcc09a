import Mathlib.Data.List.Induction
import Mathlib.Data.List.TakeWhile
import ShaderLoom.Text.Blank
import ShaderLoom.Text.Cut

/-!
# Cutting and trimming texts

Laws of the functions that cut texts at separators, into words, and at their blank margins.
They say what becomes of texts that were put together: pieces with separators between them are
found again, and so are words with blanks around them.

## Main definitions

* `Text.Solid` — words, which have no blanks in them

## Main results

* `Text.cutAt_append`, `Text.cutAt_flatMap` — pieces are found again
* `Text.piece_induction` — a text consists of pieces
* `Text.words_append` — the first word of a text
* `Text.trim_margins` — a word is found again between blanks
* `Text.map_trim_cutAt_join` — words that were joined are found again
-/

namespace ShaderLoom
namespace Text

/-! ## Separators -/

theorem cutWhere_ne_nil (separates : Char → Bool) (text : List Char) :
    cutWhere separates text ≠ [] := by
  induction text with
  | nil => exact List.cons_ne_nil _ _
  | cons c rest ih =>
      rw [cutWhere]
      split
      · exact List.cons_ne_nil _ _
      · split <;> exact List.cons_ne_nil _ _

theorem cutAt_append (separator : Char) (front back : List Char) :
    cutAt separator (front ++ separator :: back) =
      cutAt separator front ++ cutAt separator back := by
  rw [cutAt, cutAt, cutAt]
  induction front with
  | nil => simp [cutWhere]
  | cons c front ih =>
      rw [List.cons_append, cutWhere, cutWhere, ih]
      obtain ⟨piece, pieces, cut⟩ :=
        List.exists_cons_of_ne_nil (cutWhere_ne_nil (· == separator) front)
      rw [cut]
      split <;> rfl

theorem cutAt_of_not_mem {separator : Char} {text : List Char} (free : separator ∉ text) :
    cutAt separator text = [text] := by
  rw [cutAt]
  induction text with
  | nil => rfl
  | cons c rest ih =>
      have other : (c == separator) = false := beq_false_of_ne fun same =>
        free (same ▸ List.mem_cons_self)
      rw [cutWhere, ih fun member => free (List.mem_cons_of_mem _ member), other]
      rfl

/-- Pieces with a separator in front of all but the first are found again. -/
theorem cutAt_flatMap {separator : Char} {first : List Char} {others : List (List Char)}
    (free : ∀ piece ∈ first :: others, separator ∉ piece) :
    cutAt separator (first ++ others.flatMap (separator :: ·)) = first :: others := by
  induction others generalizing first with
  | nil =>
      rw [List.flatMap_nil, List.append_nil]
      exact cutAt_of_not_mem (free first List.mem_cons_self)
  | cons next others ih =>
      obtain ⟨here, later⟩ := List.forall_mem_cons.mp free
      rw [List.flatMap_cons, List.cons_append, cutAt_append, cutAt_of_not_mem here, ih later]
      rfl

/-- Texts consist of pieces with a separator between them. -/
@[elab_as_elim]
theorem piece_induction (separator : Char) {motive : List Char → Prop}
    (last : ∀ piece, separator ∉ piece → motive piece)
    (more : ∀ piece rest, separator ∉ piece → motive rest → motive (piece ++ separator :: rest))
    (text : List Char) : motive text := by
  induction size : text.length using Nat.strong_induction_on generalizing text with
  | h size ih =>
      by_cases separated : separator ∈ text
      · obtain ⟨piece, rest, rfl, single⟩ := List.eq_append_cons_of_mem separated
        refine more piece rest single (ih rest.length ?_ rest rfl)
        rw [← size, List.length_append, List.length_cons]
        omega
      · exact last text separated

/-- Texts consist of lines. -/
@[elab_as_elim]
theorem line_induction {motive : List Char → Prop}
    (last : ∀ line, '\n' ∉ line → motive line)
    (more : ∀ line rest, '\n' ∉ line → motive rest → motive (line ++ '\n' :: rest))
    (text : List Char) : motive text :=
  piece_induction '\n' last more text

theorem afterLast_append {separates : Char → Bool} {c : Char} (separator : separates c = true)
    (front back : List Char) :
    afterLast separates (front ++ c :: back) = afterLast separates back := by
  rw [afterLast, afterLast, List.reverse_append, List.reverse_cons, List.append_assoc,
    List.takeWhile_append]
  split
  · rename_i whole
    rw [List.singleton_append, List.takeWhile_cons_of_neg (by simp [separator]),
      List.append_nil, (List.takeWhile_prefix _).eq_of_length whole]
  · rfl

theorem afterLast_of_forall {separates : Char → Bool} {text : List Char}
    (free : ∀ c ∈ text, separates c = false) : afterLast separates text = text := by
  rw [afterLast, List.takeWhile_eq_self_iff.mpr, List.reverse_reverse]
  intro c member
  rw [free c (List.mem_reverse.mp member)]
  rfl

/-! ## Words -/

/-- A word: there is something in it, and no blank. -/
structure Solid (word : List Char) : Prop where
  nonempty : word ≠ []
  visible : ∀ c ∈ word, isBlank c = false

theorem words_cons_blank {c : Char} (blank : isBlank c = true) (text : List Char) :
    words (c :: text) = words text := by
  rw [words, wordsFrom, if_pos blank]
  rfl

theorem wordsFrom_append {word : List Char} (visible : ∀ c ∈ word, isBlank c = false)
    (current text : List Char) :
    wordsFrom current (word ++ text) = wordsFrom (word.reverse ++ current) text := by
  induction word generalizing current with
  | nil => rfl
  | cons c word ih =>
      have kept : ¬ isBlank c = true := by
        rw [visible c List.mem_cons_self]
        exact Bool.false_ne_true
      rw [List.cons_append, wordsFrom, if_neg kept, ih fun d member =>
        visible d (List.mem_cons_of_mem _ member), List.reverse_cons, List.append_assoc,
        List.singleton_append]

/-- The first word of a text. -/
theorem words_append {word : List Char} (solid : Solid word) {c : Char}
    (blank : isBlank c = true) (text : List Char) :
    words (word ++ c :: text) = word :: words text := by
  have held : word.reverse.isEmpty = false := by
    rw [List.isEmpty_reverse, List.isEmpty_eq_false_iff]
    exact solid.nonempty
  rw [words, wordsFrom_append solid.visible, List.append_nil, wordsFrom, if_pos blank, held,
    List.reverse_reverse]
  rfl

theorem Solid.words_eq {word : List Char} (solid : Solid word) : words word = [word] := by
  have held : word.reverse.isEmpty = false := by
    rw [List.isEmpty_reverse, List.isEmpty_eq_false_iff]
    exact solid.nonempty
  rw [words, ← List.append_nil word, wordsFrom_append solid.visible, List.append_nil,
    wordsFrom, held, List.reverse_reverse, List.append_nil]
  rfl

/-! ## Margins -/

theorem trimEnd_append {front back : List Char} (some : trimEnd back ≠ []) :
    trimEnd (front ++ back) = front ++ trimEnd back := by
  have solid : back.reverse.dropWhile isBlank ≠ [] := mt List.reverse_eq_nil_iff.mpr some
  rw [trimEnd, List.reverse_append, List.dropWhile_append, if_neg, List.reverse_append,
    List.reverse_reverse, ← trimEnd]
  rw [List.isEmpty_iff]
  exact solid

theorem Solid.dropWhile_append {word : List Char} (solid : Solid word) (rest : List Char) :
    (word ++ rest).dropWhile isBlank = word ++ rest := by
  obtain ⟨c, more, rfl⟩ := List.exists_cons_of_ne_nil solid.nonempty
  have kept : ¬ isBlank c = true := by
    rw [solid.visible c List.mem_cons_self]
    exact Bool.false_ne_true
  exact List.dropWhile_cons_of_neg kept

theorem Solid.dropWhile_eq {word : List Char} (solid : Solid word) :
    word.dropWhile isBlank = word := by
  have whole := solid.dropWhile_append []
  rwa [List.append_nil] at whole

theorem Solid.reverse {word : List Char} (solid : Solid word) : Solid word.reverse where
  nonempty := mt List.reverse_eq_nil_iff.mp solid.nonempty
  visible := fun c member => solid.visible c (List.mem_reverse.mp member)

/-- A word is found again between blanks. -/
theorem trim_margins {word left right : List Char} (solid : Solid word)
    (before : ∀ c ∈ left, isBlank c = true) (after : ∀ c ∈ right, isBlank c = true) :
    trim (left ++ (word ++ right)) = word := by
  have behind : ∀ c ∈ right.reverse, isBlank c = true :=
    fun c member => after c (List.mem_reverse.mp member)
  rw [trim, trimStart, List.dropWhile_append_of_pos before, solid.dropWhile_append, trimEnd,
    List.reverse_append, List.dropWhile_append_of_pos behind, solid.reverse.dropWhile_eq,
    List.reverse_reverse]

theorem Solid.trimEnd_eq {word : List Char} (solid : Solid word) : trimEnd word = word := by
  rw [trimEnd, solid.reverse.dropWhile_eq, List.reverse_reverse]

/-! ## Joined texts -/

theorem toList_intercalate_cons (separator first : String) (others : List String) :
    (separator.intercalate (first :: others)).toList =
      first.toList ++ others.flatMap fun text => separator.toList ++ text.toList := by
  induction others generalizing first with
  | nil => rw [String.intercalate_singleton, List.flatMap_nil, List.append_nil]
  | cons next others ih =>
      rw [String.intercalate_cons_cons, String.toList_append, String.toList_append, ih,
        List.flatMap_cons, List.append_assoc, List.append_assoc]

section Words

variable {first : List Char} {others : List (List Char)}
  (solid : ∀ word ∈ first :: others, Solid word)
include solid

/-- Words that are joined have no blank margins. -/
theorem trim_join (between : List Char) :
    trim (first ++ others.flatMap (between ++ ·)) = first ++ others.flatMap (between ++ ·) := by
  have ends : trimEnd (first ++ others.flatMap (between ++ ·)) =
      first ++ others.flatMap (between ++ ·) := by
    induction others generalizing first with
    | nil =>
        rw [List.flatMap_nil, List.append_nil]
        exact (solid first List.mem_cons_self).trimEnd_eq
    | cons next others ih =>
        obtain ⟨-, later⟩ := List.forall_mem_cons.mp solid
        have rest := ih later
        have present : trimEnd (next ++ others.flatMap (between ++ ·)) ≠ [] := by
          rw [rest]
          exact mt (fun none => (List.append_eq_nil_iff.mp none).1)
            (later next List.mem_cons_self).nonempty
        rw [List.flatMap_cons, List.append_assoc, ← List.append_assoc,
          trimEnd_append present, rest]
  rw [trim, trimStart, (solid first List.mem_cons_self).dropWhile_append, ends]

/-- Words that are joined by a separator between two spaces are found again. -/
theorem map_trim_cutAt_join {separator : Char} (visible : separator ≠ ' ')
    (free : ∀ word ∈ first :: others, separator ∉ word) :
    (cutAt separator (first ++ others.flatMap ([' ', separator, ' '] ++ ·))).map trim =
      first :: others := by
  have space : ∀ c ∈ [' '], isBlank c = true := List.forall_mem_singleton.mpr rfl
  -- All pieces but the first start with a space.
  have pieces : ∀ left, (∀ c ∈ left, isBlank c = true) → separator ∉ left →
      (cutAt separator
        (left ++ (first ++ others.flatMap ([' ', separator, ' '] ++ ·)))).map trim =
          first :: others := by
    induction others generalizing first with
    | nil =>
        intro left before apart
        have single : separator ∉ left ++ (first ++ []) := by
          rw [List.append_nil, List.mem_append, not_or]
          exact ⟨apart, free first List.mem_cons_self⟩
        rw [List.flatMap_nil, cutAt_of_not_mem single, List.map_singleton,
          trim_margins (solid first List.mem_cons_self) before (List.forall_mem_nil _)]
    | cons next others ih =>
        intro left before apart
        obtain ⟨here, later⟩ := List.forall_mem_cons.mp solid
        obtain ⟨apart', free'⟩ := List.forall_mem_cons.mp free
        have split : left ++ (first ++ (next :: others).flatMap ([' ', separator, ' '] ++ ·)) =
            (left ++ (first ++ [' '])) ++
              separator ::
                ([' '] ++ (next ++ others.flatMap ([' ', separator, ' '] ++ ·))) := by
          simp
        have single : separator ∉ left ++ (first ++ [' ']) := by
          simp [apart, apart', visible]
        rw [split, cutAt_append, cutAt_of_not_mem single, List.singleton_append, List.map_cons,
          trim_margins here before space, ih later free' [' '] space (by simpa using visible)]
  exact pieces [] (List.forall_mem_nil _) List.not_mem_nil

end Words

end Text
end ShaderLoom
