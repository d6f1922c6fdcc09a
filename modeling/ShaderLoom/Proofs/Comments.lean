import Mathlib.Data.List.Infix
import ShaderLoom.Glsl.Comment

/-!
# Removing comments

What a program text is without its comments can be said in four ways.

`Glsl.stripComments` follows the text and jumps over each comment as it is opened.  `Glsl.strip`
is an automaton that goes from character to character and is in one of three states: in code, in
a comment up to the end of its line, or in a block comment.  `Glsl.stripBySearch` looks for both
openers ahead, takes the one that comes first, and looks for the end of the comment from there.
`Glsl.Stripped` says where comments are without saying how they are found: there is code up to
the first opener, then the comment up to its end, and the rest of the text goes on by itself.

All four agree.  What stands in front of the first opener does not end in a slash, or an opener
would start there already.  So nothing new is opened where the text is put together again, and
what is left has no comments in it.

## Main definitions

* `Glsl.CommentFree` — texts that open no comment
* `Glsl.strip` — the automaton
* `Glsl.stripBySearch` — the search for openers
* `Glsl.Stripped` — what a text is without its comments

## Main results

* `Glsl.strip_eq` — the automaton, in each of its states
* `Glsl.stripped_iff` — a text without its comments is one text
* `Glsl.stripComments_agrees` — all descriptions agree, and no comment is left
-/

namespace ShaderLoom

/-! ## Searching -/

namespace Text

/-- Where a part occurs for the first time in a text. -/
def position? (part : List Char) : List Char → Option Nat
  | [] => if part.isEmpty then some 0 else none
  | c :: rest =>
    if part.isPrefixOf (c :: rest) then some 0 else (position? part rest).map (· + 1)

variable {part text : List Char}

theorem not_infix_of_position? (absent : position? part text = none) : ¬ part <:+: text := by
  induction text with
  | nil =>
      rintro occurs
      rw [List.infix_nil.mp occurs] at absent
      cases absent
  | cons c rest ih =>
      rw [position?] at absent
      split at absent
      · cases absent
      · rename_i other
        rw [List.infix_cons_iff, not_or]
        exact ⟨fun here => other (List.isPrefixOf_iff_prefix.mpr here),
          ih (Option.map_eq_none_iff.mp absent)⟩

/-- At the first occurrence of a part, the text before it and all but the last character of the
part do not have the part in them. -/
theorem exists_of_position? (nonempty : part ≠ []) {n : Nat}
    (found : position? part text = some n) :
    ∃ front back, text = front ++ (part ++ back) ∧ front.length = n ∧
      ¬ part <:+: front ++ part.dropLast := by
  induction text generalizing n with
  | nil =>
      rw [position?, if_neg (by rwa [List.isEmpty_iff])] at found
      cases found
  | cons c rest ih =>
      rw [position?] at found
      split at found
      · rename_i here
        obtain ⟨back, whole⟩ := List.isPrefixOf_iff_prefix.mp here
        cases found
        refine ⟨[], back, whole.symm, rfl, ?_⟩
        intro shorter
        have sizes := shorter.length_le
        have some := List.length_pos_iff.mpr nonempty
        rw [List.nil_append, List.length_dropLast] at sizes
        omega
      · rename_i other
        obtain ⟨m, later, rfl⟩ := Option.map_eq_some_iff.mp found
        obtain ⟨front, back, rfl, rfl, first⟩ := ih later
        refine ⟨c :: front, back, rfl, rfl, ?_⟩
        rw [List.cons_append, List.infix_cons_iff, not_or]
        refine ⟨fun here => other (List.isPrefixOf_iff_prefix.mpr (here.trans ?_)), first⟩
        have within : part.dropLast <+: part ++ back :=
          (List.dropLast_prefix part).trans (List.prefix_append part back)
        exact List.cons_prefix_cons.mpr ⟨rfl, (List.prefix_append_right_inj front).mpr within⟩

end Text

namespace Glsl

/-! ## Texts without comments -/

/-- A text that opens no comment. -/
structure CommentFree (text : List Char) : Prop where
  line : ¬ ['/', '/'] <:+: text
  block : ¬ ['/', '*'] <:+: text

theorem CommentFree.mono {part text : List Char} (free : CommentFree text)
    (within : part <:+: text) : CommentFree part where
  line := fun opens => free.line (opens.trans within)
  block := fun opens => free.block (opens.trans within)

theorem commentFree_nil : CommentFree [] where
  line := fun opens => List.cons_ne_nil _ _ (List.infix_nil.mp opens)
  block := fun opens => List.cons_ne_nil _ _ (List.infix_nil.mp opens)

/-- A pair of characters in two texts that follow each other. -/
theorem pair_infix_append {c d : Char} {front back : List Char} :
    [c, d] <:+: front ++ back ↔
      [c, d] <:+: front ∨ [c, d] <:+: back ∨ [c] <:+ front ∧ [d] <+: back := by
  rw [List.infix_append_iff_ne_nil]
  constructor
  · rintro (inFront | inBack | ⟨first, second, some, some', split, ends, starts⟩)
    · exact .inl inFront
    · exact .inr (.inl inBack)
    · rcases List.append_eq_cons_iff.mp split.symm with ⟨rfl, _⟩ | ⟨more, rfl, rest⟩
      · exact absurd rfl some
      · rcases List.append_eq_singleton_iff.mp rest.symm with ⟨rfl, rfl⟩ | ⟨rfl, rfl⟩
        · exact .inr (.inr ⟨ends, starts⟩)
        · exact absurd rfl some'
  · rintro (inFront | inBack | ⟨ends, starts⟩)
    · exact .inl inFront
    · exact .inr (.inl inBack)
    · exact .inr
        (.inr ⟨[c], [d], List.cons_ne_nil _ _, List.cons_ne_nil _ _, rfl, ends, starts⟩)

/-- Texts open no comment together if neither does and the first does not end in a slash. -/
theorem CommentFree.append {front back : List Char} (first : CommentFree front)
    (second : CommentFree back) (apart : ¬ ['/'] <:+ front) : CommentFree (front ++ back) where
  line := fun opens => by
    rcases pair_infix_append.mp opens with inFront | inBack | ⟨ends, _⟩
    · exact first.line inFront
    · exact second.line inBack
    · exact apart ends
  block := fun opens => by
    rcases pair_infix_append.mp opens with inFront | inBack | ⟨ends, _⟩
    · exact first.block inFront
    · exact second.block inBack
    · exact apart ends

theorem CommentFree.cons {text : List Char} (free : CommentFree text) {c : Char}
    (notSlash : c ≠ '/') : CommentFree (c :: text) := by
  have alone : CommentFree [c] :=
    ⟨fun opens => absurd opens.length_le (by simp), fun opens =>
      absurd opens.length_le (by simp)⟩
  refine alone.append free fun ends => notSlash ?_
  exact (List.cons.inj (List.IsSuffix.eq_of_length ends rfl)).1.symm

theorem CommentFree.concat {text : List Char} (free : CommentFree text) {c : Char}
    (notSlash : c ≠ '/') (notStar : c ≠ '*') : CommentFree (text ++ [c]) where
  line := fun opens => by
    rcases pair_infix_append.mp opens with inText | alone | ⟨_, starts⟩
    · exact free.line inText
    · exact absurd alone.length_le (by simp)
    · exact notSlash (List.cons_prefix_cons.mp starts).1.symm
  block := fun opens => by
    rcases pair_infix_append.mp opens with inText | alone | ⟨_, starts⟩
    · exact free.block inText
    · exact absurd alone.length_le (by simp)
    · exact notStar (List.cons_prefix_cons.mp starts).1.symm

/-- What stands in front of the first opener does not end in a slash. -/
theorem CommentFree.not_suffix {front : List Char} (first : CommentFree (front ++ ['/'])) :
    ¬ ['/'] <:+ front :=
  fun ends => first.line (pair_infix_append.mpr (.inr (.inr ⟨ends, List.prefix_rfl⟩)))

/-! ## Jumping over comments -/

theorem stripComments_cons {c : Char} (plain : c ≠ '/') (rest : List Char) :
    stripComments (c :: rest) = c :: stripComments rest := by
  rw [stripComments]
  · rintro _ rfl
    exact absurd rfl plain
  · rintro _ rfl
    exact absurd rfl plain

/-- The first two characters of a text are in its beginning and one more character. -/
theorem pair_prefix_take {c d : Char} {front rest tail : List Char}
    (starts : front ++ rest = d :: tail) : [c, d] <+: c :: (front ++ rest.take 1) := by
  refine List.cons_prefix_cons.mpr ⟨rfl, ?_⟩
  cases front with
  | nil =>
      rw [List.nil_append] at starts
      rw [starts]
      exact List.prefix_rfl
  | cons e front =>
      cases starts
      exact List.prefix_append [d] (front ++ rest.take 1)

/-- A text in which no opener starts is kept.  An opener that starts in it may reach into the
character after it. -/
theorem stripComments_append_of_free {front rest : List Char}
    (free : CommentFree (front ++ rest.take 1)) :
    stripComments (front ++ rest) = front ++ stripComments rest := by
  induction front with
  | nil => rfl
  | cons c front ih =>
      have later := ih (free.mono (List.suffix_cons c _).isInfix)
      rw [List.cons_append, stripComments, later]
      · rfl
      · rintro tail rfl starts
        exact free.line (pair_prefix_take starts).isInfix
      · rintro tail rfl starts
        exact free.block (pair_prefix_take starts).isInfix

theorem CommentFree.stripComments_eq {text : List Char} (free : CommentFree text) :
    stripComments text = text := by
  have alone : CommentFree (text ++ List.take 1 []) := by rwa [List.take_nil, List.append_nil]
  have kept := stripComments_append_of_free alone
  rwa [List.append_nil, stripComments, List.append_nil] at kept

theorem CommentFree.stripComments_line {text : List Char} (free : CommentFree text)
    (rest : List Char) :
    stripComments (text ++ '\n' :: rest) = text ++ '\n' :: stripComments rest := by
  have ended : CommentFree (text ++ ['\n']) := free.concat (by decide) (by decide)
  rw [stripComments_append_of_free ended, stripComments_cons (by decide)]

/-- The text in front of the first opener is kept. -/
theorem CommentFree.stripComments_opener {front : List Char}
    (first : CommentFree (front ++ ['/'])) (rest : List Char) :
    stripComments (front ++ '/' :: rest) = front ++ stripComments ('/' :: rest) :=
  stripComments_append_of_free first

/-- The end of a block comment is the first closing mark. -/
theorem afterBlockComment_append {content : List Char} (unclosed : ¬ ['*', '/'] <:+: content)
    (rest : List Char) : afterBlockComment (content ++ '*' :: '/' :: rest) = rest := by
  induction content with
  | nil => rfl
  | cons c content ih =>
      have later :=
        ih fun closes => unclosed (closes.trans (List.suffix_cons c content).isInfix)
      rw [List.cons_append, afterBlockComment, later]
      rintro tail rfl same
      cases content with
      | nil => cases same
      | cons d content =>
          obtain rfl : d = '/' := (List.cons.inj same).1
          exact unclosed ⟨[], content, rfl⟩

/-- A block comment without a closing mark goes on to the end of the text. -/
theorem afterBlockComment_of_unclosed {content : List Char}
    (unclosed : ¬ ['*', '/'] <:+: content) : afterBlockComment content = [] := by
  induction content with
  | nil => rfl
  | cons c content ih =>
      have later :=
        ih fun closes => unclosed (closes.trans (List.suffix_cons c content).isInfix)
      rw [afterBlockComment, later]
      rintro tail rfl rfl
      exact unclosed ⟨[], tail, rfl⟩

/-- A line comment goes on to the end of its line. -/
theorem afterLineComment_append {content rest : List Char} (single : '\n' ∉ content)
    (ended : rest = [] ∨ ∃ more, rest = '\n' :: more) :
    afterLineComment (content ++ rest) = rest := by
  rw [afterLineComment, List.dropWhile_append_of_pos]
  · rcases ended with rfl | ⟨more, rfl⟩ <;> rfl
  · intro c member
    rw [bne_iff_ne]
    rintro rfl
    exact single member

/-! ## From character to character -/

/-- What is being read: code, a comment up to the end of its line, or a block comment. -/
inductive Skip where
  | code
  | line
  | block

/-- What is left to be read as code. -/
def Skip.rest : Skip → List Char → List Char
  | code, text => text
  | line, text => afterLineComment text
  | block, text => afterBlockComment text

/-- A program text without its comments, read character by character. -/
def strip : Skip → List Char → List Char
  | .code, '/' :: '/' :: rest => strip .line rest
  | .code, '/' :: '*' :: rest => ' ' :: strip .block rest
  | .code, c :: rest => c :: strip .code rest
  | .line, '\n' :: rest => '\n' :: strip .code rest
  | .line, _ :: rest => strip .line rest
  | .block, '*' :: '/' :: rest => strip .code rest
  | .block, _ :: rest => strip .block rest
  | _, [] => []

/-- Both ways to remove comments give the same. -/
theorem strip_eq (skip : Skip) (text : List Char) :
    strip skip text = stripComments (skip.rest text) := by
  fun_induction strip skip text with
  | case1 rest ih => rw [ih, Skip.rest, Skip.rest, stripComments]
  | case2 rest ih => rw [ih, Skip.rest, Skip.rest, stripComments]
  | case3 c rest notLine notBlock ih =>
      rw [ih, Skip.rest, Skip.rest, stripComments] <;> assumption
  | case4 rest ih =>
      rw [ih]
      exact (stripComments_cons (by decide) rest).symm
  | case5 c rest inside ih =>
      have skipped : afterLineComment (c :: rest) = afterLineComment rest := by
        simp [afterLineComment, show c ≠ '\n' from inside]
      rw [ih, Skip.rest, Skip.rest, skipped]
  | case6 rest ih => rw [ih, Skip.rest, Skip.rest, afterBlockComment]
  | case7 c rest inside ih =>
      rw [ih, Skip.rest, Skip.rest, afterBlockComment]
      exact inside
  | case8 skip =>
      cases skip <;> simp [Skip.rest, stripComments, afterLineComment, afterBlockComment]

/-! ## Where comments are -/

/-- What a text is without its comments.  No opener starts in the code in front of the first
one; a comment ends with its line, which it leaves, or with the first closing mark, or with the
text, and what it has in it does not matter; and then the text goes on by itself. -/
inductive Stripped : List Char → List Char → Prop
  | code {text : List Char} (free : CommentFree text) : Stripped text text
  | line {front content rest out : List Char} (first : CommentFree (front ++ ['/']))
      (single : '\n' ∉ content) (ended : rest = [] ∨ ∃ more, rest = '\n' :: more)
      (onward : Stripped rest out) :
    Stripped (front ++ '/' :: '/' :: (content ++ rest)) (front ++ out)
  | block {front content rest out : List Char} (first : CommentFree (front ++ ['/']))
      (unclosed : ¬ ['*', '/'] <:+: content) (onward : Stripped rest out) :
    Stripped (front ++ '/' :: '*' :: (content ++ '*' :: '/' :: rest)) (front ++ ' ' :: out)
  | unended {front content : List Char} (first : CommentFree (front ++ ['/']))
      (unclosed : ¬ ['*', '/'] <:+: content) :
    Stripped (front ++ '/' :: '*' :: content) (front ++ [' '])

/-- A text without its comments is what is left by jumping over them. -/
theorem Stripped.eq {text out : List Char} (stripped : Stripped text out) :
    out = stripComments text := by
  induction stripped with
  | code free => exact free.stripComments_eq.symm
  | line first single ended _ ih =>
      rw [first.stripComments_opener, stripComments, afterLineComment_append single ended, ih]
  | block first unclosed _ ih =>
      rw [first.stripComments_opener, stripComments, afterBlockComment_append unclosed, ih]
  | unended first unclosed =>
      rw [first.stripComments_opener, stripComments, afterBlockComment_of_unclosed unclosed,
        stripComments]

/-- **A text without its comments opens no comment.**  Nothing is opened where it is put
together, as what stands in front of a comment does not end in a slash. -/
theorem Stripped.commentFree {text out : List Char} (stripped : Stripped text out) :
    CommentFree out := by
  have space {out : List Char} (free : CommentFree out) : CommentFree (' ' :: out) := by
    have blank : CommentFree [' '] := ⟨by decide, by decide⟩
    exact blank.append free (by decide)
  have before {front : List Char} (first : CommentFree (front ++ ['/'])) : CommentFree front :=
    first.mono (List.prefix_append front ['/']).isInfix
  induction stripped with
  | code free => exact free
  | line first _ _ _ ih => exact (before first).append ih first.not_suffix
  | block first _ _ ih => exact (before first).append (space ih) first.not_suffix
  | unended first _ => exact (before first).append (space commentFree_nil) first.not_suffix

/-! ## From opener to opener -/

/-- Where the first comment of a text is opened, and whether it is a block comment. -/
def firstComment? (text : List Char) : Option (Nat × Bool) :=
  match Text.position? ['/', '/'] text, Text.position? ['/', '*'] text with
  | some line, some block => if block < line then some (block, true) else some (line, false)
  | some line, none => some (line, false)
  | none, some block => some (block, true)
  | none, none => none

/-- The text from a number of characters after the start of a mark on; nothing if there is no
such mark. -/
def afterMark (mark : List Char) (offset : Nat) (text : List Char) : List Char :=
  match Text.position? mark text with
  | some start => text.drop (start + offset)
  | none => []

theorem commentFree_of_firstComment? {text : List Char} (none : firstComment? text = none) :
    CommentFree text := by
  rw [firstComment?] at none
  split at none
  · split at none <;> cases none
  · cases none
  · cases none
  · rename_i line block
    exact ⟨Text.not_infix_of_position? line, Text.not_infix_of_position? block⟩

/-- An opener that is not found before a slash does not start before it. -/
theorem not_infix_of_le {c : Char} {text front rest : List Char}
    (split : text = front ++ '/' :: rest)
    (late : ∀ n ∈ Text.position? ['/', c] text, front.length ≤ n) :
    ¬ ['/', c] <:+: front ++ ['/'] := by
  have within : front ++ ['/'] <+: text :=
    split ▸ (List.prefix_append_right_inj front).mpr (List.prefix_append ['/'] rest)
  intro opens
  cases found : Text.position? ['/', c] text with
  | none => exact Text.not_infix_of_position? found (opens.trans within.isInfix)
  | some n =>
      obtain ⟨front', rest', split', rfl, first⟩ :=
        Text.exists_of_position? (List.cons_ne_nil _ _) found
      have within' : front' ++ ['/'] <+: text :=
        split' ▸ (List.prefix_append_right_inj front').mpr
          (List.prefix_append ['/'] (c :: rest'))
      have sizes : (front ++ ['/']).length ≤ (front' ++ ['/']).length := by
        rw [List.length_append, List.length_append]
        exact Nat.add_le_add_right (late _ found) 1
      exact first (opens.trans (List.prefix_of_prefix_length_le within within' sizes).isInfix)

/-- The opener of the first comment is found, and neither opener is found before it. -/
theorem position?_of_firstComment? {text : List Char} {start : Nat} {isBlock : Bool}
    (found : firstComment? text = some (start, isBlock)) :
    Text.position? ['/', if isBlock then '*' else '/'] text = some start ∧
      (∀ n ∈ Text.position? ['/', '/'] text, start ≤ n) ∧
      ∀ n ∈ Text.position? ['/', '*'] text, start ≤ n := by
  unfold firstComment? at found
  cases line : Text.position? ['/', '/'] text <;>
    cases block : Text.position? ['/', '*'] text <;>
    grind

/-- The first comment of a text is opened where no opener has started before. -/
theorem exists_of_firstComment? {text : List Char} {start : Nat} {isBlock : Bool}
    (found : firstComment? text = some (start, isBlock)) :
    ∃ front rest, text = front ++ '/' :: (if isBlock then '*' else '/') :: rest ∧
      front.length = start ∧ CommentFree (front ++ ['/']) := by
  obtain ⟨opener, line, block⟩ := position?_of_firstComment? found
  obtain ⟨front, rest, split, rfl, _⟩ := Text.exists_of_position? (List.cons_ne_nil _ _) opener
  exact ⟨front, rest, split, rfl, not_infix_of_le split line, not_infix_of_le split block⟩

/-- A text whose first comment is a block comment, cut at its opener. -/
theorem exists_of_firstComment?_block {text : List Char} {start : Nat}
    (found : firstComment? text = some (start, true)) :
    ∃ front rest, text = front ++ '/' :: '*' :: rest ∧ text.take start = front ∧
      text.drop (start + 2) = rest ∧ CommentFree (front ++ ['/']) := by
  obtain ⟨front, rest, rfl, rfl, first⟩ := exists_of_firstComment? found
  exact ⟨front, rest, rfl, List.take_left, List.drop_length_add_append 2, first⟩

/-- A text whose first comment is a line comment, cut in front of its opener. -/
theorem exists_of_firstComment?_line {text : List Char} {start : Nat}
    (found : firstComment? text = some (start, false)) :
    ∃ front rest, text = front ++ '/' :: '/' :: rest ∧ text.take start = front ∧
      text.drop start = '/' :: '/' :: rest ∧ CommentFree (front ++ ['/']) := by
  obtain ⟨front, rest, rfl, rfl, first⟩ := exists_of_firstComment? found
  exact ⟨front, rest, rfl, List.take_left, List.drop_left, first⟩

/-- What follows a mark: nothing if it is not there, else what follows its first occurrence. -/
theorem afterMark_cases {mark : List Char} (nonempty : mark ≠ []) (offset : Nat)
    (text : List Char) :
    (¬ mark <:+: text ∧ afterMark mark offset text = []) ∨
      ∃ content rest, text = content ++ (mark ++ rest) ∧ ¬ mark <:+: content ++ mark.dropLast ∧
        afterMark mark offset text = (mark ++ rest).drop offset := by
  rw [afterMark]
  cases found : Text.position? mark text with
  | none => exact .inl ⟨Text.not_infix_of_position? found, rfl⟩
  | some start =>
      obtain ⟨content, rest, rfl, rfl, first⟩ := Text.exists_of_position? nonempty found
      exact .inr ⟨content, rest, rfl, first, List.drop_length_add_append offset⟩

/-- What follows a block comment: nothing if it is not closed, else what follows the first
closing mark. -/
theorem afterMark_block_cases (rest : List Char) :
    (¬ ['*', '/'] <:+: rest ∧ afterMark ['*', '/'] 2 rest = []) ∨
      ∃ content more, rest = content ++ '*' :: '/' :: more ∧ ¬ ['*', '/'] <:+: content ∧
        afterMark ['*', '/'] 2 rest = more := by
  rcases afterMark_cases (List.cons_ne_nil '*' ['/']) 2 rest with
    unclosed | ⟨content, more, split, unclosed, after⟩
  · exact .inl unclosed
  · refine .inr ⟨content, more, split, fun closes => unclosed ?_, after⟩
    exact closes.trans (List.prefix_append content ['*']).isInfix

/-- What follows a line comment: nothing if its line is the last one, else the newline that ends
it and what follows. -/
theorem afterMark_line (rest : List Char) :
    ∃ content more, rest = content ++ more ∧ '\n' ∉ content ∧
      (more = [] ∨ ∃ lines, more = '\n' :: lines) ∧
      afterMark ['\n'] 0 ('/' :: '/' :: rest) = more := by
  rcases afterMark_cases (List.cons_ne_nil '\n' []) 0 ('/' :: '/' :: rest) with
    ⟨single, after⟩ | ⟨content, lines, split, single, after⟩
  · rw [List.singleton_infix_iff, List.mem_cons, not_or, List.mem_cons, not_or] at single
    exact ⟨rest, [], (List.append_nil rest).symm, single.2.2, .inl rfl, after⟩
  · -- The opener stands in front of the newline.
    obtain ⟨content, rfl, rfl⟩ : ∃ inner, content = '/' :: '/' :: inner ∧
        rest = inner ++ '\n' :: lines := by
      rcases content with _ | ⟨c, _ | ⟨d, inner⟩⟩
      · cases split
      · cases split
      · cases split
        exact ⟨inner, rfl, rfl⟩
    rw [List.dropLast_singleton, List.append_nil, List.singleton_infix_iff,
      List.mem_cons, not_or, List.mem_cons, not_or] at single
    exact ⟨content, '\n' :: lines, rfl, single.2.2, .inr ⟨lines, rfl⟩, after⟩

/-- What follows a block comment is shorter than the text. -/
theorem length_afterBlock_lt {text : List Char} {start : Nat}
    (found : firstComment? text = some (start, true)) :
    (afterMark ['*', '/'] 2 (text.drop (start + 2))).length < text.length := by
  obtain ⟨front, rest, split, _, body, _⟩ := exists_of_firstComment?_block found
  rw [body, split]
  rcases afterMark_block_cases rest with ⟨_, after⟩ | ⟨content, more, rfl, _, after⟩
  · simp only [after, List.length_append, List.length_cons, List.length_nil]
    omega
  · simp only [after, List.length_append, List.length_cons]
    omega

/-- What follows a line comment is shorter than the text. -/
theorem length_afterLine_lt {text : List Char} {start : Nat}
    (found : firstComment? text = some (start, false)) :
    (afterMark ['\n'] 0 (text.drop start)).length < text.length := by
  obtain ⟨front, rest, split, _, body, _⟩ := exists_of_firstComment?_line found
  obtain ⟨content, more, rfl, _, _, after⟩ := afterMark_line rest
  rw [body, split, after]
  simp only [List.length_append, List.length_cons]
  omega

/-- A program text without its comments.  The comment that is opened first is taken out, and its
end is looked for from there. -/
def stripBySearch (text : List Char) : List Char :=
  match found : firstComment? text with
  | none => text
  | some (start, true) =>
    have := length_afterBlock_lt found
    text.take start ++ ' ' :: stripBySearch (afterMark ['*', '/'] 2 (text.drop (start + 2)))
  | some (start, false) =>
    have := length_afterLine_lt found
    text.take start ++ stripBySearch (afterMark ['\n'] 0 (text.drop start))
termination_by text.length

theorem stripBySearch_nil : stripBySearch [] = [] := by
  rw [stripBySearch]
  rfl

/-- The search finds where comments are. -/
theorem stripped_stripBySearch (text : List Char) : Stripped text (stripBySearch text) := by
  fun_induction stripBySearch text with
  | case1 text none => exact .code (commentFree_of_firstComment? none)
  | case2 text start found _ ih =>
      obtain ⟨front, rest, split, taken, body, first⟩ := exists_of_firstComment?_block found
      rw [body] at ih ⊢
      rw [taken, split]
      rcases afterMark_block_cases rest with
        ⟨unclosed, after⟩ | ⟨content, more, rfl, unclosed, after⟩
      · rw [after, stripBySearch_nil]
        exact .unended first unclosed
      · rw [after] at ih ⊢
        exact .block first unclosed ih
  | case3 text start found _ ih =>
      obtain ⟨front, rest, split, taken, body, first⟩ := exists_of_firstComment?_line found
      obtain ⟨content, more, rfl, single, ended, after⟩ := afterMark_line rest
      rw [body, after] at ih ⊢
      rw [taken, split]
      exact .line first single ended ih

/-! ## All descriptions agree -/

theorem stripBySearch_eq (text : List Char) : stripBySearch text = stripComments text :=
  (stripped_stripBySearch text).eq

/-- **There is one text without the comments of a text**, and it is found by jumping over
them. -/
theorem stripped_iff {text out : List Char} : Stripped text out ↔ out = stripComments text := by
  constructor
  · exact Stripped.eq
  · rintro rfl
    rw [← stripBySearch_eq]
    exact stripped_stripBySearch text

/-- **Comments are removed as a character automaton removes them**, for every text.  The same is
found by a search from opener to opener, and it is the one text that has each comment, from the
first opener to its end, replaced by a space or, up to the end of its line, by nothing.  No
comment is left in it, so that removing comments again changes nothing. -/
theorem stripComments_agrees (text : List Char) :
    stripComments text = strip .code text ∧
    stripBySearch text = strip .code text ∧
    (∀ out, Stripped text out ↔ out = strip .code text) ∧
    ¬ ['/', '/'] <:+: stripComments text ∧ ¬ ['/', '*'] <:+: stripComments text ∧
    stripComments (stripComments text) = stripComments text := by
  have automaton : strip .code text = stripComments text := strip_eq .code text
  have free : CommentFree (stripComments text) := (stripped_iff.mpr rfl).commentFree
  rw [automaton]
  exact ⟨rfl, stripBySearch_eq text, fun out => stripped_iff, free.line, free.block,
    free.stripComments_eq⟩

end Glsl
end ShaderLoom
