import ShaderLoom.Stage.Lowering

/-!
# What expressions do to variables

Generated code is text, so what it reads and writes has to be found in the text.  In an
expression, every word is the name of a variable that is read, unless it is a numeral, a
component behind a dot, or a function in front of a parenthesis.  A variable is written where
there is an equals sign that belongs to no comparison, and at doubled signs (`Glsl.effects`).

Expressions are put together from smaller ones and fixed pieces of text.  What a word means
depends on the characters next to it only.  So the effects of a text can be found piece by
piece, if the pieces meet at marks (`Glsl.effectsFrom_append`).

Calm texts neither end a statement or a line, nor open or close a block, nor open a comment,
whatever is put next to them.  A phrase is a calm text with known effects, in whatever text it
stands.

## Main definitions

* `Text.Calm` — texts that leave the structure of a text alone
* `Glsl.isIdentifier` — how names are spelled
* `Glsl.Effect`, `Glsl.effects` — what an expression does to variables
* `Glsl.Phrase`, `Glsl.Opening`, `Glsl.Separator`, `Glsl.Closing` — the pieces of expressions

## Main results

* `Glsl.effectsFrom_append` — effects are found piece by piece
* `Glsl.Opening.append`, `Glsl.Phrase.separate`, `Glsl.Phrase.close` — putting expressions
  together
-/

namespace ShaderLoom

/-! ## Calm texts -/

namespace Text

/-- Whether a character can stand anywhere in a statement without ending it. -/
def isCalmChar (c : Char) : Bool :=
  c != ';' && c != '\x7b' && c != '\x7d' && c != '\n' && c != '/'

/-- Whether characters neither end a statement or a line nor open or close a block.  A slash is
followed by a space, so that it does not open a comment. -/
def isCalm : List Char → Bool
  | '/' :: ' ' :: rest => isCalm rest
  | c :: rest => isCalmChar c && isCalm rest
  | [] => true

theorem isCalm_cons {c : Char} (calm : isCalmChar c = true) (rest : List Char) :
    isCalm (c :: rest) = isCalm rest := by
  have plain : c ≠ '/' := by rintro rfl; cases calm
  rw [isCalm, calm, Bool.true_and]
  rintro _ rfl
  exact absurd rfl plain

theorem isCalm_append {front back : List Char} (calm : isCalm front = true)
    (rest : isCalm back = true) : isCalm (front ++ back) = true := by
  fun_induction isCalm front with
  | case1 front ih =>
      rw [List.cons_append, List.cons_append, isCalm]
      exact ih calm
  | case2 c front _ ih =>
      rw [Bool.and_eq_true] at calm
      rw [List.cons_append, isCalm_cons calm.1]
      exact ih calm.2
  | case3 => exact rest

theorem isCalm_of_forall {text : List Char} (calm : ∀ c ∈ text, isCalmChar c = true) :
    isCalm text = true := by
  induction text with
  | nil => rfl
  | cons c text ih =>
      rw [isCalm_cons (calm c List.mem_cons_self)]
      exact ih fun d member => calm d (List.mem_cons_of_mem _ member)

/-- Texts that leave the structure of a text alone. -/
def Calm (text : String) : Prop :=
  isCalm text.toList = true

theorem Calm.append {front back : String} (calm : Calm front) (rest : Calm back) :
    Calm (front ++ back) := by
  rw [Calm, String.toList_append]
  exact isCalm_append calm rest

/-- Letters and digits are no punctuation. -/
theorem ne_of_isSlotPart {c mark : Char} (part : Node.isSlotPart c = true)
    (other : Node.isSlotPart mark = false) : c ≠ mark := by
  rintro rfl
  rw [part] at other
  cases other

/-- Names and numerals are calm. -/
theorem isCalmChar_of_isSlotPart {c : Char} (part : Node.isSlotPart c = true) :
    isCalmChar c = true := by
  simp only [isCalmChar, Bool.and_eq_true, bne_iff_ne]
  refine ⟨⟨⟨⟨?_, ?_⟩, ?_⟩, ?_⟩, ?_⟩ <;> exact ne_of_isSlotPart part (by decide)

theorem calm_of_isSlotPart {text : String} (parts : text.toList.all Node.isSlotPart = true) :
    Calm text :=
  isCalm_of_forall fun c member => isCalmChar_of_isSlotPart (List.all_eq_true.mp parts c member)

theorem all_isSlotPart_toString (n : Nat) : (toString n).toList.all Node.isSlotPart = true := by
  rw [Nat.toString_eq_ofList_toDigits, String.toList_ofList, List.all_eq_true]
  intro c member
  have digit : c.isDigit = true := Nat.isDigit_of_mem_toDigits (by decide) (by decide) member
  rw [Node.isSlotPart, Char.isAlphanum, digit, Bool.or_true, Bool.true_or]

theorem all_isSlotPart_append {front back : String}
    (parts : front.toList.all Node.isSlotPart = true)
    (rest : back.toList.all Node.isSlotPart = true) :
    (front ++ back).toList.all Node.isSlotPart = true := by
  rw [String.toList_append, List.all_append, parts, rest]
  rfl

theorem calm_toString (n : Nat) : Calm (toString n) :=
  calm_of_isSlotPart (all_isSlotPart_toString n)

theorem calm_intercalate {separator : String} {texts : List String} (calm : Calm separator)
    (all : ∀ text ∈ texts, Calm text) : Calm (separator.intercalate texts) := by
  match texts with
  | [] => rfl
  | [text] =>
      rw [String.intercalate_singleton]
      exact all text (List.mem_singleton_self text)
  | first :: next :: texts =>
      rw [String.intercalate_cons_cons]
      refine ((all first List.mem_cons_self).append calm).append ?_
      exact calm_intercalate calm fun text member => all text (List.mem_cons_of_mem _ member)

/-- A character of a joined text is in the separator or in one of the texts. -/
theorem not_mem_intercalate {separator : String} {texts : List String} {c : Char}
    (outside : c ∉ separator.toList) (all : ∀ text ∈ texts, c ∉ text.toList) :
    c ∉ (separator.intercalate texts).toList := by
  match texts with
  | [] => exact List.not_mem_nil
  | [text] =>
      rw [String.intercalate_singleton]
      exact all text (List.mem_singleton_self text)
  | first :: next :: texts =>
      simp only [String.intercalate_cons_cons, String.toList_append, List.mem_append, not_or]
      refine ⟨⟨all first List.mem_cons_self, outside⟩, ?_⟩
      exact not_mem_intercalate outside fun text member =>
        all text (List.mem_cons_of_mem _ member)

/-- A run of characters of some kind ends where another character begins. -/
theorem append_inj_of_kind {kind : Char → Bool} {a b rest more : List Char} {c d : Char}
    (runA : ∀ x ∈ a, kind x = true) (runB : ∀ x ∈ b, kind x = true) (endsA : kind c = false)
    (endsB : kind d = false) (same : a ++ c :: rest = b ++ d :: more) :
    a = b ∧ c :: rest = d :: more := by
  have cut {run tail : List Char} {e : Char} (all : ∀ x ∈ run, kind x = true)
      (ends : kind e = false) : (run ++ e :: tail).takeWhile kind = run := by
    rw [List.takeWhile_append_of_pos all, List.takeWhile_cons_of_neg (by simp [ends]),
      List.append_nil]
  have equal : a = b := by rw [← cut runA endsA, same, cut runB endsB]
  subst equal
  exact ⟨rfl, List.append_cancel_left same⟩

end Text

namespace Glsl

/-! ## Identifiers -/

/-- Whether a text is an identifier: a letter or an underscore, and then letters, digits and
underscores. -/
def isIdentifier : List Char → Bool
  | [] => false
  | c :: rest => (c.isAlpha || c == '_') && rest.all Node.isSlotPart

theorem isIdentifier_append {name more : List Char} (identifier : isIdentifier name = true)
    (parts : more.all Node.isSlotPart = true) : isIdentifier (name ++ more) = true := by
  cases name with
  | nil => cases identifier
  | cons c rest =>
      rw [isIdentifier, Bool.and_eq_true] at identifier
      rw [List.cons_append, isIdentifier, List.all_append, identifier.1, identifier.2, parts]
      rfl

theorem all_isSlotPart_of_isIdentifier {name : List Char}
    (identifier : isIdentifier name = true) : name.all Node.isSlotPart = true := by
  cases name with
  | nil => cases identifier
  | cons c rest =>
      rw [isIdentifier, Bool.and_eq_true] at identifier
      rw [List.all_cons, identifier.2, Bool.and_true, Node.isSlotPart, Char.isAlphanum,
        Bool.or_assoc, Bool.or_comm c.isDigit, ← Bool.or_assoc, identifier.1, Bool.true_or]

/-! ## Effects -/

/-- What an expression does to a variable: it reads the variable of a name, or it stores
something somewhere. -/
inductive Effect where
  | read (name : String)
  | store
  deriving DecidableEq, Repr

/-- The effect of a run of letters and digits, newest first, between two characters.  Numerals,
components and functions are no variables. -/
def wordEffects (before : Char) (run : List Char) (after : Char) : List Effect :=
  if run.isEmpty || (run.getLastD ' ').isDigit || before == '.' || after == '(' then []
  else [.read (String.ofList run.reverse)]

/-- Whether a mark between two characters stores something: an equals sign that belongs to no
comparison, or the first of two plus or minus signs. -/
def isStore (before mark after : Char) : Bool :=
  mark == '=' && !(['=', '!', '<', '>'].contains before) && after != '=' ||
    (mark == '+' || mark == '-') && after == mark

/-- The effects of a text between two characters, where a run of letters and digits, newest
first, has been read before the text. -/
def effectsFrom (before : Char) (run : List Char) : List Char → (after : Char) → List Effect
  | [], after => wordEffects before run after
  | c :: rest, after =>
    if Node.isSlotPart c then effectsFrom before (c :: run) rest after
    else
      wordEffects before run c ++
        ((if isStore (run.headD before) c (rest.headD after) then [.store] else []) ++
          effectsFrom c [] rest after)

/-- The effects of an expression that stands between a blank and a semicolon. -/
def effects (expression : String) : List Effect :=
  effectsFrom ' ' [] expression.toList ';'

example : effects "base.x == 1.0 ? scale(base, w2) : other" =
    [.read "base", .read "base", .read "w2", .read "other"] := by
  decide +kernel

/-- Whether texts can be cut at a character: it is a mark that stores nothing, whatever is next
to it. -/
def isCut (mark : Char) : Bool :=
  !Node.isSlotPart mark && mark != '=' && mark != '+' && mark != '-'

theorem isSlotPart_of_isCut {mark : Char} (cut : isCut mark = true) :
    Node.isSlotPart mark = false := by
  simp only [isCut, Bool.and_eq_true, Bool.not_eq_true'] at cut
  exact cut.1.1.1

theorem isStore_of_isCut {mark : Char} (cut : isCut mark = true) (before after : Char) :
    isStore before mark after = false := by
  simp only [isCut, Bool.and_eq_true, bne_iff_ne] at cut
  simp [isStore, cut.1.1.2, cut.1.2, cut.2]

theorem effectsFrom_part {c : Char} (part : Node.isSlotPart c = true) (before : Char)
    (run rest : List Char) (after : Char) :
    effectsFrom before run (c :: rest) after = effectsFrom before (c :: run) rest after := by
  rw [effectsFrom, if_pos part]

/-- A mark that stores nothing cuts a text. -/
theorem effectsFrom_mark {c : Char} (mark : Node.isSlotPart c = false) {before : Char}
    {run rest : List Char} {after : Char}
    (idle : isStore (run.headD before) c (rest.headD after) = false) :
    effectsFrom before run (c :: rest) after =
      wordEffects before run c ++ effectsFrom c [] rest after := by
  rw [effectsFrom, mark, idle]
  rfl

/-- **Effects are found piece by piece**, where a text is cut. -/
theorem effectsFrom_append {mark : Char} (cut : isCut mark = true) (rest : List Char)
    (after : Char) :
    ∀ (before : Char) (run front : List Char),
      effectsFrom before run (front ++ mark :: rest) after =
      effectsFrom before run front mark ++ effectsFrom mark [] rest after := by
  intro before run front
  induction front generalizing before run with
  | nil => exact effectsFrom_mark (isSlotPart_of_isCut cut) (isStore_of_isCut cut _ _)
  | cons c front ih =>
      rw [List.cons_append, effectsFrom, effectsFrom]
      by_cases part : Node.isSlotPart c = true
      · rw [if_pos part, if_pos part]
        exact ih before (c :: run)
      · have next : (front ++ mark :: rest).headD after = front.headD mark := by
          cases front <;> rfl
        rw [if_neg part, if_neg part, ih c [], next]
        simp only [List.append_assoc]

/-- A word goes on with the run before it. -/
theorem effectsFrom_word {word : List Char} (parts : ∀ c ∈ word, Node.isSlotPart c = true)
    (before after : Char) : ∀ run, effectsFrom before run word after =
      wordEffects before (word.reverse ++ run) after := by
  induction word with
  | nil => exact fun run => rfl
  | cons c word ih =>
      intro run
      rw [effectsFrom, if_pos (parts c List.mem_cons_self),
        ih fun d member => parts d (List.mem_cons_of_mem _ member), List.reverse_cons,
        List.append_assoc, List.singleton_append]

/-- A word has no effect, or it reads the variable of its name. -/
theorem mem_effectsFrom_word {word : String} (parts : word.toList.all Node.isSlotPart = true)
    {before after : Char} {effect : Effect}
    (member : effect ∈ effectsFrom before [] word.toList after) : effect = .read word := by
  rw [effectsFrom_word (List.all_eq_true.mp parts), wordEffects] at member
  split at member
  · cases member
  · rw [List.mem_singleton.mp member, List.append_nil, List.reverse_reverse,
      String.ofList_toList]

/-! ## Phrases -/

open Text (Calm)

/-- A calm text without effects, whatever is put next to it. -/
structure Silent (text : String) : Prop where
  calm : Calm text
  effects : ∀ before after, effectsFrom before [] text.toList after = []

/-- A calm text with known effects, whatever is put next to it. -/
structure Phrase (known : Effect → Prop) (text : String) : Prop where
  calm : Calm text
  effects : ∀ before after, ∀ effect ∈ effectsFrom before [] text.toList after, known effect

/-- The start of a phrase, up to a cut. -/
structure Opening (known : Effect → Prop) (text : String) : Prop where
  calm : Calm text
  ends : ∃ front mark, text.toList = front ++ [mark] ∧ isCut mark = true ∧
    ∀ before, ∀ effect ∈ effectsFrom before [] front mark, known effect

/-- What can stand between two phrases: text without effects from one cut to another. -/
structure Separator (text : String) : Prop where
  calm : Calm text
  cuts : ∃ first middle last, text.toList = first :: (middle ++ [last]) ∧ isCut first = true ∧
    isCut last = true ∧ effectsFrom first [] middle last = []

/-- What can stand behind a phrase: text without effects from a cut on. -/
structure Closing (text : String) : Prop where
  calm : Calm text
  starts : ∃ mark rest, text.toList = mark :: rest ∧ isCut mark = true ∧
    ∀ after, effectsFrom mark [] rest after = []

section Phrases

variable {known : Effect → Prop}

/-- The name of a variable that may be read. -/
theorem phrase_name {name : String} (parts : name.toList.all Node.isSlotPart = true)
    (reads : known (.read name)) : Phrase known name := by
  refine ⟨Text.calm_of_isSlotPart parts, fun before after effect member => ?_⟩
  rw [mem_effectsFrom_word parts member]
  exact reads

theorem Silent.phrase {text : String} (silent : Silent text) : Phrase known text := by
  refine ⟨silent.calm, fun before after effect member => ?_⟩
  rw [silent.effects] at member
  cases member

/-- A function and the parenthesis behind it. -/
theorem opening_call {function : String} (parts : function.toList.all Node.isSlotPart = true) :
    Opening known (function ++ "(") := by
  refine ⟨(Text.calm_of_isSlotPart parts).append rfl, function.toList, '(', ?_, rfl, ?_⟩
  · rw [String.toList_append]
    rfl
  · intro before effect member
    rw [effectsFrom_word (List.all_eq_true.mp parts), wordEffects, beq_self_eq_true,
      Bool.or_true] at member
    cases member

/-- A phrase goes on from an opening. -/
theorem Opening.append {front text : String} (opening : Opening known front)
    (phrase : Phrase known text) : Phrase known (front ++ text) := by
  obtain ⟨body, mark, spelled, cut, first⟩ := opening.ends
  refine ⟨opening.calm.append phrase.calm, fun before after effect member => ?_⟩
  rw [String.toList_append, spelled, List.append_assoc, List.singleton_append,
    effectsFrom_append cut] at member
  rcases List.mem_append.mp member with early | late
  · exact first before effect early
  · exact phrase.effects mark after effect late

/-- A phrase that is to be followed by another. -/
theorem Phrase.separate {text between : String} (phrase : Phrase known text)
    (separator : Separator between) : Opening known (text ++ between) := by
  obtain ⟨first, middle, last, spelled, cutFirst, cutLast, silent⟩ := separator.cuts
  refine ⟨phrase.calm.append separator.calm, text.toList ++ first :: middle, last,
    ?_, cutLast, ?_⟩
  · rw [String.toList_append, spelled]
    simp
  · intro before effect member
    rw [effectsFrom_append cutFirst, silent, List.append_nil] at member
    exact phrase.effects before first effect member

/-- A phrase with more text behind it. -/
theorem Phrase.close {text more : String} (phrase : Phrase known text)
    (closing : Closing more) : Phrase known (text ++ more) := by
  obtain ⟨mark, rest, spelled, cut, silent⟩ := closing.starts
  refine ⟨phrase.calm.append closing.calm, fun before after effect member => ?_⟩
  rw [String.toList_append, spelled, effectsFrom_append cut, silent, List.append_nil] at member
  exact phrase.effects before mark effect member

/-- Phrases one after another. -/
theorem phrase_intercalate {between : String} {texts : List String}
    (separator : Separator between) (all : ∀ text ∈ texts, Phrase known text) :
    Phrase known (between.intercalate texts) := by
  match texts with
  | [] => exact Silent.phrase ⟨rfl, fun _ _ => rfl⟩
  | [text] =>
      rw [String.intercalate_singleton]
      exact all text (List.mem_singleton_self text)
  | first :: next :: texts =>
      rw [String.intercalate_cons_cons]
      refine ((all first List.mem_cons_self).separate separator).append ?_
      exact phrase_intercalate separator fun text member =>
        all text (List.mem_cons_of_mem _ member)

end Phrases

theorem silent_zero : Silent "0.0" :=
  ⟨rfl, fun _ _ => rfl⟩

theorem silent_one : Silent "1.0" :=
  ⟨rfl, fun _ _ => rfl⟩

theorem separator_comma : Separator ", " :=
  ⟨rfl, ',', [], ' ', rfl, rfl, rfl, rfl⟩

theorem separator_times : Separator " * " :=
  ⟨rfl, ' ', ['*'], ' ', rfl, rfl, rfl, rfl⟩

theorem separator_zero : Separator ", 0.0, " :=
  ⟨rfl, ',', " 0.0,".toList, ' ', rfl, rfl, rfl, rfl⟩

theorem closing_parenthesis : Closing ")" :=
  ⟨rfl, ')', [], rfl, rfl, fun _ => rfl⟩

theorem closing_zero : Closing ", 0.0)" :=
  ⟨rfl, ',', " 0.0)".toList, rfl, rfl, fun _ => rfl⟩

theorem closing_xyz : Closing ".xyz, 1.0)" :=
  ⟨rfl, '.', "xyz, 1.0)".toList, rfl, rfl, fun _ => rfl⟩

theorem closing_w : Closing ".w" :=
  ⟨rfl, '.', "w".toList, rfl, rfl, fun _ => rfl⟩

end Glsl
end ShaderLoom
