import Mathlib.Data.List.Forall2
import Mathlib.Data.List.TakeWhile
import ShaderLoom.Glsl.Scan
import ShaderLoom.Proofs.Comments
import ShaderLoom.Proofs.StatementForm
import ShaderLoom.Proofs.TextCuts

/-!
# Declarations are found line by line

The declarations of a text are found by cutting it twice: into lines, to set comments and
directives aside, and then into statements, across the lines that are left.  Generated texts do
not need the second cut to look across lines.  What a line says is read off the line alone
(`Declaration.Announces`), and a text whose lines all say something declares what its lines say,
in their order.

A line says something on its own if it neither opens a comment that goes on nor leaves a
statement unfinished.  Directives say nothing.  A statement on a line of its own says what its
words say; so a line that declares a variable says its qualifier, its type and its name, and an
assignment says nothing.

## Main definitions

* `Declaration.inCode` — the declarations of a text without comments, read from left to right
* `Declaration.Announces` — what a line says on its own

## Main results

* `Declaration.inText_of_declares` — a text declares what its lines say
* `Declaration.announces_declaration` — what the declaration of a variable says
* `Declaration.announces_assignment` — assignments say nothing
-/

namespace ShaderLoom

/-! ## What is looked for -/

/-- The qualifier under which variables of a storage are looked up. -/
def Storage.input? : Storage → Option Qualifier
  | attr => some .attr
  | uniform => some .uniform
  | _ => none

/-- What those who look for some qualifiers find of a variable. -/
def Variable.entries (qualifiers : List Qualifier) (v : Variable) : List Declaration :=
  match v.storage.input? with
  | none => []
  | some qualifier =>
    if qualifier ∈ qualifiers then [{ qualifier, type := v.type.word, name := v.name }] else []

namespace Declaration

open Text (cutAt words isBlank isCalm)
open Glsl (stripComments CommentFree)

/-! ## Reading code -/

/-- Whether a character opens or closes a block. -/
def isBrace (c : Char) : Bool :=
  c == '\x7b' || c == '\x7d'

/-- The declarations of a text without comments, read from left to right, after the start
`pending` of a statement. -/
def inCode (qualifiers : List Qualifier) (pending : List Char) : List Char → List Declaration
  | [] => inStatement qualifiers pending
  | c :: rest =>
    if c = ';' then inStatement qualifiers pending ++ inCode qualifiers [] rest
    else inCode qualifiers (pending ++ [c]) rest

section Reading

variable {qualifiers : List Qualifier}

/-- Reading code from left to right is cutting it into statements. -/
theorem flatMap_inStatement_cutAt (code : List Char) :
    (cutAt ';' code).flatMap (inStatement qualifiers) = inCode qualifiers [] code := by
  -- What is pending has been cut off the first statement.
  have general : ∀ pending first others, cutAt ';' code = first :: others →
      inStatement qualifiers (pending ++ first) ++ others.flatMap (inStatement qualifiers) =
        inCode qualifiers pending code := by
    rw [cutAt]
    induction code with
    | nil =>
        intro pending first others cut
        cases cut
        rw [List.append_nil, List.flatMap_nil, List.append_nil, inCode]
    | cons c rest ih =>
        intro pending first others cut
        obtain ⟨piece, pieces, found⟩ :=
          List.exists_cons_of_ne_nil (Text.cutWhere_ne_nil (· == ';') rest)
        rw [Text.cutWhere, found] at cut
        rw [inCode]
        by_cases stop : c = ';'
        · rw [if_pos (beq_iff_eq.mpr stop)] at cut
          cases cut
          rw [if_pos stop, ← ih [] piece pieces found, List.append_nil, List.flatMap_cons]
          rfl
        · rw [if_neg (by simpa using stop)] at cut
          cases cut
          rw [if_neg stop, ← ih (pending ++ [c]) piece _ found, List.append_assoc]
          rfl
  obtain ⟨first, others, cut⟩ :=
    List.exists_cons_of_ne_nil (Text.cutWhere_ne_nil (· == ';') code)
  rw [← general [] first others cut, cutAt, cut]
  rfl

/-- Starts of statements that cannot be told apart are read alike. -/
theorem inCode_congr {pending other : List Char}
    (same : ∀ more,
      inStatement qualifiers (pending ++ more) = inStatement qualifiers (other ++ more))
    (code : List Char) : inCode qualifiers pending code = inCode qualifiers other code := by
  induction code generalizing pending other with
  | nil => simpa [inCode] using same []
  | cons c rest ih =>
      have here : inStatement qualifiers pending = inStatement qualifiers other := by
        simpa using same []
      have later :
          inCode qualifiers (pending ++ [c]) rest = inCode qualifiers (other ++ [c]) rest :=
        ih fun more => by simpa using same (c :: more)
      rw [inCode, inCode, here, later]

theorem inCode_append {text : List Char} (free : ';' ∉ text) (pending rest : List Char) :
    inCode qualifiers pending (text ++ rest) = inCode qualifiers (pending ++ text) rest := by
  induction text generalizing pending with
  | nil => rw [List.nil_append, List.append_nil]
  | cons c text ih =>
      have other : c ≠ ';' := fun same => free (same ▸ List.mem_cons_self)
      rw [List.cons_append, inCode, if_neg other,
        ih fun member => free (List.mem_cons_of_mem _ member), List.append_assoc]
      rfl

theorem inStatement_eq (statement : List Char) : inStatement qualifiers statement =
    ofWords qualifiers (words (Text.afterLast isBrace statement)) :=
  rfl

theorem inStatement_of_not_brace {statement : List Char}
    (free : ∀ c ∈ statement, isBrace c = false) :
    inStatement qualifiers statement = ofWords qualifiers (words statement) := by
  rw [inStatement_eq, Text.afterLast_of_forall free]

theorem inStatement_brace {c : Char} (brace : isBrace c = true) (front back : List Char) :
    inStatement qualifiers (front ++ c :: back) = inStatement qualifiers back := by
  rw [inStatement_eq, Text.afterLast_append brace, inStatement_eq]

theorem isBrace_of_isBlank {c : Char} (blank : isBlank c = true) : isBrace c = false := by
  rw [← Bool.not_eq_true]
  intro brace
  rw [isBrace, Bool.or_eq_true, beq_iff_eq, beq_iff_eq] at brace
  rcases brace with rfl | rfl <;> exact absurd blank (by decide)

theorem inStatement_cons_blank {c : Char} (blank : isBlank c = true) (statement : List Char) :
    inStatement qualifiers (c :: statement) = inStatement qualifiers statement := by
  by_cases braces : ∃ d ∈ statement, isBrace d = true
  · obtain ⟨d, member, brace⟩ := braces
    obtain ⟨front, back, rfl⟩ := List.append_of_mem member
    rw [← List.cons_append, inStatement_brace brace, inStatement_brace brace]
  · have free : ∀ d ∈ statement, isBrace d = false := by
      intro d member
      rw [← Bool.not_eq_true]
      exact fun brace => braces ⟨d, member, brace⟩
    have plain : ∀ d ∈ c :: statement, isBrace d = false :=
      List.forall_mem_cons.mpr ⟨isBrace_of_isBlank blank, free⟩
    rw [inStatement_of_not_brace free, inStatement_of_not_brace plain,
      Text.words_cons_blank blank]

/-- A blank before a statement does not matter. -/
theorem inCode_cons_blank {c : Char} (blank : isBlank c = true) (code : List Char) :
    inCode qualifiers [] (c :: code) = inCode qualifiers [] code := by
  have other : c ≠ ';' := by
    rintro rfl
    exact absurd blank (by decide)
  rw [inCode, if_neg other]
  exact inCode_congr (fun more => inStatement_cons_blank blank more) code

/-! ## Reading lines -/

/-- What is left of a line without comments: nothing of directives. -/
def shown (line : List Char) : List Char :=
  if isDirective line then [] else '\n' :: line

/-- The code of a text consists of what is left of its lines. -/
theorem inText_eq (text : String) : inText qualifiers text =
    inCode qualifiers [] ((cutAt '\n' (stripComments text.toList)).flatMap shown) := by
  have filtered : ∀ lines : List (List Char), lines.flatMap shown =
      (lines.filter fun line => !isDirective line).flatMap fun line => '\n' :: line := by
    intro lines
    induction lines with
    | nil => rfl
    | cons line lines ih =>
        rw [List.flatMap_cons, ih, shown, List.filter_cons]
        cases isDirective line <;> rfl
  rw [inText, flatMap_inStatement_cutAt, code, filtered]
  cases (cutAt '\n' (stripComments text.toList)).filter fun line => !isDirective line with
  | nil => rfl
  | cons line lines =>
      have newline : isBlank '\n' = true := by decide
      -- The newlines before the lines are those between them, and one more.
      have joined : ∀ first : List Char, ['\n'].intercalate (first :: lines) =
          first ++ lines.flatMap fun line => '\n' :: line := by
        induction lines with
        | nil => simp
        | cons next lines ih =>
            intro first
            rw [List.intercalate_cons_cons, ih next, List.flatMap_cons]
            simp
      rw [List.flatMap_cons, List.cons_append, inCode_cons_blank newline, joined]

/-- What comments leave of a line, whatever line comes next. -/
structure Keeps (line kept : List Char) : Prop where
  whole : '\n' ∉ line
  single : '\n' ∉ kept
  last : stripComments line = kept
  more : ∀ rest, stripComments (line ++ '\n' :: rest) = kept ++ '\n' :: stripComments rest

/-- What a line says on its own, whatever comes next. -/
def Announces (qualifiers : List Qualifier) (line : List Char)
    (found : List Declaration) : Prop :=
  ∃ kept, Keeps line kept ∧
    ∀ rest, inCode qualifiers [] (shown kept ++ rest) = found ++ inCode qualifiers [] rest

theorem keeps_of_commentFree {line : List Char} (free : CommentFree line)
    (single : '\n' ∉ line) : Keeps line line where
  whole := single
  single := single
  last := free.stripComments_eq
  more := free.stripComments_line

/-- What a text of such lines declares. -/
def Declares (qualifiers : List Qualifier) (text : List Char)
    (found : List Declaration) : Prop :=
  ∃ parts, List.Forall₂ (Announces qualifiers) (cutAt '\n' text) parts ∧ parts.flatten = found

theorem Announces.declares {line : List Char} {found : List Declaration}
    (announces : Announces qualifiers line found) : Declares qualifiers line found := by
  have whole : '\n' ∉ line := announces.choose_spec.1.whole
  refine ⟨[found], ?_, List.flatten_singleton⟩
  rw [Text.cutAt_of_not_mem whole]
  exact .cons announces .nil

/-- Parts that say nothing say nothing together. -/
theorem exists_silent_parts {α : Type} {Tells : α → List Declaration → Prop} {texts : List α}
    (silent : ∀ text ∈ texts, Tells text []) :
    ∃ parts, List.Forall₂ Tells texts parts ∧ parts.flatten = [] := by
  refine ⟨texts.map fun _ => [], ?_, ?_⟩
  · rw [List.forall₂_map_right_iff, List.forall₂_same]
    exact silent
  · rw [List.flatten_eq_nil_iff]
    intro part member
    obtain ⟨_, _, rfl⟩ := List.mem_map.mp member
    rfl

theorem declares_nil {text : List Char}
    (silent : ∀ line ∈ cutAt '\n' text, Announces qualifiers line []) :
    Declares qualifiers text [] :=
  exists_silent_parts silent

/-- Texts on lines of their own declare what each of them does. -/
theorem Declares.cons {text rest : List Char} {found more : List Declaration}
    (here : Declares qualifiers text found) (later : Declares qualifiers rest more) :
    Declares qualifiers (text ++ '\n' :: rest) (found ++ more) := by
  obtain ⟨parts, announcesHere, rfl⟩ := here
  obtain ⟨others, announcesLater, rfl⟩ := later
  refine ⟨parts ++ others, ?_, List.flatten_append⟩
  rw [Text.cutAt_append]
  exact List.rel_append announcesHere announcesLater

theorem Declares.lines {texts : List (List Char)} {parts : List (List Declaration)}
    (each : List.Forall₂ (Declares qualifiers) texts parts) {rest : List Char}
    {found : List Declaration} (later : Declares qualifiers rest found) :
    Declares qualifiers (texts.flatMap (fun text => text ++ ['\n']) ++ rest)
      (parts.flatten ++ found) := by
  induction each with
  | nil => exact later
  | @cons text part texts parts first _ ih =>
      rw [List.flatMap_cons, List.append_assoc, List.append_assoc, List.singleton_append,
        List.flatten_cons, List.append_assoc]
      exact first.cons ih

theorem Declares.silent_lines {texts : List (List Char)}
    (silent : ∀ text ∈ texts, Declares qualifiers text []) {rest : List Char}
    {found : List Declaration} (later : Declares qualifiers rest found) :
    Declares qualifiers (texts.flatMap (fun text => text ++ ['\n']) ++ rest) found := by
  obtain ⟨parts, each, none⟩ := exists_silent_parts silent
  have declares := Declares.lines each later
  rwa [none, List.nil_append] at declares

/-- **A text declares what its lines say.** -/
theorem inText_of_declares {text : String} {found : List Declaration}
    (declares : Declares qualifiers text.toList found) : inText qualifiers text = found := by
  have general : ∀ (chars : List Char) (parts : List (List Declaration)),
      List.Forall₂ (Announces qualifiers) (cutAt '\n' chars) parts →
        inCode qualifiers [] ((cutAt '\n' (stripComments chars)).flatMap shown) =
          parts.flatten := by
    intro chars
    induction chars using Text.line_induction with
    | last line single =>
        intro parts announced
        rw [Text.cutAt_of_not_mem single] at announced
        cases announced with
        | cons only none =>
            cases none
            obtain ⟨kept, keeps, reads⟩ := only
            rw [keeps.last, Text.cutAt_of_not_mem keeps.single, List.flatMap_cons,
              List.flatMap_nil, reads, inCode]
            rfl
    | more line rest single ih =>
        intro parts announced
        rw [Text.cutAt_append, Text.cutAt_of_not_mem single] at announced
        cases announced with
        | cons first others =>
            obtain ⟨kept, keeps, reads⟩ := first
            rw [keeps.more, Text.cutAt_append, Text.cutAt_of_not_mem keeps.single,
              List.singleton_append, List.flatMap_cons, reads, ih _ others, List.flatten_cons]
  obtain ⟨parts, announced, rfl⟩ := declares
  rw [inText_eq]
  exact general text.toList parts announced

/-! ## Lines of generated texts -/

/-- Directives say nothing. -/
theorem announces_directive {line : List Char} (free : CommentFree line) (single : '\n' ∉ line)
    (directive : isDirective line = true) : Announces qualifiers line [] := by
  refine ⟨line, keeps_of_commentFree free single, fun rest => ?_⟩
  rw [shown, if_pos directive]
  rfl

/-- Names, numerals and keywords. -/
structure IsWord (word : List Char) : Prop where
  ne_nil : word ≠ []
  parts : ∀ c ∈ word, Node.isSlotPart c = true

theorem isWord_of_isIdentifier {name : List Char} (identifier : Glsl.isIdentifier name = true) :
    IsWord name where
  ne_nil := by
    rintro rfl
    cases identifier
  parts := List.all_eq_true.mp (Glsl.all_isSlotPart_of_isIdentifier identifier)

theorem IsWord.not_mem {word : List Char} (spelled : IsWord word) {c : Char}
    (other : Node.isSlotPart c = false) : c ∉ word :=
  fun member => Text.ne_of_isSlotPart (spelled.parts c member) other rfl

theorem isBlank_eq_false_of_isSlotPart {c : Char} (part : Node.isSlotPart c = true) :
    isBlank c = false := by
  have range : 48 ≤ c.toNat ∧ c.toNat ≤ 122 := by
    rw [Node.isSlotPart, Bool.or_eq_true, beq_iff_eq] at part
    rcases part with letter | rfl
    · have spans : ((decide (65 ≤ c.val ∧ c.val ≤ 90) ||
          decide (97 ≤ c.val) && decide (c.val ≤ 122)) ||
            decide (48 ≤ c.val) && decide (c.val ≤ 57)) = true := letter
      simp only [Bool.or_eq_true, Bool.and_eq_true, decide_eq_true_eq,
        UInt32.le_iff_toNat_le] at spans
      rcases spans with (span | span) | span <;> simp at span <;> omega
    · decide
  rw [Bool.eq_false_iff]
  intro blank
  simp only [isBlank, Bool.or_eq_true, Bool.and_eq_true, decide_eq_true_eq, beq_iff_eq] at blank
  omega

theorem IsWord.solid {word : List Char} (spelled : IsWord word) : Text.Solid word where
  nonempty := spelled.ne_nil
  visible := fun c member => isBlank_eq_false_of_isSlotPart (spelled.parts c member)

theorem IsWord.isCalm {word : List Char} (spelled : IsWord word) : isCalm word = true :=
  Text.isCalm_of_forall fun c member => Text.isCalmChar_of_isSlotPart (spelled.parts c member)

/-- Calm texts open no comment. -/
theorem commentFree_of_isCalm {text : List Char} (calm : isCalm text = true) :
    CommentFree text := by
  fun_induction isCalm text with
  | case1 text ih =>
      have slash : CommentFree ['/', ' '] := ⟨by decide, by decide⟩
      exact slash.append (ih calm) (by decide)
  | case2 c text _ ih =>
      rw [Bool.and_eq_true] at calm
      have plain := calm.1
      simp only [Text.isCalmChar, Bool.and_eq_true, bne_iff_ne] at plain
      exact (ih calm.2).cons plain.2
  | case3 => exact Glsl.commentFree_nil

/-- Calm texts neither end statements or lines nor open or close blocks. -/
theorem calm_mem {text : List Char} (calm : isCalm text = true) {c : Char} (member : c ∈ text) :
    c ≠ ';' ∧ c ≠ '\n' ∧ isBrace c = false := by
  fun_induction isCalm text with
  | case1 text ih =>
      rcases List.mem_cons.mp member with rfl | member
      · decide
      · rcases List.mem_cons.mp member with rfl | member
        · decide
        · exact ih calm member
  | case2 d text _ ih =>
      rw [Bool.and_eq_true] at calm
      rcases List.mem_cons.mp member with rfl | member
      · have plain := calm.1
        simp only [Text.isCalmChar, Bool.and_eq_true, bne_iff_ne] at plain
        refine ⟨plain.1.1.1.1, plain.1.2, ?_⟩
        rw [isBrace, beq_false_of_ne plain.1.1.1.2, beq_false_of_ne plain.1.1.2]
        rfl
      · exact ih calm.2 member
  | case3 => cases member

/-- The first character of an indented line that is not blank. -/
theorem trimStart_indented (indent : Nat) {c : Char} (solid : isBlank c = false)
    (rest : List Char) : Text.trimStart (List.replicate indent ' ' ++ c :: rest) =
      c :: rest := by
  induction indent with
  | zero =>
      rw [List.replicate_zero, List.nil_append, Text.trimStart, List.dropWhile_cons, solid]
      rfl
  | succ indent ih =>
      rw [List.replicate_succ, List.cons_append, Text.trimStart, List.dropWhile_cons_of_pos rfl]
      exact ih

theorem words_indented (indent : Nat) (text : List Char) :
    words (List.replicate indent ' ' ++ text) = words text := by
  induction indent with
  | zero => rfl
  | succ indent ih => rw [List.replicate_succ, List.cons_append, Text.words_cons_blank rfl, ih]

/-- A statement on a line of its own says what its words say. -/
theorem announces_statement {first more : List Char} (spelled : IsWord first)
    (calm : isCalm more = true) (indent : Nat) :
    Announces qualifiers (List.replicate indent ' ' ++ (first ++ ' ' :: (more ++ [';'])))
      (ofWords qualifiers (first :: words more)) := by
  obtain ⟨c, letters, rfl⟩ := List.exists_cons_of_ne_nil spelled.ne_nil
  have calmBody : isCalm (List.replicate indent ' ' ++ (c :: letters ++ ' ' :: more)) =
      true := by
    refine Text.isCalm_append (Text.isCalm_of_forall ?_) (Text.isCalm_append spelled.isCalm ?_)
    · intro d member
      rw [List.eq_of_mem_replicate member]
      rfl
    · rw [Text.isCalm_cons (by decide)]
      exact calm
  have line : List.replicate indent ' ' ++ (c :: letters ++ ' ' :: (more ++ [';'])) =
      (List.replicate indent ' ' ++ (c :: letters ++ ' ' :: more)) ++ [';'] := by simp
  have code :
      isDirective (List.replicate indent ' ' ++ (c :: letters ++ ' ' :: (more ++ [';']))) =
      false := by
    rw [isDirective, List.cons_append,
      trimStart_indented indent (spelled.solid.visible c List.mem_cons_self), List.head?_cons]
    refine beq_false_of_ne fun same => ?_
    exact spelled.not_mem (c := '#') (by decide) (Option.some.inj same ▸ List.mem_cons_self)
  have free := (commentFree_of_isCalm calmBody).concat (c := ';') (by decide) (by decide)
  have single : '\n' ∉ (List.replicate indent ' ' ++ (c :: letters ++ ' ' :: more)) ++
      [';'] := by
    rw [List.mem_append, not_or]
    exact ⟨fun member => (calm_mem calmBody member).2.1 rfl, by decide⟩
  refine ⟨_, keeps_of_commentFree (line ▸ free) (line ▸ single), fun rest => ?_⟩
  rw [shown, code, line, if_neg Bool.false_ne_true, List.cons_append,
    inCode_cons_blank (by decide), List.append_assoc,
    inCode_append (fun member => (calm_mem calmBody member).1 rfl), List.nil_append,
    List.singleton_append, inCode, if_pos rfl,
    inStatement_of_not_brace fun d member => (calm_mem calmBody member).2.2, words_indented,
    Text.words_append spelled.solid (by decide)]

/-! ## Assignments and declarations -/

/-- A word that opens no declaration. -/
def Harmless (word : List Char) : Prop :=
  ∀ qualifier : Qualifier, qualifier.word.toList ≠ word

theorem ofWords_of_harmless {word : List Char} (harmless : Harmless word)
    (more : List (List Char)) : ofWords qualifiers (word :: more) = [] := by
  have none : qualifiers.find? (fun qualifier => qualifier.word.toList == word) = none := by
    refine List.find?_eq_none.mpr fun qualifier _ => ?_
    rw [beq_iff_eq]
    exact harmless qualifier
  rw [ofWords, none]

/-- Assignments say nothing. -/
theorem announces_assignment {name expression : String} (spelled : IsWord name.toList)
    (harmless : Harmless name.toList) (calm : Text.Calm expression) (indent : Nat) :
    Announces qualifiers
      (List.replicate indent ' ' ++ (name ++ " = " ++ expression ++ ";").toList) [] := by
  have written : (name ++ " = " ++ expression ++ ";").toList =
      name.toList ++ ' ' :: ('=' :: ' ' :: expression.toList ++ [';']) := by simp
  have calmRest : isCalm ('=' :: ' ' :: expression.toList) = true := by
    rw [Text.isCalm_cons (by decide), Text.isCalm_cons (by decide)]
    exact calm
  have announced : Announces qualifiers _ _ := announces_statement spelled calmRest indent
  rw [ofWords_of_harmless harmless] at announced
  rw [written]
  exact announced

/-- What follows the name in the declaration of a variable. -/
theorem arraySuffix_cases (v : Variable) : v.arraySuffix.toList = [] ∨
    ∃ digits, IsWord digits ∧ v.arraySuffix.toList = '[' :: (digits ++ [']']) := by
  rw [Variable.arraySuffix]
  cases v.arrayLength with
  | none => exact .inl rfl
  | some n =>
      refine .inr ⟨(toString n).toList, ⟨?_, ?_⟩, ?_⟩
      · rw [Nat.toString_eq_ofList_toDigits, String.toList_ofList]
        exact Nat.toDigits_ne_nil
      · exact List.all_eq_true.mp (Text.all_isSlotPart_toString n)
      · simp [toString]

theorem names_of_isWord {name : List Char} (spelled : IsWord name) {suffix : List Char}
    (written : suffix = [] ∨ ∃ digits, IsWord digits ∧ suffix = '[' :: (digits ++ [']'])) :
    names (name ++ suffix) = [name] := by
  have comma : ',' ∉ name ++ suffix := by
    rw [List.mem_append, not_or]
    refine ⟨spelled.not_mem (by decide), ?_⟩
    rcases written with rfl | ⟨digits, numeral, rfl⟩
    · exact List.not_mem_nil
    · simp [numeral.not_mem (c := ',') (by decide)]
  have bare : (name ++ suffix).takeWhile (fun c => c != '[') = name := by
    have letters : ∀ c ∈ name, (c != '[') = true := by
      intro c member
      rw [bne_iff_ne]
      rintro rfl
      exact spelled.not_mem (by decide) member
    rw [List.takeWhile_append_of_pos letters]
    rcases written with rfl | ⟨digits, _, rfl⟩
    · rw [List.takeWhile_nil, List.append_nil]
    · rw [List.takeWhile_cons_of_neg (by decide), List.append_nil]
  have some : name.isEmpty = false := List.isEmpty_eq_false_iff.mpr spelled.ne_nil
  rw [names, Text.cutAt_of_not_mem comma, List.map_singleton, bare, List.filter_singleton, some]
  rfl

theorem isWord_word (type : DataType) : IsWord type.word.toList := by
  cases type <;> exact ⟨by decide, List.all_eq_true.mp rfl⟩

theorem harmless_word (type : DataType) : Harmless type.word.toList := by
  intro qualifier
  cases qualifier <;> cases type <;> decide

theorem find?_word (qualifier : Qualifier) :
    (qualifiers.find? fun other => other.word.toList == qualifier.word.toList) =
      if qualifier ∈ qualifiers then some qualifier else none := by
  have injective : ∀ other : Qualifier,
      (other.word.toList == qualifier.word.toList) = decide (qualifier = other) := by
    intro other
    cases other <;> cases qualifier <;> rfl
  induction qualifiers with
  | nil => rfl
  | cons first others ih =>
      rw [List.find?_cons, injective, ih]
      by_cases same : qualifier = first
      · simp [same]
      · simp [same]

/-- What the words of a declaration say. -/
theorem ofWords_declaration {qualifier : Qualifier} {v : Variable}
    (spelled : IsWord v.name.toList) (stored : v.storage.input? = some qualifier) :
    ofWords qualifiers
      [qualifier.word.toList, v.type.word.toList, v.name.toList ++ v.arraySuffix.toList] =
        v.entries qualifiers := by
  have precise : isPrecision v.type.word.toList = false := by cases v.type <;> decide
  rw [ofWords, find?_word, Variable.entries, stored]
  by_cases looked : qualifier ∈ qualifiers
  · rw [if_pos looked]
    simp only [if_pos looked]
    rw [List.dropWhile_cons_of_neg (by rw [precise]; exact Bool.false_ne_true)]
    change (names [v.name.toList ++ v.arraySuffix.toList].flatten).map _ = _
    rw [List.flatten_singleton, names_of_isWord spelled (arraySuffix_cases v),
      List.map_singleton, String.ofList_toList, String.ofList_toList]
  · rw [if_neg looked]
    simp only [if_neg looked]

/-- The last word of a declaration. -/
theorem calm_lastWord {v : Variable} (spelled : IsWord v.name.toList) :
    isCalm (v.name.toList ++ v.arraySuffix.toList) = true ∧
      words (v.name.toList ++ v.arraySuffix.toList) =
        [v.name.toList ++ v.arraySuffix.toList] := by
  rcases arraySuffix_cases v with none | ⟨digits, numeral, written⟩
  · rw [none, List.append_nil]
    exact ⟨spelled.isCalm, spelled.solid.words_eq⟩
  · have solid : Text.Solid (v.name.toList ++ v.arraySuffix.toList) := by
      refine ⟨List.append_ne_nil_of_left_ne_nil spelled.ne_nil _, ?_⟩
      intro c member
      rw [written] at member
      simp only [List.mem_append, List.mem_cons, List.not_mem_nil, or_false] at member
      rcases member with letter | rfl | digit | rfl
      · exact spelled.solid.visible c letter
      · decide
      · exact numeral.solid.visible c digit
      · decide
    refine ⟨?_, solid.words_eq⟩
    rw [written]
    refine Text.isCalm_append spelled.isCalm ?_
    rw [Text.isCalm_cons (by decide)]
    exact Text.isCalm_append numeral.isCalm rfl

/-- **What the declaration of a variable says**: its qualifier, its type and its name. -/
theorem announces_declaration {v : Variable} (spelled : IsWord v.name.toList) {text : String}
    (declared : v.declaration? = some text) (indent : Nat) :
    Announces qualifiers (List.replicate indent ' ' ++ text.toList) (v.entries qualifiers) := by
  have written := Variable.toList_declaration declared
  obtain ⟨calm, last⟩ := calm_lastWord spelled
  have typed := isWord_word v.type
  -- A qualifier stands before the type.
  have qualified : ∀ word, IsWord word →
      text.toList = (word ++ [' ']) ++
        (v.type.word.toList ++ ' ' :: (v.name.toList ++ (v.arraySuffix.toList ++ [';']))) →
      Announces qualifiers (List.replicate indent ' ' ++ text.toList) (ofWords qualifiers
        [word, v.type.word.toList, v.name.toList ++ v.arraySuffix.toList]) := by
    intro word opens form
    have calmRest : isCalm (v.type.word.toList ++ ' ' ::
        (v.name.toList ++ v.arraySuffix.toList)) = true := by
      refine Text.isCalm_append typed.isCalm ?_
      rw [Text.isCalm_cons (by decide)]
      exact calm
    have announced : Announces qualifiers _ _ := announces_statement opens calmRest indent
    rw [Text.words_append typed.solid (by decide), last] at announced
    rw [form]
    simpa only [List.append_assoc, List.cons_append, List.nil_append] using announced
  cases stored : v.storage with
  | attr =>
      rw [stored] at written
      have announced :=
        qualified Qualifier.attr.word.toList ⟨by decide, List.all_eq_true.mp rfl⟩ written
      rwa [ofWords_declaration spelled (by rw [stored]; rfl)] at announced
  | uniform =>
      rw [stored] at written
      have announced :=
        qualified Qualifier.uniform.word.toList ⟨by decide, List.all_eq_true.mp rfl⟩ written
      rwa [ofWords_declaration spelled (by rw [stored]; rfl)] at announced
  | varying =>
      rw [stored] at written
      have announced := qualified "varying".toList ⟨by decide, List.all_eq_true.mp rfl⟩ written
      have harmless : Harmless "varying".toList := by
        intro qualifier
        cases qualifier <;> decide
      rw [ofWords_of_harmless harmless] at announced
      rwa [Variable.entries, stored]
  | temporary =>
      rw [stored] at written
      have announced : Announces qualifiers _ _ := announces_statement typed calm indent
      rw [ofWords_of_harmless (harmless_word v.type)] at announced
      rw [Variable.entries, stored, written]
      simpa only [List.append_assoc, List.nil_append, Storage.qualifier?, Option.elim,
        Storage.input?] using announced
  | builtin =>
      rw [Variable.declaration?, stored] at declared
      cases declared

end Reading

end Declaration
end ShaderLoom
