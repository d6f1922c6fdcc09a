import ShaderLoom.Proofs.DeclarationLines
import ShaderLoom.Proofs.SnippetRendering
import ShaderLoom.Stage.Source

/-!
# Snippets declare nothing

Nothing in a helper is taken for a declaration of the program, whatever its parameters are.
This is seen from the template of the helper, before it is filled in.

A reader goes over a text and keeps track of the statement it is in: whether the first word is
still being read, and then whether that word could open a declaration.  It stops at anything it
cannot be sure of.  The lines of a text that it reads to the end say nothing
(`Reader.announces_of_run`).  The same reader goes over a template: a parameter may stand where
any word would do, both parts of a choice lead to the same place, and a part that is repeated
leads back to where it starts (`Template.track`).  So however the template is filled in, the
text can be read (`Template.run_of_track`).

## Main definitions

* `Reader`, `Reader.step`, `Reader.run` — the reader
* `Reader.Moves` — what the reader does within a line of code
* `Reader.Fits` — what the reader knows about the statement it is in
* `Template.track` — the reader on templates

## Main results

* `Reader.announces_of_run` — texts that can be read say nothing
* `Template.run_of_track` — templates that can be read give texts that can be read
* `Helper.Stock.announces` — the helpers of generated shaders say nothing
-/

namespace ShaderLoom

open Declaration (Announces Keeps Harmless inCode inStatement isBrace isDirective)
open Text (cutAt isBlank words)
open Glsl (CommentFree stripComments)

/-! ## The reader -/

/-- Where the reader of a text is. -/
inductive Reader where
  /-- At the start of a line. -/
  | start
  /-- After a slash at the start of a line. -/
  | opener
  /-- In a line that is a comment. -/
  | comment
  /-- Between statements. -/
  | idle
  /-- In the first word of a statement, whose letters are held newest first. -/
  | word (held : List Char)
  /-- In a statement that declares nothing. -/
  | decided
  /-- After a slash in such a statement. -/
  | slash
  deriving DecidableEq

namespace Reader

/-- Whether a character separates statements. -/
def isStop (c : Char) : Bool :=
  c == ';' || isBrace c

/-- Whether a word opens no declaration. -/
def isHarmless (word : List Char) : Bool :=
  word != ['u', 'n', 'i', 'f', 'o', 'r', 'm'] &&
    word != ['a', 't', 't', 'r', 'i', 'b', 'u', 't', 'e']

/-- Reads a character between statements.  Here a hash sign would open a directive. -/
def next (c : Char) : Option Reader :=
  if c = '\n' then some start
  else if isStop c || isBlank c then some idle
  else if c = '/' ∨ c = '#' then none
  else some (word [c])

/-- Reads a character.  Lines end between statements or in comments. -/
def step : Reader → Char → Option Reader
  | start, c => if c = '/' then some opener else next c
  | opener, c => if c = '/' then some comment else none
  | comment, c => some (if c = '\n' then start else comment)
  | idle, c => next c
  | word held, c =>
    if isStop c then some idle
    else if c = '\n' ∨ c = '/' then none
    else if isBlank c then if isHarmless held.reverse then some decided else none
    else some (word (c :: held))
  | decided, c =>
    if isStop c then some idle
    else if c = '\n' then none
    else some (if c = '/' then slash else decided)
  | slash, c => if c = ' ' then some decided else none

/-- Reads a text. -/
def run (state : Reader) (text : List Char) : Option Reader :=
  text.foldlM step state

/-- Whether a text may end here. -/
def isSettled : Reader → Bool
  | start => true
  | comment => true
  | idle => true
  | _ => false

theorem run_cons {state final : Reader} {c : Char} {text : List Char} :
    run state (c :: text) = some final ↔
      ∃ middle, step state c = some middle ∧ run middle text = some final := by
  rw [run, List.foldlM_cons]
  exact Option.bind_eq_some_iff

theorem run_append {state final : Reader} {front back : List Char} :
    run state (front ++ back) = some final ↔
      ∃ middle, run state front = some middle ∧ run middle back = some final := by
  rw [run, List.foldlM_append]
  exact Option.bind_eq_some_iff

/-- Lines end where texts may end. -/
theorem step_newline {state later : Reader} (reads : step state '\n' = some later) :
    state.isSettled = true ∧ later = start := by
  cases state with
  | start | comment | idle =>
      cases reads
      exact ⟨rfl, rfl⟩
  | opener | word | decided | slash => cases reads

/-- Whether the reader is in code. -/
def isCode : Reader → Bool
  | start => false
  | opener => false
  | comment => false
  | _ => true

/-- What a character of code does. -/
inductive Moves (c : Char) : Reader → Reader → Prop
  | stop {state : Reader} (stop : isStop c = true) (settled : state ≠ slash) :
      Moves c state idle
  | blank (blank : isBlank c = true) : Moves c idle idle
  | first (kept : ¬ isStop c = true) (solid : isBlank c = false) (plain : c ≠ '/') :
      Moves c idle (word [c])
  | letter {held : List Char} (kept : ¬ isStop c = true) (solid : isBlank c = false)
      (plain : c ≠ '/') : Moves c (word held) (word (c :: held))
  | decide {held : List Char} (blank : isBlank c = true)
      (harmless : isHarmless held.reverse = true) : Moves c (word held) decided
  | more (kept : ¬ isStop c = true) (plain : c ≠ '/') : Moves c decided decided
  | pause (opens : c = '/') : Moves c decided slash
  | resume (space : c = ' ') : Moves c slash decided

theorem not_isStop_of_isBlank {c : Char} (blank : isBlank c = true) : ¬ isStop c = true := by
  rw [isStop, Declaration.isBrace_of_isBlank blank, Bool.or_false, beq_iff_eq]
  rintro rfl
  cases blank

/-- **What the reader does within a line of code.** -/
theorem moves_of_step {state later : Reader} {c : Char} (reads : step state c = some later)
    (line : c ≠ '\n') (code : state.isCode = true) : Moves c state later := by
  cases state with
  | start | opener | comment => cases code
  | idle =>
      rw [step, next, if_neg line] at reads
      by_cases stop : isStop c = true
      · rw [stop] at reads
        cases reads
        exact .stop stop Reader.noConfusion
      · by_cases blank : isBlank c = true
        · rw [blank, Bool.or_true] at reads
          cases reads
          exact .blank blank
        · rw [if_neg (by simp [stop, blank])] at reads
          split at reads
          · cases reads
          · rename_i other
            cases reads
            exact .first stop (Bool.eq_false_iff.mpr blank) fun same => other (.inl same)
  | word held =>
      rw [step] at reads
      split at reads
      · rename_i stop
        cases reads
        exact .stop stop Reader.noConfusion
      · rename_i kept
        split at reads
        · cases reads
        · rename_i other
          split at reads
          · rename_i blank
            split at reads
            · rename_i harmless
              cases reads
              exact .decide blank harmless
            · cases reads
          · rename_i blank
            cases reads
            exact .letter kept (Bool.eq_false_iff.mpr blank) fun same => other (.inr same)
  | decided =>
      rw [step, if_neg line] at reads
      split at reads
      · rename_i stop
        cases reads
        exact .stop stop Reader.noConfusion
      · rename_i kept
        by_cases opens : c = '/'
        · rw [if_pos opens] at reads
          cases reads
          exact .pause opens
        · rw [if_neg opens] at reads
          cases reads
          exact .more kept opens
  | slash =>
      rw [step] at reads
      split at reads
      · rename_i space
        cases reads
        exact .resume space
      · cases reads

theorem Moves.isCode {state later : Reader} {c : Char} (moves : Moves c state later) :
    later.isCode = true := by
  cases moves <;> rfl

/-- Blanks do not lead out of a statement. -/
theorem Moves.isSettled {state later : Reader} {c : Char} (moves : Moves c state later)
    (blank : isBlank c = true) (settled : later.isSettled = true) : state.isSettled = true := by
  cases moves with
  | stop stop => exact absurd stop (not_isStop_of_isBlank blank)
  | blank | first => rfl
  | letter | decide | more | pause | resume => cases settled

/-! ## Code -/

theorem harmless_of_isHarmless {word : List Char} (harmless : isHarmless word = true) :
    Harmless word := by
  rw [isHarmless, Bool.and_eq_true, bne_iff_ne, bne_iff_ne] at harmless
  intro qualifier
  cases qualifier with
  | uniform => exact harmless.1.symm
  | attr => exact harmless.2.symm

/-- What the reader knows about the start of a statement. -/
def Fits (qualifiers : List Qualifier) : Reader → List Char → Prop
  | idle, pending =>
    ∀ more, inStatement qualifiers (pending ++ more) = inStatement qualifiers more
  | word held, pending => held ≠ [] ∧ (∀ c ∈ held, isBlank c = false ∧ isBrace c = false) ∧
      ∀ more, inStatement qualifiers (pending ++ more) =
        inStatement qualifiers (held.reverse ++ more)
  | decided, pending => ∀ more, (∀ c ∈ more, isBrace c = false) →
      inStatement qualifiers (pending ++ more) = []
  | slash, pending => ∀ more, (∀ c ∈ more, isBrace c = false) →
      inStatement qualifiers (pending ++ more) = []
  | _, _ => False

section Code

variable {qualifiers : List Qualifier}

theorem inStatement_nil : inStatement qualifiers [] = [] :=
  rfl

theorem not_isStop {c : Char} (kept : ¬ isStop c = true) : c ≠ ';' ∧ isBrace c = false := by
  rw [isStop, Bool.or_eq_true, beq_iff_eq, not_or, Bool.not_eq_true] at kept
  exact kept

section Fits

variable {state : Reader} {held pending : List Char} {c : Char}

theorem Fits.letters (fits : Fits qualifiers (word held) pending) : held.reverse ≠ [] ∧
    (∀ d ∈ held.reverse, isBlank d = false) ∧ ∀ d ∈ held.reverse, isBrace d = false := by
  obtain ⟨some, letters, _⟩ := fits
  refine ⟨fun none => some (List.reverse_eq_nil_iff.mp none), fun d member => ?_,
    fun d member => ?_⟩
  · exact (letters d (List.mem_reverse.mp member)).1
  · exact (letters d (List.mem_reverse.mp member)).2

/-- What the reader has read of a statement declares nothing. -/
theorem Fits.silent (fits : Fits qualifiers state pending) :
    inStatement qualifiers pending = [] := by
  rw [← List.append_nil pending]
  cases state with
  | start | opener | comment => cases fits
  | idle => rw [fits, inStatement_nil]
  | word held =>
      obtain ⟨some, solid, plain⟩ := fits.letters
      rw [fits.2.2, List.append_nil, Declaration.inStatement_of_not_brace plain,
        Text.Solid.words_eq ⟨some, solid⟩, Declaration.ofWords]
      split <;> rfl
  | decided | slash => exact fits [] (List.forall_mem_nil _)

/-- A blank between statements. -/
theorem Fits.blank (fits : Fits qualifiers idle pending) (blank : isBlank c = true) :
    Fits qualifiers idle (pending ++ [c]) := by
  intro more
  rw [List.append_assoc, fits]
  exact Declaration.inStatement_cons_blank blank more

/-- The first letter of a statement. -/
theorem Fits.first (fits : Fits qualifiers idle pending) (solid : isBlank c = false)
    (plain : isBrace c = false) : Fits qualifiers (word [c]) (pending ++ [c]) := by
  refine ⟨List.cons_ne_nil _ _, List.forall_mem_singleton.mpr ⟨solid, plain⟩, fun more => ?_⟩
  rw [List.append_assoc, fits]
  rfl

/-- One more letter of the first word. -/
theorem Fits.letter (fits : Fits qualifiers (word held) pending) (solid : isBlank c = false)
    (plain : isBrace c = false) : Fits qualifiers (word (c :: held)) (pending ++ [c]) := by
  obtain ⟨_, letters, same⟩ := fits
  refine ⟨List.cons_ne_nil _ _, List.forall_mem_cons.mpr ⟨⟨solid, plain⟩, letters⟩,
    fun more => ?_⟩
  rw [List.append_assoc, same, List.reverse_cons, List.append_assoc]

/-- The end of a first word that opens no declaration. -/
theorem Fits.decide (fits : Fits qualifiers (word held) pending) (blank : isBlank c = true)
    (harmless : isHarmless held.reverse = true) : Fits qualifiers decided (pending ++ [c]) := by
  intro more free
  obtain ⟨some, solid, plain⟩ := fits.letters
  have all : ∀ d ∈ held.reverse ++ c :: more, isBrace d = false :=
    List.forall_mem_append.mpr
      ⟨plain, List.forall_mem_cons.mpr ⟨Declaration.isBrace_of_isBlank blank, free⟩⟩
  rw [List.append_assoc, fits.2.2, List.singleton_append,
    Declaration.inStatement_of_not_brace all, Text.words_append ⟨some, solid⟩ blank,
    Declaration.ofWords_of_harmless (harmless_of_isHarmless harmless)]

/-- One more character of a statement that declares nothing. -/
theorem Fits.more (fits : Fits qualifiers decided pending) (plain : isBrace c = false) :
    Fits qualifiers decided (pending ++ [c]) := by
  intro more free
  rw [List.append_assoc]
  exact fits _ (List.forall_mem_cons.mpr ⟨plain, free⟩)

/-- At the end of a statement, the reader is between statements. -/
theorem Fits.stop (fits : Fits qualifiers state pending) (stop : isStop c = true) :
    ∃ later, Fits qualifiers idle later ∧
      ∀ rest, inCode qualifiers pending (c :: rest) = inCode qualifiers later rest := by
  by_cases semicolon : c = ';'
  · refine ⟨[], fun _ => rfl, fun rest => ?_⟩
    rw [inCode, if_pos semicolon, fits.silent]
    rfl
  · rw [isStop, Bool.or_eq_true, beq_iff_eq] at stop
    refine ⟨pending ++ [c], fun more => ?_, fun rest => ?_⟩
    · rw [List.append_assoc]
      exact Declaration.inStatement_brace (stop.resolve_left semicolon) pending more
    · rw [inCode, if_neg semicolon]

/-- Within a statement, what is pending grows. -/
theorem Fits.grows (fits : Fits qualifiers state (pending ++ [c])) (kept : ¬ isStop c = true) :
    ∃ later, Fits qualifiers state later ∧
      ∀ rest, inCode qualifiers pending (c :: rest) = inCode qualifiers later rest := by
  refine ⟨pending ++ [c], fits, fun rest => ?_⟩
  rw [inCode, if_neg (not_isStop kept).1]

end Fits

theorem Fits.isCode {state : Reader} {pending : List Char}
    (fits : Fits qualifiers state pending) : state.isCode = true := by
  cases state with
  | start | opener | comment => cases fits
  | _ => rfl

/-- **One character of code declares nothing.** -/
theorem exists_fits_step {state later : Reader} {c : Char} (reads : step state c = some later)
    (line : c ≠ '\n') {pending : List Char} (fits : Fits qualifiers state pending) :
    ∃ after, Fits qualifiers later after ∧
      ∀ rest, inCode qualifiers pending (c :: rest) = inCode qualifiers after rest := by
  cases moves_of_step reads line fits.isCode with
  | stop stop => exact fits.stop stop
  | blank blank => exact (fits.blank blank).grows (not_isStop_of_isBlank blank)
  | first kept solid => exact (fits.first solid (not_isStop kept).2).grows kept
  | letter kept solid => exact (fits.letter solid (not_isStop kept).2).grows kept
  | decide blank harmless =>
      exact (fits.decide blank harmless).grows (not_isStop_of_isBlank blank)
  | more kept => exact (fits.more (not_isStop kept).2).grows kept
  | pause opens =>
      subst opens
      have later : Fits qualifiers slash (pending ++ ['/']) := fits.more rfl
      exact later.grows (by decide)
  | resume space =>
      subst space
      have earlier : Fits qualifiers decided pending := fits
      exact (earlier.more rfl).grows (by decide)

/-- **Code that can be read declares nothing.** -/
theorem exists_fits_run {state final : Reader} {line : List Char}
    (reads : run state line = some final) (single : '\n' ∉ line) {pending : List Char}
    (fits : Fits qualifiers state pending) :
    ∃ after, Fits qualifiers final after ∧
      ∀ rest, inCode qualifiers pending (line ++ rest) = inCode qualifiers after rest := by
  induction line generalizing state pending with
  | nil =>
      cases reads
      exact ⟨pending, fits, fun _ => rfl⟩
  | cons c line ih =>
      rw [List.mem_cons, not_or] at single
      obtain ⟨middle, first, others⟩ := run_cons.mp reads
      obtain ⟨later, fitsLater, readsFirst⟩ := exists_fits_step first (Ne.symm single.1) fits
      obtain ⟨after, fitsAfter, readsOthers⟩ := ih others single.2 fitsLater
      refine ⟨after, fitsAfter, fun rest => ?_⟩
      rw [List.cons_append, readsFirst, readsOthers]

/-! ## Lines -/

/-- The slash that was just read. -/
def lead : Reader → List Char
  | slash => ['/']
  | _ => []

/-- A slash is kept in mind until a space follows. -/
theorem Moves.lead {state later : Reader} {c : Char} (moves : Moves c state later) :
    later.lead = [] ∧ c ≠ '/' ∧ CommentFree (state.lead ++ [c]) ∨
      state.lead = [] ∧ later.lead = [c] := by
  have plain : c ≠ '/' → c ≠ '/' ∧ CommentFree [c] :=
    fun other => ⟨other, Glsl.commentFree_nil.cons other⟩
  cases moves with
  | stop stop settled =>
      have none : state.lead = [] := by
        cases state with
        | slash => exact absurd rfl settled
        | _ => rfl
      rw [none]
      refine .inl ⟨rfl, plain ?_⟩
      rintro rfl
      cases stop
  | blank blank | decide blank =>
      refine .inl ⟨rfl, plain ?_⟩
      rintro rfl
      cases blank
  | first _ _ other | letter _ _ other | more _ other => exact .inl ⟨rfl, plain other⟩
  | pause opens =>
      subst opens
      exact .inr ⟨rfl, rfl⟩
  | resume space =>
      subst space
      exact .inl ⟨rfl, by decide, by decide, by decide⟩

/-- Code that can be read opens no comment. -/
theorem commentFree_of_run {state final : Reader} {line : List Char}
    (reads : run state line = some final) (settled : final.isSettled = true)
    (single : '\n' ∉ line) (code : state.isCode = true) : CommentFree (state.lead ++ line) := by
  induction line generalizing state with
  | nil =>
      cases reads
      cases final with
      | slash => cases settled
      | _ => exact Glsl.commentFree_nil
  | cons c line ih =>
      rw [List.mem_cons, not_or] at single
      obtain ⟨middle, first, others⟩ := run_cons.mp reads
      have moves := moves_of_step first (Ne.symm single.1) code
      have known := ih others single.2 moves.isCode
      rcases moves.lead with ⟨none, other, here⟩ | ⟨none, slash⟩
      · rw [none, List.nil_append] at known
        rw [← List.singleton_append, ← List.append_assoc]
        refine here.append known ?_
        rintro ⟨front, whole⟩
        exact other (List.cons.inj (List.append_inj' whole rfl).2).1.symm
      · rw [slash] at known
        rw [none]
        exact known

/-- Code that can be read is no directive. -/
theorem isDirective_of_run {final : Reader} {line : List Char}
    (reads : run idle line = some final) (single : '\n' ∉ line) : isDirective line = false := by
  induction line with
  | nil => rfl
  | cons c line ih =>
      rw [List.mem_cons, not_or] at single
      obtain ⟨middle, first, others⟩ := run_cons.mp reads
      rw [step, next, if_neg (Ne.symm single.1)] at first
      by_cases blank : isBlank c = true
      · rw [blank, Bool.or_true] at first
        cases first
        rw [isDirective, Text.trimStart, List.dropWhile_cons_of_pos blank]
        exact ih others single.2
      · rw [isDirective, Text.trimStart, List.dropWhile_cons_of_neg blank, List.head?_cons]
        refine beq_false_of_ne fun same => ?_
        cases Option.some.inj same
        cases first

/-- Comments say nothing. -/
theorem announces_comment {text : List Char} (single : '\n' ∉ text) :
    Announces qualifiers ('/' :: '/' :: text) [] := by
  have all : ∀ c ∈ text, (c != '\n') = true := by
    intro c member
    rw [bne_iff_ne]
    rintro rfl
    exact single member
  have whole : '\n' ∉ '/' :: '/' :: text := by
    simp only [List.mem_cons, not_or]
    exact ⟨by decide, by decide, single⟩
  refine ⟨[], ⟨whole, List.not_mem_nil, ?_, fun rest => ?_⟩, fun rest => ?_⟩
  · rw [stripComments, Glsl.afterLineComment, List.dropWhile_eq_nil_iff.mpr all, stripComments]
  · rw [List.cons_append, List.cons_append, stripComments, Glsl.afterLineComment,
      List.dropWhile_append_of_pos all, List.dropWhile_cons_of_neg (by decide),
      Glsl.stripComments_cons (by decide)]
    rfl
  · exact Declaration.inCode_cons_blank (by decide) rest

/-- Code that can be read says nothing. -/
theorem announces_code {final : Reader} {line : List Char} (reads : run idle line = some final)
    (settled : final.isSettled = true) (single : '\n' ∉ line) :
    Announces qualifiers line [] := by
  have fits : Fits qualifiers idle [] := fun _ => rfl
  obtain ⟨after, fitsAfter, code⟩ := exists_fits_run reads single fits
  refine ⟨line, Declaration.keeps_of_commentFree (commentFree_of_run reads settled single rfl)
    single, fun rest => ?_⟩
  rw [Declaration.shown, isDirective_of_run reads single, if_neg Bool.false_ne_true,
    List.cons_append, Declaration.inCode_cons_blank (by decide), code]
  cases final with
  | idle =>
      have same : inCode qualifiers after rest = inCode qualifiers [] rest :=
        Declaration.inCode_congr (fun more => fitsAfter more) rest
      exact same
  | start | comment => cases fitsAfter
  | _ => cases settled

/-- **A line that can be read says nothing.** -/
theorem announces_of_run_line {final : Reader} {line : List Char}
    (reads : run start line = some final) (settled : final.isSettled = true)
    (single : '\n' ∉ line) : Announces qualifiers line [] := by
  cases line with
  | nil => exact announces_code rfl rfl single
  | cons c line =>
      obtain ⟨middle, first, others⟩ := run_cons.mp reads
      rw [step] at first
      split at first
      · rename_i slash
        cases first
        cases line with
        | nil =>
            cases others
            cases settled
        | cons d line =>
            obtain ⟨later, second, _⟩ := run_cons.mp others
            rw [step] at second
            split at second
            · rename_i again
              subst slash again
              simp only [List.mem_cons, not_or] at single
              exact announces_comment single.2.2
            · cases second
      · have same : step idle c = some middle := first
        exact announces_code (run_cons.mpr ⟨middle, same, others⟩) settled single

/-- **The lines of a text that can be read say nothing.** -/
theorem announces_of_run {text : List Char} {final : Reader}
    (reads : run start text = some final) (settled : final.isSettled = true) :
    ∀ line ∈ cutAt '\n' text, Announces qualifiers line [] := by
  induction text using Text.line_induction with
  | last line single =>
      rw [Text.cutAt_of_not_mem single]
      exact List.forall_mem_singleton.mpr (announces_of_run_line reads settled single)
  | more line rest single ih =>
      obtain ⟨middle, first, others⟩ := run_append.mp reads
      obtain ⟨later, ends, others⟩ := run_cons.mp others
      obtain ⟨settledFirst, rfl⟩ := step_newline ends
      rw [Text.cutAt_append, Text.cutAt_of_not_mem single, List.singleton_append,
        List.forall_mem_cons]
      exact ⟨announces_of_run_line first settledFirst single, ih others⟩

end Code

/-- Blanks at the end of a text do not matter. -/
theorem isSettled_of_run_blanks {state final : Reader} {blanks : List Char}
    (all : ∀ c ∈ blanks, isBlank c = true) (reads : run state blanks = some final)
    (settled : final.isSettled = true) : state.isSettled = true := by
  induction blanks generalizing state with
  | nil =>
      cases reads
      exact settled
  | cons c blanks ih =>
      obtain ⟨blank, others⟩ := List.forall_mem_cons.mp all
      obtain ⟨middle, first, later⟩ := run_cons.mp reads
      have settledMiddle := ih others later
      by_cases newline : c = '\n'
      · subst newline
        exact (step_newline first).1
      cases state with
      | start | comment | idle => rfl
      | opener =>
          rw [step] at first
          split at first
          · rename_i slash
            subst slash
            cases blank
          · cases first
      | word | decided | slash =>
          exact (moves_of_step first newline rfl).isSettled blank settledMiddle

theorem run_trimEnd {text : List Char} {final : Reader} (reads : run start text = some final)
    (settled : final.isSettled = true) :
    ∃ earlier, run start (Text.trimEnd text) = some earlier ∧ earlier.isSettled = true := by
  have parts : text = Text.trimEnd text ++ (text.reverse.takeWhile isBlank).reverse := by
    rw [Text.trimEnd, ← List.reverse_append, List.takeWhile_append_dropWhile,
      List.reverse_reverse]
  rw [parts] at reads
  obtain ⟨earlier, first, blanks⟩ := run_append.mp reads
  refine ⟨earlier, first, isSettled_of_run_blanks ?_ blanks settled⟩
  intro c member
  exact List.mem_takeWhile_imp (List.mem_reverse.mp member)

/-! ## Templates -/

/-- Reads a word that is filled in: in a comment, or in a statement that declares nothing. -/
def fill : Reader → Option Reader
  | comment => some comment
  | decided => some decided
  | _ => none

theorem run_of_fill {state later : Reader} (filled : state.fill = some later) {text : List Char}
    (parts : ∀ c ∈ text, Node.isSlotPart c = true) : run state text = some later := by
  -- Filling in leads back to the same place, and so does each letter.
  have stays : state = later ∧ ∀ c, Node.isSlotPart c = true → step state c = some state := by
    cases state with
    | comment =>
        cases filled
        refine ⟨rfl, fun c part => ?_⟩
        rw [step, if_neg (Text.ne_of_isSlotPart part (by decide))]
    | decided =>
        cases filled
        refine ⟨rfl, fun c part => ?_⟩
        have kept : ¬ isStop c = true := by
          rw [isStop, isBrace, Bool.or_eq_true, Bool.or_eq_true, beq_iff_eq,
            beq_iff_eq, beq_iff_eq]
          rintro (same | same | same) <;> exact Text.ne_of_isSlotPart part (by decide) same
        rw [step, if_neg kept, if_neg (Text.ne_of_isSlotPart part (by decide)),
          if_neg (Text.ne_of_isSlotPart part (by decide))]
    | _ => cases filled
  obtain ⟨rfl, letters⟩ := stays
  induction text with
  | nil => rfl
  | cons c text ih =>
      obtain ⟨part, others⟩ := List.forall_mem_cons.mp parts
      exact run_cons.mpr ⟨state, letters c part, ih others⟩

/-- Rounds that lead back to where they start can be repeated. -/
theorem run_rounds {state : Reader} {rounds : List (List String)}
    (each : ∀ round ∈ rounds, run state (round.flatMap String.toList) = some state) :
    run state (rounds.flatten.flatMap String.toList) = some state := by
  induction rounds with
  | nil => rfl
  | cons round rounds ih =>
      obtain ⟨first, others⟩ := List.forall_mem_cons.mp each
      rw [List.flatten_cons, List.flatMap_append]
      exact run_append.mpr ⟨state, first, ih others⟩

end Reader

namespace Template

open Reader (run)

/-- Where the reader gets to on a template, whatever words are filled in. -/
def track : Template → Reader → Option Reader
  | done, state => some state
  | text value rest, state => do
    rest.track (← run state value)
  | emit (.name name) rest, state =>
    -- The progress of a loop is no word.
    if name = "loop" then none else do rest.track (← state.fill)
  | emit _ _, _ => none
  | choose _ yes no rest, state => do
    let first ← yes.track state
    let second ← no.track state
    if first = second then rest.track first else none
  | loop _ (.range _) body rest, state => do
    let after ← body.track state
    if after = state then rest.track state else none
  | loop _ _ _ _, _ => none

/-- Whether a context fills in words only, the state of loops apart. -/
def Wordy (context : Context) : Prop :=
  ∀ name value text, name ≠ "loop" → context.lookup name = some value →
    value.render = .ok text → ∀ c ∈ text.toList, Node.isSlotPart c = true

/-- The items of a range are natural numbers. -/
theorem exists_of_force_range {operand : Expression} {context : Context} {value : Value}
    (forced : (Expression.range operand).force context = .ok value) {items : List Document}
    (listed : value.items = .ok items) : ∀ item ∈ items, ∃ n : Nat, item = .integer n := by
  obtain ⟨found, evaluated, defined⟩ := exists_of_bind_eq_ok forced
  obtain ⟨argument, _, evaluated⟩ := exists_of_bind_eq_ok evaluated
  simp only at evaluated
  split at evaluated
  · cases evaluated
  · obtain ⟨number, _, evaluated⟩ := exists_of_bind_eq_ok evaluated
    obtain ⟨members, ranged, evaluated⟩ := exists_of_bind_eq_ok evaluated
    cases evaluated
    cases defined
    cases listed
    rw [Value.range.eq_def] at ranged
    split at ranged
    · split at ranged
      · cases ranged
      · cases ranged
        intro item member
        obtain ⟨n, _, rfl⟩ := List.mem_map.mp member
        exact ⟨n, rfl⟩
    · cases ranged

/-- A round of a loop over a range fills in words only. -/
theorem Wordy.round {context : Context} (wordy : Wordy context) (name : String) (n : Nat)
    (progress : Value) :
    Wordy ((name, .data (.integer n)) :: ("loop", progress) :: context) := by
  intro other value text free found rendered
  rw [List.lookup_cons] at found
  split at found
  · cases found
    cases rendered
    exact List.all_eq_true.mp (Text.all_isSlotPart_toString n)
  · rw [List.lookup_cons, beq_false_of_ne free] at found
    exact wordy other value text free found rendered

/-- What a name fills in is a word. -/
theorem Wordy.of_force {context : Context} (wordy : Wordy context) {name : String}
    (free : name ≠ "loop") {value : Value}
    (forced : (Expression.name name).force context = .ok value)
    {text : String} (rendered : value.render = .ok text) :
    ∀ c ∈ text.toList, Node.isSlotPart c = true := by
  rw [Expression.force, Expression.evaluate, Context.value?] at forced
  cases found : context.lookup name with
  | some given =>
      rw [found] at forced
      cases forced
      exact wordy name value text free found rendered
  | none =>
      -- Functions cannot be filled in.
      rw [found] at forced
      simp only at forced
      split at forced
      · cases forced
        cases rendered
      · cases forced

/-- A choice gives what one of its parts gives. -/
theorem exists_of_pieces_choose {condition : Expression} {yes no rest : Template}
    {context : Context} {pieces : List String}
    (filled : (choose condition yes no rest).pieces context = .ok pieces) :
    ∃ chosen others, (yes.pieces context = .ok chosen ∨ no.pieces context = .ok chosen) ∧
      rest.pieces context = .ok others ∧ pieces = chosen ++ others := by
  obtain ⟨value, _, filled⟩ := exists_of_bind_eq_ok filled
  simp only at filled
  split at filled
  · obtain ⟨chosen, here, filled⟩ := exists_of_bind_eq_ok filled
    obtain ⟨others, later, same⟩ := exists_of_bind_eq_ok filled
    cases same
    exact ⟨chosen, others, .inl here, later, rfl⟩
  · obtain ⟨chosen, here, filled⟩ := exists_of_bind_eq_ok filled
    obtain ⟨others, later, same⟩ := exists_of_bind_eq_ok filled
    cases same
    exact ⟨chosen, others, .inr here, later, rfl⟩

/-- **A template that can be read gives texts that can be read.** -/
theorem run_of_track {template : Template} : ∀ {context : Context} {state final : Reader}
    {pieces : List String}, Wordy context → template.track state = some final →
      template.pieces context = .ok pieces →
        run state (pieces.flatMap String.toList) = some final := by
  induction template with
  | done =>
      intro context state final pieces _ tracked filled
      cases filled
      exact tracked
  | text value rest ih =>
      intro context state final pieces wordy tracked filled
      obtain ⟨middle, reads, tracked⟩ := Option.bind_eq_some_iff.mp tracked
      obtain ⟨others, filledRest, same⟩ := exists_of_bind_eq_ok filled
      cases same
      rw [List.flatMap_cons, String.toList_ofList]
      exact Reader.run_append.mpr ⟨middle, reads, ih wordy tracked filledRest⟩
  | emit expression rest ih =>
      intro context state final pieces wordy tracked filled
      cases expression with
      | name name =>
          rw [track] at tracked
          split at tracked
          · cases tracked
          · rename_i free
            obtain ⟨middle, fills, tracked⟩ := Option.bind_eq_some_iff.mp tracked
            obtain ⟨value, forced, filled⟩ := exists_of_bind_eq_ok filled
            obtain ⟨text, rendered, filled⟩ := exists_of_bind_eq_ok filled
            obtain ⟨others, filledRest, same⟩ := exists_of_bind_eq_ok filled
            cases same
            rw [List.flatMap_cons]
            refine Reader.run_append.mpr
              ⟨middle, Reader.run_of_fill fills ?_, ih wordy tracked filledRest⟩
            exact wordy.of_force free forced rendered
      | _ => cases tracked
  | choose condition yes no rest ihYes ihNo ihRest =>
      intro context state final pieces wordy tracked filled
      obtain ⟨first, trackedYes, tracked⟩ := Option.bind_eq_some_iff.mp tracked
      obtain ⟨second, trackedNo, tracked⟩ := Option.bind_eq_some_iff.mp tracked
      split at tracked
      · rename_i same
        subst same
        obtain ⟨chosen, others, filledPart, filledRest, rfl⟩ := exists_of_pieces_choose filled
        rw [List.flatMap_append]
        refine Reader.run_append.mpr ⟨first, ?_, ihRest wordy tracked filledRest⟩
        rcases filledPart with filledYes | filledNo
        · exact ihYes wordy trackedYes filledYes
        · exact ihNo wordy trackedNo filledNo
      · cases tracked
  | loop name source body rest ihBody ihRest =>
      intro context state final pieces wordy tracked filled
      cases source with
      | range operand =>
          obtain ⟨after, trackedBody, tracked⟩ := Option.bind_eq_some_iff.mp tracked
          split at tracked
          · rename_i same
            subst same
            obtain ⟨value, forced, filled⟩ := exists_of_bind_eq_ok filled
            obtain ⟨items, listed, filled⟩ := exists_of_bind_eq_ok filled
            obtain ⟨rounds, filledRounds, filled⟩ := exists_of_bind_eq_ok filled
            obtain ⟨others, filledRest, same⟩ := exists_of_bind_eq_ok filled
            cases same
            have each : ∀ round ∈ rounds, run after (round.flatMap String.toList) =
                some after := by
              intro round member
              obtain ⟨⟨item, index⟩, among, filledRound⟩ :=
                exists_of_mem_mapM filledRounds round member
              obtain ⟨n, rfl⟩ :=
                exists_of_force_range forced listed item (List.fst_mem_of_mem_zipIdx among)
              exact ihBody (wordy.round name n _) trackedBody filledRound
            rw [List.flatMap_append]
            exact Reader.run_append.mpr
              ⟨after, Reader.run_rounds each, ihRest wordy tracked filledRest⟩
          · cases tracked
      | _ => cases tracked

end Template

/-! ## Helpers -/

set_option maxRecDepth 100000 in
/-- The built-in snippets can be read, the frame apart. -/
theorem Snippet.exists_track : ∀ entry ∈ Snippet.builtin.tail, ∃ template,
    Template.parse entry.2 = .ok template ∧
      (template.track .start).any Reader.isSettled = true := by
  simp only [Snippet.builtin, List.tail_cons, List.forall_mem_cons]
  refine ⟨?_, ?_, ?_, ?_, ?_, List.forall_mem_nil _⟩
  all_goals
    apply Snippet.exists_template
    · repeat' first
        | apply List.Forall₂.nil
        | apply List.Forall₂.cons
        | apply Snippet.Spells.append
        | exact Snippet.spells_literal rfl
    · decide +kernel

/-- What the library gives for a built-in snippet are the pieces of its template. -/
theorem SnippetLibrary.exists_pieces {name source : String}
    (known : (name, source) ∈ Snippet.builtin) {template : Template}
    (parsed : Template.parse source = .ok template) {context : Template.Context}
    {text : String} (rendered : SnippetLibrary.render {} name context = .ok text) :
    ∃ pieces, template.pieces context = .ok pieces ∧ text = String.join pieces := by
  have found : SnippetLibrary.template {} name = .ok template :=
    SnippetLibrary.template_builtin rfl known parsed
  rw [SnippetLibrary.render, found] at rendered
  obtain ⟨_, same, rendered⟩ := exists_of_bind_eq_ok rendered
  cases same
  cases filled : template.pieces context with
  | error fault =>
      rw [Template.render, filled] at rendered
      cases rendered
  | ok pieces =>
      rw [Template.render, filled] at rendered
      cases rendered
      exact ⟨pieces, rfl, rfl⟩

/-- The text of a helper is made of the pieces of its template, without the blanks at its
end. -/
theorem Compiler.exists_pieces_of_renderHelper {compiler : Compiler}
    (plain : compiler.library = {}) {helper : Helper} {source : String}
    (known : (helper.snippet, source) ∈ Snippet.builtin) {template : Template}
    (parsed : Template.parse source = .ok template) {text : String}
    (rendered : compiler.renderHelper helper = .ok text) :
    ∃ pieces, template.pieces helper.context = .ok pieces ∧
      text.toList = Text.trimEnd (pieces.flatMap String.toList) := by
  obtain ⟨whole, untrimmed, trimmed⟩ := exists_of_bind_eq_ok rendered
  cases trimmed
  rw [plain, SnippetLibrary.renderHelper] at untrimmed
  obtain ⟨pieces, filled, rfl⟩ := SnippetLibrary.exists_pieces known parsed untrimmed
  refine ⟨pieces, filled, ?_⟩
  rw [String.toList_ofList, String.toList_join]

/-- Parameters that are words fill in words. -/
theorem Helper.wordy_context {helper : Helper}
    (words : ∀ parameter ∈ helper.parameters, ∀ c ∈ parameter.2.toList,
      Node.isSlotPart c = true) :
    Template.Wordy helper.context := by
  intro name value text _ found rendered
  have member := Association.mem_of_lookup found
  rw [Helper.context] at member
  obtain ⟨parameter, among, same⟩ := List.mem_map.mp member
  cases same
  cases rendered
  exact words parameter (List.mem_reverse.mp among)

theorem Helper.Stock.mem_builtin {helper : Helper} (stock : helper.Stock) :
    ∃ source, (helper.snippet, source) ∈ Snippet.builtin.tail := by
  cases stock with
  | lighting => exact ⟨Snippet.lighting, by simp [Snippet.builtin]⟩
  | shadow => exact ⟨Snippet.shadow, by simp [Snippet.builtin]⟩
  | billboard => exact ⟨Snippet.billboard, by simp [Snippet.builtin]⟩
  | morphing => exact ⟨Snippet.morphing, by simp [Snippet.builtin]⟩
  | skinning => exact ⟨Snippet.skinning, by simp [Snippet.builtin]⟩

theorem Helper.Stock.words {helper : Helper} (stock : helper.Stock) :
    ∀ parameter ∈ helper.parameters, ∀ c ∈ parameter.2.toList, Node.isSlotPart c = true := by
  have numeral := fun n => List.all_eq_true.mp (Text.all_isSlotPart_toString n)
  cases stock with
  | lighting kind =>
      refine List.forall_mem_singleton.mpr ?_
      cases kind <;> exact List.all_eq_true.mp rfl
  | shadow technique =>
      refine List.forall_mem_singleton.mpr ?_
      cases technique <;> exact List.all_eq_true.mp rfl
  | billboard => exact List.forall_mem_nil _
  | @morphing count _ => exact List.forall_mem_singleton.mpr (numeral count)
  | skinning bones =>
      refine List.forall_mem_cons.mpr ⟨List.all_eq_true.mp rfl, ?_⟩
      exact List.forall_mem_singleton.mpr (numeral bones)

/-- **The helpers of generated shaders declare nothing**: no line of theirs says anything. -/
theorem Helper.Stock.announces {helper : Helper} (stock : helper.Stock) {compiler : Compiler}
    (plain : compiler.library = {}) {text : String}
    (rendered : compiler.renderHelper helper = .ok text) (qualifiers : List Qualifier) :
    ∀ line ∈ cutAt '\n' text.toList, Announces qualifiers line [] := by
  obtain ⟨source, known⟩ := stock.mem_builtin
  obtain ⟨template, parsed, tracked⟩ := Snippet.exists_track _ known
  obtain ⟨final, tracked, settled⟩ := (Option.any_eq_true _ _).mp tracked
  obtain ⟨pieces, filled, spelled⟩ := Compiler.exists_pieces_of_renderHelper plain
    (List.mem_of_mem_tail known) parsed rendered
  have reads := Template.run_of_track (Helper.wordy_context stock.words) tracked filled
  obtain ⟨earlier, reads, settled⟩ := Reader.run_trimEnd reads settled
  rw [spelled]
  exact Reader.announces_of_run reads settled

end ShaderLoom
