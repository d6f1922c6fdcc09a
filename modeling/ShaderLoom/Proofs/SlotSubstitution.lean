import Mathlib.Data.List.TakeWhile
import ShaderLoom.Association
import ShaderLoom.Proofs.LoweringTotality

/-!
# Code with its slots filled in

Code is cut at its percent signs.  Behind each of them stands a slot name, which goes on as long
as there are letters, digits and underscores, and then text up to the next percent sign.  Every
text can be cut in this way, and in no other (`SlottedCode.spelling_cut`,
`SlottedCode.cut_spelling`).

Filling in the slots of code puts the text of each slot in the place of its percent sign and
name, and keeps everything else (`Node.substitute_eq`).  What is put in is never looked at
again, since the places are those of the code itself.

## Main definitions

* `SlotMark`, `SlottedCode` — a percent sign with what follows it, and code cut at its percent
  signs
* `SlottedCode.write` — the code with something in the place of its slots
* `Node.Fills` — what stands for a slot name

## Main results

* `SlottedCode.cut_spelling` — there is one way to cut a text
* `Node.lowerInline_exact` — the statement of a node whose operation is code
-/

namespace ShaderLoom

/-! ## Cutting code -/

/-- A percent sign in code: the slot name behind it, as long as it goes, and the text up to the
next percent sign. -/
@[ext]
structure SlotMark where
  slot : List Char
  text : List Char
  word : ∀ c ∈ slot, Node.isSlotPart c = true
  plain : '%' ∉ text
  ends : ∀ c ∈ text.head?, Node.isSlotPart c = false

/-- Code, cut at its percent signs. -/
@[ext]
structure SlottedCode where
  opening : List Char
  marks : List SlotMark
  plain : '%' ∉ opening

/-- A percent sign in front of text without percent signs. -/
def SlotMark.before (text : List Char) (plain : '%' ∉ text) : SlotMark where
  slot := text.takeWhile Node.isSlotPart
  text := text.dropWhile Node.isSlotPart
  word := fun _ member => List.mem_takeWhile_imp member
  plain := fun member => plain ((List.dropWhile_sublist _).subset member)
  ends := by
    intro c first
    have stops := List.head?_dropWhile_not Node.isSlotPart text
    rw [Option.mem_def.mp first] at stops
    exact stops

theorem SlotMark.percent_not_mem (mark : SlotMark) : '%' ∉ mark.slot ++ mark.text := by
  rw [List.mem_append, not_or]
  refine ⟨fun member => ?_, mark.plain⟩
  exact absurd (mark.word '%' member) (by decide)

/-- A mark is determined by the text behind its percent sign. -/
theorem SlotMark.before_eq (mark : SlotMark) :
    SlotMark.before (mark.slot ++ mark.text) mark.percent_not_mem = mark := by
  have stops : mark.text.takeWhile Node.isSlotPart = [] ∧
      mark.text.dropWhile Node.isSlotPart = mark.text := by
    cases spelled : mark.text with
    | nil => exact ⟨rfl, rfl⟩
    | cons c rest =>
        have ends : ¬ Node.isSlotPart c = true := by
          rw [mark.ends c (by rw [spelled]; exact rfl)]
          exact Bool.false_ne_true
        exact ⟨List.takeWhile_cons_of_neg ends, List.dropWhile_cons_of_neg ends⟩
  refine SlotMark.ext ?_ ?_
  · change (mark.slot ++ mark.text).takeWhile Node.isSlotPart = mark.slot
    rw [List.takeWhile_append_of_pos mark.word, stops.1, List.append_nil]
  · change (mark.slot ++ mark.text).dropWhile Node.isSlotPart = mark.text
    rw [List.dropWhile_append_of_pos mark.word, stops.2]

namespace SlottedCode

/-- The code with something in the place of each percent sign and slot name. -/
def write (code : SlottedCode) (fill : List Char → List Char) : List Char :=
  code.opening ++ code.marks.flatMap fun mark => fill mark.slot ++ mark.text

/-- The code as it is spelled. -/
def spelling (code : SlottedCode) : List Char :=
  code.write fun slot => '%' :: slot

/-- Cuts a text at its percent signs. -/
def cut : List Char → SlottedCode
  | [] => { opening := [], marks := [], plain := List.not_mem_nil }
  | c :: rest =>
    let code := cut rest
    if percent : c = '%' then
      { opening := []
        marks := .before code.opening code.plain :: code.marks
        plain := List.not_mem_nil }
    else
      { opening := c :: code.opening
        marks := code.marks
        plain := List.not_mem_cons_of_ne_of_not_mem (Ne.symm percent) code.plain }

theorem cut_percent (rest : List Char) :
    (cut ('%' :: rest)).opening = [] ∧ (cut ('%' :: rest)).marks =
      .before (cut rest).opening (cut rest).plain :: (cut rest).marks := by
  rw [cut, dif_pos rfl]
  exact ⟨rfl, rfl⟩

theorem cut_plain {c : Char} (plain : c ≠ '%') (rest : List Char) :
    (cut (c :: rest)).opening = c :: (cut rest).opening ∧
      (cut (c :: rest)).marks = (cut rest).marks := by
  rw [cut, dif_neg plain]
  exact ⟨rfl, rfl⟩

/-- **Every text can be cut.** -/
theorem spelling_cut (text : List Char) : (cut text).spelling = text := by
  induction text with
  | nil => rfl
  | cons c rest ih =>
      rw [spelling, write] at ih ⊢
      by_cases percent : c = '%'
      · subst percent
        obtain ⟨opening, marks⟩ := cut_percent rest
        rw [opening, marks, List.flatMap_cons, SlotMark.before, List.cons_append,
          List.takeWhile_append_dropWhile, List.nil_append, List.cons_append, ih]
      · obtain ⟨opening, marks⟩ := cut_plain percent rest
        rw [opening, marks, List.cons_append, ih]

theorem cut_append {text : List Char} (plain : '%' ∉ text) (rest : List Char) :
    (cut (text ++ rest)).opening = text ++ (cut rest).opening ∧
      (cut (text ++ rest)).marks = (cut rest).marks := by
  induction text with
  | nil => exact ⟨rfl, rfl⟩
  | cons c text ih =>
      rw [List.mem_cons, not_or] at plain
      obtain ⟨opening, marks⟩ := cut_plain (Ne.symm plain.1) (text ++ rest)
      obtain ⟨front, same⟩ := ih plain.2
      rw [List.cons_append, opening, marks, front, same]
      exact ⟨rfl, rfl⟩

/-- The marks of code are found again. -/
theorem cut_flatMap (marks : List SlotMark) :
    (cut (marks.flatMap fun mark => ('%' :: mark.slot) ++ mark.text)).opening = [] ∧
      (cut (marks.flatMap fun mark => ('%' :: mark.slot) ++ mark.text)).marks = marks := by
  induction marks with
  | nil => exact ⟨rfl, rfl⟩
  | cons mark marks ih =>
      rw [List.flatMap_cons, List.cons_append, List.cons_append]
      obtain ⟨opening, cuts⟩ := cut_percent ((mark.slot ++ mark.text) ++
        marks.flatMap fun mark => ('%' :: mark.slot) ++ mark.text)
      obtain ⟨front, same⟩ := cut_append mark.percent_not_mem
        (marks.flatMap fun mark => ('%' :: mark.slot) ++ mark.text)
      refine ⟨opening, ?_⟩
      rw [cuts, same, ih.2]
      refine congrArg (· :: marks) ?_
      rw [ih.1, List.append_nil] at front
      simp only [front, mark.before_eq]

/-- **There is one way to cut a text.** -/
theorem cut_spelling (code : SlottedCode) : cut code.spelling = code := by
  obtain ⟨opening, marks⟩ := cut_append code.plain
    (code.marks.flatMap fun mark => ('%' :: mark.slot) ++ mark.text)
  obtain ⟨first, others⟩ := cut_flatMap code.marks
  refine SlottedCode.ext ?_ ?_
  · rw [spelling, write, opening, first, List.append_nil]
  · rw [spelling, write, marks, others]

end SlottedCode

/-! ## Filling in -/

namespace Node

/-- What stands for a slot name in code: the first input of that name, or else the first output.
A percent sign without a name stands for itself. -/
inductive Fills (node : Node) : (slot text : List Char) → Prop
  | percent : Fills node [] ['%']
  | input {slot : List Char} {operand : Operand} {before after : List (String × Operand)}
      (named : slot ≠ [])
      (inputs : node.inputs = before ++ (String.ofList slot, operand) :: after)
      (first : ∀ entry ∈ before, entry.1 ≠ String.ofList slot) :
    Fills node slot operand.text.toList
  | output {slot : List Char} {v : Variable} {before after : List (String × Variable)}
      (named : slot ≠ []) (noInput : ∀ entry ∈ node.inputs, entry.1 ≠ String.ofList slot)
      (outputs : node.outputs = before ++ (String.ofList slot, v) :: after)
      (first : ∀ entry ∈ before, entry.1 ≠ String.ofList slot) :
    Fills node slot v.name.toList

theorem input?_eq_some_iff {node : Node} {slot : String} {operand : Operand} :
    node.input? slot = some operand ↔ ∃ before after,
      node.inputs = before ++ (slot, operand) :: after ∧ ∀ entry ∈ before, entry.1 ≠ slot := by
  simp only [input?, List.lookup_eq_some_iff, bne_iff_ne, ne_comm]

theorem output?_eq_some_iff {node : Node} {slot : String} {v : Variable} :
    node.output? slot = some v ↔ ∃ before after,
      node.outputs = before ++ (slot, v) :: after ∧ ∀ entry ∈ before, entry.1 ≠ slot := by
  simp only [output?, List.lookup_eq_some_iff, bne_iff_ne, ne_comm]

theorem input?_eq_none_iff {node : Node} {slot : String} :
    node.input? slot = none ↔ ∀ entry ∈ node.inputs, entry.1 ≠ slot := by
  simp only [input?, List.lookup_eq_none_iff, bne_iff_ne, ne_comm]

theorem output?_eq_none_iff {node : Node} {slot : String} :
    node.output? slot = none ↔ ∀ entry ∈ node.outputs, entry.1 ≠ slot := by
  simp only [output?, List.lookup_eq_none_iff, bne_iff_ne, ne_comm]

/-- The text of a slot, or the slot is missing. -/
theorem slotText_cases (node : Node) (slot : List Char) :
    (∃ text, node.slotText slot = .ok text ∧ node.Fills slot text ∧ node.Answers slot) ∨
      (node.slotText slot = .error (node.missing (String.ofList slot)) ∧
        ¬ node.Answers slot) := by
  by_cases named : slot = []
  · subst named
    exact .inl ⟨_, rfl, .percent, .inl rfl⟩
  cases input : node.input? (String.ofList slot) with
  | some operand =>
      have found : node.slotText slot = .ok operand.text.toList := by
        simp [slotText, named, input]
      obtain ⟨before, after, inputs, first⟩ := input?_eq_some_iff.mp input
      refine .inl ⟨_, found, .input named inputs first, .inr (.inl ?_)⟩
      exact List.mem_map.mpr ⟨_, Association.mem_of_lookup input, rfl⟩
  | none =>
      have noInput := input?_eq_none_iff.mp input
      cases output : node.output? (String.ofList slot) with
      | some v =>
          have found : node.slotText slot = .ok v.name.toList := by
            simp [slotText, named, input, output]
          obtain ⟨before, after, outputs, first⟩ := output?_eq_some_iff.mp output
          refine .inl ⟨_, found, .output named noInput outputs first, .inr (.inr ?_)⟩
          exact List.mem_map.mpr ⟨_, Association.mem_of_lookup output, rfl⟩
      | none =>
          have noOutput := output?_eq_none_iff.mp output
          refine .inr ⟨by simp [slotText, named, input, output], ?_⟩
          rintro (empty | among | among)
          · exact named empty
          · obtain ⟨entry, member, same⟩ := List.mem_map.mp among
            exact noInput entry member same
          · obtain ⟨entry, member, same⟩ := List.mem_map.mp among
            exact noOutput entry member same

/-- The texts of marks with their slots filled in, one after another. -/
def fillMarks (node : Node) : List SlotMark → Except Error (List Char)
  | [] => .ok []
  | mark :: rest => do
    let text ← node.slotText mark.slot
    return text ++ mark.text ++ (← node.fillMarks rest)

/-- **The slots of code are filled in one after another**, and the rest of it is kept.  Inside a
slot name, the characters held belong to the name as well. -/
theorem substitute_eq (node : Node) (text : List Char) :
    node.substitute none text = (do
      return (SlottedCode.cut text).opening ++
        (← node.fillMarks (SlottedCode.cut text).marks)) ∧
    ∀ held, node.substitute (some held) text = (do
      let first ← node.slotText
        (held.reverse ++ (SlottedCode.cut text).opening.takeWhile isSlotPart)
      return first ++ (SlottedCode.cut text).opening.dropWhile isSlotPart ++
        (← node.fillMarks (SlottedCode.cut text).marks)) := by
  induction text with
  | nil =>
      refine ⟨rfl, fun held => ?_⟩
      change node.slotText held.reverse = do
        let first ← node.slotText (held.reverse ++ [])
        return first ++ [] ++ []
      rw [List.append_nil]
      cases node.slotText held.reverse with
      | error error => rfl
      | ok first => simp only [List.append_nil]; rfl
  | cons c rest ih =>
      obtain ⟨outside, inside⟩ := ih
      by_cases percent : c = '%'
      · subst percent
        have mark : isSlotPart '%' = false := by decide
        obtain ⟨opening, marks⟩ := SlottedCode.cut_percent rest
        have again : node.substitute (some []) rest =
            node.fillMarks (SlottedCode.cut ('%' :: rest)).marks := by
          rw [inside, marks]
          rfl
        constructor
        · rw [substitute, if_pos rfl, again, opening]
          cases node.fillMarks (SlottedCode.cut ('%' :: rest)).marks <;> rfl
        · intro held
          rw [substitute, mark, opening]
          simp only [again, List.takeWhile_nil, List.dropWhile_nil, List.append_nil]
          rfl
      · obtain ⟨opening, marks⟩ := SlottedCode.cut_plain percent rest
        rw [opening, marks]
        constructor
        · rw [substitute, if_neg percent, outside]
          cases node.fillMarks (SlottedCode.cut rest).marks <;> rfl
        · intro held
          rw [substitute]
          by_cases part : isSlotPart c = true
          · rw [if_pos part, inside, List.takeWhile_cons_of_pos part,
              List.dropWhile_cons_of_pos part, List.reverse_cons, List.append_assoc,
              List.singleton_append]
          · rw [if_neg part, List.takeWhile_cons_of_neg part, List.dropWhile_cons_of_neg part,
              List.append_nil]
            simp only [if_neg percent, outside]
            cases node.slotText held.reverse with
            | error error => rfl
            | ok first =>
                cases node.fillMarks (SlottedCode.cut rest).marks with
                | error error => rfl
                | ok more =>
                    change Except.ok (first ++ c :: _) = Except.ok (first ++ (c :: _) ++ more)
                    rw [List.append_assoc]
                    rfl

/-- What stands for a slot name is determined by it. -/
theorem Fills.slotText_eq {node : Node} {slot text : List Char} (fills : node.Fills slot text) :
    node.slotText slot = .ok text := by
  cases fills with
  | percent => rfl
  | input named inputs first =>
      have found := input?_eq_some_iff.mpr ⟨_, _, inputs, first⟩
      simp [slotText, named, found]
  | output named noInput outputs first =>
      have input := input?_eq_none_iff.mpr noInput
      have found := output?_eq_some_iff.mpr ⟨_, _, outputs, first⟩
      simp [slotText, named, input, found]

/-- Where all slots stand for something, there is a text for each of them. -/
theorem exists_fill {node : Node} {marks : List SlotMark}
    (answers : ∀ mark ∈ marks, node.Answers mark.slot) :
    ∃ fill : List Char → List Char, ∀ mark ∈ marks, node.Fills mark.slot (fill mark.slot) := by
  refine ⟨fun slot => (node.slotText slot).toOption.getD [], fun mark member => ?_⟩
  rcases node.slotText_cases mark.slot with ⟨text, found, fills, _⟩ | ⟨_, absent⟩
  · simp only [found]
    exact fills
  · exact absurd (answers mark member) absent

/-- Marks are filled in with what stands for their slots. -/
theorem fillMarks_of_fills {node : Node} {fill : List Char → List Char} {marks : List SlotMark}
    (fills : ∀ mark ∈ marks, node.Fills mark.slot (fill mark.slot)) :
    node.fillMarks marks = .ok (marks.flatMap fun mark => fill mark.slot ++ mark.text) := by
  induction marks with
  | nil => rfl
  | cons mark rest ih =>
      obtain ⟨here, others⟩ := List.forall_mem_cons.mp fills
      rw [fillMarks, here.slotText_eq, ih others]
      rfl

/-- Filling in ends at the first slot that stands for nothing. -/
theorem fillMarks_of_missing {node : Node} {before after : List SlotMark} {mark : SlotMark}
    (answers : ∀ earlier ∈ before, node.Answers earlier.slot)
    (missing : ¬ node.Answers mark.slot) : node.fillMarks (before ++ mark :: after) =
      .error (node.missing (String.ofList mark.slot)) := by
  induction before with
  | nil =>
      rcases node.slotText_cases mark.slot with ⟨_, _, _, present⟩ | ⟨failed, _⟩
      · exact absurd present missing
      · rw [List.nil_append, fillMarks, failed]
        rfl
  | cons earlier before ih =>
      obtain ⟨here, others⟩ := List.forall_mem_cons.mp answers
      rcases node.slotText_cases earlier.slot with ⟨text, found, _⟩ | ⟨_, absent⟩
      · rw [List.cons_append, fillMarks, found, ih others]
        rfl
      · exact absurd here absent

/-- All slots stand for something, or there is a first one that does not. -/
theorem answers_or_missing (node : Node) (marks : List SlotMark) :
    (∀ mark ∈ marks, node.Answers mark.slot) ∨
    ∃ before mark after, marks = before ++ mark :: after ∧
      (∀ earlier ∈ before, node.Answers earlier.slot) ∧ ¬ node.Answers mark.slot := by
  induction marks with
  | nil => exact .inl (List.forall_mem_nil _)
  | cons mark marks ih =>
      by_cases here : node.Answers mark.slot
      · rcases ih with all | ⟨before, first, after, rfl, answers, missing⟩
        · exact .inl (List.forall_mem_cons.mpr ⟨here, all⟩)
        · exact .inr ⟨mark :: before, first, after, rfl,
            List.forall_mem_cons.mpr ⟨here, answers⟩, missing⟩
      · exact .inr ⟨[], mark, marks, rfl, List.forall_mem_nil _, here⟩

theorem lowerInline_of_fills {node : Node} {code : String} {parts : SlottedCode}
    (spelled : parts.spelling = code.toList) {fill : List Char → List Char}
    (fills : ∀ mark ∈ parts.marks, node.Fills mark.slot (fill mark.slot)) :
    node.lowerInline code = .ok { statements := [String.ofList (parts.write fill)] } := by
  rw [lowerInline, (node.substitute_eq _).1, ← spelled, parts.cut_spelling,
    fillMarks_of_fills fills]
  rfl

theorem lowerInline_of_missing {node : Node} {code : String} {parts : SlottedCode}
    (spelled : parts.spelling = code.toList) {before after : List SlotMark} {mark : SlotMark}
    (marks : parts.marks = before ++ mark :: after)
    (answers : ∀ earlier ∈ before, node.Answers earlier.slot)
    (missing : ¬ node.Answers mark.slot) : node.lowerInline code =
      .error (.missingSlot node.operation.label (String.ofList mark.slot)) := by
  rw [lowerInline, (node.substitute_eq _).1, ← spelled, parts.cut_spelling, marks,
    fillMarks_of_missing answers missing]
  rfl

/-- **The statement of a node whose operation is code.**  The code can be cut at its percent
signs in one way.  There is a statement if and only if every slot name behind a percent sign is
that of an input or an output, and it is the code with what stands for each slot in the place of
its percent sign and name, and nothing else changed.  Otherwise the first slot that is not there
is reported. -/
theorem lowerInline_exact (node : Node) (code : String) :
    ∃ parts : SlottedCode, parts.spelling = code.toList ∧
      (∀ other : SlottedCode, other.spelling = code.toList → other = parts) ∧
      ((∃ lowered, node.lowerInline code = .ok lowered) ↔
        ∀ mark ∈ parts.marks, node.Answers mark.slot) ∧
      (∀ lowered, node.lowerInline code = .ok lowered ↔
        ∃ fill, (∀ mark ∈ parts.marks, node.Fills mark.slot (fill mark.slot)) ∧
          lowered = { statements := [String.ofList (parts.write fill)] }) ∧
      ∀ error, node.lowerInline code = .error error ↔
        ∃ before mark after, parts.marks = before ++ mark :: after ∧
          (∀ earlier ∈ before, node.Answers earlier.slot) ∧ ¬ node.Answers mark.slot ∧
          error = .missingSlot node.operation.label (String.ofList mark.slot) := by
  have spelled := SlottedCode.spelling_cut code.toList
  refine ⟨SlottedCode.cut code.toList, spelled, ?_, ?_⟩
  · intro other same
    rw [← same, other.cut_spelling]
  · rcases node.answers_or_missing (SlottedCode.cut code.toList).marks with
      all | ⟨before, mark, after, marks, answers, missing⟩
    · obtain ⟨fill, fills⟩ := exists_fill all
      have done := lowerInline_of_fills spelled fills
      refine ⟨⟨fun _ => all, fun _ => ⟨_, done⟩⟩, fun lowered => ⟨?_, ?_⟩,
        fun error => ⟨?_, ?_⟩⟩
      · intro same
        exact ⟨fill, fills, Except.ok.inj (same.symm.trans done)⟩
      · rintro ⟨other, also, rfl⟩
        exact lowerInline_of_fills spelled also
      · intro failed
        rw [done] at failed
        cases failed
      · rintro ⟨before, mark, after, marks, _, missing, _⟩
        exact absurd (all mark (by rw [marks]; simp)) missing
    · have member : mark ∈ (SlottedCode.cut code.toList).marks := by rw [marks]; simp
      have failed := lowerInline_of_missing spelled marks answers missing
      refine ⟨⟨?_, ?_⟩, fun lowered => ⟨?_, ?_⟩, fun error => ⟨?_, ?_⟩⟩
      · rintro ⟨lowered, done⟩
        rw [failed] at done
        cases done
      · intro all
        exact absurd (all mark member) missing
      · intro done
        rw [failed] at done
        cases done
      · rintro ⟨fill, fills, rfl⟩
        exact lowerInline_of_fills spelled fills
      · intro same
        exact ⟨before, mark, after, marks, answers, missing,
          Except.error.inj (same.symm.trans failed)⟩
      · rintro ⟨before, mark, after, marks, answers, missing, rfl⟩
        exact lowerInline_of_missing spelled marks answers missing

-- The longest name counts, an input comes before an output, and what is filled in is not read
-- again.
example : lowerInline
    { operation := .normalize
      inputs := [("light1", .literal "%out"), ("light10", .literal "b"), ("both", .literal "é")]
      outputs := [("out", { name := "c", type := .vec3, storage := .temporary }),
        ("both", { name := "d", type := .vec3, storage := .temporary })] }
    "%out = %light10 + %light1 %% %both%" = .ok { statements := ["c = b + %out %% é%"] } := by
  decide +kernel

end Node
end ShaderLoom
