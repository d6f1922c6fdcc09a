import ShaderLoom.Association
import ShaderLoom.Proofs.Expressions
import ShaderLoom.Proofs.LoweringTotality
import ShaderLoom.RenderState.Basic

/-!
# Statements are assignments

A node with one output that is written in plain words becomes one statement: an assignment of an
expression to that output.  The expression is calm, so a text that holds the statement can be
cut at its semicolon and at nothing else.  It reads variables that the node reads and stores
nothing.

The operations bring their own words along, which name no variables.  Code that is written out
assigns to the slot of the output and mentions variables by slots only (`Node.AssignsTo`).  When
its slots are filled in, it stays calm (`Node.substitute_calm`) and reads what is in the slots
(`Node.substitute_effects`).

## Main definitions

* `Helper.Stock` — the helpers that generated shaders call
* `Node.isQuiet` — code that mentions variables by slots only
* `Node.Simple` — a node with one output that is written in plain words

## Main results

* `Node.Simple.lower` — simple nodes are written as one assignment
-/

namespace ShaderLoom

open Text (Calm isCalm)
open Glsl (Effect Phrase)

theorem DataType.all_isSlotPart_word (type : DataType) :
    type.word.toList.all Node.isSlotPart = true := by
  cases type <;> rfl

theorem DataType.ofWord?_word (type : DataType) : ofWord? type.word = some type := by
  cases type <;> rfl

/-- How a declaration is written. -/
theorem Variable.toList_declaration {v : Variable} {text : String}
    (declared : v.declaration? = some text) :
    text.toList = (v.storage.qualifier?.elim [] fun qualifier => qualifier.toList ++ [' ']) ++
      (v.type.word.toList ++ ' ' :: (v.name.toList ++ (v.arraySuffix.toList ++ [';']))) := by
  have body : (s!"{v.type.word} {v.name}{v.arraySuffix};").toList =
      v.type.word.toList ++ ' ' :: (v.name.toList ++ (v.arraySuffix.toList ++ [';'])) := by
    simp [toString]
  rw [Variable.declaration?] at declared
  cases stored : v.storage with
  | builtin =>
      rw [stored] at declared
      cases declared
  | temporary =>
      rw [stored] at declared
      cases declared
      exact body
  | attr | uniform | varying =>
      rw [stored] at declared
      cases declared
      simp [Storage.qualifier?, toString]

theorem phrase_convert {known : Effect → Prop} {expression fill : String}
    (phrase : Phrase known expression) (silent : Glsl.Silent fill) (source : Option DataType)
    (target : DataType) : Phrase known (convert expression source target fill) := by
  -- The expression is put into the constructor of a type.
  have opened : ∀ type : DataType, Phrase known (type.word ++ "(" ++ expression) :=
    fun type => (Glsl.opening_call type.all_isSlotPart_word).append phrase
  cases source with
  | none => exact phrase
  | some type =>
      unfold convert
      dsimp only
      split
      · exact phrase
      · split
        · exact (((opened .vec4).separate Glsl.separator_comma).append silent.phrase).close
            Glsl.closing_parenthesis
        · exact (((opened .vec4).separate Glsl.separator_zero).append silent.phrase).close
            Glsl.closing_parenthesis
        · exact (opened .vec3).close Glsl.closing_zero
        · exact (opened target).close Glsl.closing_parenthesis

/-! ## Helpers -/

/-- The helpers that generated shaders call. -/
inductive Helper.Stock : Helper → Prop
  | lighting (kind : LightKind) :
    Stock { snippet := "lighting", parameters := [("kind", kind.word)] }
  | shadow (technique : ShadowTechnique) :
    Stock { snippet := "shadow", parameters := [("technique", technique.word)] }
  | billboard : Stock { snippet := "billboard" }
  | morphing {count : Nat} (few : count ≤ 4) :
    Stock { snippet := "morphing", parameters := [("target_count", toString count)] }
  | skinning (bones : Nat) :
    Stock
      { snippet := "skinning"
        parameters := [("palette", "uBones"), ("bone_count", toString bones)] }

/-- What two steps in a row give, the second gives after the first. -/
theorem exists_of_bind_eq_ok {α β ε : Type} {first : Except ε α}
    {next : α → Except ε β} {result : β} (done : (first >>= next) = .ok result) :
    ∃ value, first = .ok value ∧ next value = .ok result := by
  cases first with
  | error cause => cases done
  | ok value => exact ⟨value, rfl, done⟩

/-- What succeeds on a list succeeds on its items, one by one. -/
theorem forall₂_of_mapM {α β ε : Type} {step : α → Except ε β} :
    ∀ {items : List α} {results : List β}, items.mapM step = .ok results →
      List.Forall₂ (fun item result => step item = .ok result) items results := by
  intro items
  induction items with
  | nil =>
      intro results done
      cases done
      exact .nil
  | cons item items ih =>
      intro results done
      rw [List.mapM_cons] at done
      obtain ⟨first, here, done⟩ := exists_of_bind_eq_ok done
      obtain ⟨others, later, done⟩ := exists_of_bind_eq_ok done
      cases done
      exact .cons here (ih later)

/-- In lists that are related item by item, what is on the right is related to something on the
left. -/
theorem exists_of_mem_forall₂ {α β : Type} {R : α → β → Prop} {items : List α}
    {results : List β} (related : List.Forall₂ R items results) :
    ∀ result ∈ results, ∃ item ∈ items, R item result := by
  induction related with
  | nil => exact List.forall_mem_nil _
  | cons here _ ih =>
      refine List.forall_mem_cons.mpr ⟨⟨_, List.mem_cons_self, here⟩, fun result member => ?_⟩
      obtain ⟨item, among, gives⟩ := ih result member
      exact ⟨item, List.mem_cons_of_mem _ among, gives⟩

/-- Every result comes from an item. -/
theorem exists_of_mem_mapM {α β ε : Type} {step : α → Except ε β} {items : List α}
    {results : List β} (done : items.mapM step = .ok results) :
    ∀ result ∈ results, ∃ item ∈ items, step item = .ok result :=
  exists_of_mem_forall₂ (forall₂_of_mapM done)

/-! ## Simple nodes -/

namespace Node

/-- Whether an expression in code mentions variables by slots only, and not by the slot of the
output, and stores nothing.  Slots stand between marks.  After a percent sign, `reading` holds
the characters of the slot so far, newest first; otherwise `run` holds those of a word behind
`before`. -/
def isQuiet (output : List Char) :
    (reading : Option (List Char)) → (before : Char) → (run : List Char) → List Char → Bool
  | none, before, run, [] => (Glsl.wordEffects before run ';').isEmpty
  | none, before, run, c :: rest =>
    if c = '%' then run.isEmpty && isQuiet output (some []) before [] rest
    else if isSlotPart c then isQuiet output none before (c :: run) rest
    else
      (Glsl.wordEffects before run c).isEmpty &&
        (Glsl.isCut c ||
          rest.head?.any fun next => next != '%' && !Glsl.isStore (run.headD before) c next) &&
        isQuiet output none c [] rest
  | some slot, _, _, [] => !slot.isEmpty && slot.reverse != output
  | some slot, before, _, c :: rest =>
    if isSlotPart c then isQuiet output (some (c :: slot)) before [] rest
    else
      (!slot.isEmpty && slot.reverse != output) && (Glsl.isCut c && c != '%') &&
        isQuiet output none c [] rest

/-- Outside words, a percent sign opens a slot. -/
theorem isQuiet_slot {output slot : List Char} (parts : ∀ c ∈ slot, isSlotPart c = true)
    (rest : List Char) (before : Char) : isQuiet output none before [] ('%' :: slot ++ rest) =
      isQuiet output (some slot.reverse) before [] rest := by
  have general : ∀ held, isQuiet output (some held) before [] (slot ++ rest) =
      isQuiet output (some (slot.reverse ++ held)) before [] rest := by
    induction slot with
    | nil => exact fun held => rfl
    | cons c slot ih =>
        intro held
        rw [List.cons_append, isQuiet, if_pos (parts c List.mem_cons_self),
          ih fun d member => parts d (List.mem_cons_of_mem _ member), List.reverse_cons,
          List.append_assoc, List.singleton_append]
  rw [List.cons_append, isQuiet, if_pos rfl, general, List.append_nil]
  rfl

/-- Code assigns a calm and quiet expression to the only output of a node. -/
def AssignsTo (node : Node) (code : List Char) : Prop :=
  ∃ slot body, node.outputNames = [slot] ∧ slot ∉ node.inputNames ∧ slot ≠ "" ∧
    slot.toList.all isSlotPart = true ∧
    code = '%' :: slot.toList ++ (' ' :: '=' :: ' ' :: body ++ [';']) ∧ isCalm body = true ∧
    isQuiet slot.toList none ' ' [] body = true

/-- A node is written in plain words and calls helpers from the stock. -/
def Worded (node : Node) : Operation → Prop
  | .inlineCode code => node.AssignsTo code.toList
  | .call function helper =>
    function.toList.all isSlotPart = true ∧ ∀ required ∈ helper, required.Stock
  | .morphing count => count ≤ 4
  | .skinning _ => ∃ palette : Variable, palette.name = "uBones" ∧ palette.storage = .uniform ∧
      node.input? "matrixPalette" = some (.read palette)
  | .custom _ => False
  | _ => True

/-- A node with one output that is written in plain words. -/
structure Simple (node : Node) : Prop where
  output : ∃ entry, node.outputs = [entry]
  literals : ∀ slot text, (slot, .literal text) ∈ node.inputs → Glsl.Silent text
  worded : node.Worded node.operation

/-- Operations other than code, calls and the blending of vertices need no more than one
output. -/
theorem Simple.of_output {node : Node} {slot : String} {out : Variable}
    (output : node.outputs = [(slot, out)])
    (literals : ∀ slot text, (slot, .literal text) ∈ node.inputs → Glsl.Silent text)
    (worded : node.Worded node.operation) : node.Simple :=
  ⟨⟨_, output⟩, literals, worded⟩

theorem lookup_map_snd {α β : Type} (f : α → β) (entries : List (String × α)) (slot : String) :
    (entries.map fun entry => (entry.1, f entry.2)).lookup slot =
      (entries.lookup slot).map f := by
  induction entries with
  | nil => rfl
  | cons entry entries ih =>
      obtain ⟨key, value⟩ := entry
      rw [List.map_cons, List.lookup_cons, List.lookup_cons, ih]
      dsimp only
      cases slot == key <;> rfl

/-- Redirecting temporaries keeps a node simple. -/
theorem Simple.mapReads {node : Node} (simple : node.Simple) {f : Variable → Variable}
    (kept : ∀ v, v.storage ≠ .temporary → f v = v) : (node.mapReads f).Simple := by
  refine ⟨simple.output, ?_, ?_⟩
  · intro slot text member
    obtain ⟨⟨key, operand⟩, among, same⟩ := List.mem_map.mp member
    cases operand with
    | read v => cases same
    | literal words =>
        cases same
        exact simple.literals _ _ among
  · have worded := simple.worded
    change (node.mapReads f).Worded node.operation
    cases operation : node.operation with
    | inlineCode code =>
        rw [operation] at worded
        obtain ⟨slot, body, outputs, absent, rest⟩ := worded
        refine ⟨slot, body, outputs, ?_, rest⟩
        rw [inputNames_mapReads]
        exact absent
    | skinning bones =>
        rw [operation] at worded
        obtain ⟨palette, named, storage, given⟩ := worded
        refine ⟨palette, named, storage, ?_⟩
        have fixed : f palette = palette := by
          refine kept palette ?_
          rw [storage]
          decide
        rw [input?, Node.mapReads, lookup_map_snd, ← input?, given]
        exact congrArg some (congrArg Operand.read fixed)
    | _ =>
        rw [operation] at worded
        exact worded

/-! ## Writing simple nodes -/

theorem mem_of_input {node : Node} {slot : String} {operand : Operand}
    (found : node.input slot = .ok operand) : (slot, operand) ∈ node.inputs := by
  rw [input, input?] at found
  cases present : node.inputs.lookup slot with
  | none => rw [present] at found; cases found
  | some value =>
      rw [present] at found
      cases found
      exact Association.mem_of_lookup present

/-- The only output fills the slot that is asked for. -/
theorem eq_of_output {node : Node} {entry : String × Variable} (single : node.outputs = [entry])
    {slot : String} {v : Variable} (found : node.output slot = .ok v) : v = entry.2 := by
  rw [output, output?] at found
  cases present : node.outputs.lookup slot with
  | none => rw [present] at found; cases found
  | some value =>
      rw [present] at found
      cases found
      have member := Association.mem_of_lookup present
      rw [single, List.mem_singleton] at member
      rw [← member]

/-- What may be put into a slot is calm. -/
theorem calm_slotText {node : Node} (inputs : ∀ entry ∈ node.inputs, Calm entry.2.text)
    (outputs : ∀ entry ∈ node.outputs, Calm entry.2.name) {slot text : List Char}
    (found : node.slotText slot = .ok text) : isCalm text = true := by
  rw [slotText] at found
  split at found
  · cases found
    rfl
  · dsimp only at found
    split at found
    · rename_i operand _ present
      cases found
      exact inputs _ (Association.mem_of_lookup present)
    · rename_i v _ present
      cases found
      exact outputs _ (Association.mem_of_lookup present)
    · cases found

/-- A slot that ends at a character is filled in, and the rest goes on outside slots. -/
theorem exists_of_substitute_slot {node : Node} {slot : List Char} {c : Char}
    {rest text : List Char} (ends : isSlotPart c = false) (plain : c ≠ '%')
    (done : node.substitute (some slot) (c :: rest) = .ok text) :
    ∃ filled more, node.slotText slot.reverse = .ok filled ∧
      node.substitute none rest = .ok more ∧ text = filled ++ c :: more := by
  rw [substitute, ends] at done
  obtain ⟨filled, found, done⟩ := exists_of_bind_eq_ok done
  rw [if_neg plain] at done
  obtain ⟨more, others, done⟩ := exists_of_bind_eq_ok done
  cases done
  exact ⟨filled, more, found, others, rfl⟩

/-- Outside slots, a character stays as it is. -/
theorem exists_of_substitute_plain {node : Node} {c : Char} {rest text : List Char}
    (plain : c ≠ '%') (done : node.substitute none (c :: rest) = .ok text) :
    ∃ more, node.substitute none rest = .ok more ∧ text = c :: more := by
  rw [substitute, if_neg plain] at done
  obtain ⟨more, others, done⟩ := exists_of_bind_eq_ok done
  cases done
  exact ⟨more, others, rfl⟩

/-- Calm code stays calm when its slots are filled in. -/
theorem substitute_calm {node : Node} (inputs : ∀ entry ∈ node.inputs, Calm entry.2.text)
    (outputs : ∀ entry ∈ node.outputs, Calm entry.2.name) {body : List Char} :
    ∀ {reading : Option (List Char)} {text : List Char}, isCalm body = true →
      node.substitute reading (body ++ [';']) = .ok text →
        ∃ expression, text = expression ++ [';'] ∧ isCalm expression = true := by
  fun_induction isCalm body with
  | case1 rest ih =>
      intro reading text calm done
      cases reading with
      | none =>
          obtain ⟨_, spaced, rfl⟩ := exists_of_substitute_plain (by decide) done
          obtain ⟨_, others, rfl⟩ := exists_of_substitute_plain (by decide) spaced
          obtain ⟨expression, rfl, calm⟩ := ih calm others
          exact ⟨'/' :: ' ' :: expression, rfl, calm⟩
      | some slot =>
          obtain ⟨filled, _, found, spaced, rfl⟩ :=
            exists_of_substitute_slot (by decide) (by decide) done
          obtain ⟨_, others, rfl⟩ := exists_of_substitute_plain (by decide) spaced
          obtain ⟨expression, rfl, calm⟩ := ih calm others
          refine ⟨filled ++ '/' :: ' ' :: expression, by simp, ?_⟩
          exact Text.isCalm_append (calm_slotText inputs outputs found) calm
  | case2 c rest _ ih =>
      intro reading text calm done
      rw [Bool.and_eq_true] at calm
      obtain ⟨first, calm⟩ := calm
      cases reading with
      | none =>
          by_cases percent : c = '%'
          · rw [List.cons_append, substitute, if_pos percent] at done
            exact ih calm done
          · obtain ⟨_, others, rfl⟩ := exists_of_substitute_plain percent done
            obtain ⟨expression, rfl, calm⟩ := ih calm others
            refine ⟨c :: expression, rfl, ?_⟩
            rw [Text.isCalm_cons first]
            exact calm
      | some slot =>
          by_cases part : isSlotPart c = true
          · rw [List.cons_append, substitute, if_pos part] at done
            exact ih calm done
          · rw [Bool.not_eq_true] at part
            by_cases percent : c = '%'
            · rw [List.cons_append, substitute, part] at done
              obtain ⟨filled, found, done⟩ := exists_of_bind_eq_ok done
              rw [if_pos percent] at done
              obtain ⟨more, others, same⟩ := exists_of_bind_eq_ok done
              cases same
              obtain ⟨expression, rfl, calm⟩ := ih calm others
              refine ⟨filled ++ expression, by simp, ?_⟩
              exact Text.isCalm_append (calm_slotText inputs outputs found) calm
            · obtain ⟨filled, _, found, others, rfl⟩ :=
                exists_of_substitute_slot part percent done
              obtain ⟨expression, rfl, calm⟩ := ih calm others
              refine ⟨filled ++ c :: expression, by simp, ?_⟩
              refine Text.isCalm_append (calm_slotText inputs outputs found) ?_
              rw [Text.isCalm_cons first]
              exact calm
  | case3 =>
      intro reading text _ done
      cases reading with
      | none =>
          cases done
          exact ⟨[], rfl, rfl⟩
      | some slot =>
          obtain ⟨filled, _, found, others, rfl⟩ :=
            exists_of_substitute_slot (by decide) (by decide) done
          cases others
          exact ⟨filled, rfl, calm_slotText inputs outputs found⟩

/-- What is put into a slot, other than that of the output, is an input. -/
theorem exists_of_slotText {node : Node} {output : String}
    (single : node.outputNames = [output]) {slot text : List Char} (some : slot ≠ [])
    (other : slot ≠ output.toList) (found : node.slotText slot = .ok text) :
    ∃ entry ∈ node.inputs, text = entry.2.text.toList := by
  rw [slotText, if_neg (mt List.isEmpty_iff.mp some)] at found
  dsimp only at found
  split at found
  · rename_i operand _ present
    cases found
    exact ⟨_, Association.mem_of_lookup present, rfl⟩
  · rename_i v _ present
    have named : String.ofList slot ∈ node.outputNames :=
      List.mem_map.mpr ⟨_, Association.mem_of_lookup present, rfl⟩
    rw [single, List.mem_singleton] at named
    exact absurd (by rw [← named, String.toList_ofList]) other
  · cases found

/-- Code that opens with a plain character still does so when its slots are filled in. -/
theorem headD_of_substitute {node : Node} {body expression : List Char} {next : Char}
    (first : body.head? = some next) (plain : next ≠ '%')
    (done : node.substitute none (body ++ [';']) = .ok (expression ++ [';'])) :
    expression.headD ';' = next := by
  obtain ⟨rest, rfl⟩ := List.head?_eq_some_iff.mp first
  obtain ⟨more, _, same⟩ := exists_of_substitute_plain plain done
  cases expression <;> cases same <;> rfl

/-- Quiet code has the effects of its inputs when its slots are filled in. -/
theorem substitute_effects {node : Node} {output : String}
    (single : node.outputNames = [output]) {known : Effect → Prop}
    (inputs : ∀ entry ∈ node.inputs, Phrase known entry.2.text) {body : List Char} :
    ∀ {reading : Option (List Char)} {before : Char} {run text : List Char},
      (∀ slot ∈ reading, run = []) → isQuiet output.toList reading before run body = true →
        node.substitute reading (body ++ [';']) = .ok text →
          ∃ expression, text = expression ++ [';'] ∧
            ∀ effect ∈ Glsl.effectsFrom before run expression ';', known effect := by
  -- A slot that ends here holds an input.
  have filled : ∀ {slot text : List Char},
      (!slot.isEmpty && slot.reverse != output.toList) = true →
      node.slotText slot.reverse = .ok text → ∀ before after,
        ∀ effect ∈ Glsl.effectsFrom before [] text after, known effect := by
    intro slot text allowed found
    rw [Bool.and_eq_true, Bool.not_eq_true', List.isEmpty_eq_false_iff, bne_iff_ne] at allowed
    obtain ⟨entry, member, rfl⟩ :=
      exists_of_slotText single (mt List.reverse_eq_nil_iff.mp allowed.1) allowed.2 found
    exact (inputs entry member).effects
  have outside : ∀ {run : List Char}, ∀ slot ∈ (none : Option (List Char)), run = [] :=
    fun slot member => absurd member (Option.not_mem_none slot)
  induction body with
  | nil =>
      intro reading before run text idle quiet done
      cases reading with
      | none =>
          cases done
          refine ⟨[], rfl, ?_⟩
          rw [isQuiet, List.isEmpty_iff] at quiet
          rw [Glsl.effectsFrom, quiet]
          exact List.forall_mem_nil _
      | some slot =>
          obtain ⟨text, _, found, others, rfl⟩ :=
            exists_of_substitute_slot (by decide) (by decide) done
          cases others
          rw [idle slot rfl]
          exact ⟨text, rfl, filled quiet found before ';'⟩
  | cons c body ih =>
      intro reading before run text idle quiet done
      cases reading with
      | none =>
          rw [isQuiet] at quiet
          by_cases percent : c = '%'
          · rw [if_pos percent, Bool.and_eq_true, List.isEmpty_iff] at quiet
            rw [List.cons_append, substitute, if_pos percent] at done
            rw [quiet.1]
            exact ih (fun _ _ => rfl) quiet.2 done
          obtain ⟨more, others, rfl⟩ := exists_of_substitute_plain percent done
          rw [if_neg percent] at quiet
          by_cases part : isSlotPart c = true
          · rw [if_pos part] at quiet
            obtain ⟨expression, rfl, effects⟩ := ih outside quiet others
            refine ⟨c :: expression, rfl, ?_⟩
            rw [Glsl.effectsFrom_part part]
            exact effects
          · rw [if_neg part, Bool.and_eq_true, Bool.and_eq_true, Bool.or_eq_true,
              List.isEmpty_iff] at quiet
            obtain ⟨⟨word, mark⟩, quiet⟩ := quiet
            obtain ⟨expression, rfl, effects⟩ := ih outside quiet others
            refine ⟨c :: expression, rfl, ?_⟩
            have stores : Glsl.isStore (run.headD before) c (expression.headD ';') = false := by
              rcases mark with cut | plain
              · exact Glsl.isStore_of_isCut cut _ _
              · obtain ⟨next, first, plain⟩ := (Option.any_eq_true _ _).mp plain
                rw [Bool.and_eq_true, bne_iff_ne, Bool.not_eq_true'] at plain
                rw [headD_of_substitute first plain.1 others]
                exact plain.2
            rw [Glsl.effectsFrom_mark (Bool.not_eq_true _ ▸ part) stores, word]
            exact effects
      | some slot =>
          rw [isQuiet] at quiet
          by_cases part : isSlotPart c = true
          · rw [if_pos part] at quiet
            rw [List.cons_append, substitute, if_pos part] at done
            rw [idle slot rfl]
            exact ih (fun _ _ => rfl) quiet done
          · rw [if_neg part, Bool.and_eq_true, Bool.and_eq_true] at quiet
            obtain ⟨⟨allowed, mark⟩, quiet⟩ := quiet
            rw [Bool.and_eq_true, bne_iff_ne] at mark
            rw [Bool.not_eq_true] at part
            obtain ⟨text, _, found, others, rfl⟩ := exists_of_substitute_slot part mark.2 done
            obtain ⟨expression, rfl, effects⟩ := ih outside quiet others
            refine ⟨text ++ c :: expression, by simp, ?_⟩
            rw [idle slot rfl, Glsl.effectsFrom_append mark.1]
            exact List.forall_mem_append.mpr ⟨filled allowed found before c, effects⟩

/-- A slot that code opens with is filled in first. -/
theorem substitute_slot {node : Node} {slot : List Char}
    (parts : ∀ c ∈ slot, isSlotPart c = true) (rest : List Char) :
    ∀ held, node.substitute (some held) (slot ++ rest) =
      node.substitute (some (slot.reverse ++ held)) rest := by
  induction slot with
  | nil => exact fun held => rfl
  | cons c slot ih =>
      intro held
      rw [List.cons_append, substitute, if_pos (parts c List.mem_cons_self),
        ih fun d member => parts d (List.mem_cons_of_mem _ member), List.reverse_cons,
        List.append_assoc, List.singleton_append]

/-- **Code that assigns to an output** becomes an assignment to the variable in its slot. -/
theorem AssignsTo.substitute {node : Node} {code : List Char} (assigns : node.AssignsTo code)
    {entry : String × Variable} (single : node.outputs = [entry]) {known : Effect → Prop}
    (inputs : ∀ entry ∈ node.inputs, Phrase known entry.2.text) (output : Calm entry.2.name)
    {text : List Char} (done : node.substitute none code = .ok text) :
    ∃ expression : String, text = (entry.2.name ++ " = " ++ expression ++ ";").toList ∧
      Calm expression ∧ ∀ effect ∈ Glsl.effects expression, known effect := by
  obtain ⟨slot, body, outputs, absent, named, parts, rfl, calm, quiet⟩ := assigns
  have slots : entry.1 = slot := by
    rw [outputNames, single, List.map_singleton, List.singleton_inj] at outputs
    exact outputs
  have missing : node.input? slot = none := by
    cases found : node.input? slot with
    | none => rfl
    | some operand =>
        exact absurd (List.mem_map.mpr ⟨_, Association.mem_of_lookup found, rfl⟩) absent
  have present : node.output? slot = some entry.2 := by
    rw [output?, single, ← slots, List.lookup_cons_self]
  have filled : node.slotText slot.toList = .ok entry.2.name.toList := by
    have nonempty : slot.toList.isEmpty = false := by
      rw [List.isEmpty_eq_false_iff, Ne, String.toList_eq_nil_iff]
      exact named
    simp only [slotText, nonempty, String.ofList_toList, missing, present]
    rfl
  rw [List.cons_append, Node.substitute, if_pos rfl,
    substitute_slot (List.all_eq_true.mp parts)] at done
  obtain ⟨opening, _, found, spaced, rfl⟩ :=
    exists_of_substitute_slot (by decide) (by decide) done
  rw [List.append_nil, List.reverse_reverse, filled] at found
  cases found
  obtain ⟨_, assigned, rfl⟩ := exists_of_substitute_plain (by decide) spaced
  obtain ⟨_, others, rfl⟩ := exists_of_substitute_plain (by decide) assigned
  have calmOutputs : ∀ other ∈ node.outputs, Calm other.2.name := by
    intro other member
    rw [single, List.mem_singleton] at member
    rw [member]
    exact output
  obtain ⟨expression, rfl, calm⟩ :=
    substitute_calm (fun entry member => (inputs entry member).calm) calmOutputs calm others
  obtain ⟨_, same, effects⟩ := substitute_effects outputs inputs
    (fun slot member => absurd member (Option.not_mem_none slot)) quiet others
  cases List.append_cancel_right same
  refine ⟨String.ofList expression, ?_, ?_, ?_⟩
  · simp
  · rw [Calm, String.toList_ofList]
    exact calm
  · rw [Glsl.effects, String.toList_ofList]
    exact effects

end Node

/-- One statement, which assigns a calm expression with known effects to a variable, and helpers
from the stock. -/
def Lowered.Assigns (lowered : Lowered) (target : Variable) (known : Effect → Prop) : Prop :=
  (∃ expression, lowered.statements = [target.name ++ " = " ++ expression ++ ";"] ∧
    Calm expression ∧ ∀ effect ∈ Glsl.effects expression, known effect) ∧
    ∀ helper ∈ lowered.helpers, helper.Stock

theorem Lowered.assigns_assignment {known : Effect → Prop} (target : Variable)
    {expression : String} (phrase : Phrase known expression) :
    (Lowered.assignment target expression).Assigns target known :=
  ⟨⟨expression, rfl, phrase.calm, phrase.effects _ _⟩,
    fun _ member => absurd member List.not_mem_nil⟩

theorem Lowered.Assigns.withHelper {lowered : Lowered} {target : Variable}
    {known : Effect → Prop} (assigns : lowered.Assigns target known) {helper : Helper}
    (stock : helper.Stock) : (lowered.withHelper helper).Assigns target known := by
  refine ⟨assigns.1, fun other member => ?_⟩
  rcases List.mem_append.mp member with earlier | last
  · exact assigns.2 other earlier
  · rw [List.mem_singleton.mp last]
    exact stock

theorem Operand.phrase_convert {known : Effect → Prop} {operand : Operand}
    (phrase : Phrase known operand.text) {fill : String} (silent : Glsl.Silent fill)
    (target : DataType) : Phrase known (operand.convert target fill) :=
  ShaderLoom.phrase_convert phrase silent operand.type? target

namespace Node

open Glsl (opening_call separator_comma closing_parenthesis silent_zero silent_one)

theorem phrase_product {known : Effect → Prop} {matrix vector : String}
    (phrase : Phrase known matrix) (phraseVector : Phrase known vector) (inverse : Bool) :
    Phrase known (product matrix vector inverse) := by
  cases inverse with
  | false => exact (phrase.separate Glsl.separator_times).append phraseVector
  | true => exact (phraseVector.separate Glsl.separator_times).append phrase

section Lowering

variable {node : Node} {out : Variable} {lowered : Lowered} {known : Effect → Prop}
  (texts : ∀ {slot : String} {operand : Operand}, node.input slot = .ok operand →
    Phrase known operand.text)
  (target : ∀ {slot : String} {v : Variable}, node.output slot = .ok v → v = out)
include texts target

theorem assigns_lowerAssign (done : node.lowerAssign = .ok lowered) :
    lowered.Assigns out known := by
  obtain ⟨value, found, done⟩ := exists_of_bind_eq_ok done
  obtain ⟨v, written, done⟩ := exists_of_bind_eq_ok done
  cases done
  cases target written
  exact Lowered.assigns_assignment out
    (Operand.phrase_convert (texts found) silent_one out.type)

theorem assigns_lowerTransformPoint {inverse : Bool}
    (done : node.lowerTransformPoint inverse = .ok lowered) : lowered.Assigns out known := by
  obtain ⟨matrix, first, done⟩ := exists_of_bind_eq_ok done
  obtain ⟨vector, second, done⟩ := exists_of_bind_eq_ok done
  obtain ⟨v, written, done⟩ := exists_of_bind_eq_ok done
  cases target written
  split at done
  · cases done
    refine Lowered.assigns_assignment out (phrase_convert ?_ silent_one (some .vec3) out.type)
    exact phrase_product (texts first) (Operand.phrase_convert (texts second) silent_one .vec3)
      inverse
  · cases done
    refine Lowered.assigns_assignment out (phrase_convert ?_ silent_one (some .vec4) out.type)
    refine phrase_product (texts first) ?_ inverse
    split
    · exact ((opening_call DataType.vec4.all_isSlotPart_word).append (texts second)).close
        Glsl.closing_xyz
    · exact phrase_convert (texts second) silent_one _ .vec4
    · exact phrase_convert (texts second) silent_one (some .vec3) .vec4

theorem assigns_lowerTransformDirection {inverse : Bool}
    (done : node.lowerTransformDirection inverse = .ok lowered) :
    lowered.Assigns out known := by
  obtain ⟨matrix, first, done⟩ := exists_of_bind_eq_ok done
  obtain ⟨vector, second, done⟩ := exists_of_bind_eq_ok done
  obtain ⟨v, written, done⟩ := exists_of_bind_eq_ok done
  cases done
  cases target written
  have direction : Phrase known (vector.convert .vec3 "0.0") :=
    Operand.phrase_convert (texts second) silent_zero .vec3
  refine Lowered.assigns_assignment out (phrase_convert ?_ silent_zero (some .vec3) out.type)
  split
  · exact phrase_product (texts first) direction inverse
  · have extended : Phrase known ("vec4(" ++ vector.convert .vec3 "0.0" ++ ", 0.0)") :=
      ((opening_call DataType.vec4.all_isSlotPart_word).append direction).close
        Glsl.closing_zero
    exact ((opening_call DataType.vec3.all_isSlotPart_word).append
      (phrase_product (texts first) extended inverse)).close closing_parenthesis

theorem assigns_lowerNormalize (done : node.lowerNormalize = .ok lowered) :
    lowered.Assigns out known := by
  obtain ⟨vector, found, done⟩ := exists_of_bind_eq_ok done
  obtain ⟨v, written, done⟩ := exists_of_bind_eq_ok done
  cases done
  cases target written
  have argument := Operand.phrase_convert (texts found) silent_zero out.type
  have parts : "normalize".toList.all isSlotPart = true := rfl
  exact Lowered.assigns_assignment out
    (((opening_call parts).append argument).close closing_parenthesis)

theorem assigns_lowerSetAlpha (done : node.lowerSetAlpha = .ok lowered) :
    lowered.Assigns out known := by
  obtain ⟨color, first, done⟩ := exists_of_bind_eq_ok done
  obtain ⟨alpha, second, done⟩ := exists_of_bind_eq_ok done
  obtain ⟨v, written, done⟩ := exists_of_bind_eq_ok done
  cases done
  cases target written
  have base : Phrase known (color.convert .vec3 "1.0") :=
    Operand.phrase_convert (texts first) silent_one .vec3
  refine Lowered.assigns_assignment out ?_
  refine Phrase.close (Glsl.Opening.append (Phrase.separate
    ((opening_call DataType.vec4.all_isSlotPart_word).append base) separator_comma) ?_)
    closing_parenthesis
  split
  · exact (texts second).close Glsl.closing_w
  · exact texts second

theorem assigns_lowerSkinning {bones : Nat} (done : node.lowerSkinning bones = .ok lowered)
    {palette : Variable} (named : palette.name = "uBones")
    (given : node.input? "matrixPalette" = some (.read palette)) :
    lowered.Assigns out known := by
  obtain ⟨weights, first, done⟩ := exists_of_bind_eq_ok done
  obtain ⟨indices, second, done⟩ := exists_of_bind_eq_ok done
  obtain ⟨matrices, third, done⟩ := exists_of_bind_eq_ok done
  obtain ⟨v, written, done⟩ := exists_of_bind_eq_ok done
  cases done
  cases target written
  have text : matrices.text = "uBones" := by
    rw [input, given] at third
    cases third
    exact named
  have parts : "skeletalTransform".toList.all isSlotPart = true := rfl
  refine (Lowered.assigns_assignment out ?_).withHelper ?_
  · exact ((((opening_call parts).append (texts first)).separate separator_comma).append
      (texts second)).close closing_parenthesis
  · rw [text]
    exact .skinning bones

omit target in
theorem phrase_targetsFrom {count index : Nat} {targets : List Operand}
    (done : node.targetsFrom count index = .ok targets) :
    ∀ operand ∈ targets, Phrase known operand.text := by
  induction count generalizing index targets with
  | zero =>
      cases done
      exact fun _ member => absurd member List.not_mem_nil
  | succ count ih =>
      obtain ⟨first, found, done⟩ := exists_of_bind_eq_ok done
      obtain ⟨others, rest, done⟩ := exists_of_bind_eq_ok done
      cases done
      intro operand member
      rcases List.mem_cons.mp member with rfl | later
      · exact texts found
      · exact ih rest operand later

theorem assigns_lowerMorphing {count : Nat} (few : count ≤ 4)
    (done : node.lowerMorphing count = .ok lowered) : lowered.Assigns out known := by
  obtain ⟨base, first, done⟩ := exists_of_bind_eq_ok done
  obtain ⟨weights, second, done⟩ := exists_of_bind_eq_ok done
  obtain ⟨v, written, done⟩ := exists_of_bind_eq_ok done
  obtain ⟨targets, others, done⟩ := exists_of_bind_eq_ok done
  cases done
  cases target written
  have parts : ("morphTransform" ++ toString count).toList.all isSlotPart = true :=
    Text.all_isSlotPart_append rfl (Text.all_isSlotPart_toString count)
  refine Lowered.Assigns.withHelper (Lowered.assigns_assignment out
    (phrase_convert ?_ silent_one (some .vec3) out.type)) (.morphing few)
  refine ((opening_call parts).append ?_).close closing_parenthesis
  refine Glsl.phrase_intercalate separator_comma fun text member => ?_
  rcases List.mem_cons.mp member with rfl | member
  · exact Operand.phrase_convert (texts first) silent_one .vec3
  rcases List.mem_cons.mp member with rfl | member
  · exact texts second
  obtain ⟨operand, present, rfl⟩ := List.mem_map.mp member
  exact Operand.phrase_convert (phrase_targetsFrom texts others operand present)
    silent_one .vec3

theorem assigns_lowerBillboard (done : node.lowerBillboard = .ok lowered) :
    lowered.Assigns out known := by
  obtain ⟨vertex, first, done⟩ := exists_of_bind_eq_ok done
  obtain ⟨modelView, second, done⟩ := exists_of_bind_eq_ok done
  obtain ⟨projection, third, done⟩ := exists_of_bind_eq_ok done
  obtain ⟨v, written, done⟩ := exists_of_bind_eq_ok done
  cases done
  cases target written
  have position : Phrase known (vertex.convert .vec3 "1.0") :=
    Operand.phrase_convert (texts first) silent_one .vec3
  have parts : "billboard".toList.all isSlotPart = true := rfl
  refine (Lowered.assigns_assignment out ?_).withHelper .billboard
  exact ((((((opening_call parts).append position).separate separator_comma).append
    (texts second)).separate separator_comma).append (texts third)).close closing_parenthesis

theorem assigns_lowerTextureSample (done : node.lowerTextureSample = .ok lowered) :
    lowered.Assigns out known := by
  obtain ⟨sampler, first, done⟩ := exists_of_bind_eq_ok done
  obtain ⟨uv, second, done⟩ := exists_of_bind_eq_ok done
  obtain ⟨v, written, done⟩ := exists_of_bind_eq_ok done
  cases done
  cases target written
  have coordinates : Phrase known (uv.convert .vec2 "1.0") :=
    Operand.phrase_convert (texts second) silent_one .vec2
  have parts : "texture2D".toList.all isSlotPart = true := rfl
  refine Lowered.assigns_assignment out (phrase_convert ?_ silent_one (some .vec4) out.type)
  exact ((((opening_call parts).append (texts first)).separate separator_comma).append
    coordinates).close closing_parenthesis

end Lowering

theorem assigns_lowerCall {node : Node} {entry : String × Variable}
    (single : node.outputs = [entry]) {known : Effect → Prop}
    (inputs : ∀ entry ∈ node.inputs, Phrase known entry.2.text) {function : String}
    (parts : function.toList.all isSlotPart = true) {helper : Option Helper}
    (stock : ∀ required ∈ helper, required.Stock) :
    (node.lowerCall function helper).Assigns entry.2 known := by
  have arguments :
      Phrase known (", ".intercalate (node.inputs.map fun entry => entry.2.text)) := by
    refine Glsl.phrase_intercalate separator_comma fun text member => ?_
    obtain ⟨input, present, rfl⟩ := List.mem_map.mp member
    exact inputs input present
  have call : Phrase known (function ++ "(" ++
      ", ".intercalate (node.inputs.map fun entry => entry.2.text) ++ ")") :=
    ((opening_call parts).append arguments).close closing_parenthesis
  refine ⟨⟨_, ?_, call.calm, call.effects _ _⟩, fun required member => ?_⟩
  · simp only [lowerCall, single]
    rfl
  · exact stock required (Option.mem_toList.mp member)

/-- The effects that a node may have: reading what it reads. -/
def Allows (node : Node) (effect : Effect) : Prop :=
  ∃ v ∈ node.reads, effect = .read v.name

/-- **A simple node is written as one assignment** to its output.  The expression has no other
effects than reading what the node reads, and all helpers that are called are from the stock. -/
theorem Simple.lower {node : Node} (simple : node.Simple) {registry : Registry}
    {lowered : Lowered} (reads : ∀ v ∈ node.reads, v.name.toList.all isSlotPart = true)
    (writes : ∀ v ∈ node.writes, v.name.toList.all isSlotPart = true)
    (done : node.lower registry = .ok lowered) :
    ∃ entry, node.outputs = [entry] ∧ lowered.Assigns entry.2 node.Allows := by
  obtain ⟨entry, single⟩ := simple.output
  have inputs : ∀ entry ∈ node.inputs, Phrase node.Allows entry.2.text := by
    rintro ⟨slot, operand⟩ member
    cases operand with
    | read v =>
        have read : v ∈ node.reads := List.mem_filterMap.mpr ⟨_, member, rfl⟩
        exact Glsl.phrase_name (reads v read) ⟨v, read, rfl⟩
    | literal text => exact (simple.literals slot text member).phrase
  have texts : ∀ {slot : String} {operand : Operand}, node.input slot = .ok operand →
      Phrase node.Allows operand.text :=
    fun found => inputs _ (mem_of_input found)
  have target : ∀ {slot : String} {v : Variable}, node.output slot = .ok v → v = entry.2 :=
    fun found => eq_of_output single found
  refine ⟨entry, single, ?_⟩
  have worded := simple.worded
  rw [Node.lower] at done
  split at done <;> rename_i operation <;> rw [operation] at worded
  · exact assigns_lowerAssign texts target done
  · rename_i code
    obtain ⟨text, substituted, done⟩ := exists_of_bind_eq_ok done
    cases done
    have output : Calm entry.2.name := Text.calm_of_isSlotPart
      (writes _ (mem_writes (single ▸ List.mem_singleton_self entry)))
    obtain ⟨expression, rfl, expresses⟩ :=
      AssignsTo.substitute worded single inputs output substituted
    refine ⟨⟨expression, ?_, expresses⟩, fun _ member => absurd member List.not_mem_nil⟩
    rw [String.ofList_toList]
  · exact assigns_lowerTransformPoint texts target done
  · exact assigns_lowerTransformDirection texts target done
  · exact assigns_lowerNormalize texts target done
  · exact assigns_lowerSetAlpha texts target done
  · obtain ⟨palette, named, _, given⟩ := worded
    exact assigns_lowerSkinning texts target done named given
  · exact assigns_lowerMorphing texts target worded done
  · exact assigns_lowerBillboard texts target done
  · exact assigns_lowerTextureSample texts target done
  · cases done
    exact assigns_lowerCall single inputs worded.1 worded.2
  · exact absurd worded id

end Node

end ShaderLoom
