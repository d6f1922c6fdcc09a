import ShaderLoom.Proofs.HelperDefinitions
import ShaderLoom.Proofs.Terms

/-!
# Statements and the helpers that they call

A node is written as one statement.  Some operations are calls of functions that helpers define;
the helper comes along with the statement, and the operands in the slots of the node become
arguments, cut down to three components where the function takes no more.  All other operations
are written with what the language provides.

Whether the arguments agree with the parameters depends on what is in the slots.  `Applies` says
which operands an operation is applied to in the shaders of a render state.  It is stated for
operands of any kind, since it is seen for terms and used for variables.

## Main definitions

* `Operation.function?` — the functions that operations call
* `RenderState.MayCall` — the functions that the shaders of a render state call
* `Applies` — operations on operands of the right types
* `Lowered.Speaks` — a statement that calls a function of a helper, or none
* `Node.Voices` — the same of a node and the function of its operation

## Main results

* `Applies.lower` — what the statement of a node calls
-/

namespace ShaderLoom

open Glsl (Familiar HasType Signature)

/-! ## Applications -/

/-- The function that an operation is a call of, if it is one. -/
def Operation.function? : Operation → Option String
  | skinning _ => some "skeletalTransform"
  | morphing targets => some s!"morphTransform{targets}"
  | billboard => some "billboard"
  | call function _ => some function
  | _ => none

/-- Whether an operation is written with what the language provides, whatever its operands
are. -/
def Operation.isPlain : Operation → Bool
  | assign => true
  | transformPoint _ => true
  | transformDirection _ => true
  | normalize => true
  | setAlpha => true
  | textureSample => true
  | _ => false

/-- The functions of helpers that the shaders of a render state call: of shadows, bones and
morph targets, those for the one technique and the two numbers that are asked for. -/
def RenderState.MayCall (state : RenderState) : HelperFunction → Prop
  | .light _ => True
  | .shadow technique => state.shadow = some technique
  | .skinning bones => bones = ((state.activeSkin.map Skin.boneCount).getD 0).toNat
  | .morphing targets =>
      ∃ morph, state.activeMorph = some morph ∧ targets = morph.targetCount.toNat
  | .billboard => True

/-- Whether code calls nothing but what the language provides, whatever its slots are filled
with.  `slot` says that the word in front is a slot or goes on from one; otherwise `held` are
its letters, newest first. -/
def Node.isFamiliar (slot : Bool) (held : List Char) : List Char → Bool
  | [] => true
  | c :: rest =>
    if c = '%' then isFamiliar true [] rest
    else if Text.isBlank c then isFamiliar slot held rest
    else if isSlotPart c then isFamiliar slot (c :: held) rest
    else
      (c != '(' || !slot && (Glsl.calleeAt held c).all Glsl.provided.contains) &&
        isFamiliar false [] rest

section Applications

variable {α : Type}

/-- An operation is applied to operands of the right types in the shaders of a render state, and
its result has a type.  `stands` gives the types of operands that are variables, and `literal`
tells those that are not. -/
inductive Applies (state : RenderState) (stands : α → DataType → Prop) (literal : α → Prop) :
    Operation → List (String × α) → DataType → Prop
  | plain {operation : Operation} {arguments : List (String × α)} {type : DataType}
      (plain : operation.isPlain = true)
      (known : ∀ argument ∈ arguments, literal argument.2 ∨ ∃ type, stands argument.2 type) :
    Applies state stands literal operation arguments type
  | code {code : String} {arguments : List (String × α)} {type : DataType}
      (familiar : Node.isFamiliar false [] code.toList = true)
      (known : ∀ argument ∈ arguments, ∃ type, stands argument.2 type) :
    Applies state stands literal (.inlineCode code) arguments type
  | call {function : HelperFunction} {arguments : List (String × α)}
      (may : state.MayCall function)
      (types : List.Forall₂ (fun argument => stands argument.2) arguments
        function.signature.parameters) :
    Applies state stands literal
      (.call function.signature.name (some function.helper)) arguments function.signature.result
  | skinning {bones : Nat} {arguments : List (String × α)}
      (may : state.MayCall (.skinning bones))
      (types : ∀ argument ∈ arguments, argument.1 ≠ "matrixPalette" → stands argument.2 .vec4) :
    Applies state stands literal (.skinning bones) arguments .mat4
  | morphing {targets : Nat} {arguments : List (String × α)}
      (may : state.MayCall (.morphing targets))
      (weights : ∀ argument ∈ arguments, argument.1 = "weights" → stands argument.2 .vec4)
      (values : ∀ argument ∈ arguments, argument.1 ≠ "weights" →
        stands argument.2 .vec3 ∨ stands argument.2 .vec4) :
    Applies state stands literal (.morphing targets) arguments .vec3
  | billboard {arguments : List (String × α)}
      (vertex : ∀ argument ∈ arguments, argument.1 = "Vertex" → stands argument.2 .vec3)
      (matrices : ∀ argument ∈ arguments, argument.1 ≠ "Vertex" → stands argument.2 .mat4) :
    Applies state stands literal .billboard arguments .vec4

theorem forall₂_imp_of_mem {β : Type} {R S : α → β → Prop} {items : List α} {others : List β}
    (implies : ∀ a ∈ items, ∀ b, R a b → S a b) (related : List.Forall₂ R items others) :
    List.Forall₂ S items others := by
  induction related with
  | nil => exact .nil
  | cons first _ ih =>
      refine .cons (implies _ List.mem_cons_self _ first) (ih fun a member => ?_)
      exact implies a (List.mem_cons_of_mem _ member)

/-- Operands may be replaced by others that stand for the same. -/
theorem Applies.of_map {β : Type} {state : RenderState} {stands : α → DataType → Prop}
    {literal : α → Prop} {standsToo : β → DataType → Prop} {literalToo : β → Prop} {f : β → α}
    {operation : Operation} {inputs : List (String × β)} {type : DataType}
    (types : ∀ entry ∈ inputs, ∀ type, stands (f entry.2) type → standsToo entry.2 type)
    (literals : ∀ entry ∈ inputs, literal (f entry.2) → literalToo entry.2)
    (applies : Applies state stands literal operation
      (inputs.map fun entry => (entry.1, f entry.2)) type) :
    Applies state standsToo literalToo operation inputs type := by
  have within : ∀ entry ∈ inputs, (entry.1, f entry.2) ∈
      inputs.map fun entry => (entry.1, f entry.2) :=
    fun entry member => List.mem_map_of_mem member
  cases applies with
  | plain plain known =>
      refine .plain plain fun entry member => ?_
      rcases known _ (within entry member) with text | ⟨type, typed⟩
      · exact .inl (literals entry member text)
      · exact .inr ⟨type, types entry member type typed⟩
  | code familiar known =>
      refine .code familiar fun entry member => ?_
      obtain ⟨type, typed⟩ := known _ (within entry member)
      exact ⟨type, types entry member type typed⟩
  | call may typed =>
      refine .call may ?_
      rw [List.forall₂_map_left_iff] at typed
      exact forall₂_imp_of_mem types typed
  | skinning may typed =>
      exact .skinning may fun entry member other =>
        types entry member _ (typed _ (within entry member) other)
  | morphing may weights values =>
      refine .morphing may (fun entry member named => ?_) fun entry member other => ?_
      · exact types entry member _ (weights _ (within entry member) named)
      · exact (values _ (within entry member) other).imp (types entry member _)
          (types entry member _)
  | billboard vertex matrices =>
      refine .billboard (fun entry member named => ?_) fun entry member other => ?_
      · exact types entry member _ (vertex _ (within entry member) named)
      · exact types entry member _ (matrices _ (within entry member) other)

end Applications

/-! ## Code -/

namespace Node

/-- What may be put into a slot calls nothing. -/
theorem quiet_slotText {node : Node}
    (inputs : ∀ entry ∈ node.inputs, entry.2.text.toList.all isSlotPart = true)
    (outputs : ∀ entry ∈ node.outputs, entry.2.name.toList.all isSlotPart = true)
    {slot text : List Char} (found : node.slotText slot = .ok text) (held : List Char) :
    Glsl.calleesFrom held text = [] := by
  rw [slotText] at found
  split at found
  · cases found
    rfl
  · dsimp only at found
    split at found
    · rename_i operand _ present
      cases found
      exact (Glsl.calleesFrom_word
        (List.all_eq_true.mp (inputs _ (Association.mem_of_lookup present))) held).1
    · rename_i v _ present
      cases found
      exact (Glsl.calleesFrom_word
        (List.all_eq_true.mp (outputs _ (Association.mem_of_lookup present))) held).1
    · cases found

/-- A mark in familiar code calls nothing but what the language provides. -/
theorem provided_of_mark {slot : Bool} {held before : List Char} {c : Char}
    (allowed : (c != '(' || !slot && (Glsl.calleeAt held c).all Glsl.provided.contains) = true)
    (same : slot = false → before = held) :
    ∀ function ∈ Glsl.calleeAt before c, function ∈ Glsl.provided := by
  intro function member
  rw [Bool.or_eq_true, bne_iff_ne, Bool.and_eq_true, Bool.not_eq_true'] at allowed
  rcases allowed with other | ⟨outside, known⟩
  · rw [Glsl.calleeAt, if_neg fun opens => other opens.1] at member
    cases member
  · rw [same outside] at member
    exact List.contains_iff_mem.mp (List.all_eq_true.mp known function member)

/-- **Familiar code stays familiar when its slots are filled in.** -/
theorem familiar_substitute {node : Node} (quiet : ∀ {slot text : List Char},
      node.slotText slot = .ok text → ∀ held, Glsl.calleesFrom held text = [])
    {code : List Char} :
    ∀ {reading : Option (List Char)} {slot : Bool} {held before text : List Char},
      (reading.isSome = true → slot = true) → (slot = false → before = held) →
        isFamiliar slot held code = true → node.substitute reading code = .ok text →
          ∀ function ∈ Glsl.calleesFrom before text, function ∈ Glsl.provided := by
  induction code with
  | nil =>
      intro reading slot held before text _ _ _ done
      cases reading with
      | none =>
          cases done
          exact List.forall_mem_nil _
      | some name =>
          rw [quiet done before]
          exact List.forall_mem_nil _
  | cons c code ih =>
      intro reading slot held before text inside same familiar done
      have unopened : ∀ {slot : Bool}, (none : Option (List Char)).isSome = true →
          slot = true :=
        fun opened => absurd opened Bool.false_ne_true
      have free : ∀ {before held : List Char}, true = false → before = held :=
        fun outside => absurd outside.symm Bool.false_ne_true
      -- A character that stays as it is, outside slots.
      have plain : ∀ {before more : List Char}, c ≠ '%' → (slot = false → before = held) →
          node.substitute none code = .ok more →
            ∀ function ∈ Glsl.calleesFrom before (c :: more), function ∈ Glsl.provided := by
        intro before more percent same others
        rw [isFamiliar, if_neg percent] at familiar
        rw [Glsl.calleesFrom]
        split at familiar
        · rename_i blank
          rw [if_pos blank]
          exact ih unopened same familiar others
        · rename_i solid
          rw [if_neg solid]
          split at familiar
          · rename_i part
            rw [if_pos part]
            refine ih unopened (fun outside => ?_) familiar others
            rw [same outside]
          · rename_i mark
            rw [Bool.and_eq_true] at familiar
            rw [if_neg mark]
            refine List.forall_mem_append.mpr ⟨provided_of_mark familiar.1 same, ?_⟩
            exact ih unopened (fun _ => rfl) familiar.2 others
      -- A percent sign opens a slot.
      have opens : ∀ {before more : List Char}, c = '%' →
          node.substitute (some []) code = .ok more →
            ∀ function ∈ Glsl.calleesFrom before more, function ∈ Glsl.provided := by
        intro before more percent others
        rw [isFamiliar, if_pos percent] at familiar
        exact ih (fun _ => rfl) free familiar others
      rw [substitute.eq_def] at done
      cases reading with
      | none =>
          dsimp only at done
          split at done
          · rename_i percent
            exact opens percent done
          · rename_i percent
            obtain ⟨more, others, done⟩ := exists_of_bind_eq_ok done
            cases done
            exact plain percent same others
      | some name =>
          dsimp only at done
          obtain rfl : slot = true := inside rfl
          split at done
          · rename_i part
            have percent : c ≠ '%' := Text.ne_of_isSlotPart part (by decide)
            have solid : ¬ Text.isBlank c = true := by
              rw [Declaration.isBlank_eq_false_of_isSlotPart part]
              exact Bool.false_ne_true
            rw [isFamiliar, if_neg percent, if_neg solid, if_pos part] at familiar
            exact ih (fun _ => rfl) free familiar done
          · obtain ⟨filled, found, done⟩ := exists_of_bind_eq_ok done
            split at done
            · rename_i percent
              obtain ⟨more, others, done⟩ := exists_of_bind_eq_ok done
              cases done
              rw [Glsl.calleesFrom_append, quiet found]
              exact opens percent others
            · rename_i percent
              obtain ⟨more, others, done⟩ := exists_of_bind_eq_ok done
              cases done
              rw [Glsl.calleesFrom_append, quiet found]
              exact plain percent free others

/-- Code without parentheses calls nothing. -/
theorem isFamiliar_of_not_mem {code : List Char} (free : '(' ∉ code) (slot : Bool)
    (held : List Char) : isFamiliar slot held code = true := by
  induction code generalizing slot held with
  | nil => rfl
  | cons c code ih =>
      rw [List.mem_cons, not_or] at free
      have mark : (c != '(') = true := bne_iff_ne.mpr fun same => free.1 same.symm
      simp only [isFamiliar, mark, Bool.true_or, Bool.true_and, ih free.2, ite_self]

end Node

/-! ## Statements without helpers -/

open Glsl (opened_call)

theorem DataType.word_mem_provided (type : DataType) : type.word ∈ Glsl.provided := by
  refine List.mem_append_left _ (List.mem_map_of_mem ?_)
  cases type <;> decide

theorem familiar_convert {expression fill : String} (familiar : Familiar expression)
    (filled : Familiar fill) (source : Option DataType) (target : DataType) :
    Familiar (convert expression source target fill) := by
  -- The expression is put into the constructor of a type.
  have opened : ∀ type : DataType, Familiar (type.word ++ "(" ++ expression) :=
    fun type => (opened_call type.word_mem_provided).append familiar
  cases source with
  | none => exact familiar
  | some type =>
      unfold convert
      dsimp only
      split
      · exact familiar
      · split
        · exact (((opened .vec4).separate Glsl.parts_comma).append filled).close
            Glsl.quiet_parenthesis
        · exact (((opened .vec4).separate Glsl.parts_zero).append filled).close
            Glsl.quiet_parenthesis
        · exact (opened .vec3).close fun _ => rfl
        · exact (opened target).close Glsl.quiet_parenthesis

theorem familiar_zero : Familiar "0.0" :=
  List.forall_mem_nil _

theorem familiar_one : Familiar "1.0" :=
  List.forall_mem_nil _

/-- One statement, which calls nothing but what the language provides, and no helpers. -/
def Lowered.IsFamiliar (lowered : Lowered) : Prop :=
  lowered.helpers = [] ∧ ∃ statement, lowered.statements = [statement] ∧ Familiar statement

theorem Lowered.isFamiliar_assignment {target : Variable}
    (word : target.name.toList.all Node.isSlotPart = true) {expression : String}
    (familiar : Familiar expression) : (Lowered.assignment target expression).IsFamiliar := by
  refine ⟨rfl, _, rfl, ?_⟩
  exact (((Glsl.familiar_word word).separate Glsl.parts_equals).append familiar).close
    Glsl.quiet_semicolon

namespace Node

theorem familiar_product {matrix vector : String} (familiar : Familiar matrix)
    (familiarVector : Familiar vector) (inverse : Bool) :
    Familiar (product matrix vector inverse) := by
  cases inverse with
  | false => exact (familiar.separate Glsl.parts_times).append familiarVector
  | true => exact (familiarVector.separate Glsl.parts_times).append familiar

section Lowering

variable {node : Node} {lowered : Lowered}
  (texts : ∀ {slot : String} {operand : Operand}, node.input slot = .ok operand →
    Familiar operand.text)
  (targets : ∀ {slot : String} {v : Variable}, node.output slot = .ok v →
    v.name.toList.all isSlotPart = true)
include texts targets

theorem isFamiliar_lowerAssign (done : node.lowerAssign = .ok lowered) :
    lowered.IsFamiliar := by
  obtain ⟨value, found, done⟩ := exists_of_bind_eq_ok done
  obtain ⟨out, written, done⟩ := exists_of_bind_eq_ok done
  cases done
  exact Lowered.isFamiliar_assignment (targets written)
    (familiar_convert (texts found) familiar_one value.type? out.type)

theorem isFamiliar_lowerTransformPoint {inverse : Bool}
    (done : node.lowerTransformPoint inverse = .ok lowered) : lowered.IsFamiliar := by
  obtain ⟨matrix, first, done⟩ := exists_of_bind_eq_ok done
  obtain ⟨vector, second, done⟩ := exists_of_bind_eq_ok done
  obtain ⟨out, written, done⟩ := exists_of_bind_eq_ok done
  split at done
  · cases done
    refine Lowered.isFamiliar_assignment (targets written)
      (familiar_convert ?_ familiar_one _ out.type)
    exact familiar_product (texts first)
      (familiar_convert (texts second) familiar_one _ .vec3) _
  · cases done
    refine Lowered.isFamiliar_assignment (targets written)
      (familiar_convert ?_ familiar_one _ out.type)
    refine familiar_product (texts first) ?_ _
    split
    · exact ((opened_call DataType.vec4.word_mem_provided).append (texts second)).close
        fun _ => rfl
    · exact familiar_convert (texts second) familiar_one _ .vec4
    · exact familiar_convert (texts second) familiar_one _ .vec4

theorem isFamiliar_lowerTransformDirection {inverse : Bool}
    (done : node.lowerTransformDirection inverse = .ok lowered) : lowered.IsFamiliar := by
  obtain ⟨matrix, first, done⟩ := exists_of_bind_eq_ok done
  obtain ⟨vector, second, done⟩ := exists_of_bind_eq_ok done
  obtain ⟨out, written, done⟩ := exists_of_bind_eq_ok done
  cases done
  have direction : Familiar (vector.convert .vec3 "0.0") :=
    familiar_convert (texts second) familiar_zero _ .vec3
  refine Lowered.isFamiliar_assignment (targets written)
    (familiar_convert ?_ familiar_zero _ out.type)
  split
  · exact familiar_product (texts first) direction inverse
  · have extended : Familiar ("vec4(" ++ vector.convert .vec3 "0.0" ++ ", 0.0)") :=
      ((opened_call DataType.vec4.word_mem_provided).append direction).close fun _ => rfl
    exact ((opened_call DataType.vec3.word_mem_provided).append
      (familiar_product (texts first) extended inverse)).close Glsl.quiet_parenthesis

theorem isFamiliar_lowerNormalize (done : node.lowerNormalize = .ok lowered) :
    lowered.IsFamiliar := by
  obtain ⟨vector, found, done⟩ := exists_of_bind_eq_ok done
  obtain ⟨out, written, done⟩ := exists_of_bind_eq_ok done
  cases done
  have argument : Familiar (vector.convert out.type "0.0") :=
    familiar_convert (texts found) familiar_zero _ out.type
  have known : "normalize" ∈ Glsl.provided := by decide
  exact Lowered.isFamiliar_assignment (targets written)
    (((opened_call known).append argument).close Glsl.quiet_parenthesis)

theorem isFamiliar_lowerSetAlpha (done : node.lowerSetAlpha = .ok lowered) :
    lowered.IsFamiliar := by
  obtain ⟨color, first, done⟩ := exists_of_bind_eq_ok done
  obtain ⟨alpha, second, done⟩ := exists_of_bind_eq_ok done
  obtain ⟨out, written, done⟩ := exists_of_bind_eq_ok done
  cases done
  have base : Familiar (color.convert .vec3 "1.0") :=
    familiar_convert (texts first) familiar_one _ .vec3
  refine Lowered.isFamiliar_assignment (targets written) ?_
  refine ((((opened_call DataType.vec4.word_mem_provided).append base).separate
    Glsl.parts_comma).append ?_).close Glsl.quiet_parenthesis
  split
  · exact (texts second).close fun _ => rfl
  · exact texts second

theorem isFamiliar_lowerTextureSample (done : node.lowerTextureSample = .ok lowered) :
    lowered.IsFamiliar := by
  obtain ⟨sampler, first, done⟩ := exists_of_bind_eq_ok done
  obtain ⟨uv, second, done⟩ := exists_of_bind_eq_ok done
  obtain ⟨out, written, done⟩ := exists_of_bind_eq_ok done
  cases done
  have coordinates : Familiar (uv.convert .vec2 "1.0") :=
    familiar_convert (texts second) familiar_one _ .vec2
  have known : "texture2D" ∈ Glsl.provided := by decide
  refine Lowered.isFamiliar_assignment (targets written)
    (familiar_convert ?_ familiar_one (some .vec4) out.type)
  exact ((((opened_call known).append (texts first)).separate Glsl.parts_comma).append
    coordinates).close Glsl.quiet_parenthesis

/-- **Plain operations are written with what the language provides.** -/
theorem isFamiliar_lower {registry : Registry} (plain : node.operation.isPlain = true)
    (done : node.lower registry = .ok lowered) : lowered.IsFamiliar := by
  rw [Node.lower] at done
  cases operation : node.operation with
  | assign =>
      rw [operation] at done
      exact isFamiliar_lowerAssign texts targets done
  | transformPoint inverse =>
      rw [operation] at done
      exact isFamiliar_lowerTransformPoint texts targets done
  | transformDirection inverse =>
      rw [operation] at done
      exact isFamiliar_lowerTransformDirection texts targets done
  | normalize =>
      rw [operation] at done
      exact isFamiliar_lowerNormalize texts targets done
  | setAlpha =>
      rw [operation] at done
      exact isFamiliar_lowerSetAlpha texts targets done
  | textureSample =>
      rw [operation] at done
      exact isFamiliar_lowerTextureSample texts targets done
  | _ =>
      rw [operation] at plain
      cases plain

end Lowering
end Node

/-! ## Calls of helpers -/

theorem HelperFunction.name_spelled {function : HelperFunction} (bounded : function.Bounded) :
    function.signature.name.toList.all Node.isSlotPart = true ∧ function.signature.name ≠ "" ∧
      Glsl.isForeign function.signature.name = true := by
  have fixed : ∀ name ∈ ["computeShadow", "skeletalTransform", "billboard"],
      name.toList.all Node.isSlotPart = true ∧ name ≠ "" ∧ Glsl.isForeign name = true := by
    decide +kernel
  cases function with
  | light kind => cases kind <;> decide +kernel
  | shadow technique => exact fixed "computeShadow" (by decide)
  | skinning bones => exact fixed "skeletalTransform" (by decide)
  | morphing targets =>
      have few := bounded targets rfl
      interval_cases targets <;> decide +kernel
  | billboard => exact fixed "billboard" (by decide)

section Calls

variable {symbols : List Variable}

/-- An operand is a variable of a type. -/
def Operand.Carries (symbols : List Variable) (operand : Operand) (type : DataType) : Prop :=
  ∃ v ∈ symbols, operand = .read v ∧ v.arrayLength = none ∧ v.type = type

theorem Operand.Carries.hasType {operand : Operand} {type : DataType}
    (carries : operand.Carries symbols type) : HasType symbols operand.text type := by
  obtain ⟨v, declared, rfl, single, rfl⟩ := carries
  exact .read declared single

/-- A vector of three components, or of four that is cut down to three. -/
theorem Operand.hasType_convert {operand : Operand}
    (carries : operand.Carries symbols .vec3 ∨ operand.Carries symbols .vec4) (fill : String) :
    HasType symbols (operand.convert .vec3 fill) .vec3 := by
  rcases carries with ⟨v, declared, rfl, single, typed⟩ | ⟨v, declared, rfl, single, typed⟩
  · have same : (Operand.read v).convert .vec3 fill = v.name := by
      simp [Operand.convert, Operand.type?, typed, ShaderLoom.convert, Operand.text]
    rw [same, ← typed]
    exact .read declared single
  · have cut : (Operand.read v).convert .vec3 fill =
        DataType.vec3.word ++ "(" ++ v.name ++ ")" := by
      simp [Operand.convert, Operand.type?, typed, ShaderLoom.convert, Operand.text]
      rfl
    rw [cut]
    exact .cast declared single rfl (by rw [typed]; rfl) (by decide)

theorem Glsl.HasType.familiar {text : String} {type : DataType}
    (typed : HasType symbols text type)
    (spelled : ∀ v ∈ symbols, v.name.toList.all Node.isSlotPart = true) : Familiar text := by
  cases typed with
  | read declared => exact Glsl.familiar_word (spelled _ declared)
  | cast declared =>
      exact ((opened_call (DataType.word_mem_provided _)).append
        (Glsl.familiar_word (spelled _ declared))).close Glsl.quiet_parenthesis

theorem Glsl.familiar_of_types {arguments : List String} {types : List DataType}
    (typed : List.Forall₂ (HasType symbols) arguments types)
    (spelled : ∀ v ∈ symbols, v.name.toList.all Node.isSlotPart = true) :
    ∀ argument ∈ arguments, Familiar argument := by
  induction typed with
  | nil => exact List.forall_mem_nil _
  | cons first _ ih => exact List.forall_mem_cons.mpr ⟨first.familiar spelled, ih⟩

/-- One statement that calls a function, with the helper that defines it, or that calls none. -/
structure Lowered.Speaks (symbols : List Variable) (function? : Option HelperFunction)
    (lowered : Lowered) (statement : String) : Prop where
  statements : lowered.statements = [statement]
  helpers : lowered.helpers = (function?.map HelperFunction.helper).toList
  callees : Glsl.foreignCallees statement =
    (function?.map fun function => function.signature.name).toList
  calls : ∀ function ∈ function?, Glsl.Calls symbols function.signature statement

theorem Lowered.IsFamiliar.speaks {lowered : Lowered} (familiar : lowered.IsFamiliar) :
    ∃ statement, lowered.Speaks symbols none statement := by
  obtain ⟨helpers, statement, statements, familiar⟩ := familiar
  exact ⟨statement, statements, helpers, familiar.foreignCallees_eq,
    fun _ none => absurd none (Option.not_mem_none _)⟩

/-- A call whose arguments have the types of the parameters. -/
theorem Lowered.speaks_call
    (spelled : ∀ v ∈ symbols, v.name.toList.all Node.isSlotPart = true)
    {function : HelperFunction} (bounded : function.Bounded) {target : Variable}
    (declared : target ∈ symbols) (single : target.arrayLength = none)
    (typed : target.type = function.signature.result) {arguments : List String}
    (types : List.Forall₂ (HasType symbols) arguments function.signature.parameters)
    {lowered : Lowered} (statements : lowered.statements =
      [Glsl.callStatement target.name function.signature.name arguments])
    (helpers : lowered.helpers = [function.helper]) :
    ∃ statement, lowered.Speaks symbols (some function) statement := by
  obtain ⟨letters, named, foreign⟩ := function.name_spelled bounded
  refine ⟨_, statements, helpers, ?_, ?_⟩
  · exact Glsl.foreignCallees_callStatement (spelled target declared) letters named foreign
      (Glsl.familiar_of_types types spelled)
  · rintro _ ⟨⟩
    exact ⟨target, declared, single, typed, arguments, types, rfl⟩

end Calls

namespace Node

/-- The slots of morph targets are not that of their weights. -/
theorem target_ne_weights (index : Nat) : "target" ++ toString index ≠ "weights" := by
  intro same
  have letters := congrArg String.toList same
  rw [String.toList_append] at letters
  cases letters

section Calls

variable {symbols : List Variable}
  (spelled : ∀ v ∈ symbols, v.name.toList.all isSlotPart = true) {node : Node} {out : Variable}
  (declared : out ∈ symbols) (single : out.arrayLength = none) {lowered : Lowered}
include spelled declared single

theorem speaks_lowerCall {slot : String} (output : node.outputs = [(slot, out)])
    {function : HelperFunction} (bounded : function.Bounded)
    (typed : out.type = function.signature.result)
    (types : List.Forall₂ (fun entry => Operand.Carries symbols entry.2) node.inputs
      function.signature.parameters) :
    ∃ statement, (node.lowerCall function.signature.name (some function.helper)).Speaks symbols
      (some function) statement := by
  have arguments : List.Forall₂ (HasType symbols) (node.inputs.map fun entry => entry.2.text)
      function.signature.parameters := by
    rw [List.forall₂_map_left_iff]
    exact types.imp fun _ _ carries => carries.hasType
  refine Lowered.speaks_call spelled bounded declared single typed arguments ?_ rfl
  simp only [lowerCall, output]
  rfl

variable (target : ∀ {slot : String} {v : Variable}, node.output slot = .ok v → v = out)
include target

theorem speaks_lowerSkinning {bones : Nat} (typed : out.type = .mat4)
    (types : ∀ entry ∈ node.inputs, entry.1 ≠ "matrixPalette" → entry.2.Carries symbols .vec4)
    {palette : Variable} (named : palette.name = "uBones")
    (given : node.input? "matrixPalette" = some (.read palette))
    (done : node.lowerSkinning bones = .ok lowered) :
    ∃ statement, lowered.Speaks symbols (some (.skinning bones)) statement := by
  obtain ⟨weights, first, done⟩ := exists_of_bind_eq_ok done
  obtain ⟨indices, second, done⟩ := exists_of_bind_eq_ok done
  obtain ⟨matrices, third, done⟩ := exists_of_bind_eq_ok done
  obtain ⟨v, written, done⟩ := exists_of_bind_eq_ok done
  cases done
  cases target written
  have text : matrices.text = "uBones" := by
    rw [input, given] at third
    cases third
    exact named
  have bounded : (HelperFunction.skinning bones).Bounded := fun _ other => by cases other
  have first : weights.Carries symbols .vec4 :=
    types _ (mem_of_input first) (show "weights" ≠ "matrixPalette" by decide)
  have second : indices.Carries symbols .vec4 :=
    types _ (mem_of_input second) (show "bonesIndex" ≠ "matrixPalette" by decide)
  refine Lowered.speaks_call spelled bounded declared single typed
    (.cons first.hasType (.cons second.hasType .nil)) ?_ ?_
  · simp [Lowered.withHelper, Lowered.assignment, Glsl.callStatement, HelperFunction.signature,
      String.append_assoc, toString]
  · simp [Lowered.withHelper, Lowered.assignment, HelperFunction.helper, text]

omit spelled declared single target in
/-- The targets have three components once they are converted. -/
theorem hasType_targetsFrom
    (values : ∀ entry ∈ node.inputs, entry.1 ≠ "weights" →
      entry.2.Carries symbols .vec3 ∨ entry.2.Carries symbols .vec4) :
    ∀ {count index : Nat} {targets : List Operand}, node.targetsFrom count index = .ok targets →
      List.Forall₂ (HasType symbols) (targets.map fun operand => operand.convert .vec3 "1.0")
        (List.replicate count .vec3) := by
  intro count
  induction count with
  | zero =>
      intro index targets done
      cases done
      exact .nil
  | succ count ih =>
      intro index targets done
      obtain ⟨first, found, done⟩ := exists_of_bind_eq_ok done
      obtain ⟨others, rest, done⟩ := exists_of_bind_eq_ok done
      cases done
      have carries := values _ (mem_of_input found) (target_ne_weights index)
      exact .cons (Operand.hasType_convert carries _) (ih rest)

theorem speaks_lowerMorphing {count : Nat} (few : count ≤ 4) (typed : out.type = .vec3)
    (blends : ∀ entry ∈ node.inputs, entry.1 = "weights" → entry.2.Carries symbols .vec4)
    (values : ∀ entry ∈ node.inputs, entry.1 ≠ "weights" →
      entry.2.Carries symbols .vec3 ∨ entry.2.Carries symbols .vec4)
    (done : node.lowerMorphing count = .ok lowered) :
    ∃ statement, lowered.Speaks symbols (some (.morphing count)) statement := by
  obtain ⟨base, first, done⟩ := exists_of_bind_eq_ok done
  obtain ⟨weights, second, done⟩ := exists_of_bind_eq_ok done
  obtain ⟨v, written, done⟩ := exists_of_bind_eq_ok done
  obtain ⟨targets, others, done⟩ := exists_of_bind_eq_ok done
  cases done
  cases target written
  have bounded : (HelperFunction.morphing count).Bounded :=
    fun _ same => by cases same; exact few
  have vertex : HasType symbols (base.convert .vec3 "1.0") .vec3 := Operand.hasType_convert
    (values _ (mem_of_input first) (show "vertex" ≠ "weights" by decide)) _
  have weighs : weights.Carries symbols .vec4 := blends _ (mem_of_input second) rfl
  refine Lowered.speaks_call spelled bounded declared single typed
    (.cons vertex (.cons weighs.hasType (hasType_targetsFrom values others))) ?_ rfl
  rw [typed]
  rfl

theorem speaks_lowerBillboard (typed : out.type = .vec4)
    (corners : ∀ entry ∈ node.inputs, entry.1 = "Vertex" → entry.2.Carries symbols .vec3)
    (matrices : ∀ entry ∈ node.inputs, entry.1 ≠ "Vertex" → entry.2.Carries symbols .mat4)
    (done : node.lowerBillboard = .ok lowered) :
    ∃ statement, lowered.Speaks symbols (some .billboard) statement := by
  obtain ⟨vertex, first, done⟩ := exists_of_bind_eq_ok done
  obtain ⟨modelView, second, done⟩ := exists_of_bind_eq_ok done
  obtain ⟨projection, third, done⟩ := exists_of_bind_eq_ok done
  obtain ⟨v, written, done⟩ := exists_of_bind_eq_ok done
  cases done
  cases target written
  have bounded : HelperFunction.billboard.Bounded := fun _ other => by cases other
  have corner : HasType symbols (vertex.convert .vec3 "1.0") .vec3 :=
    Operand.hasType_convert (.inl (corners _ (mem_of_input first) rfl)) _
  have view : modelView.Carries symbols .mat4 :=
    matrices _ (mem_of_input second) (show "ModelViewMatrix" ≠ "Vertex" by decide)
  have project : projection.Carries symbols .mat4 :=
    matrices _ (mem_of_input third) (show "ProjectionMatrix" ≠ "Vertex" by decide)
  refine Lowered.speaks_call spelled bounded declared single typed
    (.cons corner (.cons view.hasType (.cons project.hasType .nil))) ?_ rfl
  simp [Lowered.withHelper, Lowered.assignment, Glsl.callStatement, HelperFunction.signature,
    String.append_assoc, toString]

end Calls
end Node

/-- An operand is an expression that calls nothing but what the language provides. -/
def Operand.Utters (operand : Operand) : Prop :=
  ∃ text, operand = .literal text ∧ Familiar text

theorem Operand.Carries.isSlotPart {symbols : List Variable}
    (spelled : ∀ v ∈ symbols, v.name.toList.all Node.isSlotPart = true) {operand : Operand}
    {type : DataType} (carries : operand.Carries symbols type) :
    operand.text.toList.all Node.isSlotPart = true := by
  obtain ⟨v, declared, rfl, _⟩ := carries
  exact spelled v declared

/-- A node becomes one statement, which calls what the operation calls, and the helper for
it. -/
def Node.Voices (state : RenderState) (symbols : List Variable) (node : Node)
    (lowered : Lowered) : Prop :=
  ∃ function?, (∀ function ∈ function?, state.MayCall function) ∧
    node.operation.function? = function?.map (fun function => function.signature.name) ∧
    ∃ statement, lowered.Speaks symbols function? statement

/-- **What the statement of a node calls**: the function of the operation, with arguments of the
right types, or nothing but what the language provides. -/
theorem Applies.lower {state : RenderState} {symbols : List Variable} {node : Node}
    {slot : String} {out : Variable}
    (applies : Applies state (Operand.Carries symbols) Operand.Utters node.operation node.inputs
      out.type)
    (bounded : ∀ function, state.MayCall function → function.Bounded)
    (spelled : ∀ v ∈ symbols, v.name.toList.all Node.isSlotPart = true) (simple : node.Simple)
    (output : node.outputs = [(slot, out)]) (declared : out ∈ symbols)
    (single : out.arrayLength = none) {registry : Registry} {lowered : Lowered}
    (done : node.lower registry = .ok lowered) : node.Voices state symbols lowered := by
  have target : ∀ {slot : String} {v : Variable}, node.output slot = .ok v → v = out :=
    fun found => Node.eq_of_output output found
  have nothing : ∀ function ∈ (none : Option HelperFunction), state.MayCall function :=
    fun _ absent => absurd absent (Option.not_mem_none _)
  have one : ∀ {function : HelperFunction}, state.MayCall function →
      ∀ other ∈ some function, state.MayCall other := by
    rintro function may _ ⟨⟩
    exact may
  rw [Node.Voices]
  generalize named : node.operation = operation at applies
  generalize typed : out.type = type at applies
  cases applies with
  | plain plain known =>
      refine ⟨none, nothing, ?_, ?_⟩
      · cases operation <;> first | rfl | cases plain
      · refine Lowered.IsFamiliar.speaks
          (Node.isFamiliar_lower (fun found => ?_) (fun found => ?_) (named ▸ plain) done)
        · rcases known _ (Node.mem_of_input found) with ⟨text, rfl, familiar⟩ | ⟨type, carries⟩
          · exact familiar
          · exact carries.hasType.familiar spelled
        · rw [target found]
          exact spelled out declared
  | code familiar known =>
      refine ⟨none, nothing, rfl, Lowered.IsFamiliar.speaks ?_⟩
      rw [Node.lower, named] at done
      obtain ⟨text, substituted, done⟩ := exists_of_bind_eq_ok done
      cases done
      refine ⟨rfl, _, rfl, ?_⟩
      rw [Familiar, Glsl.callees, String.toList_ofList]
      refine Node.familiar_substitute (Node.quiet_slotText (fun entry member => ?_) ?_)
        (fun (opened : (none : Option (List Char)).isSome = true) => opened)
        (fun _ => rfl) familiar substituted
      · obtain ⟨type, carries⟩ := known entry member
        exact carries.isSlotPart spelled
      · rw [output]
        exact List.forall_mem_singleton.mpr (spelled out declared)
  | @call function _ may types =>
      refine ⟨some function, one may, rfl, ?_⟩
      rw [Node.lower, named] at done
      cases done
      exact Node.speaks_lowerCall spelled declared single output
        (bounded function may) typed types
  | @skinning bones _ may types =>
      refine ⟨some (.skinning bones), one may, rfl, ?_⟩
      have worded := simple.worded
      rw [named] at worded
      obtain ⟨palette, name, _, given⟩ := worded
      rw [Node.lower, named] at done
      exact Node.speaks_lowerSkinning spelled declared single target typed types name given done
  | @morphing targets _ may weights values =>
      refine ⟨some (.morphing targets), one may, rfl, ?_⟩
      rw [Node.lower, named] at done
      exact Node.speaks_lowerMorphing spelled declared single target (bounded _ may targets rfl)
        typed weights values done
  | billboard vertex matrices =>
      refine ⟨some .billboard, one trivial, rfl, ?_⟩
      rw [Node.lower, named] at done
      exact Node.speaks_lowerBillboard spelled declared single target typed vertex matrices done

end ShaderLoom
