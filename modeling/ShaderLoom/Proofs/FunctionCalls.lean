import ShaderLoom.Proofs.DeclarationLines

/-!
# Functions and calls in GLSL

Which functions a text defines, and which functions it calls, read off its characters.

A text that defines functions consists of headings and blocks, apart from comments.  A heading
gives the type of the result, the name and the parameters (`Glsl.definitions?`).  A function is
called where a word stands in front of an opening parenthesis (`Glsl.callees`).  Constructors of
types and the functions of the language are called in the same way, but need no definition
(`Glsl.provided`).

What is called can be found piece by piece.  A text is familiar if it calls nothing but what the
language provides; words are familiar, and so is what is put together from familiar texts by
marks and by functions that are provided.

## Main definitions

* `Glsl.Signature`, `Glsl.definitions?` — the functions that a text defines
* `Glsl.callees`, `Glsl.provided` — the functions that a text calls, and those of the language
* `Glsl.HasType`, `Glsl.Calls` — expressions with their types, and calls that agree with a
  signature
* `Glsl.Familiar` — texts that call nothing but what the language provides

## Main results

* `Glsl.calleesFrom_append` — calls are found piece by piece
* `Glsl.Opened.append`, `Glsl.Familiar.separate`, `Glsl.Familiar.close` — putting familiar texts
  together
-/

namespace ShaderLoom

/-- The number of components of a vector. -/
def DataType.components? : DataType → Option Nat
  | vec2 => some 2
  | vec3 => some 3
  | vec4 => some 4
  | _ => none

namespace Glsl

open Text (cutAt isBlank words)

/-! ## Definitions -/

/-- What a function takes, in order, and what it gives. -/
structure Signature where
  name : String
  parameters : List DataType
  result : DataType
  deriving DecidableEq, Repr

/-- The type of a parameter that is handed in: qualifiers, a type and a name. -/
def parameterType? (text : List Char) : Option DataType :=
  match ((words text).map String.ofList).dropWhile fun word =>
    word == "const" || word == "in" with
  | [type, _] => DataType.ofWord? type
  | _ => none

/-- The signature that a heading gives: a type, a name and parameters in parentheses. -/
def signature? (heading : List Char) : Option Signature :=
  match cutAt '(' heading with
  | [front, back] =>
    match words front, cutAt ')' back with
    | [type, name], [inside, behind] => do
      guard (words behind).isEmpty
      let parameters ← (cutAt ',' inside).mapM parameterType?
      let result ← DataType.ofWord? (String.ofList type)
      return { name := String.ofList name, parameters, result }
    | _, _ => none
  | _ => none

/-- The texts outside of blocks, cut where blocks are.  `depth` blocks are open, and `held` has
been read since the last one, newest character first.  Blanks behind the last block are no
text. -/
def headings (depth : Nat) (held : List Char) : List Char → List (List Char)
  | [] => if (words held).isEmpty then [] else [held.reverse]
  | c :: rest =>
    if c = '\x7b' then
      if depth = 0 then held.reverse :: headings 1 [] rest else headings (depth + 1) [] rest
    else if c = '\x7d' then headings (depth - 1) [] rest
    else if depth = 0 then headings 0 (c :: held) rest
    else headings depth held rest

/-- The functions that a text without comments defines, if it consists of definitions. -/
def definitionsIn? (code : List Char) : Option (List Signature) :=
  (headings 0 [] code).mapM signature?

/-- The functions that a text defines, in order, if it consists of definitions and comments. -/
def definitions? (text : String) : Option (List Signature) :=
  definitionsIn? (stripComments text.toList)

/-! ## Calls -/

/-- The function that is called at a mark behind a word, whose letters are held newest first. -/
def calleeAt (held : List Char) (mark : Char) : List String :=
  if mark = '(' ∧ held ≠ [] then [String.ofList held.reverse] else []

/-- The functions that a text calls, behind the start of a word.  Blanks do not count: it does
not matter whether there are any in front of a parenthesis, and what only blanks separate is
taken for one word. -/
def calleesFrom (held : List Char) : List Char → List String
  | [] => []
  | c :: rest =>
    if isBlank c then calleesFrom held rest
    else if Node.isSlotPart c then calleesFrom (c :: held) rest
    else calleeAt held c ++ calleesFrom [] rest

/-- The functions that a text calls, in order. -/
def callees (text : String) : List String :=
  calleesFrom [] text.toList

example : callees "x = scale (max(a, b), vec2(c), d.x) * (a + b);" =
    ["scale", "max", "vec2"] := by
  decide +kernel

/-- What the language provides: the constructors of types and the built-in functions. -/
def provided : List String :=
  DataType.all.map DataType.word ++
    ["radians", "degrees", "sin", "cos", "tan", "asin", "acos", "atan", "pow", "exp", "log",
      "exp2", "log2", "sqrt", "inversesqrt", "abs", "sign", "floor", "ceil", "fract",
      "mod", "min", "max", "clamp", "mix", "step", "smoothstep", "length", "distance", "dot",
      "cross", "normalize", "faceforward", "reflect", "refract", "matrixCompMult", "lessThan",
      "lessThanEqual", "greaterThan", "greaterThanEqual", "equal", "notEqual", "any", "all",
      "not", "texture2D", "texture2DProj", "texture2DLod", "texture2DProjLod", "textureCube",
      "textureCubeLod"]

/-- Whether a function has to be defined before it can be called. -/
def isForeign (function : String) : Bool :=
  !provided.contains function

/-- The functions that a text calls and that have to be defined, in order. -/
def foreignCallees (text : String) : List String :=
  (callees text).filter isForeign

/-- The types of expressions: a variable has its own type, and a vector can be cut down to fewer
components by a constructor. -/
inductive HasType (symbols : List Variable) : String → DataType → Prop
  | read {v : Variable} (declared : v ∈ symbols) (single : v.arrayLength = none) :
    HasType symbols v.name v.type
  | cast {v : Variable} (declared : v ∈ symbols) (single : v.arrayLength = none)
      {type : DataType} {few many : Nat} (target : type.components? = some few)
      (source : v.type.components? = some many) (fits : few ≤ many) :
    HasType symbols (type.word ++ "(" ++ v.name ++ ")") type

/-- The statement that assigns what a function gives for some arguments. -/
def callStatement (target function : String) (arguments : List String) : String :=
  target ++ " = " ++ (function ++ "(" ++ ", ".intercalate arguments ++ ")") ++ ";"

/-- A statement assigns to a variable what a function gives.  The arguments have the types of
the parameters, one by one, and the variable has the type of the result. -/
def Calls (symbols : List Variable) (signature : Signature) (statement : String) : Prop :=
  ∃ target ∈ symbols, target.arrayLength = none ∧ target.type = signature.result ∧
    ∃ arguments, List.Forall₂ (HasType symbols) arguments signature.parameters ∧
      statement = callStatement target.name signature.name arguments

/-! ## Calls, piece by piece -/

/-- The word at the end of a text, behind the start of a word. -/
def heldAfter (held : List Char) : List Char → List Char
  | [] => held
  | c :: rest =>
    if isBlank c then heldAfter held rest
    else if Node.isSlotPart c then heldAfter (c :: held) rest
    else heldAfter [] rest

/-- **Calls are found piece by piece.** -/
theorem calleesFrom_append (front back : List Char) : ∀ held,
    calleesFrom held (front ++ back) =
      calleesFrom held front ++ calleesFrom (heldAfter held front) back := by
  induction front with
  | nil => exact fun held => rfl
  | cons c front ih =>
      intro held
      rw [List.cons_append, calleesFrom, calleesFrom, heldAfter]
      split
      · exact ih held
      · split
        · exact ih (c :: held)
        · rw [ih [], List.append_assoc]

theorem heldAfter_append (front back : List Char) : ∀ held,
    heldAfter held (front ++ back) = heldAfter (heldAfter held front) back := by
  induction front with
  | nil => exact fun held => rfl
  | cons c front ih =>
      intro held
      rw [List.cons_append, heldAfter, heldAfter]
      split
      · exact ih held
      · split
        · exact ih (c :: held)
        · exact ih []

/-- Words go on with what is held, and call nothing. -/
theorem calleesFrom_word {word : List Char} (parts : ∀ c ∈ word, Node.isSlotPart c = true) :
    ∀ held, calleesFrom held word = [] ∧ heldAfter held word = word.reverse ++ held := by
  induction word with
  | nil => exact fun held => ⟨rfl, rfl⟩
  | cons c word ih =>
      intro held
      have part := parts c List.mem_cons_self
      have solid : ¬ isBlank c = true := by
        rw [Declaration.isBlank_eq_false_of_isSlotPart part]
        exact Bool.false_ne_true
      rw [calleesFrom, heldAfter, if_neg solid, if_pos part, if_neg solid, if_pos part,
        List.reverse_cons, List.append_assoc, List.singleton_append]
      exact ih (fun d member => parts d (List.mem_cons_of_mem _ member)) (c :: held)

/-- A text that calls nothing, whatever stands in front of it. -/
def Quiet (text : String) : Prop :=
  ∀ held, calleesFrom held text.toList = []

/-- A quiet text behind which a new word can start. -/
structure Parts (text : String) : Prop where
  quiet : Quiet text
  ends : ∀ held, heldAfter held text.toList = []

theorem parts_comma : Parts ", " :=
  ⟨fun _ => rfl, fun _ => rfl⟩

theorem parts_zero : Parts ", 0.0, " :=
  ⟨fun _ => rfl, fun _ => rfl⟩

theorem parts_equals : Parts " = " :=
  ⟨fun _ => rfl, fun _ => rfl⟩

theorem parts_times : Parts " * " :=
  ⟨fun _ => rfl, fun _ => rfl⟩

theorem quiet_parenthesis : Quiet ")" :=
  fun _ => rfl

theorem quiet_semicolon : Quiet ";" :=
  fun _ => rfl

theorem callees_close {text more : String} (quiet : Quiet more) :
    callees (text ++ more) = callees text := by
  rw [callees, String.toList_append, calleesFrom_append, quiet, List.append_nil]
  rfl

theorem callees_separate {front between : String} (parts : Parts between) (back : String) :
    callees (front ++ between ++ back) = callees front ++ callees back := by
  rw [callees, String.toList_append, String.toList_append, List.append_assoc,
    calleesFrom_append, calleesFrom_append, parts.quiet, parts.ends, List.nil_append]
  rfl

/-- A function is called, and a new word can start. -/
theorem callees_opening {function : String}
    (spelled : function.toList.all Node.isSlotPart = true) (named : function ≠ "") :
    callees (function ++ "(") = [function] ∧
      heldAfter [] (function ++ "(").toList = [] := by
  obtain ⟨silent, held⟩ := calleesFrom_word (List.all_eq_true.mp spelled) []
  have some : function.toList.reverse ≠ [] := by
    rw [Ne, List.reverse_eq_nil_iff, String.toList_eq_nil_iff]
    exact named
  have opens : calleesFrom function.toList.reverse "(".toList = [function] := by
    change calleeAt _ '(' ++ [] = _
    rw [calleeAt, if_pos ⟨rfl, some⟩, List.reverse_reverse, String.ofList_toList,
      List.append_nil]
  constructor
  · rw [callees, String.toList_append, calleesFrom_append, silent, held, List.append_nil, opens,
      List.nil_append]
  · rw [String.toList_append, heldAfter_append]
    rfl

/-- A function is called, and what its arguments call. -/
theorem callees_call {function : String} (spelled : function.toList.all Node.isSlotPart = true)
    (named : function ≠ "") (arguments : String) :
    callees (function ++ "(" ++ arguments ++ ")") = function :: callees arguments := by
  obtain ⟨opens, ends⟩ := callees_opening spelled named
  rw [callees_close quiet_parenthesis, callees, String.toList_append, calleesFrom_append, ends,
    ← callees, opens]
  rfl

/-! ## Familiar texts -/

/-- A text that calls nothing but what the language provides. -/
def Familiar (text : String) : Prop :=
  ∀ function ∈ callees text, function ∈ provided

/-- The start of a familiar text, behind which a new word can start. -/
structure Opened (text : String) : Prop where
  familiar : Familiar text
  ends : heldAfter [] text.toList = []

theorem familiar_word {word : String} (parts : word.toList.all Node.isSlotPart = true) :
    Familiar word := by
  intro function member
  rw [callees, (calleesFrom_word (List.all_eq_true.mp parts) []).1] at member
  cases member

/-- A function of the language and the parenthesis behind it. -/
theorem opened_call {function : String} (known : function ∈ provided) :
    Opened (function ++ "(") := by
  have spelled : ∀ function ∈ provided,
      function.toList.all Node.isSlotPart = true ∧ function ≠ "" := by
    decide +kernel
  obtain ⟨letters, named⟩ := spelled function known
  obtain ⟨opens, ends⟩ := callees_opening letters named
  refine ⟨?_, ends⟩
  rw [Familiar, opens]
  exact List.forall_mem_singleton.mpr known

theorem Opened.append {front back : String} (opened : Opened front) (familiar : Familiar back) :
    Familiar (front ++ back) := by
  intro function member
  rw [callees, String.toList_append, calleesFrom_append, opened.ends] at member
  rcases List.mem_append.mp member with early | late
  · exact opened.familiar function early
  · exact familiar function late

theorem Familiar.separate {front between : String} (familiar : Familiar front)
    (parts : Parts between) : Opened (front ++ between) := by
  refine ⟨?_, ?_⟩
  · rw [Familiar, callees_close parts.quiet]
    exact familiar
  · rw [String.toList_append, heldAfter_append, parts.ends]

theorem Familiar.close {text more : String} (familiar : Familiar text) (quiet : Quiet more) :
    Familiar (text ++ more) := by
  rw [Familiar, callees_close quiet]
  exact familiar

theorem familiar_intercalate {texts : List String} (all : ∀ text ∈ texts, Familiar text) :
    Familiar (", ".intercalate texts) := by
  match texts with
  | [] => exact List.forall_mem_nil _
  | [text] =>
      rw [String.intercalate_singleton]
      exact all text (List.mem_singleton_self text)
  | first :: next :: texts =>
      rw [String.intercalate_cons_cons]
      refine ((all first List.mem_cons_self).separate parts_comma).append ?_
      exact familiar_intercalate fun text member => all text (List.mem_cons_of_mem _ member)

/-- Familiar texts call nothing that has to be defined. -/
theorem Familiar.foreignCallees_eq {text : String} (familiar : Familiar text) :
    foreignCallees text = [] := by
  refine List.filter_eq_nil_iff.mpr fun function member => ?_
  rw [isForeign, List.contains_iff_mem.mpr (familiar function member)]
  exact Bool.false_ne_true

/-- A call needs the definition of its function, and no other if its arguments are familiar. -/
theorem foreignCallees_callStatement {target function : String} {arguments : List String}
    (word : target.toList.all Node.isSlotPart = true)
    (spelled : function.toList.all Node.isSlotPart = true) (named : function ≠ "")
    (foreign : isForeign function = true)
    (familiar : ∀ argument ∈ arguments, Familiar argument) :
    foreignCallees (callStatement target function arguments) = [function] := by
  have silent : callees target = [] := (calleesFrom_word (List.all_eq_true.mp word) []).1
  have called : callees (callStatement target function arguments) =
      function :: callees (", ".intercalate arguments) := by
    rw [callStatement, callees_close quiet_semicolon, callees_separate parts_equals, silent,
      callees_call spelled named, List.nil_append]
  rw [foreignCallees, called, List.filter_cons_of_pos foreign]
  exact congrArg _ (familiar_intercalate familiar).foreignCallees_eq

end Glsl
end ShaderLoom
