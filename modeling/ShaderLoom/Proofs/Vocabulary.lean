import ShaderLoom.Proofs.StatementForm
import ShaderLoom.Proofs.Terms
import ShaderLoom.Wiring.Basic

/-!
# The vocabulary of a stage

The variables of a stage are of three kinds, and their names keep them apart.  Built-in
variables come with the stage.  Declared variables have reserved names: a capital letter at the
front, or `u` or `v` and a capital letter.  Temporaries have plain names, which are never
reserved however they are continued.

A `Vocabulary` fixes the variables that a stage may declare.  A name determines its variable
there, so that no declaration is ever refused.  It also fixes what the results that
constructions share stand for, so that it does not matter which construction asked for them
first.

## Main definitions

* `isReserved`, `isLasting`, `isPlain` — the names of variables
* `Vocabulary`, `Classifier` — the variables of a stage, told by their names
* `Readable` — the inputs of a stage
-/

namespace ShaderLoom
namespace Wire

open StageGraph

/-! ## Names -/

/-- The first two characters of a name. -/
def opening (name : String) : List Char :=
  name.toList.take 2

/-- The last character of a name. -/
def closing (name : String) : Option Char :=
  name.toList.getLast?

theorem opening_append {text : String} {c d : Char} (opens : opening text = [c, d])
    (more : String) : opening (text ++ more) = [c, d] := by
  have long : (opening text).length = 2 := by rw [opens]; rfl
  rw [opening, List.length_take] at long
  rw [opening, String.toList_append, List.take_append_of_le_length (by omega)]
  exact opens

theorem closing_append {text : String} {c : Char} (closes : closing text = some c)
    (front : String) : closing (front ++ text) = some c := by
  rw [closing] at closes ⊢
  rw [String.toList_append, List.getLast?_append, closes, Option.some_or]

/-- Whether two characters open the name of a declared variable: a capital letter, or `u` or `v`
and a capital letter. -/
def isReservedOpening (c d : Char) : Bool :=
  c.isUpper || ((c == 'u' || c == 'v') && d.isUpper)

/-- Whether a name has the form of the names of declared variables. -/
def isReserved (name : String) : Bool :=
  match opening name with
  | [c, d] => isReservedOpening c d
  | _ => false

/-- Whether a name opens like `uniform` or `attribute`. -/
def opensQualifier (name : String) : Bool :=
  opening name == ['u', 'n'] || opening name == ['a', 't']

/-- Whether a name is an identifier that can be continued at will and never turns into a
qualifier. -/
def isLasting (name : String) : Bool :=
  Glsl.isIdentifier name.toList && (opening name).length == 2 && !opensQualifier name

/-- Whether a name can be continued at will without taking the form of the names of declared
variables. -/
def isPlain (name : String) : Bool :=
  isLasting name && !isReserved name

theorem isReserved_of_isPlain {name : String} (plain : isPlain name = true) :
    isReserved name = false := by
  rw [isPlain, Bool.and_eq_true, Bool.not_eq_true'] at plain
  exact plain.2

theorem isLasting_of_isPlain {name : String} (plain : isPlain name = true) :
    isLasting name = true := by
  rw [isPlain, Bool.and_eq_true] at plain
  exact plain.1

theorem isIdentifier_of_isLasting {name : String} (lasting : isLasting name = true) :
    Glsl.isIdentifier name.toList = true := by
  rw [isLasting, Bool.and_eq_true, Bool.and_eq_true] at lasting
  exact lasting.1.1

theorem isReserved_append {text : String} {c d : Char} (opens : opening text = [c, d])
    (more : String) : isReserved (text ++ more) = isReserved text := by
  rw [isReserved, isReserved, opening_append opens, opens]

theorem isPlain_append {text more : String} (plain : isPlain text = true)
    (parts : more.toList.all Node.isSlotPart = true) : isPlain (text ++ more) = true := by
  have identifier := isIdentifier_of_isLasting (isLasting_of_isPlain plain)
  have all := plain
  rw [isPlain, isLasting, Bool.and_eq_true, Bool.and_eq_true, Bool.and_eq_true,
    beq_iff_eq] at all
  obtain ⟨c, d, opens⟩ := List.length_eq_two.mp all.1.1.2
  rw [isPlain, isLasting, opensQualifier, opening_append opens,
    isReserved_append opens, ← opens, String.toList_append,
    Glsl.isIdentifier_append identifier parts]
  rw [isPlain, isLasting, identifier] at plain
  exact plain

theorem isPlain_append_toString {text : String} (plain : isPlain text = true) (n : Nat) :
    isPlain (text ++ toString n) = true :=
  isPlain_append plain (Text.all_isSlotPart_toString n)

/-- Reserved names that are spelled like names stay names. -/
theorem isLasting_of_isReserved {name : String} (reserved : isReserved name = true)
    (spelled : name.toList.all Node.isSlotPart = true) : isLasting name = true := by
  rw [isReserved] at reserved
  split at reserved
  · rename_i c d opens
    have identifier : Glsl.isIdentifier name.toList = true := by
      rw [opening] at opens
      cases letters : name.toList with
      | nil => rw [letters] at opens; cases opens
      | cons first rest =>
          rw [letters, List.take_succ_cons] at opens
          obtain rfl := (List.cons.inj opens).1
          rw [letters, List.all_cons, Bool.and_eq_true] at spelled
          have letter : first.isAlpha = true := by
            rw [isReservedOpening, Bool.or_eq_true, Bool.and_eq_true, Bool.or_eq_true,
              beq_iff_eq, beq_iff_eq] at reserved
            rcases reserved with upper | ⟨rfl | rfl, _⟩
            · exact (Bool.or_eq_true _ _).mpr (.inl upper)
            · rfl
            · rfl
          rw [Glsl.isIdentifier, letter, spelled.2]
          rfl
    have other : opensQualifier name = false := by
      rw [opensQualifier, opens, Bool.or_eq_false_iff]
      -- Qualifiers go on with a small letter.
      constructor <;>
        · rw [beq_eq_false_iff_ne]
          rintro same
          cases same
          exact absurd reserved (by decide)
    rw [isLasting, opens, other, identifier]
    rfl
  · cases reserved

/-- The variables that a stage may declare, in which a name determines its variable, and the
terms that its shared results stand for, by their keys. -/
structure Vocabulary where
  stage : Stage
  contains : Variable → Prop
  reserved : ∀ v, contains v → isReserved v.name = true
  unique : ∀ v w, contains v → contains w → v.name = w.name → v = w
  shares : String → Option Term

/-- The type, the storage and the length of the variables of a stage, by the first two
characters and the last character of their names. -/
abbrev Classifier := List Char → Option Char → DataType × Storage × Option Nat

/-- A classifier tells what a variable is, and its name is reserved. -/
def Classifier.Tells (classify : Classifier) (v : Variable) : Prop :=
  isReserved v.name = true ∧
    classify (opening v.name) (closing v.name) = (v.type, v.storage, v.arrayLength)

theorem Classifier.tells_of_opening {classify : Classifier} {v : Variable} {c d : Char}
    (opens : opening v.name = [c, d]) (reserved : isReservedOpening c d = true)
    (same : classify [c, d] (closing v.name) = (v.type, v.storage, v.arrayLength)) :
    classify.Tells v := by
  refine ⟨?_, opens ▸ same⟩
  rw [isReserved, opens]
  exact reserved

/-- The vocabulary of variables that a classifier tells. -/
def Vocabulary.classified (stage : Stage) (contains : Variable → Prop) (classify : Classifier)
    (tells : ∀ v, contains v → classify.Tells v) (shares : String → Option Term) :
    Vocabulary where
  stage := stage
  contains := contains
  shares := shares
  reserved := fun v inside => (tells v inside).1
  unique := by
    intro v w insideV insideW same
    have kinds := (tells v insideV).2
    rw [same, (tells w insideW).2] at kinds
    cases v
    cases w
    cases kinds
    cases same
    rfl

/-- Whether a stage gets a variable from outside. -/
def Readable (stage : Stage) (v : Variable) : Prop :=
  v.storage = .attr ∨ v.storage = .uniform ∨ (v.storage = .varying ∧ stage = .fragment)

instance (stage : Stage) (v : Variable) : Decidable (Readable stage v) :=
  inferInstanceAs (Decidable (v.storage = .attr ∨ v.storage = .uniform ∨
    (v.storage = .varying ∧ stage = .fragment)))

theorem not_readable_of_temporary {stage : Stage} {v : Variable}
    (temporary : v.storage = .temporary) : ¬ Readable stage v := by
  rw [Readable, temporary]
  rintro (h | h | ⟨h, _⟩) <;> cases h

/-- The vertex stage writes varyings. -/
theorem not_readable_of_varying {v : Variable} (varying : v.storage = .varying) :
    ¬ Readable .vertex v := by
  rw [Readable, varying]
  rintro (h | h | ⟨_, h⟩) <;> cases h

end Wire
end ShaderLoom
