import ShaderLoom.Error

/-!
# Scanning a program

The declarations of a program without repeats.  A name may be declared several times, in either
stage, as long as qualifier and type stay the same; the first disagreement is an error.
-/

namespace ShaderLoom
namespace Declaration

/-- Adds a declaration to those found so far, unless its name is already there. -/
def record (found : List Declaration) (declaration : Declaration) :
    Except Error (List Declaration) :=
  match found.find? fun earlier => earlier.name == declaration.name with
  | none => .ok (found ++ [declaration])
  | some earlier =>
    if earlier.qualifier = declaration.qualifier ∧ earlier.type =
    declaration.type then .ok found else .error (.declarationConflict earlier declaration)

/-- The declarations of a list without repeats. -/
def merge (declarations : List Declaration) : Except Error (List Declaration) :=
  declarations.foldlM record []

/-- The declarations of a program, each name once, in order of first appearance. -/
def scan (vertex fragment : String) : Except Error (List Declaration) :=
  merge (inProgram vertex fragment)

end Declaration
end ShaderLoom
