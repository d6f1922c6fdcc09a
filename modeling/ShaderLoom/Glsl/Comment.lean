/-!
# Comments

Removal of comments from a program text.  A block comment counts as one space, so it still
separates words; a line comment disappears and its newline stays.  Whichever opener comes first
wins, and openers inside a comment are part of it.
-/

namespace ShaderLoom
namespace Glsl

/-- What follows the end of a block comment whose opener was just read. -/
def afterBlockComment : List Char → List Char
  | '*' :: '/' :: rest => rest
  | _ :: rest => afterBlockComment rest
  | [] => []

/-- What follows a line comment: its newline and all after it. -/
def afterLineComment (text : List Char) : List Char :=
  text.dropWhile fun c => c != '\n'

theorem length_afterBlockComment_le (text : List Char) :
    (afterBlockComment text).length ≤ text.length := by
  fun_induction afterBlockComment text with
  | case1 rest => simp; omega
  | case2 c rest _ ih => simp; omega
  | case3 => simp

theorem length_afterLineComment_le (text : List Char) :
    (afterLineComment text).length ≤ text.length :=
  (List.dropWhile_suffix _).length_le

/-- A program text without its comments. -/
def stripComments : List Char → List Char
  | '/' :: '/' :: rest => stripComments (afterLineComment rest)
  | '/' :: '*' :: rest => ' ' :: stripComments (afterBlockComment rest)
  | c :: rest => c :: stripComments rest
  | [] => []
termination_by text => text.length
decreasing_by
  · have := length_afterLineComment_le rest
    simp only [List.length_cons]
    omega
  · have := length_afterBlockComment_le rest
    simp only [List.length_cons]
    omega
  · simp

end Glsl
end ShaderLoom
