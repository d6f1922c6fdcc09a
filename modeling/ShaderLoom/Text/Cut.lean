/-!
# Cutting a text at separators

Splitting at a separator keeps the empty pieces: a text with `n` separators has exactly
`n + 1` pieces, and joining them again gives the text back.
-/

namespace ShaderLoom
namespace Text

/-- The pieces of a text between the characters that satisfy `separates`, empty ones
included. -/
def cutWhere (separates : Char → Bool) : List Char → List (List Char)
  | [] => [[]]
  | c :: rest =>
    if separates c then [] :: cutWhere separates rest
    else
      match cutWhere separates rest with
      | [] => [[c]]
      | piece :: pieces => (c :: piece) :: pieces

/-- The pieces of a text between the occurrences of `separator`. -/
def cutAt (separator : Char) (text : List Char) : List (List Char) :=
  cutWhere (· == separator) text

/-- The part of a text after its last character that satisfies `separates`, or all of it. -/
def afterLast (separates : Char → Bool) (text : List Char) : List Char :=
  (text.reverse.takeWhile fun c => !separates c).reverse

end Text
end ShaderLoom
