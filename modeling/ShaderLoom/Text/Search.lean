/-!
# Searching in a text
-/

namespace ShaderLoom
namespace Text

/-- Whether `text` has `part` somewhere in it; the empty part is in every text. -/
def occursIn (part : List Char) : List Char → Bool
  | [] => part.isEmpty
  | c :: rest => part.isPrefixOf (c :: rest) || occursIn part rest

end Text
end ShaderLoom
