/-!
# Searching texts
-/

namespace NoteForms.Text

/-- Whether a text begins with another. -/
def startsWith (s start : String) : Bool := start.toList.isPrefixOf s.toList

/-- Whether some characters stand side by side among others. -/
def containsChars (needle : List Char) : List Char → Bool
  | [] => needle.isEmpty
  | c :: cs => needle.isPrefixOf (c :: cs) || containsChars needle cs

/-- Whether a text holds another. -/
def contains (s needle : String) : Bool := containsChars needle.toList s.toList

end NoteForms.Text
