/-!
# Replacing a pattern in a text

Occurrences are found from left to right and do not overlap.  The replacement is
not searched again.  The pattern is not empty.
-/

namespace ImplicitScene.Text

/-- Replace the pattern, passing over the next `skip` characters, which belong to an occurrence
already replaced. -/
def replaceFrom (pattern replacement : List Char) : (skip : Nat) → List Char → List Char
  | _, [] => []
  | skip + 1, _ :: cs => replaceFrom pattern replacement skip cs
  | 0, c :: cs =>
      if pattern.isPrefixOf (c :: cs) then
        replacement ++ replaceFrom pattern replacement (pattern.length - 1) cs
      else c :: replaceFrom pattern replacement 0 cs

/-- Every occurrence of `pattern` in `text` replaced. -/
def replaceAll (text pattern replacement : String) : String :=
  String.ofList (replaceFrom pattern.toList replacement.toList 0 text.toList)

/-- A text between braces. -/
def braced (text : String) : String := "\x7b" ++ text ++ "\x7d"

end ImplicitScene.Text
