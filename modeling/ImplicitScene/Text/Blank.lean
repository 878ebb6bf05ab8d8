/-!
# Blank characters and lines

A character is blank when it has the Unicode property `White_Space`.  The end of
a line is trimmed of blank characters.
-/

namespace ImplicitScene.Text

/-- The characters with the property `White_Space`, as ranges of code points. -/
def blankRanges : List (Nat × Nat) :=
  [(0x9, 0xD), (0x20, 0x20), (0x85, 0x85), (0xA0, 0xA0), (0x1680, 0x1680), (0x2000, 0x200A),
    (0x2028, 0x2029), (0x202F, 0x202F), (0x205F, 0x205F), (0x3000, 0x3000)]

/-- Whether a character is blank. -/
def isBlank (c : Char) : Bool :=
  blankRanges.any fun (low, high) => low ≤ c.toNat && c.toNat ≤ high

/-- A text without the blank characters at its end. -/
def trimEnd (cs : List Char) : List Char :=
  (cs.reverse.dropWhile isBlank).reverse

/-- The lines of a text, with the characters of the current line in reverse.  A line feed ends a
line, and text after the last one is a line when it is not empty. -/
def splitLines : (current : List Char) → List Char → List (List Char)
  | [], [] => []
  | current, [] => [current.reverse]
  | current, c :: cs =>
      if c = '\n' then current.reverse :: splitLines [] cs else splitLines (c :: current) cs

/-- The lines of a text, each trimmed at its end. -/
def trimmedLines (text : String) : List (List Char) :=
  (splitLines [] text.toList).map trimEnd

end ImplicitScene.Text
