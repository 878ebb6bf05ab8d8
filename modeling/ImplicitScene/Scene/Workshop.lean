import ImplicitScene.Scene.Builder

/-!
# Several builders at once

A workshop holds builders, numbered from 0.  Every new builder draws a tag of its
own, so that its handles are told apart from those of other builders.  A copy of
a builder keeps the tag, so handles pass between the two by their number.
-/

namespace ImplicitScene

/-- Builders side by side. -/
structure Workshop where
  /-- The next tag to draw. -/
  nextTag : Nat := 1
  /-- The builders. -/
  builders : Array Builder := #[]
  deriving Repr

namespace Workshop

/-- Start a new builder.  The result is its number. -/
def start (w : Workshop) : Nat × Workshop :=
  (w.builders.size, ⟨w.nextTag + 1, w.builders.push (.empty w.nextTag)⟩)

/-- Copy a builder.  The result is the number of the copy. -/
def copy? (w : Workshop) (i : Nat) : Option (Nat × Workshop) :=
  w.builders[i]?.map fun b => (w.builders.size, { w with builders := w.builders.push b })

/-- Run a construction on a builder. -/
def run? {α : Type} (w : Workshop) (i : Nat) (action : Build α) :
    Option (Except SceneError α × Workshop) :=
  w.builders[i]?.map fun b =>
    let (result, b) := action.runOn b
    (result, { w with builders := w.builders.setIfInBounds i b })

end Workshop

end ImplicitScene
