/-!
# Handles of shapes

A shape is known by a handle.  The handle has the number of the shape, counted
from 1 in the order of construction, and the tag of the arena that holds it.  A
handle of one arena is not a handle of another, even when its number is in range
there.
-/

namespace ImplicitScene

/-- The handle of a shape. -/
structure ShapeId where
  /-- The tag of the arena that issued the handle. -/
  arena : Nat
  /-- The number of the shape in that arena, from 1. -/
  number : Nat
  deriving Repr, DecidableEq

/-- The position of the shape in its arena, from 0. -/
def ShapeId.index (id : ShapeId) : Nat := id.number - 1

end ImplicitScene
