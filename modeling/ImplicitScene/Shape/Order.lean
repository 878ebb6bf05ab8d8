import ImplicitScene.Shape.Arena

/-!
# The order of construction below a shape

`Arena.order` lists the shapes that a shape is made from, itself included.  Every
shape comes after those it is made from, and none comes twice.  The list is the
one that arises by listing the children in turn, then the shape itself, and
keeping the first occurrence of each.

The walk keeps a stack of shapes whose children are being listed.  A turn either
looks at the next child of the top shape, or lists the top shape and takes it
off.  There is one turn for every shape and one for every reference to a child,
so that many turns are enough.
-/

namespace ImplicitScene

/-- A shape on the stack, and how many of its children have been looked at. -/
structure Visit where
  /-- The shape. -/
  id : ShapeId
  /-- The next child to look at. -/
  next : Nat
  deriving Repr, DecidableEq

/-- The state of the walk. -/
structure Walk where
  /-- The shapes whose children are being listed, innermost first. -/
  stack : List Visit
  /-- Which shapes have been listed, by position in the arena. -/
  listed : Array Bool
  /-- The shapes listed so far. -/
  order : Array ShapeId
  deriving Repr

namespace Walk

/-- Whether a shape has been listed. -/
def hasListed (w : Walk) (id : ShapeId) : Bool := w.listed.getD id.index false

/-- The walk before its first turn. -/
def start (arena : Arena) (root : ShapeId) : Walk :=
  { stack := if arena.contains root then [⟨root, 0⟩] else []
    listed := Array.replicate arena.size false
    order := #[] }

/-- One turn.  A walk with an empty stack rests. -/
def turn (arena : Arena) (w : Walk) : Walk :=
  match w.stack with
  | [] => w
  | top :: rest =>
      match (arena.dependencies top.id)[top.next]? with
      | some child =>
          let stack := { top with next := top.next + 1 } :: rest
          if arena.contains child && !w.hasListed child then
            { w with stack := ⟨child, 0⟩ :: stack }
          else { w with stack }
      | none =>
          if w.hasListed top.id then { w with stack := rest }
          else
            { stack := rest
              listed := w.listed.setIfInBounds top.id.index true
              order := w.order.push top.id }

/-- A number of turns. -/
def run (arena : Arena) : Nat → Walk → Walk
  | 0, w => w
  | turns + 1, w =>
      match w.stack with
      | [] => w
      | _ :: _ => run arena turns (w.turn arena)

end Walk

namespace Arena

/-- One turn for every shape and one for every reference to a child. -/
def turns (arena : Arena) : Nat :=
  arena.nodes.foldl (fun n node => n + node.dependencies.length + 1) 0

/-- The shapes that `root` is made from, in the order of construction. -/
def order (arena : Arena) (root : ShapeId) : List ShapeId :=
  (Walk.run arena arena.turns (Walk.start arena root)).order.toList

end Arena

end ImplicitScene
