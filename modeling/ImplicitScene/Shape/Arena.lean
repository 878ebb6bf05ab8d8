import ImplicitScene.Expression.Basic
import ImplicitScene.Shape.Id
import ImplicitScene.Shape.Kind

/-!
# The arena

An arena stores shapes in the order of construction.  Shapes are only added, so a
handle stays good.  Two shapes built alike are two shapes.

A shape refers to its children by their handles.  Handles are checked when a
scene is built, not here: `insert` stores whatever it is given.
-/

namespace ImplicitScene

/-- One step of a shape in an arena. -/
abbrev ShapeKind := Kind Expression ShapeId

/-- A stored shape. -/
structure Node where
  /-- Its handle. -/
  id : ShapeId
  /-- How it is made. -/
  kind : ShapeKind
  deriving Repr

/-- The shapes a shape is made from, first to last. -/
def Node.dependencies (node : Node) : List ShapeId := node.kind.children

/-- Shapes in the order of construction. -/
structure Arena where
  /-- What tells the handles of this arena from those of others. -/
  tag : Nat
  /-- The stored shapes. -/
  nodes : Array Node := #[]
  deriving Repr

namespace Arena

/-- How many shapes there are. -/
def size (arena : Arena) : Nat := arena.nodes.size

/-- Whether a handle denotes a shape of the arena. -/
def contains (arena : Arena) (id : ShapeId) : Bool :=
  id.arena = arena.tag && 1 ≤ id.number && id.number ≤ arena.size

/-- The shape a handle denotes. -/
def get? (arena : Arena) (id : ShapeId) : Option Node :=
  if arena.contains id then arena.nodes[id.index]? else none

/-- Store a shape.  Its handle is the next in line. -/
def insert (arena : Arena) (kind : ShapeKind) : ShapeId × Arena :=
  let id : ShapeId := ⟨arena.tag, arena.size + 1⟩
  (id, { arena with nodes := arena.nodes.push ⟨id, kind⟩ })

/-- The shapes a shape is made from, none for a handle of another arena. -/
def dependencies (arena : Arena) (id : ShapeId) : List ShapeId :=
  match arena.get? id with
  | some node => node.dependencies
  | none => []

end Arena

end ImplicitScene
