import ImplicitScene.Shape.Blend
import ImplicitScene.Vector

/-!
# Cells of a repetition

A repetition divides space into a grid of cells.  Along each axis the cell of a
point is the whole number of periods nearest to it, and the point is folded into
the cell around the origin.  An axis whose period is below the least positive one
is not divided: every point is in cell 0 there.
-/

namespace ImplicitScene

variable {α : Type} [Add α] [Sub α] [Mul α] [Div α] [OfScientific α] [Scalar α]

/-- The cell of a coordinate along one axis. -/
@[specialize] def cellIndex (coordinate period : α) : α :=
  let span := Scalar.abs period
  let active : α := if Scalar.atLeast span leastRadius then 1.0 else 0.0
  Scalar.floor (coordinate / Scalar.max span leastRadius + 0.5) * active

/-- A coordinate folded into the cell around the origin. -/
@[specialize] def foldCoordinate (coordinate period cell : α) : α :=
  coordinate - Scalar.abs period * cell

/-- The cell of a point. -/
@[specialize] def repetitionCell (point period : Vec3 α) : Vec3 α :=
  point.zipWith cellIndex period

/-- A point folded into the cell around the origin. -/
@[specialize] def foldIntoCell (point period cell : Vec3 α) : Vec3 α :=
  ⟨foldCoordinate point.x period.x cell.x, foldCoordinate point.y period.y cell.y,
    foldCoordinate point.z period.z cell.z⟩

end ImplicitScene
