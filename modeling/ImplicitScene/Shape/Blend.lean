import ImplicitScene.Scalar

/-!
# Smooth blends

The smooth minimum of two distances agrees with the lesser of them when they are
at least a blend radius apart, and dips below it by at most a quarter of the
radius in between.  The smooth maximum rises above the greater in the same way.
A radius below `10^(-6)` counts as `10^(-6)`, so nothing is divided by zero.
-/

namespace ImplicitScene

variable {α : Type} [Add α] [Sub α] [Mul α] [Div α] [OfScientific α] [Scalar α]

/-- The least radius and the least period that count as positive. -/
@[inline] def leastRadius : α := 1e-6

/-- How much of the blend is in force: one where the distances are equal, zero where they are a
radius apart. -/
@[specialize] def blendWeight (a b radius : α) : α :=
  Scalar.max (radius - Scalar.abs (a - b)) 0.0 / radius

/-- The smooth minimum. -/
@[specialize] def smoothMin (a b radius : α) : α :=
  let radius := Scalar.max radius leastRadius
  let h := blendWeight a b radius
  Scalar.min a b - h * h * radius * 0.25

/-- The smooth maximum. -/
@[specialize] def smoothMax (a b radius : α) : α :=
  let radius := Scalar.max radius leastRadius
  let h := blendWeight a b radius
  Scalar.max a b + h * h * radius * 0.25

end ImplicitScene
