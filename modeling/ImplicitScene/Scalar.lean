/-!
# Scalars

Distances are measured in 32-bit floats.  A few rules of the shape algebra, the
smooth blends and the folding of space into cells, are stated over an abstract
number type, so that the same definition can be read in exact arithmetic.

`Scalar` holds what those rules need beyond the four operations: the lesser and
the greater of two numbers, the absolute value, the floor and a comparison.
On floats, the lesser and the greater of two numbers ignore a NaN when the other
operand is a number.
-/

namespace ImplicitScene

/-- What a number type offers beyond the four operations. -/
class Scalar (α : Type) where
  /-- The lesser of two numbers. -/
  min : α → α → α
  /-- The greater of two numbers. -/
  max : α → α → α
  /-- The absolute value. -/
  abs : α → α
  /-- The greatest whole number not above a number. -/
  floor : α → α
  /-- Whether the first number is at least the second. -/
  atLeast : α → α → Bool

/-- A comparison with NaN is false, so a NaN operand gives way to the other. -/
instance : Scalar Float32 where
  min a b := if a.isNaN then b else if b < a then b else a
  max a b := if a.isNaN then b else if a < b then b else a
  abs := Float32.abs
  floor := Float32.floor
  atLeast a b := decide (b ≤ a)

/-- The fractional part measured from the floor, so it is never negative. -/
def fract (x : Float32) : Float32 := x - x.floor

/-- A number moved into the unit interval.  NaN stays NaN. -/
def clampUnit (x : Float32) : Float32 :=
  if x < 0.0 then 0.0 else if 1.0 < x then 1.0 else x

/-- The ratio of a circle's circumference to its diameter, as a 32-bit float. -/
def circleRatio : Float32 := 3.14159274

/-- The distance that stands for "nothing there". -/
def farAway : Float32 := 1e5

end ImplicitScene
