import ImplicitScene.Scalar

/-!
# Vectors of two, three and four components

Vectors act component by component.  A number multiplies every component, and a
product of two vectors multiplies matching components.  Sums of products are
taken from the first component to the last.

`Float2`, `Float3` and `Float4` are the vectors of 32-bit floats that the rest
of the library computes with.
-/

namespace ImplicitScene

/-- Two components. -/
structure Vec2 (α : Type) where
  /-- First component. -/
  x : α
  /-- Second component. -/
  y : α
  deriving Repr, BEq, DecidableEq

/-- Three components. -/
structure Vec3 (α : Type) where
  /-- First component. -/
  x : α
  /-- Second component. -/
  y : α
  /-- Third component. -/
  z : α
  deriving Repr, BEq, DecidableEq

/-- Four components. -/
structure Vec4 (α : Type) where
  /-- First component. -/
  x : α
  /-- Second component. -/
  y : α
  /-- Third component. -/
  z : α
  /-- Fourth component. -/
  w : α
  deriving Repr, BEq, DecidableEq

/-- Two 32-bit floats. -/
abbrev Float2 := Vec2 Float32

/-- Three 32-bit floats. -/
abbrev Float3 := Vec3 Float32

/-- Four 32-bit floats. -/
abbrev Float4 := Vec4 Float32

variable {α : Type}

/-! ## Two components -/

namespace Vec2

/-- The vector with every component equal to `s`. -/
@[inline] def splat (s : α) : Vec2 α := ⟨s, s⟩

/-- Apply `f` to every component. -/
@[inline] def map (f : α → α) (v : Vec2 α) : Vec2 α := ⟨f v.x, f v.y⟩

/-- Combine matching components. -/
@[inline] def zipWith (f : α → α → α) (a b : Vec2 α) : Vec2 α := ⟨f a.x b.x, f a.y b.y⟩

@[inline] instance [Add α] : Add (Vec2 α) := ⟨zipWith (· + ·)⟩
@[inline] instance [Sub α] : Sub (Vec2 α) := ⟨zipWith (· - ·)⟩
@[inline] instance [Div α] : Div (Vec2 α) := ⟨zipWith (· / ·)⟩
@[inline] instance [Mul α] : HMul (Vec2 α) α (Vec2 α) := ⟨fun v s => v.map (· * s)⟩
@[inline] instance [Mul α] : HMul α (Vec2 α) (Vec2 α) := ⟨fun s v => v.map (s * ·)⟩

/-- The sum of the products of matching components. -/
def dot [Add α] [Mul α] (a b : Vec2 α) : α := a.x * b.x + a.y * b.y

/-- Euclidean length. -/
def length (v : Float2) : Float32 := (v.dot v).sqrt

/-- The components in order. -/
def toList (v : Vec2 α) : List α := [v.x, v.y]

end Vec2

/-! ## Three components -/

namespace Vec3

/-- The vector with every component equal to `s`. -/
@[inline] def splat (s : α) : Vec3 α := ⟨s, s, s⟩

/-- Apply `f` to every component. -/
@[inline] def map (f : α → α) (v : Vec3 α) : Vec3 α := ⟨f v.x, f v.y, f v.z⟩

/-- Combine matching components. -/
@[inline] def zipWith (f : α → α → α) (a b : Vec3 α) : Vec3 α :=
  ⟨f a.x b.x, f a.y b.y, f a.z b.z⟩

@[inline] instance [Add α] : Add (Vec3 α) := ⟨zipWith (· + ·)⟩
@[inline] instance [Sub α] : Sub (Vec3 α) := ⟨zipWith (· - ·)⟩
@[inline] instance [Mul α] : Mul (Vec3 α) := ⟨zipWith (· * ·)⟩
@[inline] instance [Div α] : Div (Vec3 α) := ⟨zipWith (· / ·)⟩
@[inline] instance [Neg α] : Neg (Vec3 α) := ⟨map (- ·)⟩
@[inline] instance [Mul α] : HMul (Vec3 α) α (Vec3 α) := ⟨fun v s => v.map (· * s)⟩
@[inline] instance [Mul α] : HMul α (Vec3 α) (Vec3 α) := ⟨fun s v => v.map (s * ·)⟩
@[inline] instance [Div α] : HDiv (Vec3 α) α (Vec3 α) := ⟨fun v s => v.map (· / s)⟩

/-- The sum of the products of matching components. -/
def dot [Add α] [Mul α] (a b : Vec3 α) : α := a.x * b.x + a.y * b.y + a.z * b.z

/-- The vector perpendicular to both. -/
def cross [Sub α] [Mul α] (a b : Vec3 α) : Vec3 α :=
  ⟨a.y * b.z - b.y * a.z, a.z * b.x - b.z * a.x, a.x * b.y - b.x * a.y⟩

/-- The zero vector of floats. -/
def zero : Float3 := splat 0.0

/-- Euclidean length. -/
def length (v : Float3) : Float32 := (v.dot v).sqrt

/-- The vector scaled to unit length, or zero when its length has no positive finite inverse. -/
def normalizeOrZero (v : Float3) : Float3 :=
  let inverse := 1.0 / v.length
  if inverse.isFinite && 0.0 < inverse then v * inverse else zero

/-- The greatest component. -/
def maxElement [Scalar α] (v : Vec3 α) : α := Scalar.max v.x (Scalar.max v.y v.z)

/-- Four components, the last one given. -/
def extend (v : Vec3 α) (w : α) : Vec4 α := ⟨v.x, v.y, v.z, w⟩

/-- The components in order. -/
def toList (v : Vec3 α) : List α := [v.x, v.y, v.z]

end Vec3

/-! ## Four components -/

namespace Vec4

/-- The vector with every component equal to `s`. -/
@[inline] def splat (s : α) : Vec4 α := ⟨s, s, s, s⟩

/-- Apply `f` to every component. -/
@[inline] def map (f : α → α) (v : Vec4 α) : Vec4 α := ⟨f v.x, f v.y, f v.z, f v.w⟩

/-- Combine matching components. -/
@[inline] def zipWith (f : α → α → α) (a b : Vec4 α) : Vec4 α :=
  ⟨f a.x b.x, f a.y b.y, f a.z b.z, f a.w b.w⟩

@[inline] instance [Add α] : Add (Vec4 α) := ⟨zipWith (· + ·)⟩
@[inline] instance [Mul α] : HMul (Vec4 α) α (Vec4 α) := ⟨fun v s => v.map (· * s)⟩

/-- The zero vector of floats. -/
def zero : Float4 := splat 0.0

/-- The first three components. -/
def truncate (v : Vec4 α) : Vec3 α := ⟨v.x, v.y, v.z⟩

/-- The components in order. -/
def toList (v : Vec4 α) : List α := [v.x, v.y, v.z, v.w]

end Vec4

end ImplicitScene
