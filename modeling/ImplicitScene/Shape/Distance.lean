import ImplicitScene.Shape.Cell
import ImplicitScene.Shape.Kind

/-!
# Distances to the primitives

Each primitive has a distance function: negative inside, positive outside.  The
distances to the ellipsoid, and so to the skull, are bounds and not exact.
-/

namespace ImplicitScene.Distance

/-- A number from 0 to 1 that depends on the cell only. -/
def cellHash (cell : Float3) : Float32 :=
  fract ((cell.dot ⟨7.0, 157.0, 113.0⟩).sin * 43758.5453)

/-- The distance to the origin-centred ball of radius one half. -/
def sphere (point : Float3) : Float32 := point.length - 0.5

/-- How far `q` reaches past a corner, when its components measure the way past each face. -/
def corner (q : Float3) : Float32 :=
  (q.zipWith Scalar.max .zero).length + Scalar.min q.maxElement 0.0

/-- The distance to the box that extends by `half` along each axis. -/
def box (point half : Float3) : Float32 := corner (point.map Float32.abs - half)

/-- The distance to the cube of edge one. -/
def cube (point : Float3) : Float32 := box point (.splat 0.5)

/-- The distance to the half-space below a plane. -/
def plane (point normal : Float3) (offset : Float32) : Float32 := point.dot normal + offset

/-- The distance to the box of full size `size` whose edges are rounded by `radius`. -/
def smoothBox (point size : Float3) (radius : Float32) : Float32 :=
  corner (point.map Float32.abs - size * (0.5 : Float32) + Vec3.splat radius) - radius

/-- The distance from the second axis. -/
def axial (point : Float3) : Float32 := (⟨point.x, point.z⟩ : Float2).length

/-- The distance to a capped cylinder along the second axis. -/
def cylinder (point : Float3) (radius height : Float32) : Float32 :=
  let d : Float2 := ⟨axial point - radius, point.y.abs - height * 0.5⟩
  Scalar.min (Scalar.max d.x d.y) 0.0 + (d.zipWith Scalar.max (.splat 0.0)).length

/-- The distance to a torus around the second axis. -/
def torus (point : Float3) (major minor : Float32) : Float32 :=
  (⟨axial point - major, point.y⟩ : Float2).length - minor

/-- A bound for the distance to an ellipsoid. -/
def ellipsoid (point radii : Float3) : Float32 :=
  let k0 := (point / radii).length
  let k1 := Scalar.max (point / (radii * radii)).length 1e-9
  k0 * (k0 - 1.0) / k1

/-- The distance from the circle of radius one half around `centre` that lies `height` away. -/
def ring (spot centre : Float2) (height : Float32) : Float32 :=
  (⟨(spot - centre).length - 0.5, height⟩ : Float2).length

/-- The distance to a tiling of the unit cells by three quarter tori each, reversed in half of the
cells. -/
def truchet (point : Float3) (thickness : Float32) : Float32 :=
  let cell := point.map Float32.floor
  let q := point - cell - Vec3.splat (0.5 : Float32)
  let q := if 0.5 < cellHash cell then { q with x := -q.x } else q
  let a := ring ⟨q.x, q.y⟩ ⟨0.5, 0.5⟩ q.z
  let b := ring ⟨q.y, q.z⟩ ⟨-0.5, -0.5⟩ q.x
  let c := ring ⟨q.x, q.z⟩ ⟨-0.5, 0.5⟩ q.y
  Scalar.min (Scalar.min a b) c - thickness

/-- The distance to the skull: cranium, face and jaw blended, eye sockets and nose carved out. -/
def skull (point : Float3) : Float32 :=
  let folded : Float3 := ⟨point.x.abs, point.y, point.z⟩
  let cranium := ellipsoid (point - ⟨0.0, 0.12, -0.05⟩) ⟨0.36, 0.34, 0.42⟩
  let face := ellipsoid (point - ⟨0.0, -0.12, 0.12⟩) ⟨0.26, 0.24, 0.28⟩
  let jaw := ellipsoid (point - ⟨0.0, -0.32, 0.1⟩) ⟨0.18, 0.1, 0.2⟩
  let head := smoothMin (smoothMin cranium face 0.12) jaw 0.08
  let socket := (folded - ⟨0.11, -0.06, 0.32⟩).length - 0.08
  let nose := ellipsoid (folded - ⟨0.025, -0.17, 0.38⟩) ⟨0.03, 0.05, 0.06⟩
  smoothMax (smoothMax head (-socket) 0.03) (-nose) 0.02

/-- A point turned back about an axis. -/
def rotateBack (axis : Axis) (point : Float3) (angle : Float32) : Float3 :=
  let s := angle.sin
  let c := angle.cos
  match axis with
  | .x => ⟨point.x, c * point.y + s * point.z, -s * point.y + c * point.z⟩
  | .y => ⟨c * point.x - s * point.z, point.y, s * point.x + c * point.z⟩
  | .z => ⟨c * point.x + s * point.y, -s * point.x + c * point.y, point.z⟩

/-- The distance to two shapes combined with a hard edge. -/
def combine (op : Combination) (a b : Float32) : Float32 :=
  match op with
  | .union => Scalar.min a b
  | .intersection => Scalar.max a b
  | .difference => Scalar.max a (-b)

/-- The distance to two shapes combined with a blended edge. -/
def blend (op : Combination) (a b radius : Float32) : Float32 :=
  match op with
  | .union => smoothMin a b radius
  | .intersection => smoothMax a b radius
  | .difference => smoothMax a (-b) radius

end ImplicitScene.Distance
