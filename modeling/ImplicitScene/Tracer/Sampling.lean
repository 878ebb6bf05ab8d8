import ImplicitScene.Vector

/-!
# Directions

How a ray leaves a surface.  A direction is drawn around a normal or from the
whole sphere, and is determined by two numbers from 0 to 1.  Reflection and
refraction follow the rules of the shading language.
-/

namespace ImplicitScene.Sampling

/-- Half the full turn that directions are drawn with, to six digits as in the program text. -/
def halfTurn : Float32 := 3.14159

/-- A vector perpendicular to `v`, not of unit length. -/
def ortho (v : Float3) : Float3 :=
  if v.z.abs < v.x.abs then ⟨-v.y, v.x, 0.0⟩ else ⟨0.0, -v.z, v.y⟩

/-- A direction around a normal.  The smoother the surface, the closer to the normal. -/
def aroundNormal (normal : Float3) (smoothness : Float32) (noise : Float2) : Float3 :=
  let o1 := (ortho normal).normalizeOrZero
  let o2 := (normal.cross o1).normalizeOrZero
  let angle := noise.x * 2.0 * halfTurn
  let y := (smoothness + (1.0 - smoothness) * noise.y).sqrt
  let q := (Scalar.max (1.0 - y * y) 0.0).sqrt
  q * (angle.cos * o1 + angle.sin * o2) + y * normal

/-- A direction from the whole sphere. -/
def onSphere (noise : Float2) : Float3 :=
  let angle := noise.x * 2.0 * halfTurn
  let y := noise.y * 2.0 - 1.0
  let q := (Scalar.max (1.0 - y * y) 0.0).sqrt
  ⟨q * angle.cos, q * angle.sin, y⟩

/-- The direction after reflection at a surface. -/
def reflect (incident normal : Float3) : Float3 :=
  incident - 2.0 * normal.dot incident * normal

/-- The direction after a boundary with relative index `eta`, zero when no light passes. -/
def refract (incident normal : Float3) (eta : Float32) : Float3 :=
  let c := normal.dot incident
  let k := 1.0 - eta * eta * (1.0 - c * c)
  if k < 0.0 then .zero else eta * incident - (eta * c + k.sqrt) * normal

/-- Where a ray passes through the opening of the lens. -/
def lensOffset (jitter : Float2) (aperture : Float32) : Float2 :=
  let angle := jitter.y * 2.0 * halfTurn
  jitter.x * aperture * (⟨angle.cos, angle.sin⟩ : Float2)

end ImplicitScene.Sampling
