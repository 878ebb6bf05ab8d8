import ImplicitScene.Expression.Evaluation
import ImplicitScene.Scene.Slot

/-!
# Materials

A material says what light does at a surface, or inside a medium.  Its fields are
expressions.  They are evaluated at the point that is hit and may read every
variable.

`Spotlight` is a shorthand for a material that absorbs everything and emits
towards one direction.
-/

namespace ImplicitScene

/-- The optical properties of a surface or a medium. -/
structure Material where
  /-- The share of light that goes on, for each colour. -/
  color : Expression := .vector [1.0]
  /-- How likely light is refracted rather than reflected. -/
  transmittance : Expression := .scalar 0.0
  /-- From 0 for a matt surface to 1 for a polished one. -/
  smoothness : Expression := .scalar 0.0
  /-- The index of refraction. -/
  refraction : Expression := .scalar 1.0
  /-- How far light travels inside the medium before it is scattered. -/
  scatter : Expression := .scalar farAway
  /-- The light that is emitted. -/
  emissivity : Expression := .vector [0.0]
  deriving Repr

namespace Material

/-- The fields in their slots, in the order they are checked. -/
def slots (m : Material) : List Slot :=
  [⟨"material.color", some .vec3, m.color⟩, ⟨"material.transmittance", none, m.transmittance⟩,
    ⟨"material.smoothness", none, m.smoothness⟩, ⟨"material.refraction", none, m.refraction⟩,
    ⟨"material.scatter", none, m.scatter⟩, ⟨"material.emissivity", some .vec3, m.emissivity⟩]

/-- Check the types of all fields. -/
def validate (m : Material) : Except SceneError Unit := Slot.all Slot.checkType m.slots

/-- The fields with their names, in the order of the program text. -/
def fields (m : Material) : List (String × Expression) :=
  [("transmittance", m.transmittance), ("smoothness", m.smoothness),
    ("refraction", m.refraction), ("scatter", m.scatter), ("color", m.color),
    ("emissivity", m.emissivity)]

end Material

/-- A material evaluated at one point. -/
structure MaterialSample where
  /-- How likely light is refracted. -/
  transmittance : Float32 := 0.0
  /-- From matt to polished. -/
  smoothness : Float32 := 0.0
  /-- The index of refraction. -/
  refraction : Float32 := 0.0
  /-- How far light travels before it is scattered. -/
  scatter : Float32 := 0.0
  /-- The share of light that goes on. -/
  color : Float3 := .zero
  /-- The light that is emitted. -/
  emissivity : Float3 := .zero
  deriving Repr

/-- The values of the fields of a material.  A field that wants a number reads a vector by its first
component. -/
def Material.sample (m : Material) (ctx : Context) : Except EvalError MaterialSample := do
  let transmittance ← m.transmittance.evalScalar ctx
  let smoothness ← m.smoothness.evalScalar ctx
  let refraction ← m.refraction.evalScalar ctx
  let scatter ← m.scatter.evalScalar ctx
  let color ← m.color.evalVector ctx
  let emissivity ← m.emissivity.evalVector ctx
  .ok { transmittance, smoothness, refraction, scatter, color, emissivity }

/-- A light that shines from one direction, for instance on a large sphere around the scene. -/
structure Spotlight where
  /-- The colour of the light. -/
  color : Expression := .vector [1.0]
  /-- The direction the light comes from. -/
  direction : Expression := .vector [0.0, 1.0, 0.0]
  /-- How wide the light is.  More is softer. -/
  spread : Expression := .scalar 0.1
  /-- The light that comes from everywhere. -/
  ambient : Expression := .scalar 0.0
  deriving Repr

/-- The material of a light: black, and brightest along its direction. -/
def Spotlight.material (s : Spotlight) : Material :=
  let facing := Expression.dot (.var .direction) s.direction.normalize
  let lobe := facing.smoothstep (.scalar 1.0 - s.spread.asScalar) (.scalar 1.0)
  { color := .vector [0.0], emissivity := s.color * (s.ambient.asScalar + lobe) }

end ImplicitScene
