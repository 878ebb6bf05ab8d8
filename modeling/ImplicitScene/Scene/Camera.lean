import ImplicitScene.Scene.Slot

/-!
# Cameras

A camera looks from an eye at a target.  Its fields are expressions that may read
the time, the screen coordinate and the mouse position, so the view can move.

`Orbit` is a shorthand for a camera that circles a target as the mouse moves.
-/

namespace ImplicitScene

/-- A camera with a thin lens. -/
structure Camera where
  /-- Where the camera is. -/
  eye : Expression := .vector [0.0, 0.0, 4.0]
  /-- The point it looks at. -/
  target : Expression := .vector [0.0]
  /-- Which way is up. -/
  up : Expression := .vector [0.0, 1.0, 0.0]
  /-- The vertical field of view, in radians. -/
  fieldOfView : Expression := .scalar (circleRatio / 3.0)
  /-- The radius of the lens.  Zero means everything is sharp. -/
  aperture : Expression := .scalar 0.0
  deriving Repr

namespace Camera

/-- The fields in their slots. -/
def slots (c : Camera) : List Slot :=
  [⟨"camera.eye", some .vec3, c.eye⟩, ⟨"camera.target", some .vec3, c.target⟩,
    ⟨"camera.up", some .vec3, c.up⟩, ⟨"camera.field_of_view", none, c.fieldOfView⟩,
    ⟨"camera.aperture", none, c.aperture⟩]

/-- Check the types of all fields and the variables they read. -/
def validate (c : Camera) : Except SceneError Unit := Slot.checkAll unboundInCamera c.slots

end Camera

/-- A camera that circles a target. -/
structure Orbit where
  /-- The vertical field of view, in radians. -/
  fieldOfView : Expression := .scalar (circleRatio / 3.0)
  /-- The distance from the target. -/
  radius : Expression := .scalar 4.0
  /-- The radius of the lens. -/
  aperture : Expression := .scalar 0.0
  /-- The point the camera looks at. -/
  target : Expression := .vector [0.0]
  /-- The two angles, in half turns, when the mouse is at the origin. -/
  offset : Expression := .vector [0.25, -0.4]
  deriving Repr

namespace Orbit

/-- The direction from the target to the eye. -/
def direction (o : Orbit) : Expression :=
  let angles := (o.offset + .var .mouse) * .scalar circleRatio
  let theta := angles.x
  let phi := angles.y
  .construct .vec3 [phi.sin * theta.cos, phi.cos, phi.sin * theta.sin]

/-- The camera, if it fits its slots. -/
def camera (o : Orbit) : Except SceneError Camera := do
  Slot.checkType ⟨"orbit.offset", some .vec2, o.offset⟩
  let camera : Camera :=
    { eye := o.target + o.radius.asScalar * o.direction, target := o.target
      fieldOfView := o.fieldOfView, aperture := o.aperture }
  camera.validate
  .ok camera

end Orbit

end ImplicitScene
