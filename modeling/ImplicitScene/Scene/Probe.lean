import ImplicitScene.Scene.Basic
import ImplicitScene.Shape.Field

/-!
# Looking at a scene

A probe answers four questions about a point of a scene: how far each model is,
which model is closest, which way its surface faces, and what its material is
there.  It holds the frame, which gives the time, the screen coordinate and the
mouse position.  The other variables are set by each question.
-/

namespace ImplicitScene

/-- The model closest to a point. -/
structure Closest where
  /-- The number of the model, 0 if none is near. -/
  object : Nat
  /-- The unsigned distance. -/
  distance : Float32
  deriving Repr

/-- A scene as it is looked at in one pixel of one frame. -/
structure Probe where
  /-- The scene. -/
  scene : Scene
  /-- Half the step that surface normals are measured with. -/
  epsilon : Float32
  /-- The frame. -/
  frame : Context := {}
  deriving Repr

namespace Probe

/-- The variables at a point. -/
def context (v : Probe) (position normal direction : Float3) : Context :=
  { v.frame with position, normal, direction, cell := .zero }

/-- The signed distance of a model. -/
def distance (v : Probe) (model : Model) (position : Float3) : Except EvalError Float32 :=
  v.scene.shapes.distance v.frame model.shape position .zero

/-- Of a model and the closest one so far, keep the closer.  A tie keeps the earlier. -/
def keepCloser (best : Closest) (model : Model) (distance : Float32) : Closest :=
  if distance.abs < best.distance then ⟨model.id, distance.abs⟩ else best

/-- The closest of several models and the one found before them. -/
def closestOf (v : Probe) (position : Float3) : Closest → List Model → Except EvalError Closest
  | best, [] => .ok best
  | best, model :: models =>
      match v.distance model position with
      | .error e => .error e
      | .ok d => v.closestOf position (keepCloser best model d) models

/-- The closest model. -/
def closest (v : Probe) (position : Float3) : Except EvalError Closest :=
  v.closestOf position ⟨0, farAway⟩ v.scene.models

/-- The change of distance across a point. -/
def slope (v : Probe) (model : Model) (position step : Float3) : Except EvalError Float32 := do
  let ahead ← v.distance model (position + step)
  let behind ← v.distance model (position - step)
  .ok (ahead - behind)

/-- The surface normal of a model, zero for a number that no model has. -/
def normal (v : Probe) (object : Nat) (position : Float3) : Except EvalError Float3 :=
  match v.scene.model? object with
  | none => .ok .zero
  | some model => do
      let x ← v.slope model position ((⟨1.0, 0.0, 0.0⟩ : Float3) * v.epsilon)
      let y ← v.slope model position ((⟨0.0, 1.0, 0.0⟩ : Float3) * v.epsilon)
      let z ← v.slope model position ((⟨0.0, 0.0, 1.0⟩ : Float3) * v.epsilon)
      .ok (⟨x, y, z⟩ : Float3).normalizeOrZero

/-- The material of a model where it is hit, all zero for a number that no model has. -/
def material (v : Probe) (object : Nat) (position normal direction : Float3) :
    Except EvalError MaterialSample :=
  match v.scene.model? object with
  | none => .ok {}
  | some model => model.material.sample (v.context position normal direction)

/-- The medium between the models. -/
def air (v : Probe) (position direction : Float3) : Except EvalError MaterialSample :=
  v.scene.air.sample (v.context position .zero direction)

end Probe

end ImplicitScene
