import ImplicitScene.Scene.Camera
import ImplicitScene.Scene.Material
import ImplicitScene.Shape.Arena

/-!
# Scenes

A scene is a set of shapes, a list of models, a camera and the medium between the
models.  A model is a shape with a material.  Models are numbered from 1 in the
order they were added.
-/

namespace ImplicitScene

/-- A shape with a material. -/
structure Model where
  /-- The number of the model. -/
  id : Nat
  /-- Its shape. -/
  shape : ShapeId
  /-- Its surface, and the medium inside it. -/
  material : Material
  deriving Repr

/-- A finished scene. -/
structure Scene where
  /-- All shapes, whether a model uses them or not. -/
  shapes : Arena
  /-- The models in order. -/
  models : List Model
  /-- The camera. -/
  camera : Camera
  /-- The medium between the models. -/
  air : Material
  deriving Repr

/-- The model with a number. -/
def Scene.model? (scene : Scene) (id : Nat) : Option Model :=
  scene.models.find? fun m => m.id = id

end ImplicitScene
