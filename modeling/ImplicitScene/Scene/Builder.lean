import ImplicitScene.Scene.Basic

/-!
# Building a scene

A builder is a scene under construction.  Everything that is added is checked
first: children must be shapes of this builder, expressions must fit their slots,
and variables must have a value there.  What fails a check is not added.

`Build` is a step of a construction.  It ends in a result or an error, and leaves
a builder in both cases: what was added before an error stays.
-/

namespace ImplicitScene

/-- A scene under construction. -/
structure Builder where
  /-- The shapes so far. -/
  shapes : Arena
  /-- The models so far. -/
  models : List Model := []
  /-- The camera. -/
  camera : Camera := {}
  /-- The medium between the models. -/
  air : Material := {}
  deriving Repr

/-- A step of a construction. -/
abbrev Build := ExceptT SceneError (StateM Builder)

namespace Arena

/-- Whether a shape may be added: every child is there, every parameter fits its slot, and none reads
a variable that shapes do not have.  The first child that is not there comes before any parameter. -/
def admits (arena : Arena) (kind : ShapeKind) : Except SceneError Unit :=
  match kind.children.find? fun child => !arena.contains child with
  | some missing => .error (.unknownShape missing)
  | none => Slot.checkAll unboundInShapes kind.parameters

end Arena

namespace Builder

/-- A builder with nothing in it but the camera and the air that come by default. -/
def empty (tag : Nat) : Builder := { shapes := { tag } }

/-- The scene as it is. -/
def scene (b : Builder) : Scene := ⟨b.shapes, b.models, b.camera, b.air⟩

end Builder

namespace Build

/-- Run a construction on a builder. -/
def runOn {α : Type} (action : Build α) (b : Builder) : Except SceneError α × Builder :=
  StateT.run (ExceptT.run action) b

/-- The scene that a construction makes from nothing. -/
def toScene {α : Type} (action : Build α) (tag : Nat) : Except SceneError Scene :=
  let (result, b) := action.runOn (.empty tag)
  result.map fun _ => b.scene

/-- Go on only if a check passed. -/
def require (check : Except SceneError Unit) : Build Unit :=
  match check with
  | .ok () => pure ()
  | .error e => throw e

/-! ## Shapes -/

/-- Add a shape. -/
def push (kind : ShapeKind) : Build ShapeId := do
  let b ← get
  require (b.shapes.admits kind)
  let (id, shapes) := b.shapes.insert kind
  set { b with shapes }
  return id

/-- A ball. -/
def sphere : Build ShapeId := push .sphere

/-- A cube. -/
def cube : Build ShapeId := push .cube

/-- A skull. -/
def skull : Build ShapeId := push .skull

/-- A shape moved by an offset. -/
def translate (offset : Expression) (shape : ShapeId) : Build ShapeId :=
  push (.translate offset shape)

/-- A shape scaled by a factor. -/
def scale (factor : Expression) (shape : ShapeId) : Build ShapeId := push (.scale factor shape)

/-- A shape turned about an axis. -/
def rotate (axis : Axis) (angle : Expression) (shape : ShapeId) : Build ShapeId :=
  push (.rotate axis angle shape)

/-- Two shapes combined with a hard edge. -/
def combine (op : Combination) (a b : ShapeId) : Build ShapeId := push (.combine op a b)

/-- Two shapes combined with a blended edge. -/
def blend (op : Combination) (a b : ShapeId) (radius : Expression) : Build ShapeId :=
  push (.blend op a b radius)

/-- A shape repeated over a grid, where `mapping` makes the shape of a cell from the index of the
cell.  What `mapping` adds stays even if the repetition itself fails. -/
def modulate (period : Expression) (mapping : Expression → Build ShapeId) : Build ShapeId := do
  let child ← mapping (.var .cell)
  push (.tile .perCell period child)

/-- A shape repeated unchanged over a grid. -/
def tile (period : Expression) (shape : ShapeId) : Build ShapeId :=
  push (.tile .shared period shape)

/-! ## The scene around the shapes -/

/-- Add a model.  The result is its number. -/
def model (shape : ShapeId) (material : Material) : Build Nat := do
  let b ← get
  require (if b.shapes.contains shape then .ok () else .error (.unknownShape shape))
  require material.validate
  let added : Model := { id := b.models.length + 1, shape, material }
  set { b with models := b.models ++ [added] }
  return added.id

/-- Set the camera. -/
def camera (camera : Camera) : Build Unit := do
  require camera.validate
  modify fun b => { b with camera }

/-- Set the medium between the models. -/
def air (air : Material) : Build Unit := do
  require air.validate
  modify fun b => { b with air }

end Build

end ImplicitScene
