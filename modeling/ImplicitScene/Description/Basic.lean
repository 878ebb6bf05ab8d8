import ImplicitScene.Description.Formula
import ImplicitScene.Scene.Builder

/-!
# Scene descriptions

A description lists named shapes, named materials and models, and may set the
camera and the air.  A shape or a material is referred to by name, or described
in place.  A shape name refers to an earlier entry, so the shapes cannot form a
circle.

`Description.build` carries a description out.  The shapes come first, then the
materials, the models, the camera and the air.  Inside a shape the children come
before the shape itself, from left to right, and before its parameters.  Only the
period of a repetition per cell is resolved before the child.
-/

namespace ImplicitScene

/-- A shape by name or in place. -/
inductive ShapeTerm where
  /-- An earlier entry. -/
  | named (name : String)
  /-- A shape described in place. -/
  | inline (kind : Kind Formula ShapeTerm)

/-- A material as described.  Fields that are absent have their default. -/
inductive MaterialTerm where
  /-- A material given by its fields. -/
  | plain (color transmittance smoothness refraction scatter emissivity : Option Formula)
  /-- A light. -/
  | spotlight (color direction spread ambient : Option Formula)

/-- A material by name or in place. -/
inductive MaterialRef where
  /-- An entry of the materials. -/
  | named (name : String)
  /-- A material described in place. -/
  | inline (term : MaterialTerm)

/-- A camera as described.  Fields that are absent have their default. -/
inductive CameraTerm where
  /-- A camera given by its fields. -/
  | lookAt (eye target up fieldOfView aperture : Option Formula)
  /-- A camera that circles a target. -/
  | orbit (fieldOfView radius aperture target offset : Option Formula)

/-- A model as described. -/
structure ModelTerm where
  /-- Its shape. -/
  shape : ShapeTerm
  /-- Its material. -/
  material : Option MaterialRef

/-- A scene as described. -/
structure Description where
  /-- The named shapes. -/
  shapes : List (String × Kind Formula ShapeTerm) := []
  /-- The named materials. -/
  materials : List (String × MaterialTerm) := []
  /-- The models. -/
  models : List ModelTerm
  /-- The camera. -/
  camera : Option CameraTerm := none
  /-- The medium between the models. -/
  air : Option MaterialRef := none

/-! ## Materials and cameras -/

/-- The material that a description denotes. -/
def MaterialTerm.toMaterial : MaterialTerm → Except SceneError Material
  | plain color transmittance smoothness refraction scatter emissivity => do
      let default : Material := {}
      let color ← Formula.orElse color default.color
      let transmittance ← Formula.orElse transmittance default.transmittance
      let smoothness ← Formula.orElse smoothness default.smoothness
      let refraction ← Formula.orElse refraction default.refraction
      let scatter ← Formula.orElse scatter default.scatter
      let emissivity ← Formula.orElse emissivity default.emissivity
      .ok { color, transmittance, smoothness, refraction, scatter, emissivity }
  | spotlight color direction spread ambient => do
      let default : Spotlight := {}
      let color ← Formula.orElse color default.color
      let direction ← Formula.orElse direction default.direction
      let spread ← Formula.orElse spread default.spread
      let ambient ← Formula.orElse ambient default.ambient
      .ok (Spotlight.material { color, direction, spread, ambient })

/-- The material that a reference denotes. -/
def MaterialRef.toMaterial (names : List (String × Material)) :
    MaterialRef → Except SceneError Material
  | named name =>
      match names.lookup name with
      | some material => .ok material
      | none => .error (.undefinedMaterial name)
  | inline term => term.toMaterial

/-- The camera that a description denotes. -/
def CameraTerm.toCamera : CameraTerm → Except SceneError Camera
  | lookAt eye target up fieldOfView aperture => do
      let default : Camera := {}
      let eye ← Formula.orElse eye default.eye
      let target ← Formula.orElse target default.target
      let up ← Formula.orElse up default.up
      let fieldOfView ← Formula.orElse fieldOfView default.fieldOfView
      let aperture ← Formula.orElse aperture default.aperture
      .ok { eye, target, up, fieldOfView, aperture }
  | orbit fieldOfView radius aperture target offset => do
      let default : Orbit := {}
      let fieldOfView ← Formula.orElse fieldOfView default.fieldOfView
      let radius ← Formula.orElse radius default.radius
      let aperture ← Formula.orElse aperture default.aperture
      let target ← Formula.orElse target default.target
      let offset ← Formula.orElse offset default.offset
      Orbit.camera { fieldOfView, radius, aperture, target, offset }

/-! ## Shapes -/

/-- Resolve a formula in the course of a construction. -/
def Formula.resolve (f : Formula) : Build Expression := liftExcept f.toExpression

namespace ShapeTerm

mutual

/-- Build a shape. -/
def build (names : List (String × ShapeId)) : ShapeTerm → Build ShapeId
  | named name =>
      match names.lookup name with
      | some id => pure id
      | none => throw (.undefinedShape name)
  | inline kind => buildKind names kind
termination_by structural t => t

/-- Build a shape from its parts. -/
def buildKind (names : List (String × ShapeId)) : Kind Formula ShapeTerm → Build ShapeId
  | .sphere => Build.push .sphere
  | .cube => Build.push .cube
  | .skull => Build.push .skull
  | .plane normal offset => do
      let normal ← normal.resolve
      let offset ← offset.resolve
      Build.push (.plane normal offset)
  | .smoothBox size radius => do
      let size ← size.resolve
      let radius ← radius.resolve
      Build.push (.smoothBox size radius)
  | .cylinder radius height => do
      let radius ← radius.resolve
      let height ← height.resolve
      Build.push (.cylinder radius height)
  | .torus major minor => do
      let major ← major.resolve
      let minor ← minor.resolve
      Build.push (.torus major minor)
  | .truchet thickness => do
      let thickness ← thickness.resolve
      Build.push (.truchet thickness)
  | .translate offset child => do
      let child ← build names child
      let offset ← offset.resolve
      Build.push (.translate offset child)
  | .scale factor child => do
      let child ← build names child
      let factor ← factor.resolve
      Build.push (.scale factor child)
  | .rotate axis angle child => do
      let child ← build names child
      let angle ← angle.resolve
      Build.push (.rotate axis angle child)
  | .combine op a b => do
      let a ← build names a
      let b ← build names b
      Build.push (.combine op a b)
  | .blend op a b radius => do
      let a ← build names a
      let b ← build names b
      let radius ← radius.resolve
      Build.push (.blend op a b radius)
  | .tile .perCell period child => do
      let period ← period.resolve
      let child ← build names child
      Build.push (.tile .perCell period child)
  | .tile .shared period child => do
      let child ← build names child
      let period ← period.resolve
      Build.push (.tile .shared period child)
termination_by structural kind => kind

end

end ShapeTerm

/-! ## Scenes -/

namespace Description

/-- Build the named shapes.  The result gives every name its shape. -/
def buildShapes (names : List (String × ShapeId)) :
    List (String × Kind Formula ShapeTerm) → Build (List (String × ShapeId))
  | [] => pure names
  | (name, kind) :: rest => do
      if (names.lookup name).isSome then throw (.duplicateName name)
      let id ← ShapeTerm.buildKind names kind
      buildShapes ((name, id) :: names) rest

/-- Resolve the named materials.  The result gives every name its material. -/
def resolveMaterials (names : List (String × Material)) :
    List (String × MaterialTerm) → Except SceneError (List (String × Material))
  | [] => .ok names
  | (name, term) :: rest => do
      if (names.lookup name).isSome then throw (.duplicateName name)
      let material ← term.toMaterial
      material.validate
      resolveMaterials ((name, material) :: names) rest

/-- The material of a model, the default if none is described. -/
def modelMaterial (names : List (String × Material)) : Option MaterialRef →
    Except SceneError Material
  | some reference => reference.toMaterial names
  | none => .ok {}

/-- Build the models. -/
def buildModels (shapes : List (String × ShapeId)) (materials : List (String × Material)) :
    List ModelTerm → Build Unit
  | [] => pure ()
  | m :: rest => do
      let shape ← m.shape.build shapes
      let material ← liftExcept (modelMaterial materials m.material)
      discard (Build.model shape material)
      buildModels shapes materials rest

/-- Build all that is described. -/
def build (d : Description) : Build Unit := do
  let shapes ← buildShapes [] d.shapes
  let materials ← liftExcept (resolveMaterials [] d.materials)
  buildModels shapes materials d.models
  match d.camera with
  | some term => do
      let camera ← liftExcept term.toCamera
      Build.camera camera
  | none => pure ()
  match d.air with
  | some reference => do
      let air ← liftExcept (reference.toMaterial materials)
      Build.air air
  | none => pure ()

/-- The scene that is described, with handles of the given tag. -/
def scene (d : Description) (tag : Nat) : Except SceneError Scene := d.build.toScene tag

end Description

end ImplicitScene
