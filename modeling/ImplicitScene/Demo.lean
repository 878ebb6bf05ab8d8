import ImplicitScene.Scene.Builder

/-!
# Demonstration scenes

Small scenes that show the parts of the shape algebra.
-/

namespace ImplicitScene

/-- The scenes that come with the program. -/
inductive Demo where
  /-- A ball beside a cube. -/
  | simple
  /-- A ball and a cube on a floor. -/
  | cubes
  /-- A field of boxes of random heights. -/
  | modulation
  /-- A tiling carved out of a ball. -/
  | truchet
  /-- Rows of skulls on a floor. -/
  | skull
  deriving Repr, DecidableEq

namespace Demo

/-- Every scene. -/
def all : List Demo := [simple, cubes, modulation, truchet, skull]

/-- The name of a scene. -/
def name : Demo → String
  | simple => "simple"
  | cubes => "cubes"
  | modulation => "modulation"
  | truchet => "truchet"
  | skull => "skull"

/-- The scene of a name. -/
def ofName? (name : String) : Option Demo := all.find? fun d => d.name == name

/-- What is said of a name that no scene has. -/
def unknownMessage (name : String) : String := s!"unknown demo `{name}`"

/-! ## Parts -/

/-- A camera that circles the origin. -/
def orbit (radius theta phi : Float32) : Orbit :=
  { radius := .vector [radius], offset := .vector [theta, phi] }

/-- Set a camera that circles a target. -/
def setOrbit (o : Orbit) : Build Unit := do
  let camera ← liftExcept o.camera
  Build.camera camera

/-- A large sphere around everything, lit by a light. -/
def sky (light : Spotlight) : Build Unit := do
  let sphere ← Build.sphere
  let dome ← Build.scale (.vector [1000.0]) sphere
  discard (Build.model dome light.material)

/-- A floor at a height below the origin. -/
def floorAt (offset : Float32) (material : Material) : Build Unit := do
  let floor ← Build.push (.plane (.vector [0.0, 1.0, 0.0]) (.vector [offset]))
  discard (Build.model floor material)

/-- A ball on the left and a cube on the right. -/
def sphereAndCube : Build Unit := do
  let sphere ← Build.sphere
  let left ← Build.translate (.vector [-0.5, 0.0, 0.0]) sphere
  discard (Build.model left { color := .vector [0.8, 0.4, 0.8] })
  let cube ← Build.cube
  let right ← Build.translate (.vector [0.5, 0.0, 0.0]) cube
  discard (Build.model right { color := .vector [0.8, 0.9, 0.1] })

/-- A box whose height depends on its cell. -/
def randomBox (cell : Expression) : Build ShapeId :=
  let size : Expression :=
    .raw "0.9, 1.0 + 5.0 * \x7br\x7d.x, 0.9" [("r", .randomAt cell)] .vec3
  Build.push (.smoothBox size (.vector [0.5]))

/-! ## Scenes -/

/-- Build a scene. -/
def build : Demo → Build Unit
  | simple => do
      setOrbit (orbit 4.0 0.25 (-0.5))
      sphereAndCube
  | cubes => do
      setOrbit (orbit 4.0 0.25 (-0.5))
      floorAt 0.5 { color := .vector [0.6] }
      sphereAndCube
  | modulation => do
      Build.air { scatter := .vector [1000.0] }
      setOrbit
        { orbit 10.0 0.25 (-0.5) with
          fieldOfView := .vector [60.0 / 180.0 * circleRatio], aperture := .vector [0.1] }
      sky { direction := .vector [1.0, 1.0, 1.0] }
      let boxes ← Build.modulate (.vector [1.0, 100.0, 1.0]) randomBox
      let ground ← Build.push (.plane (.vector [0.0, 1.0, 0.0]) (.vector [-6.0]))
      let field ← Build.combine .intersection boxes ground
      discard (Build.model field
        { color := .vector [0.7, 0.6, 0.5], smoothness := .vector [0.99] })
  | truchet => do
      setOrbit (orbit 1.54 (-0.2) (-0.5))
      sky { direction := .vector [1.0, 1.0, 0.0], color := .vector [0.5] }
      floorAt 0.0 {}
      let ball ← Build.sphere
      let tiles ← Build.push (.truchet (.scalar 0.1))
      let fine ← Build.scale (.vector [0.1]) tiles
      let carved ← Build.combine .intersection ball fine
      discard (Build.model carved
        { color := .vector [0.9, 0.8, 0.4], smoothness := .vector [0.999] })
  | skull => do
      setOrbit { orbit 3.0 (-0.3) (-0.4) with aperture := .vector [0.1] }
      sky
        { direction := .vector [1.0, 1.0, 0.0], color := .vector [0.5], ambient := .vector [1.0] }
      floorAt 0.3 { color := .vector [0.5] }
      let skull ← Build.skull
      let tilted ← Build.rotate .z (.vector [-circleRatio / 4.0]) skull
      let row ← Build.tile (.vector [1.3, 0.0, 1.0]) tilted
      discard (Build.model row { smoothness := .vector [0.99], color := .vector [0.4, 0.6, 0.8] })

/-- The finished scene, with handles of the given tag. -/
def scene (d : Demo) (tag : Nat) : Except SceneError Scene := d.build.toScene tag

end Demo

end ImplicitScene
