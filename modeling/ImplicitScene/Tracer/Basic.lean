import ImplicitScene.Options
import ImplicitScene.Tracer.March
import ImplicitScene.Tracer.Sampling

/-!
# Tracing

The tracer computes what the program of a scene computes, without the program.
Both draw the same random numbers in the same order.

A pixel is traced by samples.  A sample follows a path from the eye, bounce by
bounce.  At each bounce the light that is emitted there is gathered, and the
fourth component of what is gathered counts the bounces.  A path ends where there
is nothing, where all light is absorbed, or when it has used up its bounces.

A frame adds to what was gathered before, or to half of it when the mouse button
is down.
-/

namespace ImplicitScene

/-- What changes from frame to frame. -/
structure Frame where
  /-- Elapsed time in seconds. -/
  time : Float32 := 0.0
  /-- The mouse position. -/
  mouse : Float2 := .splat 0.0
  /-- Whether the mouse button is down. -/
  clicked : Bool := false
  deriving Repr

/-- The frame a number of sixtieths of a second after the start. -/
def Frame.tick (index : UInt32) : Frame := { time := index.toFloat32 / 60.0 }

/-- A scene with options that are valid. -/
structure Tracer where
  /-- The scene. -/
  scene : Scene
  /-- The options. -/
  options : Options
  /-- The options are valid. -/
  valid : options.validate = .ok ()

namespace Tracer

/-- A tracer, if the options are valid. -/
def make (scene : Scene) (options : Options) : Except OptionsError Tracer :=
  match h : options.validate with
  | .ok () => .ok ⟨scene, options, h⟩
  | .error e => .error e

/-! ## The camera -/

/-- The size of the picture. -/
def resolution (t : Tracer) : Float2 := ⟨t.options.width.toFloat32, t.options.height.toFloat32⟩

/-- The screen coordinate at the centre of a pixel.  Row 0 is at the top. -/
def pixelUv (t : Tracer) (x y : UInt32) : Float2 :=
  ⟨(x.toFloat32 + 0.5) / t.resolution.x * 2.0 - 1.0, 1.0 - (y.toFloat32 + 0.5) / t.resolution.y * 2.0⟩

/-- A camera at one moment. -/
structure View where
  /-- Where it is. -/
  eye : Float3
  /-- The point it looks at. -/
  target : Float3
  /-- The direction it looks in. -/
  look : Float3
  /-- The direction to the right. -/
  right : Float3
  /-- The direction upwards. -/
  up : Float3
  /-- The field of view. -/
  fieldOfView : Float32
  /-- The radius of the lens. -/
  aperture : Float32
  deriving Repr

/-- The camera as it is in a context. -/
def view (t : Tracer) (ctx : Context) : Except EvalError View := do
  let camera := t.scene.camera
  let eye ← camera.eye.evalVector ctx
  let target ← camera.target.evalVector ctx
  let up ← camera.up.evalVector ctx
  let fieldOfView ← camera.fieldOfView.evalScalar ctx
  let aperture ← camera.aperture.evalScalar ctx
  let look := (target - eye).normalizeOrZero
  let up := (up - look.dot up * look).normalizeOrZero
  .ok { eye, target, look, right := look.cross up, up, fieldOfView, aperture }

/-- Where a sample leaves the lens. -/
def View.lensPoint (c : View) (jitter : Float2) : Float3 :=
  let lens := Sampling.lensOffset jitter c.aperture
  c.eye + lens.x * c.right + lens.y * c.up

/-- Where a sample crosses the plane that is in focus. -/
def View.focusPoint (c : View) (uv resolution jitter : Float2) : Float3 :=
  let angle := (uv * (0.5 : Float32) + (jitter - Vec2.splat 0.5) / resolution) * c.fieldOfView
  let screen : Float3 :=
    ⟨angle.y.cos * angle.x.sin, angle.y.sin, angle.y.cos * angle.x.cos⟩
  c.eye + (c.target - c.eye).length * (c.right * screen.x + c.up * screen.y + c.look * screen.z)

/-! ## Bounces -/

/-- A path under way. -/
structure Path where
  /-- Where the next stretch begins. -/
  origin : Float3
  /-- Where it goes. -/
  direction : Float3
  /-- The share of light that reaches the eye from there. -/
  luminance : Float3
  /-- The medium around the path. -/
  medium : MaterialSample
  /-- The light gathered so far, and the number of bounces. -/
  gathered : Float4
  deriving Repr

/-- What comes after a bounce. -/
inductive Next where
  /-- The path ends with what it has gathered. -/
  | stop (gathered : Float4)
  /-- The path goes on. -/
  | go (path : Path)
  deriving Repr

/-- What is gathered when light is emitted. -/
def Path.gather (path : Path) (emissivity : Float3) : Float4 :=
  path.gathered + (path.luminance * emissivity).extend 1.0

/-- Where a path goes inside a model, and the medium there.  Nothing is returned when no light gets
through the surface. -/
def transmit? (medium material air : MaterialSample) (inside : Bool) (direction normal : Float3) :
    Option (Float3 × MaterialSample) :=
  let eta := medium.refraction / material.refraction
  let eta := if inside then 1.0 / eta else eta
  let refracted := Sampling.refract direction normal eta
  if refracted == .zero then none else some (refracted, if inside then air else material)

/-- The path after its medium has scattered it. -/
def scattered (path : Path) (m : March) (noise : Float2) : Path :=
  { path with
    origin := m.position, direction := Sampling.onSphere noise
    luminance := path.luminance * path.medium.color
    gathered := path.gather path.medium.emissivity }

/-- The path after a surface.  Here `normal` is the surface normal, and `noise` decides between
refraction and reflection. -/
def leaveSurface (epsilon : Float32) (air : MaterialSample) (path : Path) (position : Float3)
    (normal : Float3) (material : MaterialSample) (noise : Float2) : Next :=
  let gathered := path.gather material.emissivity
  let inside : Bool := 0.0 < normal.dot path.direction
  let facing := if inside then -normal else normal
  let normal := Sampling.aroundNormal facing material.smoothness noise
  if material.color == .zero then .stop gathered
  else
    let luminance := path.luminance * material.color
    let through :=
      if noise.y < material.transmittance then
        transmit? path.medium material air inside path.direction normal
      else none
    match through with
    | some (direction, medium) =>
        .go
          { origin := position - 6.0 * epsilon * path.direction / path.direction.dot normal
            direction, luminance, medium, gathered }
    | none =>
        .go
          { path with
            origin := position + 2.0 * epsilon * normal
            direction := Sampling.reflect path.direction normal
            luminance, gathered }

/-- One bounce. -/
def bounce (v : Probe) (steps : Nat) (air : MaterialSample) (noise : Float2) (path : Path) :
    Except EvalError Next := do
  let limit := -noise.y.log * path.medium.scatter
  let ray : Ray := ⟨path.origin, path.direction, limit⟩
  let m ← ray.march v steps
  if m.closest.object = 0 then .ok (.stop path.gathered)
  else if m.travelled == limit then .ok (.go (scattered path m noise))
  else
    let normal ← v.normal m.closest.object m.position
    let material ← v.material m.closest.object m.position normal path.direction
    .ok (leaveSurface v.epsilon air path m.position normal material noise)

/-! ## Samples, pixels and frames -/

/-- The number that keys the random numbers of a bounce. -/
def seedIndex (o : Options) (iteration bounce : UInt32) : UInt32 := iteration * o.bounces + bounce

/-- Follow a path for the bounces that are left, of which `number` is the next. -/
def follow (t : Tracer) (v : Probe) (air : MaterialSample) (iteration : UInt32) :
    (left number : Nat) → Path → Except EvalError Float4
  | 0, _, path => .ok path.gathered
  | left + 1, number, path => do
      let seed := seedIndex t.options iteration number.toUInt32
      let noise := noise v.frame.uv v.frame.time seed.toFloat32
      match ← bounce v t.options.steps.toNat air noise path with
      | .stop gathered => .ok gathered
      | .go path => t.follow v air iteration left (number + 1) path

/-- One sample on top of what others gathered. -/
def sample (t : Tracer) (v : Probe) (c : View) (iteration : UInt32) (gathered : Float4) :
    Except EvalError Float4 := do
  let jitter := noise v.frame.uv v.frame.time iteration.toFloat32
  let origin := c.lensPoint jitter
  let direction := (c.focusPoint v.frame.uv t.resolution jitter - origin).normalizeOrZero
  let air ← v.air origin direction
  t.follow v air iteration t.options.bounces.toNat 1
    { origin, direction, luminance := .splat 1.0, medium := air, gathered }

/-- The samples that are left, of which `number` is the next. -/
def samples (t : Tracer) (v : Probe) (c : View) :
    (left number : Nat) → Float4 → Except EvalError Float4
  | 0, _, gathered => .ok gathered
  | left + 1, number, gathered => do
      let gathered ← t.sample v c number.toUInt32 gathered
      t.samples v c left (number + 1) gathered

/-- What one frame adds to a pixel. -/
def radiance (t : Tracer) (uv : Float2) (frame : Frame) : Except EvalError Float4 := do
  let ctx := Context.frame uv frame.time frame.mouse
  let c ← t.view ctx
  let v : Probe := { scene := t.scene, epsilon := t.options.epsilon, frame := ctx }
  t.samples v c (t.options.iterations.toNat + 1) 0 .zero

/-- A pixel after a frame. -/
def tracePixel (t : Tracer) (uv : Float2) (frame : Frame) (previous : Float4) :
    Except EvalError Float4 := do
  let added ← t.radiance uv frame
  let base := if frame.clicked then previous * (0.5 : Float32) else previous
  .ok (base + added)

/-- How many pixels there are. -/
def pixelCount (t : Tracer) : Nat := t.options.width.toNat * t.options.height.toNat

/-- The screen coordinate of a pixel by its place, row by row from the top. -/
def placeUv (t : Tracer) (place : Nat) : Float2 :=
  t.pixelUv (place % t.options.width.toNat).toUInt32 (place / t.options.width.toNat).toUInt32

/-- All pixels after a frame.  What was gathered before counts only if it has the right size. -/
def renderFrame (t : Tracer) (frame : Frame) (previous : Array Float4) :
    Except EvalError (Array Float4) := do
  let before place := if previous.size = t.pixelCount then previous.getD place .zero else .zero
  let pixels ← (List.range t.pixelCount).mapM fun place =>
    t.tracePixel (t.placeUv place) frame (before place)
  .ok pixels.toArray

/-- All pixels after the frames that are left, of which `number` is the next. -/
def renderFrom (t : Tracer) : (left number : Nat) → Array Float4 → Except EvalError (Array Float4)
  | 0, _, pixels => .ok pixels
  | left + 1, number, pixels => do
      let pixels ← t.renderFrame (.tick number.toUInt32) pixels
      t.renderFrom left (number + 1) pixels

/-- All pixels after a number of frames, from nothing. -/
def render (t : Tracer) (frames : UInt32) : Except EvalError (Array Float4) :=
  t.renderFrom frames.toNat 0 #[]

end Tracer

end ImplicitScene
