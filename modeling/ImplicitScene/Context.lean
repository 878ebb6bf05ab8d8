import ImplicitScene.Value

/-!
# Variables and the values they have

An expression may read seven variables.  Three of them are the same for a whole
pixel of a frame: the time, the screen coordinate and the mouse position.  The
others change with the point that is looked at.

A *context* gives every variable a value.  `noise` is the hash that the random
values of expressions and of the tracer are drawn from.
-/

namespace ImplicitScene

/-- The variables an expression may read. -/
inductive Variable where
  /-- The point looked at, in the coordinates of the shape. -/
  | position
  /-- The surface normal. -/
  | normal
  /-- The direction of the incoming ray. -/
  | direction
  /-- The index of the enclosing cell of a repetition, zero outside any. -/
  | cell
  /-- Elapsed time. -/
  | time
  /-- The screen coordinate, from -1 to 1 on both axes. -/
  | uv
  /-- The mouse position. -/
  | mouse
  deriving Repr, DecidableEq

namespace Variable

/-- Every variable. -/
def all : List Variable := [position, normal, direction, cell, time, uv, mouse]

/-- The name in program text. -/
def glsl : Variable → String
  | position => "p"
  | normal => "n"
  | direction => "d"
  | cell => "cell"
  | time => "time"
  | uv => "uv"
  | mouse => "mouse"

/-- The type of the variable. -/
def ty : Variable → Ty
  | position | normal | direction | cell => .vec3
  | time => .float
  | uv | mouse => .vec2

end Variable

/-- A value for every variable. -/
structure Context where
  /-- The point looked at. -/
  position : Float3 := .zero
  /-- The surface normal. -/
  normal : Float3 := .zero
  /-- The direction of the incoming ray. -/
  direction : Float3 := .zero
  /-- The index of the enclosing cell. -/
  cell : Float3 := .zero
  /-- Elapsed time. -/
  time : Float32 := 0.0
  /-- The screen coordinate. -/
  uv : Float2 := .splat 0.0
  /-- The mouse position. -/
  mouse : Float2 := .splat 0.0
  deriving Repr

namespace Context

/-- The value of a variable. -/
def read (ctx : Context) : Variable → Value
  | .position => .vec3 ctx.position
  | .normal => .vec3 ctx.normal
  | .direction => .vec3 ctx.direction
  | .cell => .vec3 ctx.cell
  | .time => .float ctx.time
  | .uv => .vec2 ctx.uv
  | .mouse => .vec2 ctx.mouse

/-- The context of one pixel of one frame. -/
def frame (uv : Float2) (time : Float32) (mouse : Float2) : Context := { uv, time, mouse }

end Context

/-- Two numbers from 0 to 1, keyed by the screen coordinate, the time and a seed. -/
def noise (uv : Float2) (time seed : Float32) : Float2 :=
  let s := uv * (1.0 + time + seed)
  ⟨fract ((s.dot ⟨12.9898, 78.233⟩).sin * 43758.5453),
    fract ((s.dot ⟨4.898, 7.23⟩).cos * 23421.631)⟩

end ImplicitScene
