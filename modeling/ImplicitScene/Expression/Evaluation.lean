import ImplicitScene.Expression.Typing
import ImplicitScene.Shape.Id

/-!
# Values of expressions

`Expression.eval` computes the value of an expression in a context.  Operands are
evaluated from left to right and before the operation, and the first error is the
result.  Evaluation does not ask for a type first, and broadcasts a number to a
vector wherever an operation is taken component by component.
-/

namespace ImplicitScene

/-- Why something has no value. -/
inductive EvalError where
  /-- A snippet of program text has no value here. -/
  | snippet
  /-- The types of the operands do not fit. -/
  | type (fault : TypeFault)
  /-- A shape is not in the arena. -/
  | unknownShape (id : ShapeId)
  deriving Repr, DecidableEq

/-- The wording of an error. -/
def EvalError.message : EvalError → String
  | snippet => "raw expressions cannot be evaluated in software"
  | type fault => s!"type error: {fault.evaluationMessage}"
  | unknownShape id => s!"unknown shape #{id.number}"

/-- A type fault met while evaluating. -/
def EvalError.ofFault {α : Type} : Except TypeFault α → Except EvalError α
  | .ok a => .ok a
  | .error fault => .error (.type fault)

/-! ## Functions -/

/-- A value scaled to unit length.  Zero stays zero. -/
def Value.normalize (v : Value) : Value :=
  let length := v.length
  if 0.0 < length then v.map (· / length) else v

/-- The smooth step of one component: 0 at `low`, 1 at `high`, and flat at both. -/
def smoothRamp (n d : Float32) : Float32 := Scalar.min (Scalar.max (n / d) 0.0) 1.0

/-- The value of a function call. -/
def Builtin.apply (f : Builtin) (args : List Value) : Except TypeFault Value :=
  match f, args with
  | abs, [v] => .ok (v.map Float32.abs)
  | sin, [v] => .ok (v.map Float32.sin)
  | cos, [v] => .ok (v.map Float32.cos)
  | floor, [v] => .ok (v.map Float32.floor)
  | fract, [v] => .ok (v.map ImplicitScene.fract)
  | sqrt, [v] => .ok (v.map Float32.sqrt)
  | normalize, [v] => .ok v.normalize
  | length, [v] => .ok (.float v.length)
  | dot, [a, b] => do
      let product ← a.dot b
      .ok (.float product)
  | cross, [a, b] =>
      if a.ty = .vec3 ∧ b.ty = .vec3 then .ok (.vec3 (a.toVec3.cross b.toVec3))
      else .error (.arguments f.glsl [a.ty, b.ty])
  | min, [a, b] => a.zip f.glsl Scalar.min b
  | max, [a, b] => a.zip f.glsl Scalar.max b
  | pow, [a, b] => a.zip f.glsl Float32.pow b
  | mix, [a, b, t] => do
      let delta ← b.zip f.glsl (· - ·) a
      let scaled ← delta.zip f.glsl (· * ·) t
      a.zip f.glsl (· + ·) scaled
  | clamp, [v, low, high] => do
      let raised ← v.zip f.glsl Scalar.max low
      raised.zip f.glsl Scalar.min high
  | smoothstep, [low, high, v] => do
      let above ← v.zip f.glsl (· - ·) low
      let span ← high.zip f.glsl (· - ·) low
      let t ← above.zip f.glsl smoothRamp span
      .ok (t.map fun t => t * t * (3.0 - 2.0 * t))
  | _, _ => .error (.arguments f.glsl (args.map Value.ty))

/-- The components of a value that a selection picks. -/
def Value.select (v : Value) (components : String) : Except TypeFault Value :=
  let picked := (selection? components v.ty).bind fun indices =>
    Value.ofComponents? (indices.map fun i => v.components.getD i 0.0)
  match picked with
  | some value => .ok value
  | none => .error (.swizzle components v.ty)

/-- A vector put together from values. -/
def Value.construct (ty : Ty) (args : List Value) : Except TypeFault Value :=
  let components := args.flatMap Value.components
  match args.map Value.ty, components with
  | [.float], [x] => .ok (.splat ty x)
  | _, _ =>
      if components.length = ty.components then
        .ok (.ofLanes ty fun i => components.getD i 0.0)
      else .error (.construct ty components.length)

namespace Expression

/-! ## Expressions -/

mutual

/-- The value of an expression in a context. -/
def eval (ctx : Context) : Expression → Except EvalError Value
  | constant v => .ok v
  | var v => .ok (ctx.read v)
  | random seed => do
      let key ← seed.eval ctx
      if key.ty = .float then .ok (.vec2 (noise ctx.uv ctx.time key.x))
      else .error (.type (.seed key.ty))
  | negate operand => do
      let v ← operand.eval ctx
      .ok (v.map (- ·))
  | binary op left right => do
      let a ← left.eval ctx
      let b ← right.eval ctx
      EvalError.ofFault (a.zip op.symbol op.apply b)
  | call function args => do
      let values ← evalAll ctx args
      EvalError.ofFault (function.apply values)
  | swizzle base components => do
      let v ← base.eval ctx
      EvalError.ofFault (v.select components)
  | construct ty args => do
      let values ← evalAll ctx args
      EvalError.ofFault (Value.construct ty values)
  | raw _ _ _ => .error .snippet
termination_by structural e => e

/-- The values of several expressions. -/
def evalAll (ctx : Context) : List Expression → Except EvalError (List Value)
  | [] => .ok []
  | e :: es => do
      let v ← e.eval ctx
      let vs ← evalAll ctx es
      .ok (v :: vs)
termination_by structural es => es

end

/-- The value of an expression in a slot that wants a number. -/
def evalScalar (ctx : Context) (e : Expression) : Except EvalError Float32 := do
  let v ← e.eval ctx
  .ok v.x

/-- The value of an expression in a slot that wants a vector of three. -/
def evalVector (ctx : Context) (e : Expression) : Except EvalError Float3 := do
  let v ← e.eval ctx
  .ok v.toVec3

end Expression

end ImplicitScene
