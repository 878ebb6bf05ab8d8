import ImplicitScene.Context

/-!
# Expressions

Every parameter of a shape, of a material and of the camera is an expression.
Expressions are built freely.  Whether one has a type is found out when it is
put into a slot, and it can be printed and evaluated whether or not it has one.

A *raw* expression is a snippet of program text with slots, such as
`0.5 + {r}.x`.  Each slot is filled with the text of a bound expression.  What a
snippet means is not known here, so an expression that holds one is *opaque*: it
can be printed and cannot be evaluated.
-/

namespace ImplicitScene

/-- The arithmetic operators. -/
inductive BinaryOp where
  /-- Sum. -/
  | add
  /-- Difference. -/
  | sub
  /-- Product. -/
  | mul
  /-- Quotient. -/
  | div
  deriving Repr, DecidableEq

namespace BinaryOp

/-- The operator in program text. -/
def symbol : BinaryOp → String
  | add => "+"
  | sub => "-"
  | mul => "*"
  | div => "/"

/-- The operator with the given symbol. -/
def ofSymbol? : String → Option BinaryOp
  | "+" => some add
  | "-" => some sub
  | "*" => some mul
  | "/" => some div
  | _ => none

/-- The operation on numbers. -/
def apply : BinaryOp → Float32 → Float32 → Float32
  | add, a, b => a + b
  | sub, a, b => a - b
  | mul, a, b => a * b
  | div, a, b => a / b

end BinaryOp

/-- The functions of the shading language that expressions may call. -/
inductive Builtin where
  | abs | sin | cos | floor | fract | sqrt | normalize | length | dot | cross | min | max | pow
  | mix | clamp | smoothstep
  deriving Repr, DecidableEq

namespace Builtin

/-- Every function. -/
def all : List Builtin :=
  [abs, sin, cos, floor, fract, sqrt, normalize, length, dot, cross, min, max, pow, mix, clamp,
    smoothstep]

/-- The name in program text. -/
def glsl : Builtin → String
  | abs => "abs"
  | sin => "sin"
  | cos => "cos"
  | floor => "floor"
  | fract => "fract"
  | sqrt => "sqrt"
  | normalize => "normalize"
  | length => "length"
  | dot => "dot"
  | cross => "cross"
  | min => "min"
  | max => "max"
  | pow => "pow"
  | mix => "mix"
  | clamp => "clamp"
  | smoothstep => "smoothstep"

/-- The function with the given name. -/
def ofName? (name : String) : Option Builtin := all.find? fun f => f.glsl == name

end Builtin

/-- An expression. -/
inductive Expression where
  /-- A literal. -/
  | constant (value : Value)
  /-- A variable. -/
  | var (name : Variable)
  /-- Two random numbers, keyed by a seed. -/
  | random (seed : Expression)
  /-- Negation. -/
  | negate (operand : Expression)
  /-- An arithmetic operation. -/
  | binary (op : BinaryOp) (left right : Expression)
  /-- A function call. -/
  | call (function : Builtin) (args : List Expression)
  /-- A selection of components, written with the letters `xyzw` or `rgba`. -/
  | swizzle (base : Expression) (components : String)
  /-- A vector put together from its components.  One number is broadcast. -/
  | construct (ty : Ty) (args : List Expression)
  /-- A snippet whose slots are filled with the bound expressions. -/
  | raw (template : String) (bindings : List (String × Expression)) (ty : Ty)
  deriving Repr

namespace Expression

instance : Inhabited Expression := ⟨constant (Value.float 0.0)⟩

/-! ## Composition -/

/-- A number. -/
def scalar (x : Float32) : Expression := constant (.float x)

/-- A literal vector.  One component is broadcast to three, none means three zeros, and components
after the fourth are dropped. -/
def vector : List Float32 → Expression
  | [] => constant (.splat .vec3 0.0)
  | [x] => constant (.splat .vec3 x)
  | [x, y] => constant (.vec2 ⟨x, y⟩)
  | [x, y, z] => constant (.vec3 ⟨x, y, z⟩)
  | x :: y :: z :: w :: _ => constant (.vec4 ⟨x, y, z, w⟩)

instance : Add Expression := ⟨binary .add⟩
instance : Sub Expression := ⟨binary .sub⟩
instance : Mul Expression := ⟨binary .mul⟩
instance : Div Expression := ⟨binary .div⟩
instance : Neg Expression := ⟨negate⟩

/-- The dot product of two expressions. -/
def dot (a b : Expression) : Expression := call .dot [a, b]

/-- The first component. -/
def x (e : Expression) : Expression := swizzle e "x"

/-- The second component. -/
def y (e : Expression) : Expression := swizzle e "y"

/-- The third component. -/
def z (e : Expression) : Expression := swizzle e "z"

/-- Euclidean length. -/
def length (e : Expression) : Expression := call .length [e]

/-- The vector scaled to unit length. -/
def normalize (e : Expression) : Expression := call .normalize [e]

/-- The absolute value of every component. -/
def abs (e : Expression) : Expression := call .abs [e]

/-- The sine of every component. -/
def sin (e : Expression) : Expression := call .sin [e]

/-- The cosine of every component. -/
def cos (e : Expression) : Expression := call .cos [e]

/-- The lesser of two expressions, component by component. -/
def min (a b : Expression) : Expression := call .min [a, b]

/-- The greater of two expressions, component by component. -/
def max (a b : Expression) : Expression := call .max [a, b]

/-- The smooth step from 0 at `low` to 1 at `high`. -/
def smoothstep (e low high : Expression) : Expression := call .smoothstep [low, high, e]

/-- The weights that fold a cell index into a seed. -/
def cellWeights : Expression := vector [1.0, 57.0, 113.0]

/-- Two random numbers, keyed by a vector of three. -/
def randomAt (key : Expression) : Expression := random (dot key cellWeights)

/-- Two random numbers, keyed by the enclosing cell. -/
def randomCell : Expression := randomAt (var .cell)

/-! ## What an expression mentions -/

mutual

/-- Whether a snippet occurs in the expression. -/
def isOpaque : Expression → Bool
  | constant _ => false
  | var _ => false
  | random seed => seed.isOpaque
  | negate operand => operand.isOpaque
  | binary _ left right => left.isOpaque || right.isOpaque
  | call _ args => anyOpaque args
  | swizzle base _ => base.isOpaque
  | construct _ args => anyOpaque args
  | raw _ _ _ => true
termination_by structural e => e

/-- Whether a snippet occurs in one of the expressions. -/
def anyOpaque : List Expression → Bool
  | [] => false
  | e :: es => e.isOpaque || anyOpaque es
termination_by structural es => es

end

mutual

/-- Whether the expression reads a variable.  The text of a snippet is not looked into, and the
expressions bound to its slots are. -/
def reads (v : Variable) : Expression → Bool
  | constant _ => false
  | var name => name = v
  | random seed => seed.reads v
  | negate operand => operand.reads v
  | binary _ left right => left.reads v || right.reads v
  | call _ args => anyReads v args
  | swizzle base _ => base.reads v
  | construct _ args => anyReads v args
  | raw _ bindings _ => anyBoundReads v bindings
termination_by structural e => e

/-- Whether one of the expressions reads a variable. -/
def anyReads (v : Variable) : List Expression → Bool
  | [] => false
  | e :: es => e.reads v || anyReads v es
termination_by structural es => es

/-- Whether one of the bound expressions reads a variable. -/
def anyBoundReads (v : Variable) : List (String × Expression) → Bool
  | [] => false
  | (_, e) :: bindings => e.reads v || anyBoundReads v bindings
termination_by structural bindings => bindings

end

end Expression

end ImplicitScene
