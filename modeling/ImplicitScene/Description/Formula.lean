import ImplicitScene.Expression.Typing
import ImplicitScene.Scene.Error

/-!
# Formulas

A formula is an expression as it is written in a scene description.  Operators,
variables and types are still names there.  `Formula.toExpression` resolves them.
-/

namespace ImplicitScene

/-- An expression as written. -/
inductive Formula where
  /-- A number. -/
  | number (x : Float32)
  /-- A list of numbers. -/
  | vector (components : List Float32)
  /-- A variable. -/
  | named (name : String)
  /-- A random value. -/
  | random (seed : Formula)
  /-- Components of a vector. -/
  | swizzle (components : String) (base : Formula)
  /-- An operator or a function. -/
  | apply (op : String) (args : List Formula)
  /-- A snippet of program text. -/
  | snippet (template : String) (bindings : List (String × Formula)) (ty : Option String)
  deriving Repr

/-- The variable of a name. -/
def Variable.ofName (name : String) : Except SceneError Variable :=
  match name with
  | "position" | "p" => .ok .position
  | "normal" | "n" => .ok .normal
  | "direction" | "d" => .ok .direction
  | "cell" => .ok .cell
  | "time" => .ok .time
  | "uv" => .ok .uv
  | "mouse" => .ok .mouse
  | _ => .error (.unknownVariable name)

/-- The type of a name, a vector of three if none is given. -/
def Ty.ofOptionalName : Option String → Except SceneError Ty
  | none => .ok .vec3
  | some name =>
      match Ty.ofName? name with
      | some ty => .ok ty
      | none => .error (.unknownType name)

/-- The expression that an operator makes of its operands. -/
def Expression.ofOperator (op : String) (args : List Expression) : Except SceneError Expression :=
  match op, BinaryOp.ofSymbol? op, args with
  | "neg", _, [e] => .ok (-e)
  | "neg", _, _ => .error (.wrongArity op 1 args.length)
  | _, some operator, [left, right] => .ok (.binary operator left right)
  | _, some _, _ => .error (.wrongArity op 2 args.length)
  | "vec2", _, _ => .ok (.construct .vec2 args)
  | "vec3", _, _ => .ok (.construct .vec3 args)
  | "vec4", _, _ => .ok (.construct .vec4 args)
  | _, none, _ =>
      match Builtin.ofName? op with
      | some f => .ok (.call f args)
      | none => .error (.unknownOperator op)

/-- Random numbers keyed by an expression.  A vector of three is folded into one number first. -/
def Expression.randomOf (seed : Expression) : Expression :=
  match seed.type with
  | .ok .vec3 => .randomAt seed
  | _ => .random seed

namespace Formula

mutual

/-- The expression a formula denotes.  Operands are resolved from left to right and before their
operator, the type of a snippet before its bindings, and the first error is the result. -/
def toExpression : Formula → Except SceneError Expression
  | number x => .ok (.scalar x)
  | vector components => .ok (.vector components)
  | named name => do
      let v ← Variable.ofName name
      .ok (.var v)
  | random seed => do
      let seed ← seed.toExpression
      .ok (.randomOf seed)
  | swizzle components base => do
      let base ← base.toExpression
      .ok (.swizzle base components)
  | apply op args => do
      let args ← toExpressions args
      Expression.ofOperator op args
  | snippet template bindings ty => do
      let ty ← Ty.ofOptionalName ty
      let bindings ← toBindings bindings
      .ok (.raw template bindings ty)
termination_by structural f => f

/-- The expressions of several formulas. -/
def toExpressions : List Formula → Except SceneError (List Expression)
  | [] => .ok []
  | f :: fs => do
      let e ← f.toExpression
      let es ← toExpressions fs
      .ok (e :: es)
termination_by structural fs => fs

/-- The expressions bound to names. -/
def toBindings : List (String × Formula) → Except SceneError (List (String × Expression))
  | [] => .ok []
  | (name, f) :: fs => do
      let e ← f.toExpression
      let es ← toBindings fs
      .ok ((name, e) :: es)
termination_by structural fs => fs

end

/-- The expression of a formula that may be absent. -/
def orElse (f : Option Formula) (default : Expression) : Except SceneError Expression :=
  match f with
  | some f => f.toExpression
  | none => .ok default

end Formula

end ImplicitScene
