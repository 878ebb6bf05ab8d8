import ImplicitScene.Ty

/-!
# Type faults

What can be wrong with the types inside an expression.  The same faults are
found by checking an expression and by evaluating an unchecked one.  Only the
wording for two operands that do not combine depends on which it was.
-/

namespace ImplicitScene

/-- Why an expression has no type. -/
inductive TypeFault where
  /-- Two operands do not combine. -/
  | operands (op : String) (left right : Ty)
  /-- A function does not take arguments of these types. -/
  | arguments (function : String) (args : List Ty)
  /-- A selection names components the base does not have. -/
  | swizzle (components : String) (base : Ty)
  /-- A vector is built from the wrong number of components. -/
  | construct (ty : Ty) (actual : Nat)
  /-- A snippet has a slot that nothing is bound to. -/
  | unboundSlot (name : String)
  /-- The seed of a random value is not a number. -/
  | seed (ty : Ty)
  deriving Repr, DecidableEq

namespace TypeFault

/-- The wording of a fault found by checking. -/
def message : TypeFault → String
  | operands op left right => s!"cannot apply `{op}` to {left.glsl} and {right.glsl}"
  | arguments function args => s!"invalid arguments for `{function}`: ({glslTypes args})"
  | swizzle components base => s!"invalid swizzle `.{components}` on {base.glsl}"
  | construct ty actual =>
      s!"{ty.glsl} constructor needs {ty.components} components, got {actual}"
  | unboundSlot name => s!"raw expression references unbound slot `\x7b{name}\x7d`"
  | seed ty => s!"random seed must be float, got {ty.glsl}"

/-- The wording of a fault found by evaluating. -/
def evaluationMessage : TypeFault → String
  | operands op left right => s!"`{op}` on {left.glsl} and {right.glsl}"
  | fault => fault.message

end TypeFault

end ImplicitScene
