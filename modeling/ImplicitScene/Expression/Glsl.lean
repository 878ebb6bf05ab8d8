import ImplicitScene.Decimal
import ImplicitScene.Expression.Typing
import ImplicitScene.Text.Replace

/-!
# Program text of expressions

Every operation is printed in parentheses, so the text needs no precedences.  A
literal always has a decimal point, and a vector whose components are all equal
is printed with one of them.

The slots of a snippet are filled one binding after the other.  A later binding
also fills slots that an earlier one brought in.
-/

namespace ImplicitScene

/-- A number in program text.  There is no text for NaN and for the infinities, so zero and a huge
number stand for them. -/
def floatLiteral (x : Float32) : String :=
  if x.isNaN then "0.0"
  else if x.isInf then if 0.0 < x then "1e30" else "-1e30"
  else
    let text := decimalText x
    if text.contains '.' then text else text ++ ".0"

/-- A literal in program text. -/
def Value.glsl (v : Value) : String :=
  if v.ty = .float then floatLiteral v.x
  else
    let components :=
      if v.components.all (· == v.x) then floatLiteral v.x
      else ", ".intercalate (v.components.map floatLiteral)
    v.ty.glsl ++ "(" ++ components ++ ")"

namespace Expression

mutual

/-- The text of an expression. -/
def glsl : Expression → String
  | constant v => v.glsl
  | var v => v.glsl
  | random seed => "random(" ++ seed.glsl ++ ")"
  | negate operand => "(-" ++ operand.glsl ++ ")"
  | binary op left right => "(" ++ left.glsl ++ " " ++ op.symbol ++ " " ++ right.glsl ++ ")"
  | call function args => function.glsl ++ "(" ++ ", ".intercalate (glslAll args) ++ ")"
  | swizzle base components => base.glsl ++ "." ++ components
  | construct ty args => ty.glsl ++ "(" ++ ", ".intercalate (glslAll args) ++ ")"
  | raw template bindings ty => ty.glsl ++ "(" ++ fillSlots bindings template ++ ")"
termination_by structural e => e

/-- The texts of several expressions. -/
def glslAll : List Expression → List String
  | [] => []
  | e :: es => e.glsl :: glslAll es
termination_by structural es => es

/-- A snippet with its slots filled, each binding in parentheses. -/
def fillSlots : List (String × Expression) → String → String
  | [], text => text
  | (name, e) :: bindings, text =>
      fillSlots bindings (Text.replaceAll text (Text.braced name) ("(" ++ e.glsl ++ ")"))
termination_by structural bindings => bindings

end

/-- The text of an expression in a slot that wants a number: a vector gives its first component. -/
def glslScalar (e : Expression) : String :=
  match e.type with
  | .ok .float => e.glsl
  | _ => e.glsl ++ ".x"

end Expression

end ImplicitScene
