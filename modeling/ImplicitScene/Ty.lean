/-!
# Value types

An expression denotes a number or a vector of two to four numbers.  A number
combines with a vector of any size, by broadcasting to every component.
-/

namespace ImplicitScene

/-- The type of a value. -/
inductive Ty where
  /-- A single number. -/
  | float
  /-- Two numbers. -/
  | vec2
  /-- Three numbers. -/
  | vec3
  /-- Four numbers. -/
  | vec4
  deriving Repr, DecidableEq

namespace Ty

/-- How many numbers a value of the type holds. -/
def components : Ty → Nat
  | float => 1
  | vec2 => 2
  | vec3 => 3
  | vec4 => 4

/-- How many numbers values of several types hold together. -/
def total : List Ty → Nat
  | [] => 0
  | ty :: tys => ty.components + total tys

/-- The type of `n` numbers. -/
def ofComponents? : Nat → Option Ty
  | 1 => some float
  | 2 => some vec2
  | 3 => some vec3
  | 4 => some vec4
  | _ => none

/-- The name of the type in program text. -/
def glsl : Ty → String
  | float => "float"
  | vec2 => "vec2"
  | vec3 => "vec3"
  | vec4 => "vec4"

/-- The type with the given name. -/
def ofName? : String → Option Ty
  | "float" => some float
  | "vec2" => some vec2
  | "vec3" => some vec3
  | "vec4" => some vec4
  | _ => none

/-- The type of an operation on both types: equal types, or a number with a vector. -/
def broadcast? (a b : Ty) : Option Ty :=
  if a = b then some a
  else if a = float then some b
  else if b = float then some a
  else none

end Ty

/-- The names of several types, as an argument list. -/
def glslTypes (tys : List Ty) : String := ", ".intercalate (tys.map Ty.glsl)

end ImplicitScene
