import ImplicitScene.Context
import ImplicitScene.Shape.Id

/-!
# Why a scene cannot be built

Each constructor is one cause.  A text that is no scene description at all is
told apart from a description that says something impossible.
-/

namespace ImplicitScene

/-- Why a scene cannot be built. -/
inductive SceneError where
  /-- An expression has another type than its slot asks for. -/
  | typeMismatch (slot : String) (expected found : Ty)
  /-- An expression in a slot has no type. -/
  | illTyped (slot : String) (fault : TypeFault)
  /-- A handle that denotes no shape of this scene. -/
  | unknownShape (id : ShapeId)
  /-- An expression reads a variable that has no value in its slot. -/
  | unboundVariable (slot : String) (name : Variable)
  /-- A text that is not a scene description. -/
  | malformed
  /-- An operator of no known name. -/
  | unknownOperator (op : String)
  /-- An arithmetic operator with a wrong number of operands. -/
  | wrongArity (op : String) (expected : Nat) (count : Nat)
  /-- A type of no known name. -/
  | unknownType (name : String)
  /-- A variable of no known name. -/
  | unknownVariable (name : String)
  /-- A shape name that nothing before it defines. -/
  | undefinedShape (name : String)
  /-- A material name that nothing defines. -/
  | undefinedMaterial (name : String)
  /-- A name defined twice. -/
  | duplicateName (name : String)
  /-- A file that cannot be read. -/
  | unreadable (reason : String)
  deriving Repr, DecidableEq

namespace SceneError

/-- What an invalid description is introduced by. -/
def invalidDescription (reason : String) : String := s!"invalid scene description: {reason}"

/-- The wording of an error. -/
def message : SceneError → String
  | typeMismatch slot expected found =>
      s!"type mismatch for {slot}: expected {expected.glsl}, got {found.glsl}"
  | illTyped slot fault => s!"invalid expression for {slot}: {fault.message}"
  | unknownShape id => s!"unknown shape #{id.number}"
  | unboundVariable slot name => s!"`{name.glsl}` is not available in {slot}"
  | malformed => invalidDescription "not a description"
  | unknownOperator op => invalidDescription s!"unknown operator `{op}`"
  | wrongArity op expected count =>
      invalidDescription s!"`{op}` takes {expected} arguments, got {count}"
  | unknownType name => invalidDescription s!"unknown type `{name}`"
  | unknownVariable name => s!"unknown variable `{name}`"
  | undefinedShape name => s!"undefined shape `{name}`"
  | undefinedMaterial name => s!"undefined material `{name}`"
  | duplicateName name => s!"duplicate definition of `{name}`"
  | unreadable reason => s!"IO error: {reason}"

end SceneError

end ImplicitScene
