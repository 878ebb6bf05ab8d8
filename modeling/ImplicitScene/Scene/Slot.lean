import ImplicitScene.Expression.Typing
import ImplicitScene.Scene.Error
import ImplicitScene.Shape.Kind

/-!
# Slots

Expressions go into slots.  A slot may ask for vectors of three, and otherwise
takes whatever has a type.  Some variables have no value in some slots.

All types are checked before any variable, each in the order of the slots.
-/

namespace ImplicitScene

/-- An expression in its slot. -/
abbrev Slot := Parameter Expression

namespace Slot

/-- Check that the expression has a type, the one asked for if any. -/
def checkType (s : Slot) : Except SceneError Unit :=
  match s.content.type with
  | .error fault => .error (.illTyped s.slot fault)
  | .ok found =>
      match s.demand with
      | none => .ok ()
      | some expected =>
          if found = expected then .ok () else .error (.typeMismatch s.slot expected found)

/-- Check that the expression reads none of the variables that have no value. -/
def checkVariables (unbound : List Variable) (s : Slot) : Except SceneError Unit :=
  match unbound.find? s.content.reads with
  | some name => .error (.unboundVariable s.slot name)
  | none => .ok ()

/-- Run a check over slots.  The first failure is the result. -/
def all (check : Slot → Except SceneError Unit) : List Slot → Except SceneError Unit
  | [] => .ok ()
  | s :: slots =>
      match check s with
      | .error e => .error e
      | .ok () => all check slots

/-- Check the types in all slots, then the variables. -/
def checkAll (unbound : List Variable) (slots : List Slot) : Except SceneError Unit :=
  match all checkType slots with
  | .error e => .error e
  | .ok () => all (checkVariables unbound) slots

end Slot

/-- A shape has no surface normal and no incoming ray. -/
def unboundInShapes : List Variable := [.normal, .direction]

/-- A camera has no point, no surface, no ray and no cell. -/
def unboundInCamera : List Variable := [.position, .normal, .direction, .cell]

end ImplicitScene
