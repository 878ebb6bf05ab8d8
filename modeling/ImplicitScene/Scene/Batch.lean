import ImplicitScene.Scene.Probe

/-!
# Many points at once

The points of a batch are independent, so they may be looked at in any order.
The results keep the order of the points.  If some point fails the batch fails,
with the error of the point that was looked at first among those.
-/

namespace ImplicitScene

/-- The error of a result. -/
def error? {ε α : Type} : Except ε α → Option ε
  | .ok _ => none
  | .error e => some e

/-- The first error, when results are looked at in the given order of their positions. -/
def firstError? {ε α : Type} (order : List Nat) (results : List (Except ε α)) : Option ε :=
  order.findSome? fun i => results[i]?.bind error?

/-- All results, or the first error in the given order. -/
def gather {ε α : Type} (order : List Nat) (results : List (Except ε α)) : Except ε (List α) :=
  match firstError? order results with
  | some e => .error e
  | none => .ok (results.filterMap Except.toOption)

namespace Probe

/-- The closest models at several points, one after the other. -/
def closestEach (v : Probe) (points : List Float3) : Except EvalError (List Closest) :=
  points.mapM v.closest

/-- The closest models at several points, looked at in the given order of their positions. -/
def closestInOrder (v : Probe) (order : List Nat) (points : List Float3) :
    Except EvalError (List Closest) :=
  gather order (points.map v.closest)

end Probe

end ImplicitScene
