import ImplicitScene.Scene.Probe

/-!
# Marching along a ray

A ray goes forward in steps.  Each step is half the distance to the closest
model, so no surface is passed.  The march ends at a surface, where the medium
scatters the ray, or when it has used up its steps.
-/

namespace ImplicitScene

/-- Where a march stands. -/
structure March where
  /-- The closest model at the last point looked at. -/
  closest : Closest
  /-- The point reached. -/
  position : Float3
  /-- The length of the way. -/
  travelled : Float32
  deriving Repr

/-- A ray in a medium. -/
structure Ray where
  /-- Where it begins. -/
  origin : Float3
  /-- Where it goes. -/
  direction : Float3
  /-- How far it goes before the medium scatters it. -/
  limit : Float32
  deriving Repr

namespace Ray

/-- The point at a distance. -/
def point (r : Ray) (travelled : Float32) : Float3 := r.origin + r.direction * travelled

/-- The march before its first step. -/
def start (r : Ray) : March := ⟨⟨0, farAway⟩, r.origin, 0.0⟩

/-- Go on for a number of steps.  A surface is met before the limit is looked at. -/
def marchFrom (r : Ray) (v : Probe) : (steps : Nat) → March → Except EvalError March
  | 0, m => .ok m
  | steps + 1, m =>
      match v.closest m.position with
      | .error e => .error e
      | .ok closest =>
          if closest.distance < v.epsilon then
            let travelled := m.travelled + closest.distance
            .ok ⟨closest, r.point travelled, travelled⟩
          else if r.limit < m.travelled then .ok ⟨closest, r.point r.limit, r.limit⟩
          else
            let travelled := m.travelled + closest.distance * 0.5
            r.marchFrom v steps ⟨closest, r.point travelled, travelled - v.epsilon⟩

/-- March from the origin. -/
def march (r : Ray) (v : Probe) (steps : Nat) : Except EvalError March :=
  r.marchFrom v steps r.start

end Ray

end ImplicitScene
