import ImplicitScene.Expression.Evaluation
import ImplicitScene.Shape.Arena
import ImplicitScene.Shape.Distance

/-!
# The distance field of a shape

`Arena.distance` is the signed distance of a point to a shape.  The parameters of
a shape are evaluated at the point where they are met, after the transformations
above them, and in the cell that encloses it.

A shape sees only shapes made before it.  So the recursion descends in the number
of the handle, and a child with a higher number counts as unknown.
-/

namespace ImplicitScene

/-- The distance to one step of a shape, where `child` gives the distances to its children.  The
children are looked at before the parameters of a blend and after those of a transformation. -/
def Kind.distance {σ : Type} (kind : Kind Expression σ)
    (child : σ → (point cell : Float3) → Except EvalError Float32)
    (ctx : Context) (point cell : Float3) : Except EvalError Float32 :=
  let inner : Context := { ctx with position := point, cell }
  match kind with
  | sphere => .ok (Distance.sphere point)
  | cube => .ok (Distance.cube point)
  | skull => .ok (Distance.skull point)
  | plane normal offset => do
      let normal ← normal.evalVector inner
      let offset ← offset.evalScalar inner
      .ok (Distance.plane point normal offset)
  | smoothBox size radius => do
      let size ← size.evalVector inner
      let radius ← radius.evalScalar inner
      .ok (Distance.smoothBox point size radius)
  | cylinder radius height => do
      let radius ← radius.evalScalar inner
      let height ← height.evalScalar inner
      .ok (Distance.cylinder point radius height)
  | torus major minor => do
      let major ← major.evalScalar inner
      let minor ← minor.evalScalar inner
      .ok (Distance.torus point major minor)
  | truchet thickness => do
      let thickness ← thickness.evalScalar inner
      .ok (Distance.truchet point thickness)
  | translate offset c => do
      let offset ← offset.evalVector inner
      child c (point - offset) cell
  | scale factor c => do
      let factor ← factor.evalScalar inner
      let d ← child c (point / factor) cell
      .ok (d * factor)
  | rotate axis angle c => do
      let angle ← angle.evalScalar inner
      child c (Distance.rotateBack axis point angle) cell
  | combine op a b => do
      let a ← child a point cell
      let b ← child b point cell
      .ok (Distance.combine op a b)
  | blend op a b radius => do
      let a ← child a point cell
      let b ← child b point cell
      let radius ← radius.evalScalar inner
      .ok (Distance.blend op a b radius)
  | tile mode period c => do
      let period ← period.evalVector inner
      let index := repetitionCell point period
      let seen :=
        match mode with
        | .perCell => index
        | .shared => cell
      child c (foldIntoCell point period index) seen

/-- The signed distance of `point` to the shape `id`, inside the cell `cell`.  The time, the screen
coordinate and the mouse position are those of `ctx`. -/
def Arena.distance (arena : Arena) (ctx : Context) (id : ShapeId) (point cell : Float3) :
    Except EvalError Float32 :=
  match arena.get? id with
  | none => .error (.unknownShape id)
  | some node =>
      node.kind.distance
        (fun c point cell =>
          if c.number < id.number then arena.distance ctx c point cell
          else .error (.unknownShape c))
        ctx point cell
termination_by id.number

end ImplicitScene
