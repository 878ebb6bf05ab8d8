import ImplicitScene.Ty

/-!
# Kinds of shapes

A shape is a primitive, a transformed shape, a combination of two shapes or a
shape repeated over a grid of cells.  `Kind ε σ` is one step of such a
construction, with parameters of type `ε` and children of type `σ`.  In an arena
the parameters are expressions and the children are handles.  In a description
they are what was written there.

Two kinds of repetition differ in what the child sees.  Under `perCell` the child
reads the index of its cell.  Under `shared` it reads the index that was in force
outside.
-/

namespace ImplicitScene

/-- The axis of a rotation. -/
inductive Axis where
  | x | y | z
  deriving Repr, DecidableEq

/-- The ways to combine two shapes. -/
inductive Combination where
  /-- The points of either. -/
  | union
  /-- The points of both. -/
  | intersection
  /-- The points of the first that are not of the second. -/
  | difference
  deriving Repr, DecidableEq

/-- The ways to repeat a shape. -/
inductive Tiling where
  /-- The child reads the index of its cell. -/
  | perCell
  /-- Every cell holds the same child. -/
  | shared
  deriving Repr, DecidableEq

/-- One step in the construction of a shape. -/
inductive Kind (ε σ : Type) where
  /-- The ball of radius one half. -/
  | sphere
  /-- The cube of edge one. -/
  | cube
  /-- A skull, about one unit tall. -/
  | skull
  /-- The half-space below a plane. -/
  | plane (normal offset : ε)
  /-- A box with rounded edges. -/
  | smoothBox (size radius : ε)
  /-- A capped cylinder along the second axis. -/
  | cylinder (radius height : ε)
  /-- A torus around the second axis. -/
  | torus (major minor : ε)
  /-- A tiling by quarter tori. -/
  | truchet (thickness : ε)
  /-- A shape moved by an offset. -/
  | translate (offset : ε) (child : σ)
  /-- A shape scaled by a factor. -/
  | scale (factor : ε) (child : σ)
  /-- A shape turned about an axis. -/
  | rotate (axis : Axis) (angle : ε) (child : σ)
  /-- Two shapes combined with a hard edge. -/
  | combine (op : Combination) (a b : σ)
  /-- Two shapes combined with an edge blended over a radius. -/
  | blend (op : Combination) (a b : σ) (radius : ε)
  /-- A shape repeated over a grid of cells. -/
  | tile (mode : Tiling) (period : ε) (child : σ)
  deriving Repr, DecidableEq

/-- The name of a combination. -/
def Combination.name : Combination → String
  | union => "union"
  | intersection => "intersection"
  | difference => "difference"

/-- The name of a repetition. -/
def Tiling.name : Tiling → String
  | perCell => "modulate"
  | shared => "repeat"

/-- A parameter in its slot. -/
structure Parameter (ε : Type) where
  /-- The name of the slot. -/
  slot : String
  /-- The type the slot asks for.  A slot that asks for none takes a number, and reads a vector by
  its first component. -/
  demand : Option Ty
  /-- What is in the slot. -/
  content : ε
  deriving Repr

namespace Kind

variable {ε σ : Type}

/-- The children, first to last. -/
def children : Kind ε σ → List σ
  | sphere | cube | skull => []
  | plane _ _ | smoothBox _ _ | cylinder _ _ | torus _ _ | truchet _ => []
  | translate _ child | scale _ child | rotate _ _ child | tile _ _ child => [child]
  | combine _ a b | blend _ a b _ => [a, b]

/-- The parameters, first to last. -/
def parameters : Kind ε σ → List (Parameter ε)
  | sphere | cube | skull | combine _ _ _ => []
  | plane normal offset =>
      [⟨"plane.normal", some .vec3, normal⟩, ⟨"plane.offset", none, offset⟩]
  | smoothBox size radius =>
      [⟨"smooth_box.size", some .vec3, size⟩, ⟨"smooth_box.radius", none, radius⟩]
  | cylinder radius height =>
      [⟨"cylinder.radius", none, radius⟩, ⟨"cylinder.height", none, height⟩]
  | torus major minor => [⟨"torus.major", none, major⟩, ⟨"torus.minor", none, minor⟩]
  | truchet thickness => [⟨"truchet.thickness", none, thickness⟩]
  | translate offset _ => [⟨"translate.offset", some .vec3, offset⟩]
  | scale factor _ => [⟨"scale.factor", none, factor⟩]
  | rotate _ angle _ => [⟨"rotate.angle", none, angle⟩]
  | blend _ _ _ radius => [⟨"smooth.radius", none, radius⟩]
  | tile .perCell period _ => [⟨"modulate.period", some .vec3, period⟩]
  | tile .shared period _ => [⟨"repeat.period", some .vec3, period⟩]

/-- The name of the kind. -/
def name : Kind ε σ → String
  | sphere => "sphere"
  | cube => "cube"
  | skull => "skull"
  | plane _ _ => "plane"
  | smoothBox _ _ => "smooth_box"
  | cylinder _ _ => "cylinder"
  | torus _ _ => "torus"
  | truchet _ => "truchet"
  | translate _ _ => "translate"
  | scale _ _ => "scale"
  | rotate _ _ _ => "rotate"
  | combine op _ _ => op.name
  | blend op _ _ _ => "smooth_" ++ op.name
  | tile mode _ _ => mode.name

/-- Whether the kind has no children. -/
def isPrimitive (kind : Kind ε σ) : Bool := kind.children.isEmpty

end Kind

end ImplicitScene
