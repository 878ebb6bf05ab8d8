import ImplicitScene.Vector
import ImplicitScene.TypeFault

/-!
# Values

A value is a type together with four lanes.  The lanes beyond the components of
the type are zero.  Every operation builds its result with `Value.ofLanes`,
which is where that is decided.
-/

namespace ImplicitScene

/-- A number or a vector. -/
structure Value where
  /-- The type, which says how many lanes are live. -/
  ty : Ty
  /-- The lanes, live ones first. -/
  lanes : Float4
  deriving Repr, BEq

namespace Value

/-! ## Building values -/

/-- The value of type `ty` whose live lane `i` is `lane i`. -/
def ofLanes (ty : Ty) (lane : Nat → Float32) : Value :=
  let live i := if i < ty.components then lane i else 0.0
  ⟨ty, ⟨live 0, live 1, live 2, live 3⟩⟩

/-- Every component equal to `x`. -/
def splat (ty : Ty) (x : Float32) : Value := ofLanes ty fun _ => x

/-- A single number. -/
def float (x : Float32) : Value := splat .float x

/-- One to four numbers. -/
def ofComponents? (components : List Float32) : Option Value :=
  (Ty.ofComponents? components.length).map fun ty => ofLanes ty fun i => components.getD i 0.0

/-- Two numbers. -/
def vec2 (v : Float2) : Value := ofLanes .vec2 fun i => v.toList.getD i 0.0

/-- Three numbers. -/
def vec3 (v : Float3) : Value := ofLanes .vec3 fun i => v.toList.getD i 0.0

/-- Four numbers. -/
def vec4 (v : Float4) : Value := ofLanes .vec4 fun i => v.toList.getD i 0.0

/-! ## Reading values -/

/-- The live components. -/
def components (v : Value) : List Float32 := v.lanes.toList.take v.ty.components

/-- The first component.  A slot that wants a number reads a vector this way. -/
def x (v : Value) : Float32 := v.lanes.x

/-- Component `i`, where a number has every component. -/
def component (v : Value) (i : Nat) : Float32 :=
  if v.ty = .float then v.lanes.x else v.lanes.toList.getD i 0.0

/-- As two components.  A number is broadcast. -/
def toVec2 (v : Value) : Float2 := ⟨v.component 0, v.component 1⟩

/-- As three components.  A number is broadcast, and missing components are zero. -/
def toVec3 (v : Value) : Float3 := ⟨v.component 0, v.component 1, v.component 2⟩

/-! ## Operations -/

/-- Apply `f` to every component. -/
def map (f : Float32 → Float32) (v : Value) : Value :=
  ofLanes v.ty fun i => f (v.component i)

/-- Combine component by component, broadcasting a number. -/
def zip (op : String) (f : Float32 → Float32 → Float32) (a b : Value) :
    Except TypeFault Value :=
  match Ty.broadcast? a.ty b.ty with
  | some ty => .ok (ofLanes ty fun i => f (a.component i) (b.component i))
  | none => .error (.operands op a.ty b.ty)

/-- The sum from left to right. -/
def sum : List Float32 → Float32
  | [] => 0.0
  | x :: xs => xs.foldl (· + ·) x

/-- Euclidean length. -/
def length (v : Value) : Float32 := (sum (v.components.map fun c => c * c)).sqrt

/-- The dot product of values of one type. -/
def dot (a b : Value) : Except TypeFault Float32 :=
  if a.ty = b.ty then .ok (sum (List.zipWith (· * ·) a.components b.components))
  else .error (.operands "dot" a.ty b.ty)

end Value

end ImplicitScene
