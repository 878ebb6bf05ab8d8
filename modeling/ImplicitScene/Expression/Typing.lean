import ImplicitScene.Expression.Basic
import ImplicitScene.Text.Alphanumeric

/-!
# Types of expressions

`Expression.type` finds the type of an expression, or the first fault in it.
Operands are looked at from left to right, and before the operation itself.

Functions follow the overloads of the shading language, which are narrower than
what evaluation accepts.  For instance `max` takes a vector and then a number,
and not the other way round.
-/

namespace ImplicitScene

/-- The result type of a function for the given argument types. -/
def Builtin.resultType? : Builtin → List Ty → Option Ty
  | abs, [t] | sin, [t] | cos, [t] | floor, [t] | fract, [t] | sqrt, [t] | normalize, [t] => some t
  | length, [_] => some .float
  | dot, [a, b] => if a = b then some .float else none
  | cross, [a, b] => if a = .vec3 ∧ b = .vec3 then some .vec3 else none
  | min, [a, b] | max, [a, b] => if a = b ∨ b = .float then some a else none
  | pow, [a, b] => if a = b then some a else none
  | mix, [a, b, t] => if a = b ∧ (t = a ∨ t = .float) then some a else none
  | clamp, [x, low, high] =>
      if low = high ∧ (low = x ∨ low = .float) then some x else none
  | smoothstep, [low, high, x] =>
      if low = high ∧ (low = x ∨ low = .float) then some x else none
  | _, _ => none

/-- The result type of a function, or the fault in its arguments. -/
def Builtin.resultType (f : Builtin) (args : List Ty) : Except TypeFault Ty :=
  match f.resultType? args with
  | some ty => .ok ty
  | none => .error (.arguments f.glsl args)

/-! ## Selections -/

/-- The component a letter of a selection stands for. -/
def componentIndex? (c : Char) : Option Nat :=
  if c = 'x' ∨ c = 'r' then some 0
  else if c = 'y' ∨ c = 'g' then some 1
  else if c = 'z' ∨ c = 'b' then some 2
  else if c = 'w' ∨ c = 'a' then some 3
  else none

/-- The components a selection stands for.  It has one to four letters. -/
def swizzleIndices? (components : String) : Option (List Nat) :=
  if components.isEmpty || 4 < components.utf8ByteSize then none
  else components.toList.mapM componentIndex?

/-- The components a selection picks from a value of type `base`, if it has all of them. -/
def selection? (components : String) (base : Ty) : Option (List Nat) :=
  match swizzleIndices? components with
  | some indices =>
      if base = .float || indices.any (base.components ≤ ·) then none else some indices
  | none => none

/-! ## Slots of a snippet -/

/-- The texts between braces.  `name` holds the text since the last open brace, in reverse. -/
def bracedTexts : (name : Option (List Char)) → List Char → List (List Char)
  | _, [] => []
  | none, c :: cs => bracedTexts (if c = '\x7b' then some [] else none) cs
  | some name, c :: cs =>
      if c = '\x7d' then name.reverse :: bracedTexts none cs else bracedTexts (some (c :: name)) cs

/-- The names of the slots of a snippet, in order of appearance. -/
def slotNames (template : String) : List String :=
  ((bracedTexts none template.toList).filter Text.isIdentifier).map String.ofList

namespace Expression

/-! ## Expressions -/

mutual

/-- The type of an expression. -/
def type : Expression → Except TypeFault Ty
  | constant v => .ok v.ty
  | var v => .ok v.ty
  | random seed => do
      let ty ← seed.type
      if ty = .float then .ok .vec2 else .error (.seed ty)
  | negate operand => operand.type
  | binary op left right => do
      let a ← left.type
      let b ← right.type
      match Ty.broadcast? a b with
      | some ty => .ok ty
      | none => .error (.operands op.symbol a b)
  | call function args => do
      let tys ← types args
      function.resultType tys
  | swizzle base components => do
      let ty ← base.type
      match selection? components ty with
      | some indices =>
          match Ty.ofComponents? indices.length with
          | some picked => .ok picked
          | none => .error (.swizzle components ty)
      | none => .error (.swizzle components ty)
  | construct ty args => do
      let tys ← types args
      let actual := Ty.total tys
      if actual = ty.components ∨ tys = [.float] then .ok ty else .error (.construct ty actual)
  | raw template bindings ty => do
      typeBindings bindings
      match (slotNames template).find? fun slot => !bindings.any fun (name, _) => name == slot with
      | some slot => .error (.unboundSlot slot)
      | none => .ok ty
termination_by structural e => e

/-- The types of several expressions. -/
def types : List Expression → Except TypeFault (List Ty)
  | [] => .ok []
  | e :: es => do
      let ty ← e.type
      let tys ← types es
      .ok (ty :: tys)
termination_by structural es => es

/-- Check the expressions bound to the slots of a snippet. -/
def typeBindings : List (String × Expression) → Except TypeFault Unit
  | [] => .ok ()
  | (_, e) :: bindings => do
      let _ ← e.type
      typeBindings bindings
termination_by structural bindings => bindings

end

/-- An expression read as a number: a vector by its first component. -/
def asScalar (e : Expression) : Expression :=
  match e.type with
  | .ok .float => e
  | _ => e.x

end Expression

end ImplicitScene
