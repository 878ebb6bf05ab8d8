import ImplicitScene.Proofs.Unambiguous

/-!
# Expressions of one text have one meaning

A value has four lanes, and those beyond the components of its type are zero.  The
operations that build values see to it.  A literal is taken as it is, so the value
of an expression has clear lanes if its literals have (`eval_tidy`).

The text of an expression shows the live lanes of its literals only.  So it
determines the value up to the others, and all of the value if these are clear.
The type comes from the value, since a typed expression without snippets has a
value of its type.
-/

namespace ImplicitScene

namespace Expression

/-! ## Parts -/

mutual

/-- An expression and the expressions in it. -/
def parts : Expression → List Expression
  | constant v => [constant v]
  | var v => [var v]
  | random seed => random seed :: seed.parts
  | negate operand => negate operand :: operand.parts
  | binary op left right => binary op left right :: (left.parts ++ right.parts)
  | call function args => call function args :: partsOfAll args
  | swizzle base components => swizzle base components :: base.parts
  | construct ty args => construct ty args :: partsOfAll args
  | raw template bindings ty => raw template bindings ty :: partsBound bindings
termination_by structural e => e

/-- Several expressions and the expressions in them. -/
def partsOfAll : List Expression → List Expression
  | [] => []
  | e :: es => e.parts ++ partsOfAll es
termination_by structural es => es

/-- The expressions bound to the slots of a snippet, and the expressions in them. -/
def partsBound : List (String × Expression) → List Expression
  | [] => []
  | (_, e) :: bindings => e.parts ++ partsBound bindings
termination_by structural bindings => bindings

end

/-! ## Values with clear lanes -/

mutual

/-- Evaluation keeps clear lanes clear. -/
theorem eval_tidy (ctx : Context) : ∀ e : Expression, (∀ v, constant v ∈ e.parts → v.tidy = v) →
    (e.eval ctx).map Value.tidy = e.eval ctx
  | constant v, h => congrArg Except.ok (h v (List.mem_singleton_self _))
  | var v, _ => by cases v <;> rfl
  | random seed, _ => by
      rw [eval]
      cases seed.eval ctx with
      | error e => rfl
      | ok key =>
          by_cases hkey : key.ty = .float
          · simp [Except.map, bind, Except.bind, hkey, Value.vec2]
          · simp [Except.map, bind, Except.bind, hkey]
  | negate operand, _ => by
      rw [eval]
      cases operand.eval ctx with
      | error e => rfl
      | ok v => exact congrArg Except.ok (v.tidy_map _)
  | binary op left right, _ => by
      rw [eval]
      cases left.eval ctx with
      | error e => rfl
      | ok a =>
          cases right.eval ctx with
          | error e => rfl
          | ok b =>
              exact (map_ofFault _ _).symm.trans
                (congrArg EvalError.ofFault (Value.map_tidy_zip ..))
  | call function args, h => by
      have hargs := evalAll_tidy ctx args fun v hv => h v (List.mem_cons_of_mem _ hv)
      rw [eval]
      cases hvalues : evalAll ctx args with
      | error e => rfl
      | ok values =>
          rw [hvalues] at hargs
          have happly := function.apply_tidy values
          rw [show values.map Value.tidy = values from Except.ok.inj hargs] at happly
          exact (map_ofFault _ _).symm.trans (congrArg EvalError.ofFault happly.symm)
  | swizzle base components, _ => by
      rw [eval]
      cases base.eval ctx with
      | error e => rfl
      | ok v =>
          exact (map_ofFault _ _).symm.trans
            (congrArg EvalError.ofFault (Value.map_tidy_select ..))
  | construct ty args, _ => by
      rw [eval]
      cases evalAll ctx args with
      | error e => rfl
      | ok values =>
          exact (map_ofFault _ _).symm.trans
            (congrArg EvalError.ofFault (Value.map_tidy_construct ..))
  | raw _ _ _, _ => rfl

theorem evalAll_tidy (ctx : Context) : ∀ es : List Expression,
    (∀ v, constant v ∈ partsOfAll es → v.tidy = v) →
      (evalAll ctx es).map (List.map Value.tidy) = evalAll ctx es
  | [], _ => rfl
  | e :: es, h => by
      have hfirst := eval_tidy ctx e fun v hv => h v (List.mem_append_left _ hv)
      have hrest := evalAll_tidy ctx es fun v hv => h v (List.mem_append_right _ hv)
      rw [evalAll]
      cases hv : e.eval ctx with
      | error err => rfl
      | ok v =>
          rw [hv] at hfirst
          cases hvs : evalAll ctx es with
          | error err => rfl
          | ok vs =>
              rw [hvs] at hrest
              exact congrArg Except.ok
                (congrArg₂ List.cons (Except.ok.inj hfirst) (Except.ok.inj hrest))

end

/-! ## Texts and meanings -/

/-- Legible expressions with one text have one type. -/
theorem Legible.type_eq {a b : Expression} (ha : Legible a) (hb : Legible b)
    (h : a.glsl = b.glsl) : a.type = b.type := by
  obtain ⟨t, ht⟩ := ha.typed
  obtain ⟨u, hu⟩ := hb.typed
  -- any context will do, since the type of the value is the type of the expression
  obtain ⟨v, hv, hvt⟩ := (eval_settles {} a ht).exists_ok (by simp [ha.clear])
  obtain ⟨w, hw, hwu⟩ := (eval_settles {} b hu).exists_ok (by simp [hb.clear])
  have htidy := ha.eval_eq hb h {}
  rw [hv, hw] at htidy
  rw [ht, hu, ← hvt, ← hwu, Value.ty_of_tidy (Except.ok.inj htidy)]

/-- Typed expressions without snippets, whose literals are ordinary and hold nothing beyond their
components, have one type and one value in every context if they have one text. -/
theorem meaning_eq_of_glsl {a b : Expression} (ha : Legible a) (hb : Legible b)
    (hlanes : ∀ v, constant v ∈ a.parts ++ b.parts → v.tidy = v) (h : a.glsl = b.glsl) :
    a.type = b.type ∧ ∀ ctx, a.eval ctx = b.eval ctx := by
  have htidya := fun v hv => hlanes v (List.mem_append_left _ hv)
  have htidyb := fun v hv => hlanes v (List.mem_append_right _ hv)
  refine ⟨ha.type_eq hb h, fun ctx => ?_⟩
  calc
    a.eval ctx = (a.eval ctx).map Value.tidy := (eval_tidy ctx a htidya).symm
    _ = (b.eval ctx).map Value.tidy := ha.eval_eq hb h ctx
    _ = b.eval ctx := eval_tidy ctx b htidyb

/-- A literal vector and its constructor, each negated, halved and selected from. -/
theorem meaning_eq_of_glsl_halved :
    let half (e : Expression) : Expression := swizzle (binary .div (negate e) (vector [2.0])) "xz"
    let short := half (vector [-0.5])
    let long := half (construct .vec3 [scalar (-0.5)])
    short.glsl = long.glsl ∧ short.type = .ok .vec2 ∧ long.type = .ok .vec2 ∧
      ∀ ctx, short.eval ctx = long.eval ctx := by
  intro half short long
  have hshort : Legible short := ⟨⟨.vec2, rfl⟩, rfl, by decide +kernel⟩
  have hlong : Legible long := ⟨⟨.vec2, rfl⟩, rfl, by decide +kernel⟩
  have hlanes : ∀ v, constant v ∈ short.parts ++ long.parts → v.tidy = v := by
    simp [short, long, half, parts, partsOfAll, vector, scalar, Value.splat, Value.float]
  have htext : short.glsl = long.glsl := rfl
  exact ⟨htext, rfl, rfl, (meaning_eq_of_glsl hshort hlong hlanes htext).2⟩

end Expression

end ImplicitScene
