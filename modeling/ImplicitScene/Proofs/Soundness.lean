import ImplicitScene.Expression.Evaluation

/-!
# Typed expressions evaluate

An expression with a type has a value of that type in every context, unless it
holds a snippet.  If it holds one, evaluation fails, and the error is that of a
snippet.  So the faults that evaluation can report are never met in an expression
that was checked.

Checking and evaluating treat a function differently.  Checking goes by a table
of overloads.  Evaluation composes component-wise operations, each of which
broadcasts.  The bridge is `Builtin.apply_of_resultType?`, one case for each
number of arguments.

`Settles B P r` is what is proved of every result `r`.  It is blocked exactly if
`B` holds, and an answer with property `P` otherwise.  `Settles.bind` carries the
statement through a sequence of steps.
-/

namespace ImplicitScene

/-! ## Outcomes -/

/-- A result that is blocked by a snippet exactly if `B` holds, and otherwise an answer with the
property `P`. -/
def Settles {α : Type} (B : Prop) (P : α → Prop) : Except EvalError α → Prop
  | .ok a => ¬B ∧ P a
  | .error e => B ∧ e = .snippet

namespace Settles

variable {α β : Type} {B C : Prop} {P : α → Prop} {Q : β → Prop}

theorem congr (h : B ↔ C) {r : Except EvalError α} (hr : Settles B P r) : Settles C P r := by
  cases r with
  | ok a => exact ⟨fun hC => hr.1 (h.mpr hC), hr.2⟩
  | error e => exact ⟨h.mp hr.1, hr.2⟩

theorem answer {a : α} (h : P a) : Settles False P (.ok a) := ⟨not_false, h⟩

/-- The steps of a sequence settle one after the other. -/
theorem bind {x : Except EvalError α} {f : α → Except EvalError β} (hx : Settles B P x)
    (hf : ∀ a, P a → Settles C Q (f a)) : Settles (B ∨ C) Q (x >>= f) := by
  cases x with
  | error e => exact ⟨Or.inl hx.1, hx.2⟩
  | ok a =>
      obtain ⟨hB, ha⟩ := hx
      exact (hf a ha).congr ⟨Or.inr, fun h => h.resolve_left hB⟩

/-- A last step that cannot be blocked. -/
theorem bind_answer {x : Except EvalError α} {f : α → Except EvalError β} (hx : Settles B P x)
    (hf : ∀ a, P a → ∃ b, f a = .ok b ∧ Q b) : Settles B Q (x >>= f) := by
  refine (hx.bind (C := False) fun a ha => ?_).congr (by simp)
  obtain ⟨b, hb, hQ⟩ := hf a ha
  rw [hb]
  exact answer hQ

theorem exists_ok {r : Except EvalError α} (hr : Settles B P r) (h : ¬B) :
    ∃ a, r = .ok a ∧ P a := by
  cases r with
  | ok a => exact ⟨a, rfl, hr.2⟩
  | error e => exact absurd hr.1 h

theorem eq_error {r : Except EvalError α} (hr : Settles B P r) (h : B) : r = .error .snippet := by
  cases r with
  | ok a => exact absurd h hr.1
  | error e => rw [hr.2]

end Settles

/-- A sequence of two steps succeeds only if both do. -/
theorem ok_of_bind_eq_ok {ε α β : Type} {x : Except ε α} {f : α → Except ε β} {b : β}
    (h : (x >>= f) = .ok b) : ∃ a, x = .ok a ∧ f a = .ok b := by
  cases x with
  | error e => cases h
  | ok a => exact ⟨a, rfl, h⟩

theorem bind_eq_ok_iff {ε α β : Type} {x : Except ε α} {f : α → Except ε β} {b : β} :
    (x >>= f) = .ok b ↔ ∃ a, x = .ok a ∧ f a = .ok b := by
  refine ⟨ok_of_bind_eq_ok, ?_⟩
  rintro ⟨a, rfl, h⟩
  exact h

/-! ## Types of values -/

namespace Ty

/-- A type combines with itself and with a number, and the result has the type. -/
theorem broadcast?_of_fits {t s : Ty} (h : s = t ∨ s = float) : broadcast? t s = some t := by
  rcases h with rfl | rfl
  · simp [broadcast?]
  · cases t <;> rfl

theorem components_le (t : Ty) : t.components ≤ 4 := by
  cases t <;> decide

end Ty

namespace Value

@[simp] theorem ofLanes_ty (t : Ty) (lane : Nat → Float32) : (ofLanes t lane).ty = t := rfl

@[simp] theorem splat_ty (t : Ty) (x : Float32) : (splat t x).ty = t := rfl

@[simp] theorem float_ty (x : Float32) : (float x).ty = .float := rfl

@[simp] theorem vec2_ty (v : Float2) : (vec2 v).ty = .vec2 := rfl

@[simp] theorem vec3_ty (v : Float3) : (vec3 v).ty = .vec3 := rfl

@[simp] theorem map_ty (f : Float32 → Float32) (v : Value) : (v.map f).ty = v.ty := rfl

@[simp] theorem normalize_ty (v : Value) : v.normalize.ty = v.ty := by
  simp only [normalize]
  split <;> simp

@[simp] theorem components_length (v : Value) : v.components.length = v.ty.components := by
  simp [components, Vec4.toList, Ty.components_le]

/-- Component-wise operations follow the broadcasting of types. -/
theorem zip_of_broadcast? {a b : Value} {t : Ty} (h : Ty.broadcast? a.ty b.ty = some t)
    (op : String) (f : Float32 → Float32 → Float32) : ∃ v, a.zip op f b = .ok v ∧ v.ty = t := by
  refine ⟨ofLanes t fun i => f (a.component i) (b.component i), ?_, rfl⟩
  rw [zip, h]

/-- The second operand may have the type of the first or be a number. -/
theorem zip_of_fits {a b : Value} (h : b.ty = a.ty ∨ b.ty = .float) (op : String)
    (f : Float32 → Float32 → Float32) : ∃ v, a.zip op f b = .ok v ∧ v.ty = a.ty :=
  zip_of_broadcast? (Ty.broadcast?_of_fits h) op f

end Value

/-! ## Functions -/

namespace Builtin

theorem apply_unary {f : Builtin} {v : Value} {t : Ty} (h : f.resultType? [v.ty] = some t) :
    ∃ w, f.apply [v] = .ok w ∧ w.ty = t := by
  cases f with
  | abs | sin | cos | floor | fract | sqrt | normalize | length =>
      cases h
      exact ⟨_, rfl, by simp⟩
  | dot | cross | min | max | pow | mix | clamp | smoothstep => cases h

theorem apply_binary {f : Builtin} {a b : Value} {t : Ty}
    (h : f.resultType? [a.ty, b.ty] = some t) : ∃ w, f.apply [a, b] = .ok w ∧ w.ty = t := by
  cases f with
  | dot =>
      obtain ⟨hab, rfl⟩ : a.ty = b.ty ∧ Ty.float = t := by simpa [resultType?] using h
      refine ⟨.float (Value.sum (List.zipWith (· * ·) a.components b.components)), ?_, rfl⟩
      simp only [apply, Value.dot, if_pos hab]
      rfl
  | cross =>
      obtain ⟨hab, rfl⟩ : (a.ty = .vec3 ∧ b.ty = .vec3) ∧ Ty.vec3 = t := by
        simpa [resultType?] using h
      exact ⟨.vec3 (a.toVec3.cross b.toVec3), by simp only [apply, if_pos hab], rfl⟩
  | min | max =>
      obtain ⟨hab, rfl⟩ : (a.ty = b.ty ∨ b.ty = .float) ∧ a.ty = t := by
        simpa [resultType?] using h
      exact Value.zip_of_fits (hab.imp_left Eq.symm) _ _
  | pow =>
      obtain ⟨hab, rfl⟩ : a.ty = b.ty ∧ a.ty = t := by simpa [resultType?] using h
      exact Value.zip_of_fits (Or.inl hab.symm) _ _
  | abs | sin | cos | floor | fract | sqrt | normalize | length | mix | clamp | smoothstep =>
      cases h

/-- Three arguments are combined in two or three steps.  Every step keeps the type of the vector. -/
theorem apply_ternary {f : Builtin} {a b c : Value} {t : Ty}
    (h : f.resultType? [a.ty, b.ty, c.ty] = some t) :
    ∃ w, f.apply [a, b, c] = .ok w ∧ w.ty = t := by
  cases f with
  | mix =>
      obtain ⟨⟨hab, hc⟩, rfl⟩ : (a.ty = b.ty ∧ (c.ty = a.ty ∨ c.ty = .float)) ∧ a.ty = t := by
        simpa [resultType?] using h
      obtain ⟨delta, hdelta, tdelta⟩ :=
        Value.zip_of_fits (a := b) (b := a) (Or.inl hab) mix.glsl (· - ·)
      obtain ⟨scaled, hscaled, tscaled⟩ :=
        Value.zip_of_fits (a := delta) (b := c) (by rw [tdelta, ← hab]; exact hc) mix.glsl (· * ·)
      obtain ⟨w, hw, tw⟩ := Value.zip_of_fits (a := a) (b := scaled)
        (Or.inl (by rw [tscaled, tdelta, hab])) mix.glsl (· + ·)
      refine ⟨w, ?_, tw⟩
      simp only [apply, hdelta, hscaled, bind, Except.bind]
      exact hw
  | clamp =>
      obtain ⟨⟨hbc, hb⟩, rfl⟩ : (b.ty = c.ty ∧ (b.ty = a.ty ∨ b.ty = .float)) ∧ a.ty = t := by
        simpa [resultType?] using h
      obtain ⟨raised, hraised, traised⟩ :=
        Value.zip_of_fits (a := a) (b := b) hb clamp.glsl Scalar.max
      obtain ⟨w, hw, tw⟩ := Value.zip_of_fits (a := raised) (b := c)
        (by rw [traised, ← hbc]; exact hb) clamp.glsl Scalar.min
      refine ⟨w, ?_, tw.trans traised⟩
      simp only [apply, hraised, bind, Except.bind]
      exact hw
  | smoothstep =>
      obtain ⟨⟨hab, ha⟩, rfl⟩ : (a.ty = b.ty ∧ (a.ty = c.ty ∨ a.ty = .float)) ∧ c.ty = t := by
        simpa [resultType?] using h
      obtain ⟨above, habove, tabove⟩ :=
        Value.zip_of_fits (a := c) (b := a) ha smoothstep.glsl (· - ·)
      obtain ⟨span, hspan, tspan⟩ :=
        Value.zip_of_fits (a := b) (b := a) (Or.inl hab) smoothstep.glsl (· - ·)
      obtain ⟨w, hw, tw⟩ := Value.zip_of_fits (a := above) (b := span)
        (by rw [tabove, tspan, ← hab]; exact ha) smoothstep.glsl smoothRamp
      refine ⟨w.map fun t => t * t * (3.0 - 2.0 * t), ?_, tw.trans tabove⟩
      simp only [apply, habove, hspan, hw, bind, Except.bind]
  | abs | sin | cos | floor | fract | sqrt | normalize | length | dot | cross | min | max | pow =>
      cases h

/-- What the table of overloads announces is what a call computes. -/
theorem apply_of_resultType? {f : Builtin} {t : Ty} :
    ∀ {args : List Value}, f.resultType? (args.map Value.ty) = some t →
      ∃ w, f.apply args = .ok w ∧ w.ty = t
  | [], h => by cases f <;> cases h
  | [_], h => apply_unary h
  | [_, _], h => apply_binary h
  | [_, _, _], h => apply_ternary h
  | _ :: _ :: _ :: _ :: _, h => by cases f <;> cases h

end Builtin

/-! ## Selections and constructions -/

namespace Value

/-- A selection picks as many components as it has letters. -/
theorem select_of_selection? {v : Value} {components : String} {indices : List Nat} {t : Ty}
    (hs : selection? components v.ty = some indices)
    (ht : Ty.ofComponents? indices.length = some t) :
    ∃ w, v.select components = .ok w ∧ w.ty = t := by
  refine ⟨ofLanes t fun i => (indices.map fun i => v.components.getD i 0.0).getD i 0.0, ?_, rfl⟩
  simp [select, hs, ofComponents?, ht]

theorem flatMap_components_length (args : List Value) :
    (args.flatMap components).length = Ty.total (args.map ty) := by
  induction args with
  | nil => rfl
  | cons v vs ih => simp [Ty.total, ih]

/-- A vector is built from exactly its components, or from one number. -/
theorem construct_of_fits {ty : Ty} {args : List Value}
    (h : Ty.total (args.map Value.ty) = ty.components ∨ args.map Value.ty = [.float]) :
    ∃ w, construct ty args = .ok w ∧ w.ty = ty := by
  have hlength := flatMap_components_length args
  unfold construct
  dsimp only
  split
  · exact ⟨_, rfl, rfl⟩
  next hsplat =>
    rcases h with h | h
    · rw [if_pos (hlength.trans h)]
      exact ⟨_, rfl, rfl⟩
    · -- one number has one component, so the first branch applied
      rw [h] at hlength
      obtain ⟨x, hx⟩ := List.length_eq_one_iff.mp hlength
      exact absurd hx (hsplat x h)

end Value

/-! ## Inversion of typing -/

namespace Expression

theorem type_random_inv {seed : Expression} {t : Ty} (h : (random seed).type = .ok t) :
    seed.type = .ok .float ∧ t = .vec2 := by
  obtain ⟨s, hs, h⟩ := ok_of_bind_eq_ok h
  by_cases hf : s = .float
  · rw [if_pos hf] at h
    cases h
    exact ⟨hf ▸ hs, rfl⟩
  · rw [if_neg hf] at h
    cases h

theorem type_binary_inv {op : BinaryOp} {left right : Expression} {t : Ty}
    (h : (binary op left right).type = .ok t) :
    ∃ a b, left.type = .ok a ∧ right.type = .ok b ∧ Ty.broadcast? a b = some t := by
  obtain ⟨a, ha, h⟩ := ok_of_bind_eq_ok h
  obtain ⟨b, hb, h⟩ := ok_of_bind_eq_ok h
  refine ⟨a, b, ha, hb, ?_⟩
  split at h
  next hab =>
    cases h
    exact hab
  next => cases h

theorem type_call_inv {f : Builtin} {args : List Expression} {t : Ty}
    (h : (call f args).type = .ok t) :
    ∃ tys, types args = .ok tys ∧ f.resultType? tys = some t := by
  obtain ⟨tys, htys, h⟩ := ok_of_bind_eq_ok h
  refine ⟨tys, htys, ?_⟩
  simp only [Builtin.resultType] at h
  split at h
  next hf =>
    cases h
    exact hf
  next => cases h

theorem type_swizzle_inv {base : Expression} {components : String} {t : Ty}
    (h : (swizzle base components).type = .ok t) :
    ∃ s indices, base.type = .ok s ∧ selection? components s = some indices ∧
      Ty.ofComponents? indices.length = some t := by
  obtain ⟨s, hs, h⟩ := ok_of_bind_eq_ok h
  split at h
  next indices hindices =>
    refine ⟨s, indices, hs, hindices, ?_⟩
    split at h
    next ht =>
      cases h
      exact ht
    next => cases h
  next => cases h

theorem type_construct_inv {ty : Ty} {args : List Expression} {t : Ty}
    (h : (construct ty args).type = .ok t) :
    t = ty ∧ ∃ tys, types args = .ok tys ∧
      (Ty.total tys = ty.components ∨ tys = [.float]) := by
  obtain ⟨tys, htys, h⟩ := ok_of_bind_eq_ok h
  dsimp only at h
  split at h
  next hfits =>
    cases h
    exact ⟨rfl, tys, htys, hfits⟩
  next => cases h

theorem types_cons_inv {e : Expression} {es : List Expression} {tys : List Ty}
    (h : types (e :: es) = .ok tys) :
    ∃ t ts, tys = t :: ts ∧ e.type = .ok t ∧ types es = .ok ts := by
  obtain ⟨t, ht, h⟩ := ok_of_bind_eq_ok h
  obtain ⟨ts, hts, h⟩ := ok_of_bind_eq_ok h
  cases h
  exact ⟨t, ts, rfl, ht, hts⟩

/-! ## Reading a number -/

section Number

variable {e : Expression} {t : Ty}

/-- A vector has a first component. -/
theorem selection?_x (h : t ≠ .float) : selection? "x" t = some [0] := by
  cases t with
  | float => exact absurd rfl h
  | vec2 | vec3 | vec4 => decide

/-- One component of a vector is a number. -/
theorem type_component (component : String) (i : Nat) (he : e.type = .ok t)
    (hselection : selection? component t = some [i]) :
    (swizzle e component).type = .ok .float := by
  refine bind_eq_ok_iff.mpr ⟨t, he, ?_⟩
  rw [hselection]
  rfl

theorem asScalar_of_float (h : e.type = .ok .float) : e.asScalar = e := by
  unfold asScalar
  rw [h]

theorem asScalar_of_ne_float (hne : e.type ≠ .ok .float) : e.asScalar = e.x := by
  unfold asScalar
  split
  next h => exact absurd h hne
  next => rfl

/-- An expression read as a number is a number, if it has a type at all. -/
theorem type_asScalar_iff : e.asScalar.type = .ok t ↔ (∃ s, e.type = .ok s) ∧ t = .float := by
  by_cases hfloat : e.type = .ok .float
  · rw [asScalar_of_float hfloat, hfloat]
    simp [eq_comm]
  · have hfirst : ∀ {s : Ty}, e.type = .ok s → selection? "x" s = some [0] := fun hs =>
      selection?_x fun h => hfloat (h ▸ hs)
    rw [asScalar_of_ne_float hfloat]
    constructor
    · intro h
      obtain ⟨s, indices, hs, hindices, ht⟩ := type_swizzle_inv h
      cases (hfirst hs).symm.trans hindices
      cases ht
      exact ⟨⟨s, hs⟩, rfl⟩
    · rintro ⟨⟨s, hs⟩, rfl⟩
      exact type_component "x" 0 hs (hfirst hs)

end Number

/-! ## Evaluation of typed expressions -/

theorem read_ty (ctx : Context) (v : Variable) : (ctx.read v).ty = v.ty := by
  cases v <;> rfl

/-- A step that can only meet a type fault, when it does not meet one. -/
theorem ofFault_ok {r : Except TypeFault Value} {t : Ty} (h : ∃ w, r = .ok w ∧ w.ty = t) :
    ∃ w, EvalError.ofFault r = .ok w ∧ w.ty = t := by
  obtain ⟨w, hr, hw⟩ := h
  exact ⟨w, by rw [hr]; rfl, hw⟩

mutual

/-- A typed expression settles: snippets block it, and its value has its type. -/
theorem eval_settles (ctx : Context) :
    ∀ (e : Expression) {t : Ty}, e.type = .ok t →
      Settles (e.isOpaque = true) (fun v => v.ty = t) (e.eval ctx)
  | constant v, _, h => by
      cases h
      exact ⟨by simp [isOpaque], rfl⟩
  | var v, _, h => by
      cases h
      exact ⟨by simp [isOpaque], read_ty ctx v⟩
  | random seed, t, h => by
      obtain ⟨hseed, rfl⟩ := type_random_inv h
      refine (eval_settles ctx seed hseed).bind_answer fun key hkey => ?_
      exact ⟨_, if_pos hkey, rfl⟩
  | negate operand, t, h =>
      (eval_settles ctx operand h).bind_answer fun v hv => ⟨_, rfl, hv⟩
  | binary op left right, t, h => by
      obtain ⟨a, b, ha, hb, hab⟩ := type_binary_inv h
      have hsettles := (eval_settles ctx left ha).bind fun v hv =>
        (eval_settles ctx right hb).bind_answer fun w hw =>
          ofFault_ok (Value.zip_of_broadcast? (hv ▸ hw ▸ hab) op.symbol op.apply)
      exact hsettles.congr (by simp [isOpaque])
  | call f args, t, h => by
      obtain ⟨tys, htys, hf⟩ := type_call_inv h
      refine (evalAll_settles ctx args htys).bind_answer fun vs hvs => ?_
      exact ofFault_ok (Builtin.apply_of_resultType? (hvs ▸ hf))
  | swizzle base components, t, h => by
      obtain ⟨s, indices, hs, hindices, ht⟩ := type_swizzle_inv h
      refine (eval_settles ctx base hs).bind_answer fun v hv => ?_
      exact ofFault_ok (Value.select_of_selection? (hv ▸ hindices) ht)
  | construct ty args, t, h => by
      obtain ⟨rfl, tys, htys, hfits⟩ := type_construct_inv h
      refine (evalAll_settles ctx args htys).bind_answer fun vs hvs => ?_
      exact ofFault_ok (Value.construct_of_fits (hvs ▸ hfits))
  | raw template bindings ty, t, _ => ⟨rfl, rfl⟩

/-- Typed arguments settle together. -/
theorem evalAll_settles (ctx : Context) :
    ∀ (es : List Expression) {ts : List Ty}, types es = .ok ts →
      Settles (anyOpaque es = true) (fun vs => vs.map Value.ty = ts) (evalAll ctx es)
  | [], _, h => by
      cases h
      exact ⟨by simp [anyOpaque], rfl⟩
  | e :: es, ts, h => by
      obtain ⟨t, ts, rfl, ht, hts⟩ := types_cons_inv h
      have hsettles := (eval_settles ctx e ht).bind fun v hv =>
        (evalAll_settles ctx es hts).bind_answer (Q := fun vs => vs.map Value.ty = t :: ts)
          fun vs hvs => ⟨v :: vs, rfl, by rw [List.map_cons, hv, hvs]⟩
      exact hsettles.congr (by simp [anyOpaque])

end

/-- A typed expression without a snippet has a value of its type in every context.  One with a
snippet fails with the error of a snippet.  Neither meets a type fault. -/
theorem eval_of_type {e : Expression} {t : Ty} (h : e.type = .ok t) (ctx : Context) :
    (e.isOpaque = false → ∃ v, e.eval ctx = .ok v ∧ v.ty = t) ∧
      (e.isOpaque = true → e.eval ctx = .error .snippet) ∧
      ∀ fault, e.eval ctx ≠ .error (.type fault) := by
  have hsettles := eval_settles ctx e h
  refine ⟨fun hclear => hsettles.exists_ok (by simp [hclear]), hsettles.eq_error, ?_⟩
  intro fault hfault
  rw [hfault] at hsettles
  cases hsettles.2

/-- A blend of two vectors of three, one of them selected from a constructed vector of four. -/
theorem eval_of_type_mix :
    (call .mix [var .position, swizzle (construct .vec4 [var .uv, var .mouse]) "xzw",
      var .time]).type = .ok .vec3 ∧
      ∃ v, (call .mix [var .position, swizzle (construct .vec4 [var .uv, var .mouse]) "xzw",
        var .time]).eval {} = .ok v ∧ v.ty = .vec3 :=
  ⟨rfl, (eval_of_type rfl {}).1 rfl⟩

end Expression

end ImplicitScene
