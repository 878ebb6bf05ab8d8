import ImplicitScene.Proofs.Decimals

/-!
# Literals spelled out

The text of a literal vector is the text of a constructor: with all components,
or with one of them if they are equal.  So different expressions may have the
same text.  An expression is *spelled out* when its literal vectors are replaced
by the constructors that their texts name.

Spelling out keeps the text.  It also keeps the value, up to the lanes that are
not live.  A literal may hold anything there, and no operation looks at them.
-/

namespace ImplicitScene

/-! ## Values without dead lanes -/

theorem map_bind_except {ε α β γ : Type} (g : β → γ) (x : Except ε α) (f : α → Except ε β) :
    (x >>= f).map g = x >>= fun a => (f a).map g := by
  cases x <;> rfl

/-- Two types combine to one of them, and the other is the same or a number. -/
theorem Ty.fits_of_broadcast? {a b t : Ty} (h : broadcast? a b = some t) :
    (a = float ∨ a = t) ∧ (b = float ∨ b = t) := by
  cases a <;> cases b <;> cases h <;> decide

namespace Value

/-- The value with zeros in the lanes that are not live. -/
def tidy (v : Value) : Value := ofLanes v.ty v.component

@[simp] theorem tidy_ty (v : Value) : v.tidy.ty = v.ty := rfl

theorem ofLanes_congr {t : Ty} {f g : Nat → Float32} (h : ∀ i < t.components, f i = g i) :
    ofLanes t f = ofLanes t g := by
  have hlive : ∀ i, (if i < t.components then f i else 0.0) =
      if i < t.components then g i else 0.0 := fun i => by
    split
    next hi => exact h i hi
    next => rfl
  simp only [ofLanes, hlive]

@[simp] theorem tidy_ofLanes (t : Ty) (f : Nat → Float32) : (ofLanes t f).tidy = ofLanes t f := by
  cases t <;> rfl

/-- A live component is kept, and so is every component of a number. -/
theorem component_tidy {v : Value} {i : Nat} (h : v.ty = .float ∨ i < v.ty.components) :
    v.tidy.component i = v.component i := by
  obtain ⟨ty, lanes⟩ := v
  cases ty with
  | float => rfl
  | vec2 | vec3 | vec4 =>
      obtain hnever | hlive := h
      · cases hnever
      · match i with
        | 0 | 1 | 2 | 3 => first | rfl | simp [Ty.components] at hlive
        | i + 4 =>
            simp only [Ty.components] at hlive
            omega

@[simp] theorem components_tidy (v : Value) : v.tidy.components = v.components := by
  obtain ⟨ty, lanes⟩ := v
  cases ty <;> rfl

@[simp] theorem x_tidy (v : Value) : v.tidy.x = v.x := by
  obtain ⟨ty, lanes⟩ := v
  cases ty <;> rfl

@[simp] theorem length_tidy (v : Value) : v.tidy.length = v.length := by
  simp [length]

@[simp] theorem dot_tidy (a b : Value) : a.tidy.dot b.tidy = a.dot b := by
  simp [dot]

@[simp] theorem map_tidy (f : Float32 → Float32) (v : Value) : v.tidy.map f = v.map f :=
  ofLanes_congr fun i (hi : i < v.ty.components) => by rw [component_tidy (Or.inr hi)]

@[simp] theorem tidy_map (f : Float32 → Float32) (v : Value) : (v.map f).tidy = v.map f :=
  tidy_ofLanes _ _

theorem ty_of_tidy {v w : Value} (h : v.tidy = w.tidy) : v.ty = w.ty := by
  rw [← tidy_ty v, h, tidy_ty]

/-- Only the live components of operands matter. -/
theorem zip_congr {a a' b b' : Value} (ha : a.tidy = a'.tidy) (hb : b.tidy = b'.tidy) (op : String)
    (f : Float32 → Float32 → Float32) : a.zip op f b = a'.zip op f b' := by
  unfold zip
  rw [← ty_of_tidy ha, ← ty_of_tidy hb]
  split
  next t ht =>
    have hfits := Ty.fits_of_broadcast? ht
    congr 1
    refine ofLanes_congr fun i hi => ?_
    have hlive : ∀ {v v' : Value}, v.tidy = v'.tidy → v.ty = .float ∨ v.ty = t →
        v.component i = v'.component i := by
      intro v v' hv hfit
      have hlive := hfit.imp_right fun hty : v.ty = t => hty ▸ hi
      rw [← component_tidy hlive, hv, component_tidy (ty_of_tidy hv ▸ hlive)]
    rw [hlive ha hfits.1, hlive hb hfits.2]
  next => rfl

@[simp] theorem tidy_tidy (v : Value) : v.tidy.tidy = v.tidy := tidy_ofLanes _ _

@[simp] theorem zip_tidy_left (a : Value) (op : String) (f : Float32 → Float32 → Float32)
    (b : Value) :
    a.tidy.zip op f b = a.zip op f b :=
  zip_congr a.tidy_tidy rfl op f

@[simp] theorem zip_tidy_right (a : Value) (op : String) (f : Float32 → Float32 → Float32)
    (b : Value) :
    a.zip op f b.tidy = a.zip op f b :=
  zip_congr rfl b.tidy_tidy op f

/-- What is combined component by component has no dead lanes. -/
@[simp] theorem map_tidy_zip (op : String) (f : Float32 → Float32 → Float32) (a b : Value) :
    (a.zip op f b).map tidy = a.zip op f b := by
  unfold zip
  split <;> simp [Except.map]

@[simp] theorem normalize_tidy (v : Value) : v.tidy.normalize = v.normalize.tidy := by
  unfold normalize
  dsimp only
  rw [length_tidy]
  split <;> simp

theorem toVec3_tidy {v : Value} (h : v.ty = .vec3) : v.tidy.toVec3 = v.toVec3 := by
  have hlive : ∀ {i}, i < 3 → v.tidy.component i = v.component i := fun hi =>
    component_tidy (Or.inr (h ▸ hi))
  simp [toVec3, hlive]

@[simp] theorem select_tidy (v : Value) (components : String) :
    v.tidy.select components = v.select components := by
  simp [select]

@[simp] theorem map_tidy_select (v : Value) (components : String) :
    (v.select components).map tidy = v.select components := by
  have hpicked : ∀ cs w, ofComponents? cs = some w → w.tidy = w := by
    intro cs w h
    obtain ⟨t, -, rfl⟩ := Option.map_eq_some_iff.mp h
    exact tidy_ofLanes _ _
  unfold select
  dsimp only
  split
  next w hw =>
    obtain ⟨indices, -, hw⟩ := Option.bind_eq_some_iff.mp hw
    simp [Except.map, hpicked _ w hw]
  next => rfl

@[simp] theorem construct_tidy (t : Ty) (args : List Value) :
    construct t (args.map tidy) = construct t args := by
  have hcomponents : (args.map tidy).flatMap components = args.flatMap components := by
    simp [List.flatMap_map]
  have htypes : (args.map tidy).map ty = args.map ty := by
    simp [Function.comp_def]
  simp only [construct, hcomponents, htypes]

@[simp] theorem map_tidy_construct (t : Ty) (args : List Value) :
    (construct t args).map tidy = construct t args := by
  unfold construct
  dsimp only
  split
  next => simp [Except.map, splat]
  next => split <;> simp [Except.map]

end Value

/-- Functions do not look at dead lanes.  Only a vector of length zero that stays as it is keeps
them. -/
theorem Builtin.apply_tidy (f : Builtin) (args : List Value) :
    f.apply (args.map Value.tidy) = (f.apply args).map Value.tidy := by
  have hok : ∀ v : Value, (Except.ok v : Except TypeFault Value).map Value.tidy = .ok v.tidy :=
    fun _ => rfl
  have herror : ∀ fault : TypeFault, (Except.error fault).map Value.tidy = .error fault :=
    fun _ => rfl
  have hfloat : ∀ x, (Value.float x).tidy = Value.float x := fun x => Value.tidy_ofLanes _ _
  rcases args with _ | ⟨a, _ | ⟨b, _ | ⟨c, _ | ⟨d, rest⟩⟩⟩⟩
  · cases f <;> rfl
  · cases f <;> simp [apply, hok, herror, hfloat]
  · cases f with
    | cross =>
        simp only [apply, List.map_cons, List.map_nil]
        by_cases hty : a.ty = .vec3 ∧ b.ty = .vec3
        · have htidy : a.tidy.ty = .vec3 ∧ b.tidy.ty = .vec3 := hty
          rw [if_pos htidy, if_pos hty, Value.toVec3_tidy hty.1, Value.toVec3_tidy hty.2, hok,
            Value.vec3, Value.tidy_ofLanes]
        · have htidy : ¬(a.tidy.ty = .vec3 ∧ b.tidy.ty = .vec3) := hty
          rw [if_neg htidy, if_neg hty]
          rfl
    | _ => simp [apply, hok, herror, hfloat, map_bind_except]
  · cases f <;> simp [apply, hok, herror, map_bind_except]
  · cases f <;> simp [apply, herror, Function.comp_def]

/-! ## Spelling out -/

theorem Expression.glslAll_eq_map (es : List Expression) : glslAll es = es.map glsl := by
  induction es with
  | nil => rfl
  | cons e es ih => rw [glslAll, ih, List.map_cons]

/-- The expression that the text of a literal names. -/
def Value.spelled (v : Value) : Expression :=
  if v.ty = .float then .scalar v.x
  else
    let components := if v.components.all (· == v.x) then [v.x] else v.components
    .construct v.ty (components.map .scalar)

namespace Expression

mutual

/-- The expression with its literal vectors spelled out. -/
def spelled : Expression → Expression
  | constant v => v.spelled
  | var v => var v
  | random seed => random seed.spelled
  | negate operand => negate operand.spelled
  | binary op left right => binary op left.spelled right.spelled
  | call function args => call function (spelledAll args)
  | swizzle base components => swizzle base.spelled components
  | construct ty args => construct ty (spelledAll args)
  | raw template bindings ty => raw template bindings ty
termination_by structural e => e

/-- The expressions with their literal vectors spelled out. -/
def spelledAll : List Expression → List Expression
  | [] => []
  | e :: es => e.spelled :: spelledAll es
termination_by structural es => es

end

mutual

/-- The components of all literals in an expression. -/
def literals : Expression → List Float32
  | constant v => v.components
  | var _ => []
  | random seed => seed.literals
  | negate operand => operand.literals
  | binary _ left right => left.literals ++ right.literals
  | call _ args => literalsOfAll args
  | swizzle base _ => base.literals
  | construct _ args => literalsOfAll args
  | raw _ bindings _ => literalsBound bindings
termination_by structural e => e

/-- The components of all literals in several expressions. -/
def literalsOfAll : List Expression → List Float32
  | [] => []
  | e :: es => e.literals ++ literalsOfAll es
termination_by structural es => es

/-- The components of all literals in the expressions bound to the slots of a snippet. -/
def literalsBound : List (String × Expression) → List Float32
  | [] => []
  | (_, e) :: bindings => e.literals ++ literalsBound bindings
termination_by structural bindings => bindings

end

end Expression

/-! ## The text stays -/

theorem Value.spelled_glsl (v : Value) : v.spelled.glsl = v.glsl := by
  unfold Value.spelled Value.glsl
  split
  next => rfl
  next =>
    dsimp only
    rw [Expression.glsl, Expression.glslAll_eq_map, List.map_map]
    split <;> rfl

namespace Expression

mutual

theorem spelled_glsl : ∀ e : Expression, e.spelled.glsl = e.glsl
  | constant v => v.spelled_glsl
  | var v => rfl
  | random seed => by rw [spelled, glsl, glsl, spelled_glsl seed]
  | negate operand => by rw [spelled, glsl, glsl, spelled_glsl operand]
  | binary op left right => by
      rw [spelled, glsl, glsl, spelled_glsl left, spelled_glsl right]
  | call function args => by rw [spelled, glsl, glsl, spelledAll_glsl args]
  | swizzle base components => by rw [spelled, glsl, glsl, spelled_glsl base]
  | construct ty args => by rw [spelled, glsl, glsl, spelledAll_glsl args]
  | raw template bindings ty => rfl

theorem spelledAll_glsl : ∀ es : List Expression, glslAll (spelledAll es) = glslAll es
  | [] => rfl
  | e :: es => by rw [spelledAll, glslAll, glslAll, spelled_glsl e, spelledAll_glsl es]

end

end Expression

/-! ## The value stays -/

theorem Value.getElem?_components {v : Value} {i : Nat} (h : i < v.ty.components) :
    v.components[i]? = some (v.component i) := by
  obtain ⟨ty, lanes⟩ := v
  match ty, i with
  | .float, 0 => rfl
  | .vec2, 0 | .vec2, 1 => rfl
  | .vec3, 0 | .vec3, 1 | .vec3, 2 => rfl
  | .vec4, 0 | .vec4, 1 | .vec4, 2 | .vec4, 3 => rfl
  | .float, i + 1 | .vec2, i + 2 | .vec3, i + 3 | .vec4, i + 4 =>
      simp only [Ty.components] at h
      omega

theorem Value.x_mem_components (v : Value) : v.x ∈ v.components := by
  obtain ⟨ty, lanes⟩ := v
  cases ty <;> exact List.mem_cons_self

theorem Value.eval_spelled {v : Value} (h : ∀ x ∈ v.components, ordinary x = true) (ctx : Context) :
    v.spelled.eval ctx = .ok v.tidy := by
  have hall : ∀ xs : List Float32,
      Expression.evalAll ctx (xs.map .scalar) = .ok (xs.map Value.float) := by
    intro xs
    induction xs with
    | nil => rfl
    | cons x xs ih =>
        rw [List.map_cons, Expression.evalAll, ih]
        rfl
  unfold spelled
  split
  next hfloat =>
    obtain ⟨ty, lanes⟩ := v
    cases hfloat
    rfl
  next hvector =>
    dsimp only
    rw [Expression.eval, hall]
    split
    next hequal =>
      -- the one component that is written is every component
      have hsplat : splat v.ty v.x = v.tidy := by
        refine ofLanes_congr fun i hi => ?_
        have hmem : v.component i ∈ v.components :=
          List.mem_of_getElem? (getElem?_components hi)
        have hbeq := List.all_eq_true.mp hequal _ hmem
        exact (eq_of_beq_of_ordinary (h _ hmem) (h _ v.x_mem_components) hbeq).symm
      rw [← hsplat]
      rfl
    next =>
      obtain ⟨ty, lanes⟩ := v
      cases ty with
      | float => exact absurd rfl hvector
      | vec2 | vec3 | vec4 => rfl

theorem map_ofFault {α β : Type} (g : α → β) (r : Except TypeFault α) :
    EvalError.ofFault (r.map g) = (EvalError.ofFault r).map g := by
  cases r <;> rfl

namespace Expression

mutual

/-- Spelling out an expression clears the dead lanes of its value, and nothing else. -/
theorem eval_spelled (ctx : Context) : ∀ e : Expression, (∀ x ∈ e.literals, ordinary x = true) →
    e.spelled.eval ctx = (e.eval ctx).map Value.tidy
  | constant v, h => v.eval_spelled h ctx
  | var v, _ => by cases v <;> rfl
  | random seed, h => by
      rw [spelled, eval, eval, eval_spelled ctx seed h]
      cases seed.eval ctx with
      | error e => rfl
      | ok v =>
          by_cases hty : v.ty = .float
          · simp [Except.map, bind, Except.bind, hty, Value.vec2]
          · simp [Except.map, bind, Except.bind, hty]
  | negate operand, h => by
      rw [spelled, eval, eval, eval_spelled ctx operand h]
      cases operand.eval ctx with
      | error e => rfl
      | ok v => simp [Except.map, bind, Except.bind]
  | binary op left right, h => by
      rw [literals, List.forall_mem_append] at h
      rw [spelled, eval, eval, eval_spelled ctx left h.1, eval_spelled ctx right h.2]
      cases left.eval ctx with
      | error e => rfl
      | ok a =>
          cases right.eval ctx with
          | error e => rfl
          | ok b =>
              refine Eq.trans ?_ (map_ofFault _ _)
              rw [Value.map_tidy_zip]
              exact congrArg EvalError.ofFault
                ((a.zip_tidy_left _ _ b.tidy).trans (a.zip_tidy_right _ _ b))
  | call function args, h => by
      rw [spelled, eval, eval, evalAll_spelledAll ctx args h]
      cases evalAll ctx args with
      | error e => rfl
      | ok values =>
          refine Eq.trans ?_ (map_ofFault _ _)
          rw [← Builtin.apply_tidy]
          rfl
  | swizzle base components, h => by
      rw [spelled, eval, eval, eval_spelled ctx base h]
      cases base.eval ctx with
      | error e => rfl
      | ok v =>
          refine Eq.trans ?_ (map_ofFault _ _)
          rw [Value.map_tidy_select]
          exact congrArg EvalError.ofFault (v.select_tidy components)
  | construct ty args, h => by
      rw [spelled, eval, eval, evalAll_spelledAll ctx args h]
      cases evalAll ctx args with
      | error e => rfl
      | ok values =>
          refine Eq.trans ?_ (map_ofFault _ _)
          rw [Value.map_tidy_construct]
          exact congrArg EvalError.ofFault (Value.construct_tidy ty values)
  | raw template bindings ty, _ => rfl

theorem evalAll_spelledAll (ctx : Context) : ∀ es : List Expression,
    (∀ x ∈ literalsOfAll es, ordinary x = true) →
      evalAll ctx (spelledAll es) = (evalAll ctx es).map (List.map Value.tidy)
  | [], _ => rfl
  | e :: es, h => by
      rw [literalsOfAll, List.forall_mem_append] at h
      rw [spelledAll, evalAll, evalAll, eval_spelled ctx e h.1, evalAll_spelledAll ctx es h.2]
      cases e.eval ctx with
      | error e => rfl
      | ok v => cases evalAll ctx es <;> rfl

end

end Expression

end ImplicitScene
