import Mathlib.Data.List.Forall2
import ImplicitScene.Proofs.Soundness

/-!
# Whether an expression has a value

Evaluation does not ask for a type first, and it accepts more than checking does.
A number may stand for a vector in more places, and some calls that no overload
covers have a value all the same.  So whether an expression without a type can be
evaluated is not known from checking it.

It does not depend on the context either.  In any two contexts, an expression
either has values of one type, or it fails with one error.  The reason is that
every operation decides by the types of its operands whether it has a result, and
which type the result has or what the fault is.  The components only go into the
components of the result.

`SameOutcome R` relates the results of two evaluations.  `SameOutcome.bind` carries
the relation through a sequence of steps, up to the first that fails.
-/

namespace ImplicitScene

/-! ## Outcomes of two evaluations -/

/-- Two answers that `R` relates, or the same error twice. -/
inductive SameOutcome {ε α : Type} (R : α → α → Prop) : Except ε α → Except ε α → Prop where
  | answer {a a' : α} (h : R a a') : SameOutcome R (.ok a) (.ok a')
  | failure (e : ε) : SameOutcome R (.error e) (.error e)

namespace SameOutcome

variable {ε α β : Type} {R : α → α → Prop} {S : β → β → Prop}

/-- Steps with the same outcome, one after the other. -/
theorem bind {x x' : Except ε α} {f f' : α → Except ε β} (hx : SameOutcome R x x')
    (hf : ∀ {a a'}, R a a' → SameOutcome S (f a) (f' a')) :
    SameOutcome S (x >>= f) (x' >>= f') := by
  cases hx with
  | answer h => exact hf h
  | failure e => exact .failure e

theorem ofFault {r r' : Except TypeFault α} (h : SameOutcome R r r') :
    SameOutcome R (EvalError.ofFault r) (EvalError.ofFault r') := by
  cases h with
  | answer h => exact .answer h
  | failure fault => exact .failure (EvalError.type fault)

end SameOutcome

/-! ## Operations on values -/

namespace Value

/-- Values of one type. -/
def Alike (v v' : Value) : Prop := v.ty = v'.ty

variable {a a' b b' : Value} {args args' : List Value}

theorem types_of_alike (h : List.Forall₂ Alike args args') : args.map ty = args'.map ty := by
  induction h with
  | nil => rfl
  | cons h _ ih => rw [List.map_cons, List.map_cons, h, ih]

theorem zip_sameOutcome (ha : a.Alike a') (hb : b.Alike b') (op : String)
    (f : Float32 → Float32 → Float32) : SameOutcome Alike (a.zip op f b) (a'.zip op f b') := by
  rw [zip, zip, ha, hb]
  cases Ty.broadcast? a'.ty b'.ty with
  | some t => exact .answer rfl
  | none => exact .failure _

theorem dot_sameOutcome (ha : a.Alike a') (hb : b.Alike b') :
    SameOutcome (fun _ _ => True) (a.dot b) (a'.dot b') := by
  rw [dot, dot, ha, hb]
  split
  · exact .answer trivial
  · exact .failure _

/-- A selection picks as many components as it has letters, whatever they are. -/
theorem select_sameOutcome (ha : a.Alike a') (components : String) :
    SameOutcome Alike (a.select components) (a'.select components) := by
  simp only [select, ofComponents?, List.length_map]
  rw [show a.ty = a'.ty from ha]
  cases selection? components a'.ty with
  | none => exact .failure _
  | some indices =>
      simp only [Option.bind_some]
      cases Ty.ofComponents? indices.length with
      | none => exact .failure _
      | some t => exact .answer rfl

/-- What does not fit into a vector is counted. -/
theorem construct_of_not_fits {t : Ty}
    (h : ¬(Ty.total (args.map ty) = t.components ∨ args.map ty = [.float])) :
    construct t args = .error (.construct t (Ty.total (args.map ty))) := by
  obtain ⟨hcount, hnumber⟩ := not_or.mp h
  have hlength := flatMap_components_length args
  unfold construct
  dsimp only
  split
  next hfloat _ => exact absurd hfloat hnumber
  next => rw [if_neg (hlength ▸ hcount), hlength]

theorem construct_sameOutcome (h : List.Forall₂ Alike args args') (t : Ty) :
    SameOutcome Alike (construct t args) (construct t args') := by
  have htypes := types_of_alike h
  by_cases hfits : Ty.total (args.map ty) = t.components ∨ args.map ty = [.float]
  · obtain ⟨w, hw, rfl⟩ := construct_of_fits hfits
    obtain ⟨w', hw', ht⟩ := construct_of_fits (htypes ▸ hfits)
    rw [hw, hw']
    exact .answer ht.symm
  · rw [construct_of_not_fits hfits, construct_of_not_fits (htypes ▸ hfits), htypes]
    exact .failure _

end Value

/-! ## Functions -/

namespace Builtin

open Value

variable {f : Builtin} {a a' b b' c c' : Value}

/-- A call with arguments that no case of the function covers. -/
theorem arguments_sameOutcome {name : String} {args args' : List Value}
    (h : List.Forall₂ Alike args args') :
    SameOutcome Alike (.error (TypeFault.arguments name (args.map Value.ty)))
      (.error (TypeFault.arguments name (args'.map Value.ty))) := by
  rw [types_of_alike h]
  exact .failure _

theorem apply_unary_sameOutcome (ha : a.Alike a') :
    SameOutcome Alike (f.apply [a]) (f.apply [a']) := by
  cases f with
  | abs | sin | cos | floor | fract | sqrt => exact .answer ha
  | normalize => exact .answer ((normalize_ty a).trans (ha.trans (normalize_ty a').symm))
  | length => exact .answer (by simp only [Alike, float_ty])
  | dot | cross | min | max | pow | mix | clamp | smoothstep =>
      exact arguments_sameOutcome (.cons ha .nil)

theorem apply_binary_sameOutcome (ha : a.Alike a') (hb : b.Alike b') :
    SameOutcome Alike (f.apply [a, b]) (f.apply [a', b']) := by
  cases f with
  | dot =>
      exact (dot_sameOutcome ha hb).bind fun _ => .answer (by simp only [Alike, float_ty])
  | cross =>
      simp only [apply, show a.ty = a'.ty from ha, show b.ty = b'.ty from hb]
      split
      · exact .answer (by simp only [Alike, vec3_ty])
      · exact .failure _
  | min | max | pow => exact zip_sameOutcome ha hb _ _
  | abs | sin | cos | floor | fract | sqrt | normalize | length | mix | clamp | smoothstep =>
      exact arguments_sameOutcome (.cons ha (.cons hb .nil))

/-- Three arguments are combined in two or three steps, and the first of them that fails decides. -/
theorem apply_ternary_sameOutcome (ha : a.Alike a') (hb : b.Alike b') (hc : c.Alike c') :
    SameOutcome Alike (f.apply [a, b, c]) (f.apply [a', b', c']) := by
  cases f with
  | mix =>
      exact (zip_sameOutcome hb ha _ _).bind fun hdelta =>
        (zip_sameOutcome hdelta hc _ _).bind fun hscaled => zip_sameOutcome ha hscaled _ _
  | clamp =>
      exact (zip_sameOutcome ha hb _ _).bind fun hraised => zip_sameOutcome hraised hc _ _
  | smoothstep =>
      exact (zip_sameOutcome hc ha _ _).bind fun habove =>
        (zip_sameOutcome hb ha _ _).bind fun hspan =>
          (zip_sameOutcome habove hspan _ _).bind fun ht => .answer ht
  | abs | sin | cos | floor | fract | sqrt | normalize | length | dot | cross | min | max | pow =>
      exact arguments_sameOutcome (.cons ha (.cons hb (.cons hc .nil)))

/-- The types of the arguments decide the outcome of a call. -/
theorem apply_sameOutcome {args args' : List Value} (h : List.Forall₂ Alike args args') :
    SameOutcome Alike (f.apply args) (f.apply args') := by
  cases h with
  | nil => cases f <;> exact .failure _
  | cons ha h =>
      cases h with
      | nil => exact apply_unary_sameOutcome ha
      | cons hb h =>
          cases h with
          | nil => exact apply_binary_sameOutcome ha hb
          | cons hc h =>
              cases h with
              | nil => exact apply_ternary_sameOutcome ha hb hc
              | cons hd h =>
                  cases f <;>
                    exact arguments_sameOutcome (.cons ha (.cons hb (.cons hc (.cons hd h))))

end Builtin

/-! ## Expressions -/

namespace Expression

variable (ctx ctx' : Context)

mutual

/-- One case for each form.  Operands come before the operation, so their outcomes do too. -/
theorem eval_sameOutcome : ∀ e : Expression,
    SameOutcome Value.Alike (e.eval ctx) (e.eval ctx')
  | constant _ => .answer rfl
  | var v => .answer ((read_ty ctx v).trans (read_ty ctx' v).symm)
  | random seed => by
      refine (eval_sameOutcome seed).bind fun {key key'} hkey => ?_
      rw [show key.ty = key'.ty from hkey]
      split
      · exact .answer (by simp only [Value.Alike, Value.vec2_ty])
      · exact .failure _
  | negate operand => (eval_sameOutcome operand).bind fun h => .answer h
  | binary op left right =>
      (eval_sameOutcome left).bind fun ha => (eval_sameOutcome right).bind fun hb =>
        (Value.zip_sameOutcome ha hb op.symbol op.apply).ofFault
  | call f args =>
      (evalAll_sameOutcome args).bind fun h => (Builtin.apply_sameOutcome h).ofFault
  | swizzle base components =>
      (eval_sameOutcome base).bind fun h => (Value.select_sameOutcome h components).ofFault
  | construct ty args =>
      (evalAll_sameOutcome args).bind fun h => (Value.construct_sameOutcome h ty).ofFault
  | raw _ _ _ => .failure EvalError.snippet

theorem evalAll_sameOutcome : ∀ es : List Expression,
    SameOutcome (List.Forall₂ Value.Alike) (evalAll ctx es) (evalAll ctx' es)
  | [] => .answer .nil
  | e :: es =>
      (eval_sameOutcome e).bind fun h => (evalAll_sameOutcome es).bind fun hs =>
        .answer (.cons h hs)

end

/-- Whether an expression has a value, of which type it is, and with what error it fails, is the
same in all contexts.  This holds of expressions without a type and of snippets too. -/
theorem eval_uniform (e : Expression) (ctx ctx' : Context) :
    (∃ v v', e.eval ctx = .ok v ∧ e.eval ctx' = .ok v' ∧ v.ty = v'.ty) ∨
      ∃ err, e.eval ctx = .error err ∧ e.eval ctx' = .error err := by
  have h := eval_sameOutcome ctx ctx' e
  generalize e.eval ctx = r, e.eval ctx' = r' at h ⊢
  cases h with
  | answer hty => exact .inl ⟨_, _, rfl, rfl, hty⟩
  | failure err => exact .inr ⟨err, rfl, rfl⟩

end Expression

end ImplicitScene
