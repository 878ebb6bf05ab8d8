import Mathlib.Data.List.Chain
import ImplicitScene.Proofs.FloatOrder
import ImplicitScene.Proofs.Meaning

/-!
# Signs that meet

Two signs next to each other are read as one token, a decrement.  A sign comes from
a subtraction, from a negation or from a literal.  The sign of a subtraction stands
between blanks, and what follows that of a negation is the text of its operand.  So
signs meet if a literal that begins with one is negated, and only then.

A literal begins with a sign if it is a number with its sign bit set, the negative
zero and the negative infinity included.  NaN is written as zero, and the literal of
a vector begins with the name of its type.  A selection begins with the text of its
base, which is not a number if the expression has a type.
-/

namespace ImplicitScene

open Text

/-! ## Seams -/

/-- No two signs stand next to each other. -/
def SignsApart (s : String) : Prop := s.toList.IsChain fun a b => ¬(a = '-' ∧ b = '-')

theorem not_signsApart_iff {s : String} : ¬SignsApart s ↔ ['-', '-'] <:+: s.toList := by
  rw [SignsApart, List.isChain_iff_forall_rel_of_append_cons_cons]
  constructor
  · intro h
    push Not at h
    obtain ⟨a, b, front, rest, hs, rfl, rfl⟩ := h
    exact ⟨front, rest, by simp [hs]⟩
  · rintro ⟨front, rest, hs⟩ h
    have hsplit : s.toList = front ++ '-' :: '-' :: rest := by simp [← hs]
    exact h hsplit ⟨rfl, rfl⟩

theorem signsApart_append {s t : String}
    (h : s.toList.getLast? ≠ some '-' ∨ t.toList.head? ≠ some '-') :
    SignsApart (s ++ t) ↔ SignsApart s ∧ SignsApart t := by
  have hseam : ∀ a ∈ s.toList.getLast?, ∀ b ∈ t.toList.head?, ¬(a = '-' ∧ b = '-') := by
    rintro a ha b hb ⟨rfl, rfl⟩
    exact h.elim (absurd ha) (absurd hb)
  rw [SignsApart, String.toList_append, List.isChain_append]
  exact ⟨fun h => ⟨h.1, h.2.1⟩, fun h => ⟨h.1, h.2, hseam⟩⟩

theorem SignsApart.of_not_mem {s : String} (h : '-' ∉ s.toList) : SignsApart s := by
  refine not_not.mp fun hmeet => h ?_
  exact (not_signsApart_iff.mp hmeet).subset List.mem_cons_self

/-- A text without signs may stand before another. -/
theorem signsApart_append_left {s t : String} (h : '-' ∉ s.toList) :
    SignsApart (s ++ t) ↔ SignsApart t := by
  rw [signsApart_append (Or.inl fun hlast => h (List.mem_of_getLast? hlast))]
  exact and_iff_right (.of_not_mem h)

/-- A text without signs may stand after another. -/
theorem signsApart_append_right {s t : String} (h : '-' ∉ t.toList) :
    SignsApart (s ++ t) ↔ SignsApart s := by
  rw [signsApart_append (Or.inr fun hhead => h (List.mem_of_head? hhead))]
  exact and_iff_left (.of_not_mem h)

theorem signsApart_parenthesize {s : String} : SignsApart ("(" ++ s ++ ")") ↔ SignsApart s := by
  rw [signsApart_append_right (by decide), signsApart_append_left (by decide)]

/-- The operand of a negation may not begin with a sign. -/
theorem signsApart_negation {s : String} :
    SignsApart ("-" ++ s) ↔ s.toList.head? ≠ some '-' ∧ SignsApart s := by
  have hchars : ("-" ++ s).toList = '-' :: s.toList := by simp
  rw [SignsApart, hchars, List.isChain_cons]
  refine and_congr_left' ⟨fun h hhead => h _ hhead ⟨rfl, rfl⟩, fun h c hc hsigns => h ?_⟩
  exact hsigns.2 ▸ hc

/-- Blanks keep the sign of a subtraction from its operands. -/
theorem signsApart_operation {left right : String} (op : BinaryOp) :
    SignsApart (left ++ (" " ++ (op.symbol ++ (" " ++ right)))) ↔
      SignsApart left ∧ SignsApart right := by
  have hop : SignsApart op.symbol := by cases op <;> simp [SignsApart, BinaryOp.symbol]
  rw [signsApart_append (Or.inr (by simp)), signsApart_append_left (by decide),
    signsApart_append (Or.inr (by simp)), signsApart_append_left (by decide), and_iff_right hop]

theorem signsApart_intercalate : ∀ {texts : List String},
    SignsApart (", ".intercalate texts) ↔ ∀ t ∈ texts, SignsApart t
  | [] => by simp [SignsApart]
  | [t] => by rw [String.intercalate_singleton, List.forall_mem_singleton]
  | t :: u :: texts => by
      rw [String.intercalate_cons_cons, List.forall_mem_cons, ← signsApart_intercalate,
        signsApart_append (Or.inl (by simp)), signsApart_append_right (by decide)]

theorem not_mem_sign_of_isWord {s : String} (h : ∀ c ∈ s.toList, isWordChar c = true) :
    '-' ∉ s.toList := fun hmem => absurd (h _ hmem) (by decide)

theorem signsApart_application {name text : String}
    (hword : ∀ c ∈ name.toList, isWordChar c = true) :
    SignsApart (name ++ ("(" ++ text ++ ")")) ↔ SignsApart text := by
  rw [signsApart_append_left (not_mem_sign_of_isWord hword), signsApart_parenthesize]

theorem head?_application {name : String} (text : String)
    (hword : (∀ c ∈ name.toList, isWordChar c = true) ∧ name ≠ "") :
    (name ++ text).toList.head? ≠ some '-' := by
  have hne : name.toList ≠ [] := fun hempty => hword.2 (String.toList_eq_nil_iff.mp hempty)
  rw [String.toList_append, List.head?_append_of_ne_nil _ hne]
  exact fun hhead => not_mem_sign_of_isWord hword.1 (List.mem_of_head? hhead)

/-! ## Literals -/

/-- Whether a number is written with a sign: its sign bit is set.  NaN is written as zero. -/
def hasSign (x : Float32) : Bool := !x.isNaN && signBit x

theorem isFinite_of_not_isInf {x : Float32} (hnan : x.isNaN = false) (hinf : x.isInf = false) :
    x.isFinite = true := by
  change x.toModel.unpack.isNaN = false at hnan
  change x.toModel.unpack.isInf = false at hinf
  change x.toModel.unpack.isFinite = true
  cases hx : x.toModel.unpack with
  | notANumber =>
      rw [hx] at hnan
      cases hnan
  | infinity s =>
      rw [hx] at hinf
      cases hinf
  | zero | finite => rfl

/-- The only sign of a number is the first character of its literal. -/
theorem floatLiteral_sign (x : Float32) :
    ∃ digits, floatLiteral x = (if hasSign x then "-" else "") ++ digits ∧ '-' ∉ digits.toList := by
  cases hnan : x.isNaN with
  | true =>
      refine ⟨"0.0", ?_, by decide⟩
      rw [floatLiteral, if_pos hnan, hasSign, hnan]
      rfl
  | false =>
      have hsign : hasSign x = signBit x := by rw [hasSign, hnan, Bool.not_false, Bool.true_and]
      rw [hsign]
      cases hinf : x.isInf with
      | true =>
          refine ⟨"1e30", ?_, by decide⟩
          rw [floatLiteral, hnan, if_neg Bool.false_ne_true, if_pos hinf]
          by_cases hpos : 0.0 < x
          · rw [if_pos hpos, (pos_iff_of_isInf hinf).mp hpos]
            rfl
          · rw [if_neg hpos, Bool.eq_true_of_not_eq_false (mt (pos_iff_of_isInf hinf).mpr hpos)]
            rfl
      | false =>
          have hfinite := isFinite_of_not_isInf hnan hinf
          obtain ⟨digits, htext, hdigits, -⟩ := floatLiteral_toList hfinite
          refine ⟨String.ofList digits, String.toList_inj.mp ?_, fun hmem => ?_⟩
          · rw [htext, String.toList_append, String.toList_ofList]
            split <;> rfl
          · rw [String.toList_ofList] at hmem
            exact absurd (hdigits _ hmem) (by decide)

theorem floatLiteral_signsApart (x : Float32) : SignsApart (floatLiteral x) := by
  obtain ⟨digits, htext, hdigits⟩ := floatLiteral_sign x
  rw [htext, signsApart_append_right hdigits]
  split <;> simp [SignsApart]

theorem floatLiteral_head? (x : Float32) :
    (floatLiteral x).toList.head? = some '-' ↔ hasSign x = true := by
  obtain ⟨digits, htext, hdigits⟩ := floatLiteral_sign x
  rw [htext]
  cases hasSign x with
  | true => simp
  | false => simpa using fun hhead => hdigits (List.mem_of_head? hhead)

theorem Value.glsl_signsApart (v : Value) : SignsApart v.glsl := by
  unfold Value.glsl
  dsimp only
  split
  next => exact floatLiteral_signsApart v.x
  next =>
    have hword := (isWord_of_mem_language v.ty.glsl_mem_language).1
    have htext : ∀ s, v.ty.glsl ++ "(" ++ s ++ ")" = v.ty.glsl ++ ("(" ++ s ++ ")") := fun s => by
      simp only [String.append_assoc]
    rw [htext, signsApart_application hword]
    split
    next => exact floatLiteral_signsApart v.x
    next =>
      rw [signsApart_intercalate, List.forall_mem_map]
      exact fun x _ => floatLiteral_signsApart x

theorem Value.glsl_head? (v : Value) :
    v.glsl.toList.head? = some '-' ↔ v.ty = .float ∧ hasSign v.x = true := by
  unfold Value.glsl
  dsimp only
  split
  next hty => rw [floatLiteral_head?, and_iff_right hty]
  next hty =>
    rw [String.append_assoc, String.append_assoc]
    refine iff_of_false ?_ fun h => hty h.1
    exact head?_application _ (isWord_of_mem_language v.ty.glsl_mem_language)

/-! ## Expressions -/

namespace Expression

/-- Whether an expression is a number that is written with a sign. -/
def isSigned : Expression → Bool
  | constant v => v.ty = .float && hasSign v.x
  | _ => false

theorem isSigned_constant {v : Value} :
    (constant v).isSigned = true ↔ v.ty = .float ∧ hasSign v.x = true := by
  rw [isSigned, Bool.and_eq_true, decide_eq_true_iff]

theorem isSigned_iff {e : Expression} :
    e.isSigned = true ↔ ∃ v, e = constant v ∧ v.ty = .float ∧ hasSign v.x = true := by
  constructor
  · intro h
    cases e with
    | constant v => exact ⟨v, rfl, isSigned_constant.mp h⟩
    | var | random | negate | binary | call | swizzle | construct | raw => cases h
  · rintro ⟨v, rfl, hv⟩
    exact isSigned_constant.mpr hv

/-- What begins with a sign has no components to select. -/
theorem not_isSigned_of_selection? {e : Expression} {t : Ty} {components : String}
    {indices : List Nat} (ht : e.type = .ok t) (h : selection? components t = some indices) :
    ¬e.isSigned = true := by
  intro hsigned
  obtain ⟨v, rfl, hty, -⟩ := isSigned_iff.mp hsigned
  cases ht
  rw [hty, selection?_float] at h
  cases h

theorem head?_of_application? {e : Expression} {name : String} {args : List Expression}
    (h : e.application? = some (name, args)) : e.glsl.toList.head? ≠ some '-' := by
  rw [glsl_of_application? h]
  exact head?_application _ (isWord_of_application? h)

theorem signsApart_of_application? {e : Expression} {name : String} {args : List Expression}
    (h : e.application? = some (name, args)) :
    SignsApart e.glsl ↔ ∀ a ∈ args, SignsApart a.glsl := by
  rw [glsl_of_application? h, signsApart_application (isWord_of_application? h).1,
    signsApart_intercalate, List.forall_mem_map]

/-- A typed expression whose text begins with a sign is a number that is written with one. -/
theorem glsl_head? (e : Expression) {t : Ty} (ht : e.type = .ok t) :
    e.glsl.toList.head? = some '-' ↔ e.isSigned = true := by
  cases e with
  | constant v => exact v.glsl_head?.trans isSigned_constant.symm
  | var v => cases v <;> decide
  | negate | binary => exact iff_of_false (by simp [glsl]) Bool.false_ne_true
  | random | call | construct =>
      exact iff_of_false (head?_of_application? rfl) Bool.false_ne_true
  | swizzle base components =>
      obtain ⟨s, indices, hs, hindices, -⟩ := type_swizzle_inv ht
      refine iff_of_false (fun hhead => ?_) Bool.false_ne_true
      rw [glsl, String.append_assoc, String.toList_append, List.head?_append,
        Option.or_eq_some_iff, glsl_head? base hs] at hhead
      rcases hhead with hsigned | ⟨-, hpoint⟩
      · exact not_isSigned_of_selection? hs hindices hsigned
      · simp at hpoint
  | raw template bindings ty =>
      rw [glsl, String.append_assoc, String.append_assoc]
      refine iff_of_false (head?_application _ ?_) Bool.false_ne_true
      exact isWord_of_mem_language ty.glsl_mem_language
termination_by structural e

mutual

/-- The signs of a typed expression without snippets are apart unless a number that is written with
a sign is negated. -/
theorem glsl_signsApart : ∀ (e : Expression) {t : Ty}, e.type = .ok t → e.isOpaque = false →
    (SignsApart e.glsl ↔ ∀ a, negate a ∈ e.parts → a.isSigned = false)
  | constant v, _, _, _ => iff_of_true v.glsl_signsApart (by simp [parts])
  | var v, _, _, _ => iff_of_true (.of_not_mem (by cases v <;> decide)) (by simp [parts])
  | random seed, _, ht, ho => by
      rw [signsApart_of_application? rfl, List.forall_mem_singleton,
        glsl_signsApart seed (type_random_inv ht).1 ho]
      simp [parts]
  | negate operand, _, ht, ho => by
      rw [glsl_negate, signsApart_parenthesize, signsApart_negation, ne_eq,
        glsl_head? operand ht, glsl_signsApart operand ht ho]
      simp [parts, or_imp, forall_and]
  | binary op left right, _, ht, ho => by
      obtain ⟨a, b, hleft, hright, -⟩ := type_binary_inv ht
      obtain ⟨hol, hor⟩ := Bool.or_eq_false_iff.mp ho
      rw [glsl_binary, signsApart_parenthesize, signsApart_operation,
        glsl_signsApart left hleft hol, glsl_signsApart right hright hor]
      simp [parts, or_imp, forall_and]
  | call function args, _, ht, ho => by
      obtain ⟨tys, htys, -⟩ := type_call_inv ht
      rw [signsApart_of_application? rfl, glsl_signsApart_all args htys ho]
      simp [parts]
  | swizzle base components, _, ht, ho => by
      obtain ⟨s, indices, hs, hindices, -⟩ := type_swizzle_inv ht
      have hcomponents := not_mem_sign_of_isWord (isWordChar_of_selection? hindices)
      rw [glsl, signsApart_append_right hcomponents, signsApart_append_right (by decide),
        glsl_signsApart base hs ho]
      simp [parts]
  | construct ty args, _, ht, ho => by
      obtain ⟨-, tys, htys, -⟩ := type_construct_inv ht
      rw [signsApart_of_application? rfl, glsl_signsApart_all args htys ho]
      simp [parts]
  | raw _ _ _, _, _, ho => by cases ho

theorem glsl_signsApart_all : ∀ (es : List Expression) {tys : List Ty}, types es = .ok tys →
    anyOpaque es = false →
      ((∀ e ∈ es, SignsApart e.glsl) ↔ ∀ a, negate a ∈ partsOfAll es → a.isSigned = false)
  | [], _, _, _ => by simp [partsOfAll]
  | e :: es, _, ht, ho => by
      obtain ⟨t, ts, -, he, hes⟩ := types_cons_inv ht
      obtain ⟨hoe, hoes⟩ := Bool.or_eq_false_iff.mp ho
      rw [List.forall_mem_cons, glsl_signsApart e he hoe, glsl_signsApart_all es hes hoes]
      simp [partsOfAll, or_imp, forall_and]

end

/-- In the text of a typed expression without snippets two signs meet exactly where a literal number
is negated that is written with a sign itself: a negative number, the negative zero or the negative
infinity. -/
theorem signs_meet_iff {e : Expression} {t : Ty} (ht : e.type = .ok t) (ho : e.isOpaque = false) :
    ['-', '-'] <:+: e.glsl.toList ↔
      ∃ v, negate (constant v) ∈ e.parts ∧ v.ty = .float ∧ hasSign v.x = true := by
  rw [← not_signsApart_iff, glsl_signsApart e ht ho, not_forall]
  constructor
  · rintro ⟨a, hmeet⟩
    obtain ⟨hpart, hsigned⟩ := Classical.not_imp.mp hmeet
    obtain ⟨v, rfl, hv⟩ := isSigned_iff.mp (Bool.eq_true_of_not_eq_false hsigned)
    exact ⟨v, hpart, hv⟩
  · rintro ⟨v, hpart, hv⟩
    refine ⟨constant v, fun hclear => ?_⟩
    exact absurd (isSigned_constant.mpr hv) (by simp [hclear hpart])

/-- In `-(-vec3(-1) - -1)` no signs meet. -/
theorem signs_meet_iff_difference :
    let e := negate (binary .sub (negate (vector [-1.0])) (scalar (-1.0)))
    e.type = .ok .vec3 ∧ e.isOpaque = false ∧ ¬['-', '-'] <:+: e.glsl.toList := by
  intro e
  have ht : e.type = .ok .vec3 := rfl
  have ho : e.isOpaque = false := rfl
  refine ⟨ht, ho, ?_⟩
  rw [signs_meet_iff ht ho]
  rintro ⟨v, hpart, hty, -⟩
  have hv : constant v = vector [-1.0] := by simpa [e, parts, vector, scalar] using hpart
  cases hv
  cases hty

/-- The negation of a negative number is not kept from the number's own sign. -/
theorem signs_meet_of_negative :
    let e := negate (scalar (-1.0))
    e.type = .ok .float ∧ e.isOpaque = false ∧ e.glsl = "(--1.0)" ∧
      ['-', '-'] <:+: e.glsl.toList := by
  intro e
  have hone : floatLiteral (-1.0) = "-1.0" := by
    have hdecimal : decimalText (-1.0) = "-1" := by decide +kernel
    rw [floatLiteral, if_neg (by decide +kernel), if_neg (by decide +kernel), hdecimal]
    simp
  have htext : e.glsl = "(--1.0)" := by
    have hglsl : e.glsl = "(-" ++ floatLiteral (-1.0) ++ ")" := rfl
    rw [hglsl, hone]
    rfl
  refine ⟨rfl, rfl, htext, ?_⟩
  rw [htext]
  exact ⟨['('], ['1', '.', '0', ')'], rfl⟩

end Expression

end ImplicitScene
