import ImplicitScene.Expression.Glsl
import ImplicitScene.Proofs.Lexing
import ImplicitScene.Proofs.Soundness

/-!
# What the text of an expression applies

The text of a typed expression without snippets applies functions and type
constructors of the shading language, and `random`.  It is made of letters,
digits, underscores and a few marks, so it never looks like a slot and never
breaks a line.

Both facts are proved together, by induction over the expression.  The text of a
call is the name, a parenthesis and the arguments, and the arguments are divided
by commas, which close what stands before them.
-/

namespace ImplicitScene

open Text

/-! ## The shading language -/

/-- Words that govern statements.  A parenthesis after one is not an application. -/
def controlWords : List String := ["if", "else", "for", "while", "do", "return"]

/-- The types of the shading language, each of which is a constructor. -/
def typeNames : List String :=
  ["float", "vec2", "vec3", "vec4", "int", "ivec2", "ivec3", "ivec4", "bool", "bvec2", "bvec3",
    "bvec4", "mat2", "mat3", "mat4"]

/-- The functions of the shading language. -/
def languageFunctions : List String :=
  ["radians", "degrees", "sin", "cos", "tan", "asin", "acos", "atan", "pow", "exp", "log", "exp2",
    "log2", "sqrt", "inversesqrt", "abs", "sign", "floor", "ceil", "fract", "mod", "min", "max",
    "clamp", "mix", "step", "smoothstep", "length", "distance", "dot", "cross", "normalize",
    "faceforward", "reflect", "refract", "matrixCompMult", "lessThan", "lessThanEqual",
    "greaterThan", "greaterThanEqual", "equal", "notEqual", "any", "all", "not", "texture2D",
    "texture2DProj", "texture2DLod", "texture2DProjLod", "textureCube", "textureCubeLod"]

/-- The words that may stand before a parenthesis in every program. -/
def language : List String := controlWords ++ typeNames ++ languageFunctions

/-- The letters of the words of the language. -/
def languageSpelling : Spelling language := by
  repeat first | exact .nil | refine .cons _ ?_

theorem languageSpelling_words :
    (languageSpelling.chars.all fun w => w.all isWordChar && !w.isEmpty) = true := by
  decide +kernel

theorem isWord_of_mem_language {n : String} (h : n ∈ language) :
    (∀ c ∈ n.toList, isWordChar c = true) ∧ n ≠ "" := by
  rw [← languageSpelling.spells, List.mem_map] at h
  obtain ⟨cs, hcs, rfl⟩ := h
  have hword := List.all_eq_true.mp languageSpelling_words cs hcs
  simp only [Bool.and_eq_true, List.all_eq_true, Bool.not_eq_true',
    List.isEmpty_eq_false_iff] at hword
  refine ⟨by simpa using hword.1, fun hempty => hword.2 ?_⟩
  simpa using congrArg String.toList hempty

theorem Ty.glsl_mem_language (t : Ty) : t.glsl ∈ language := by
  cases t <;> exact languageSpelling.mem_of_mem_chars (by decide)

theorem Builtin.glsl_mem_language (f : Builtin) : f.glsl ∈ language := by
  cases f <;> exact languageSpelling.mem_of_mem_chars (by decide)

/-! ## Numbers -/

/-- The marks of expressions. -/
def plainMarks : List Char := [' ', '(', ')', '.', ',', '+', '-', '*', '/']

/-- Whether a character may stand in the text of an expression. -/
def isPlain (c : Char) : Bool := isWordChar c || plainMarks.contains c

/-- Whether a character may stand in a number. -/
def isNumeral (c : Char) : Bool := isWordChar c || c == '.' || c == '-'

theorem isWordChar_of_isDigit {c : Char} (h : c.isDigit = true) : isWordChar c = true := by
  simp [isWordChar, Char.isAlphanum, h]

theorem isPlain_of_isWordChar {c : Char} (h : isWordChar c = true) : isPlain c = true := by
  simp [isPlain, h]

theorem isPlain_of_isNumeral {c : Char} (h : isNumeral c = true) : isPlain c = true := by
  simp only [isNumeral, Bool.or_eq_true, beq_iff_eq] at h
  rcases h with (hword | rfl) | rfl
  · exact isPlain_of_isWordChar hword
  · decide
  · decide

/-- A number applies nothing. -/
theorem not_mem_parenthesis {cs : List Char} (h : ∀ c ∈ cs, isNumeral c = true) : '(' ∉ cs :=
  fun hmem => absurd (h _ hmem) (by decide)

theorem isDigit_of_mem_toString (n : Nat) : ∀ c ∈ (toString n).toList, c.isDigit = true := by
  intro c hc
  rw [Nat.toString_eq_repr, Nat.toList_repr] at hc
  exact Nat.isDigit_of_mem_toDigits (by decide) (by decide) hc

/-- The text of a decimal is made of digits and a point. -/
theorem Decimal.text_forall {p : Char → Prop} (hdigit : ∀ c, c.isDigit = true → p c)
    (hpoint : p '.') (d : Decimal) : ∀ c ∈ d.text.toList, p c := by
  have hdigits : ∀ c ∈ Nat.toDigits 10 d.digits, p c := fun c hc =>
    hdigit c (Nat.isDigit_of_mem_toDigits (by decide) (by decide) hc)
  have hzeros : ∀ n, ∀ c ∈ List.replicate n '0', p c := fun n c hc => by
    rw [List.eq_of_mem_replicate hc]
    exact hdigit '0' (by decide)
  unfold text
  dsimp only
  split
  next =>
    rw [String.toList_ofList, List.forall_mem_append]
    exact ⟨hdigits, hzeros _⟩
  next =>
    -- the padded digits on either side of the point
    have hpadded : ∀ n, ∀ c ∈ List.replicate n '0' ++ Nat.toDigits 10 d.digits, p c := fun n =>
      List.forall_mem_append.mpr ⟨hzeros n, hdigits⟩
    rw [String.toList_ofList, List.forall_mem_append, List.forall_mem_cons]
    exact ⟨fun c hc => hpadded _ c (List.mem_of_mem_take hc), hpoint,
      fun c hc => hpadded _ c (List.mem_of_mem_drop hc)⟩

theorem Decimal.text_numeral (d : Decimal) : ∀ c ∈ d.text.toList, isNumeral c = true :=
  d.text_forall (fun c hc => by simp [isNumeral, isWordChar_of_isDigit hc]) (by decide)

theorem decimalText_numeral (x : Float32) : ∀ c ∈ (decimalText x).toList, isNumeral c = true := by
  unfold decimalText
  dsimp only
  split
  next => exact List.all_eq_true.mp (by decide)
  next =>
    rw [String.toList_append, List.forall_mem_append]
    constructor
    · split <;> exact List.all_eq_true.mp (by decide)
    · split
      next => exact List.all_eq_true.mp (by decide)
      next =>
        split
        next => exact List.all_eq_true.mp (by decide)
        next => exact Decimal.text_numeral _

theorem floatLiteral_numeral (x : Float32) : ∀ c ∈ (floatLiteral x).toList, isNumeral c = true := by
  unfold floatLiteral
  dsimp only
  split
  next => exact List.all_eq_true.mp (by decide)
  next =>
    split
    next => split <;> exact List.all_eq_true.mp (by decide)
    next =>
      split
      next => exact decimalText_numeral x
      next =>
        rw [String.toList_append, List.forall_mem_append]
        exact ⟨decimalText_numeral x, List.all_eq_true.mp (by decide)⟩

/-! ## Texts that may stand in a slot -/

/-- A text of plain characters that applies known words only. -/
structure Embeds (known : String → Prop) (text : String) : Prop where
  /-- It applies known words only. -/
  applies : AppliesOnly known text
  /-- Its characters are plain. -/
  plain : ∀ c ∈ text.toList, isPlain c = true

namespace Embeds

variable {known : String → Prop}

theorem of_numeral {text : String} (h : ∀ c ∈ text.toList, isNumeral c = true) :
    Embeds known text :=
  ⟨.of_no_parenthesis (not_mem_parenthesis h), fun c hc => isPlain_of_isNumeral (h c hc)⟩

/-- A text between two literals.  The first opens and the second closes. -/
theorem between {base : List String} (s : Spelling base) (hbase : ∀ n ∈ base, known n)
    {text : String} (h : Embeds known text) {left right : List Char}
    (hopens : (literalOpens s.chars left && literalJoins s.chars right) = true)
    (hplain : (left ++ right).all isPlain = true) :
    Embeds known (String.ofList left ++ text ++ String.ofList right) := by
  rw [List.all_append, Bool.and_eq_true_iff] at hplain
  constructor
  · exact (Opens.around s hbase h.applies hopens).2.appliesOnly
  · simp only [String.toList_append, String.toList_ofList, List.forall_mem_append]
    exact ⟨⟨List.all_eq_true.mp hplain.1, h.plain⟩, List.all_eq_true.mp hplain.2⟩

/-- Texts divided by commas. -/
theorem intercalate : ∀ {texts : List String}, (∀ t ∈ texts, Embeds known t) →
    Embeds known (", ".intercalate texts)
  | [], _ => of_numeral (by simp)
  | [t], h => by
      rw [String.intercalate_singleton]
      exact h t (List.mem_singleton_self t)
  | t :: u :: texts, h => by
      rw [List.forall_mem_cons] at h
      have hrest := intercalate h.2
      rw [String.intercalate_cons_cons]
      constructor
      · exact (h.1.applies.append_literal .nil (by simp) (by decide)).append_text hrest.applies
      · simp only [String.toList_append, List.forall_mem_append]
        exact ⟨⟨h.1.plain, List.all_eq_true.mp (by decide)⟩, hrest.plain⟩

/-- A known name applied to a text. -/
theorem call {name text : String} (hname : known name)
    (hword : (∀ c ∈ name.toList, isWordChar c = true) ∧ name ≠ "") (h : Embeds known text) :
    Embeds known (name ++ "(" ++ text ++ ")") := by
  constructor
  · exact ((Opens.call hname hword).close h.applies (by decide)).2.appliesOnly
  · simp only [String.toList_append, List.forall_mem_append]
    refine ⟨⟨⟨fun c hc => isPlain_of_isWordChar (hword.1 c hc), ?_⟩, h.plain⟩, ?_⟩
    · exact List.all_eq_true.mp (by decide)
    · exact List.all_eq_true.mp (by decide)

/-- An operation in parentheses. -/
theorem operation {left right : String} (op : BinaryOp) (hl : Embeds known left)
    (hr : Embeds known right) :
    Embeds known ("(" ++ left ++ " " ++ op.symbol ++ " " ++ right ++ ")") := by
  obtain ⟨cs, hcs, hjoins, hplain⟩ : ∃ cs, " " ++ op.symbol ++ " " = String.ofList cs ∧
      literalJoins [] cs = true ∧ cs.all isPlain = true := by
    cases op with
    | add => exact ⟨[' ', '+', ' '], rfl, by decide, by decide⟩
    | sub => exact ⟨[' ', '-', ' '], rfl, by decide, by decide⟩
    | mul => exact ⟨[' ', '*', ' '], rfl, by decide, by decide⟩
    | div => exact ⟨[' ', '/', ' '], rfl, by decide, by decide⟩
  have htext : "(" ++ left ++ " " ++ op.symbol ++ " " ++ right ++ ")" =
      "(" ++ left ++ String.ofList cs ++ right ++ ")" := by
    rw [← hcs]
    simp only [String.append_assoc]
  have hopen : Opens known "(" := Opens.silent (by decide)
  rw [htext]
  constructor
  · exact ((hopen.close hl.applies hjoins).close hr.applies (by decide)).2.appliesOnly
  · simp only [String.toList_append, String.toList_ofList, List.forall_mem_append]
    refine ⟨⟨⟨⟨?_, hl.plain⟩, List.all_eq_true.mp hplain⟩, hr.plain⟩, ?_⟩
    · exact List.all_eq_true.mp (by decide)
    · exact List.all_eq_true.mp (by decide)

/-- A selection of components. -/
theorem select {text components : String} (h : Embeds known text)
    (hcomponents : ∀ c ∈ components.toList, isWordChar c = true) :
    Embeds known (text ++ "." ++ components) := by
  constructor
  · refine (h.applies.append_literal .nil (by simp) (by decide)).append_text ?_
    exact .of_no_parenthesis fun hmem => absurd (hcomponents _ hmem) (by decide)
  · simp only [String.toList_append, List.forall_mem_append]
    refine ⟨⟨h.plain, List.all_eq_true.mp (by decide)⟩, fun c hc => ?_⟩
    exact isPlain_of_isWordChar (hcomponents c hc)

end Embeds

/-! ## Expressions -/

section Expressions

variable {known : String → Prop}

theorem Value.glsl_embeds (hlanguage : ∀ n ∈ language, known n) (v : Value) :
    Embeds known v.glsl := by
  unfold Value.glsl
  dsimp only
  split
  next => exact .of_numeral (floatLiteral_numeral _)
  next =>
    have hty := v.ty.glsl_mem_language
    refine .call (hlanguage _ hty) (isWord_of_mem_language hty) ?_
    split
    next => exact .of_numeral (floatLiteral_numeral _)
    next =>
      refine .intercalate fun t ht => ?_
      obtain ⟨x, -, rfl⟩ := List.mem_map.mp ht
      exact .of_numeral (floatLiteral_numeral x)

theorem isWordChar_of_componentIndex? {c : Char} {i : Nat} (h : componentIndex? c = some i) :
    isWordChar c = true := by
  unfold componentIndex? at h
  split at h
  next hc => rcases hc with rfl | rfl <;> decide
  next =>
    split at h
    next hc => rcases hc with rfl | rfl <;> decide
    next =>
      split at h
      next hc => rcases hc with rfl | rfl <;> decide
      next =>
        split at h
        next hc => rcases hc with rfl | rfl <;> decide
        next => cases h

theorem isWordChar_of_mapM_componentIndex? :
    ∀ {cs : List Char} {indices : List Nat}, cs.mapM componentIndex? = some indices →
      ∀ c ∈ cs, isWordChar c = true
  | [], _, _ => by simp
  | c :: cs, indices, h => by
      rw [List.mapM_cons] at h
      cases hc : componentIndex? c with
      | none => simp [hc] at h
      | some i =>
          cases hcs : cs.mapM componentIndex? with
          | none => simp [hc, hcs] at h
          | some rest =>
              exact List.forall_mem_cons.mpr
                ⟨isWordChar_of_componentIndex? hc, isWordChar_of_mapM_componentIndex? hcs⟩

/-- The letters of a selection belong to words. -/
theorem isWordChar_of_selection? {components : String} {base : Ty} {indices : List Nat}
    (h : selection? components base = some indices) :
    ∀ c ∈ components.toList, isWordChar c = true := by
  unfold selection? at h
  split at h
  next found hfound =>
    unfold swizzleIndices? at hfound
    split at hfound
    next => cases hfound
    next => exact isWordChar_of_mapM_componentIndex? hfound
  next => cases h

namespace Expression

mutual

/-- The text of a typed expression without snippets may stand in a slot.  It applies the language
and `random`. -/
theorem glsl_embeds (hlanguage : ∀ n ∈ language, known n) (hrandom : known "random") :
    ∀ (e : Expression) {t : Ty}, e.type = .ok t → e.isOpaque = false → Embeds known e.glsl
  | .constant v, _, _, _ => v.glsl_embeds hlanguage
  | .var v, _, _, _ => .of_numeral (by cases v <;> exact List.all_eq_true.mp (by decide))
  | .random seed, _, ht, ho => by
      have hseed := glsl_embeds hlanguage hrandom seed (type_random_inv ht).1 ho
      exact hseed.call hrandom ⟨List.all_eq_true.mp (by decide), by decide⟩
  | .negate operand, _, ht, ho => by
      have hoperand := glsl_embeds hlanguage hrandom operand ht ho
      exact hoperand.between .nil (by simp) (by decide) (by decide)
  | .binary op left right, _, ht, ho => by
      obtain ⟨a, b, ha, hb, -⟩ := type_binary_inv ht
      obtain ⟨hol, hor⟩ := Bool.or_eq_false_iff.mp ho
      exact .operation op (glsl_embeds hlanguage hrandom left ha hol)
        (glsl_embeds hlanguage hrandom right hb hor)
  | .call function args, _, ht, ho => by
      obtain ⟨tys, htys, -⟩ := type_call_inv ht
      have hname := function.glsl_mem_language
      have hargs := glslAll_embeds hlanguage hrandom args htys ho
      exact (Embeds.intercalate hargs).call (hlanguage _ hname) (isWord_of_mem_language hname)
  | .swizzle base components, _, ht, ho => by
      obtain ⟨s, indices, hs, hindices, -⟩ := type_swizzle_inv ht
      have hbase := glsl_embeds hlanguage hrandom base hs ho
      exact hbase.select (isWordChar_of_selection? hindices)
  | .construct ty args, _, ht, ho => by
      obtain ⟨-, tys, htys, -⟩ := type_construct_inv ht
      have hname := ty.glsl_mem_language
      have hargs := glslAll_embeds hlanguage hrandom args htys ho
      exact (Embeds.intercalate hargs).call (hlanguage _ hname) (isWord_of_mem_language hname)
  | .raw _ _ _, _, _, ho => by cases ho

theorem glslAll_embeds (hlanguage : ∀ n ∈ language, known n) (hrandom : known "random") :
    ∀ (es : List Expression) {tys : List Ty}, types es = .ok tys → anyOpaque es = false →
      ∀ text ∈ glslAll es, Embeds known text
  | [], _, _, _ => by simp [glslAll]
  | e :: es, _, ht, ho => by
      obtain ⟨t, ts, -, he, hes⟩ := types_cons_inv ht
      obtain ⟨hoe, hoes⟩ := Bool.or_eq_false_iff.mp ho
      exact List.forall_mem_cons.mpr ⟨glsl_embeds hlanguage hrandom e he hoe,
        glslAll_embeds hlanguage hrandom es hes hoes⟩

end

theorem glslScalar_embeds {e : Expression} (h : Embeds known e.glsl) :
    Embeds known e.glslScalar := by
  unfold glslScalar
  split
  next => exact h
  next =>
    have hx : e.glsl ++ ".x" = e.glsl ++ "." ++ "x" := by rw [String.append_assoc]; rfl
    rw [hx]
    exact h.select (List.all_eq_true.mp (by decide))

end Expression

end Expressions

end ImplicitScene
