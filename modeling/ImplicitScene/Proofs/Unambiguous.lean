import ImplicitScene.Proofs.Brackets
import ImplicitScene.Proofs.Mentions
import ImplicitScene.Proofs.SpelledOut

/-!
# Texts tell expressions apart

Expressions of one text have one value.  Once the literal vectors are spelled
out, the text even determines the expression (`Readable.glsl_inj`).

The first and the last characters of a text give its *outline*: a number, a
variable, an operation in parentheses, an application or a selection.  The parts
are found by where they end.  The operands of an operation and the arguments of
an application are closed texts, a name ends at the first parenthesis, and a
selection begins after the last point.
-/

namespace ImplicitScene

open Text

/-! ## Outlines -/

/-- What the text of an expression is, at its outside. -/
inductive Outline where
  | number | variable | operation | application | selection
  deriving DecidableEq

/-- The outline of a text. -/
def outlineOf (cs : List Char) : Outline :=
  if cs.all isFigure then .number
  else if cs.getLast? = some ')' then if cs.head? = some '(' then .operation else .application
  else if '.' ∈ cs then .selection
  else .variable

theorem outlineOf_operation (cs : List Char) : outlineOf ('(' :: (cs ++ [')'])) = .operation := by
  have hfigure : isFigure '(' = false := by decide
  have hlast : ('(' :: (cs ++ [')'])).getLast? = some ')' := by
    rw [← List.cons_append, List.getLast?_concat]
  unfold outlineOf
  rw [if_neg (by simp [hfigure]), if_pos hlast, if_pos (by simp)]

theorem outlineOf_application {name : List Char} (hword : ∀ c ∈ name, isWordChar c = true)
    (hne : name ≠ []) (cs : List Char) :
    outlineOf (name ++ ('(' :: (cs ++ [')']))) = .application := by
  have hfigure : isFigure '(' = false := by decide
  obtain ⟨c, name, rfl⟩ := List.exists_cons_of_ne_nil hne
  have hc : c ≠ '(' := by
    rintro rfl
    exact absurd (hword _ List.mem_cons_self) (by decide)
  have hlast : (c :: name ++ ('(' :: (cs ++ [')']))).getLast? = some ')' := by
    rw [← List.cons_append, ← List.append_assoc, List.getLast?_concat]
  unfold outlineOf
  rw [if_neg (by simp [hfigure]), if_pos hlast, if_neg (by simpa using hc)]

theorem outlineOf_selection {base : List Char} (h : outlineOf base ≠ .number)
    {components : List Char} (hword : ∀ c ∈ components, isWordChar c = true) :
    outlineOf (base ++ '.' :: components) = .selection := by
  have hfigures : base.all isFigure = false := by
    rw [Bool.eq_false_iff]
    intro hall
    exact h (by rw [outlineOf, if_pos hall])
  have hlast : (base ++ '.' :: components).getLast? ≠ some ')' := by
    rw [List.getLast?_append_of_ne_nil _ (by simp)]
    intro hlast
    rcases List.mem_cons.mp (List.mem_of_getLast? hlast) with hpoint | hmem
    · cases hpoint
    · exact absurd (hword _ hmem) (by decide)
  unfold outlineOf
  rw [if_neg (by simp [hfigures]), if_neg hlast, if_pos (by simp)]

theorem BinaryOp.symbol_closed (op : BinaryOp) : Closed op.symbol := by
  cases op <;> exact .of_scan rfl

namespace Expression

/-- The outline of an expression whose literals are numbers. -/
def outline : Expression → Outline
  | constant _ => .number
  | var _ => .variable
  | negate _ | binary _ _ _ => .operation
  | random _ | call _ _ | construct _ _ | raw _ _ _ => .application
  | swizzle _ _ => .selection

/-- The name and the arguments of an application. -/
def application? : Expression → Option (String × List Expression)
  | random seed => some ("random", [seed])
  | call function args => some (function.glsl, args)
  | construct ty args => some (ty.glsl, args)
  | _ => none

/-- The text of an application. -/
theorem glsl_of_application? {e : Expression} {name : String} {args : List Expression}
    (h : e.application? = some (name, args)) :
    e.glsl = name ++ ("(" ++ ", ".intercalate (args.map glsl) ++ ")") := by
  cases e with
  | random seed =>
      cases h
      rw [glsl, List.map_singleton, String.intercalate_singleton, ← String.append_assoc,
        ← String.append_assoc]
      rfl
  | call | construct =>
      cases h
      rw [glsl, glslAll_eq_map]
      simp only [String.append_assoc]
  | constant | var | negate | binary | swizzle | raw => cases h

theorem outline_of_application? {e : Expression} {name : String} {args : List Expression}
    (h : e.application? = some (name, args)) : e.outline = .application := by
  cases e with
  | random | call | construct => rfl
  | constant | var | negate | binary | swizzle | raw => cases h

/-- The application with a name and arguments. -/
def applied? (name : String) (args : List Expression) : Option Expression :=
  match Builtin.ofName? name, Ty.ofName? name, args with
  | some function, _, _ => some (call function args)
  | none, some ty, _ => some (construct ty args)
  | none, none, [seed] => some (random seed)
  | none, none, _ => none

/-- The name and the arguments determine an application. -/
theorem applied?_of_application? {e : Expression} {name : String} {args : List Expression}
    (h : e.application? = some (name, args)) : applied? name args = some e := by
  cases e with
  | random seed =>
      cases h
      have hfunction : Builtin.ofName? "random" = none := by decide
      have htype : Ty.ofName? "random" = none := by decide
      simp only [applied?, hfunction, htype]
  | call function args =>
      cases h
      have hfunction : Builtin.ofName? function.glsl = some function := by
        cases function <;> decide
      simp only [applied?, hfunction]
  | construct ty args =>
      cases h
      have hfunction : Builtin.ofName? ty.glsl = none := by cases ty <;> decide
      have htype : Ty.ofName? ty.glsl = some ty := by cases ty <;> decide
      simp only [applied?, hfunction, htype]
  | constant | var | negate | binary | swizzle | raw => cases h

/-- An expression that its text determines.  Literals are finite numbers, none of which components
are selected from, and every application has arguments. -/
inductive Readable : Expression → Prop where
  | number {x : Float32} (h : x.isFinite = true) : Readable (scalar x)
  | var (v : Variable) : Readable (var v)
  | negate {operand : Expression} (h : Readable operand) : Readable (negate operand)
  | binary (op : BinaryOp) {left right : Expression} (hl : Readable left) (hr : Readable right) :
      Readable (binary op left right)
  | swizzle {base : Expression} {components : String} (h : Readable base)
      (hbase : base.outline ≠ .number) (hword : ∀ c ∈ components.toList, isWordChar c = true) :
      Readable (swizzle base components)
  | application {e : Expression} {name : String} {args : List Expression}
      (happ : e.application? = some (name, args)) (hne : args ≠ [])
      (h : ∀ a ∈ args, Readable a) : Readable e

/-- The name of an application is a word. -/
theorem isWord_of_application? {e : Expression} {name : String} {args : List Expression}
    (h : e.application? = some (name, args)) :
    (∀ c ∈ name.toList, isWordChar c = true) ∧ name ≠ "" := by
  cases e with
  | random seed =>
      cases h
      exact ⟨List.all_eq_true.mp (by decide), by decide⟩
  | call function args =>
      cases h
      exact isWord_of_mem_language function.glsl_mem_language
  | construct ty args =>
      cases h
      exact isWord_of_mem_language ty.glsl_mem_language
  | constant | var | negate | binary | swizzle | raw => cases h

theorem glsl_negate (operand : Expression) :
    (negate operand).glsl = "(" ++ ("-" ++ operand.glsl) ++ ")" := by
  rw [glsl, ← String.append_assoc]
  rfl

theorem glsl_binary (op : BinaryOp) (left right : Expression) :
    (binary op left right).glsl =
      "(" ++ (left.glsl ++ (" " ++ (op.symbol ++ (" " ++ right.glsl)))) ++ ")" := by
  simp only [glsl, String.append_assoc]

namespace Readable

/-- The text of a readable expression is closed. -/
theorem closed {e : Expression} (he : Readable e) : Closed e.glsl := by
  induction he with
  | number h => exact .of_class (by decide) (floatLiteral_figures _)
  | var v =>
      refine .of_class (p := isWordChar) (by decide) ?_
      cases v <;> exact List.all_eq_true.mp (by decide)
  | negate h ih =>
      rw [glsl_negate]
      exact .parenthesize (.append (.of_scan rfl) ih.inner)
  | binary op hl hr ihl ihr =>
      have hblank : Inner " " := .of_scan rfl
      rw [glsl_binary]
      exact .parenthesize
        (ihl.inner.append (hblank.append (op.symbol_closed.inner.append (hblank.append ihr.inner))))
  | swizzle h hbase hword ih =>
      rw [glsl]
      exact (ih.append (.of_scan rfl)).append (.of_class (by decide) hword)
  | application happ hne h ih =>
      rw [glsl_of_application? happ]
      refine .append (.of_class (by decide) (isWord_of_application? happ).1)
        (.parenthesize (.intercalate ?_))
      rw [List.forall_mem_map]
      exact ih

/-- The text of a readable expression shows its outline. -/
theorem outline_eq {e : Expression} (he : Readable e) : outlineOf e.glsl.toList = e.outline := by
  have hparentheses : ∀ s : String, ("(" ++ s ++ ")").toList = '(' :: (s.toList ++ [')']) := by
    simp
  induction he with
  | number h => exact if_pos (List.all_eq_true.mpr (floatLiteral_figures _))
  | var v => cases v <;> rfl
  | negate h ih =>
      rw [glsl_negate, hparentheses]
      exact outlineOf_operation _
  | binary op hl hr ihl ihr =>
      rw [glsl_binary, hparentheses]
      exact outlineOf_operation _
  | swizzle h hbase hword ih =>
      rw [glsl, String.append_assoc, String.toList_append, String.toList_append]
      exact outlineOf_selection (ih ▸ hbase) hword
  | application happ hne h ih =>
      obtain ⟨hword, hname⟩ := isWord_of_application? happ
      rw [glsl_of_application? happ, String.toList_append, hparentheses,
        outline_of_application? happ]
      refine outlineOf_application hword ?_ _
      simpa using hname

/-! ## Inversion by outline -/

variable {e : Expression}

theorem of_number (he : Readable e) (h : e.outline = .number) :
    ∃ x : Float32, e = scalar x ∧ x.isFinite = true := by
  cases he with
  | number hx => exact ⟨_, rfl, hx⟩
  | application happ => rw [outline_of_application? happ] at h; cases h
  | var | negate | binary | swizzle => cases h

theorem of_variable (he : Readable e) (h : e.outline = .variable) : ∃ v, e = .var v := by
  cases he with
  | var v => exact ⟨v, rfl⟩
  | application happ => rw [outline_of_application? happ] at h; cases h
  | number | negate | binary | swizzle => cases h

theorem of_operation (he : Readable e) (h : e.outline = .operation) :
    (∃ operand, e = .negate operand ∧ Readable operand) ∨
      ∃ op left right, e = .binary op left right ∧ Readable left ∧ Readable right := by
  cases he with
  | negate ho => exact Or.inl ⟨_, rfl, ho⟩
  | binary op hl hr => exact Or.inr ⟨op, _, _, rfl, hl, hr⟩
  | application happ => rw [outline_of_application? happ] at h; cases h
  | number | var | swizzle => cases h

theorem of_selection (he : Readable e) (h : e.outline = .selection) :
    ∃ base components, e = .swizzle base components ∧ Readable base ∧
      ∀ c ∈ components.toList, isWordChar c = true := by
  cases he with
  | swizzle hb _ hword => exact ⟨_, _, rfl, hb, hword⟩
  | application happ => rw [outline_of_application? happ] at h; cases h
  | number | var | negate | binary => cases h

theorem of_application (he : Readable e) (h : e.outline = .application) :
    ∃ name args, e.application? = some (name, args) ∧ args ≠ [] ∧ ∀ a ∈ args, Readable a := by
  cases he with
  | application happ hne hargs => exact ⟨_, _, happ, hne, hargs⟩
  | number | var | negate | binary | swizzle => cases h

/-! ## Texts determine expressions -/

/-- A negation has no blank outside of its operand, and a binary operation has. -/
theorem negation_ne_operation {operand left rest : String} (ho : Closed operand)
    (hl : Closed left) :
    "(" ++ ("-" ++ operand) ++ ")" ≠ "(" ++ (left ++ (" " ++ rest)) ++ ")" := by
  intro h
  rw [String.append_left_inj, String.append_right_inj] at h
  have hminus : Closed "-" := .of_scan rfl
  rw [← String.append_empty (s := "-" ++ operand)] at h
  have hblank := ((hminus.append ho).append_inj hl (Or.inl rfl)
    (Or.inr (Halts.append ⟨' ', rfl, rfl⟩ _)) h).2
  simp at hblank

theorem operation_inj {left left' symbol symbol' right right' : String} (hl : Closed left)
    (hl' : Closed left') (hs : Closed symbol) (hs' : Closed symbol')
    (h : "(" ++ (left ++ (" " ++ (symbol ++ (" " ++ right)))) ++ ")" =
      "(" ++ (left' ++ (" " ++ (symbol' ++ (" " ++ right')))) ++ ")") :
    left = left' ∧ symbol = symbol' ∧ right = right' := by
  have hblank : Halts " " := ⟨' ', rfl, rfl⟩
  rw [String.append_left_inj, String.append_right_inj] at h
  obtain ⟨hleft, h⟩ := hl.append_inj hl' (Or.inr (hblank.append _)) (Or.inr (hblank.append _)) h
  rw [String.append_right_inj] at h
  obtain ⟨hsymbol, h⟩ := hs.append_inj hs' (Or.inr (hblank.append _)) (Or.inr (hblank.append _)) h
  exact ⟨hleft, hsymbol, String.append_right_inj _ |>.mp h⟩

/-- A selection begins after the last point. -/
theorem selection_inj {base base' components components' : String}
    (hword : ∀ c ∈ components.toList, isWordChar c = true)
    (hword' : ∀ c ∈ components'.toList, isWordChar c = true)
    (h : base ++ "." ++ components = base' ++ "." ++ components') :
    base = base' ∧ components = components' := by
  have hreverse := congrArg (fun s : String => s.toList.reverse) h
  simp only [String.toList_append, List.reverse_append, String.reduceToList] at hreverse
  have hpoint : isWordChar '.' = false := by decide
  obtain ⟨hcomponents, hbase⟩ := append_inj_of_forall (p := isWordChar)
    (by simpa using hword) (by simpa using hword') (by simp [hpoint]) (by simp [hpoint]) hreverse
  simp only [List.reverse_cons, List.reverse_nil, List.nil_append, List.cons_append,
    List.cons.injEq, true_and, List.reverse_inj, String.toList_inj] at hcomponents hbase
  exact ⟨hbase, hcomponents⟩

theorem args_inj {as bs : List Expression}
    (h : ∀ a ∈ as, ∀ b, Readable b → a.glsl = b.glsl → a = b) (hb : ∀ b ∈ bs, Readable b)
    (heq : as.map glsl = bs.map glsl) : as = bs := by
  induction as generalizing bs with
  | nil =>
      cases bs with
      | nil => rfl
      | cons b bs => cases heq
  | cons a as ih =>
      cases bs with
      | nil => cases heq
      | cons b bs =>
          rw [List.forall_mem_cons] at h hb
          rw [List.map_cons, List.map_cons, List.cons.injEq] at heq
          rw [h.1 b hb.1 heq.1, ih h.2 hb.2 heq.2]

theorem glsl_inj {a : Expression} (ha : Readable a) :
    ∀ b : Expression, Readable b → a.glsl = b.glsl → a = b := by
  -- both texts have one outline, and it says what the second expression is
  have houtline : ∀ {a b : Expression}, Readable a → Readable b → a.glsl = b.glsl →
      b.outline = a.outline := fun ha hb h => by rw [← hb.outline_eq, ← ha.outline_eq, h]
  induction ha with
  | number hx =>
      intro b hb h
      obtain ⟨y, rfl, hy⟩ := hb.of_number (houtline (.number hx) hb h)
      rw [floatLiteral_inj hx hy h]
  | var v =>
      intro b hb h
      obtain ⟨w, rfl⟩ := hb.of_variable (houtline (.var v) hb h)
      have hletters : v.letters = w.letters := by
        rw [← v.glsl_toList, ← w.glsl_toList]
        exact congrArg String.toList h
      rw [Variable.letters_inj hletters]
  | negate ho ih =>
      intro b hb h
      rcases hb.of_operation (houtline (.negate ho) hb h) with
        ⟨operand, rfl, ho'⟩ | ⟨op, left, right, rfl, hl, hr⟩
      · rw [glsl_negate, glsl_negate, String.append_left_inj, String.append_right_inj,
          String.append_right_inj] at h
        rw [ih operand ho' h]
      · rw [glsl_negate, glsl_binary] at h
        exact absurd h (negation_ne_operation ho.closed hl.closed)
  | binary op hl hr ihl ihr =>
      intro b hb h
      rcases hb.of_operation (houtline (.binary op hl hr) hb h) with
        ⟨operand, rfl, ho⟩ | ⟨op', left, right, rfl, hl', hr'⟩
      · rw [glsl_negate, glsl_binary] at h
        exact absurd h.symm (negation_ne_operation ho.closed hl.closed)
      · rw [glsl_binary, glsl_binary] at h
        obtain ⟨hleft, hsymbol, hright⟩ :=
          operation_inj hl.closed hl'.closed op.symbol_closed op'.symbol_closed h
        have hop : op = op' := by
          have hread : ∀ o : BinaryOp, BinaryOp.ofSymbol? o.symbol = some o := fun o => by
            cases o <;> rfl
          exact Option.some.inj (by rw [← hread op, ← hread op', hsymbol])
        rw [hop, ihl left hl' hleft, ihr right hr' hright]
  | swizzle hbase hnumber hword ih =>
      intro b hb h
      obtain ⟨base, components, rfl, hbase', hword'⟩ :=
        hb.of_selection (houtline (.swizzle hbase hnumber hword) hb h)
      obtain ⟨hsame, rfl⟩ := selection_inj hword hword' h
      rw [ih base hbase' hsame]
  | application happ hne hargs ih =>
      intro b hb h
      obtain ⟨name, args, happ', hne', hargs'⟩ := hb.of_application
        ((houtline (.application happ hne hargs) hb h).trans (outline_of_application? happ))
      rw [glsl_of_application? happ, glsl_of_application? happ'] at h
      obtain ⟨rfl, htext⟩ :=
        applied_inj (isWord_of_application? happ).1 (isWord_of_application? happ').1 h
      have htexts := Closed.intercalate_inj (by simpa using hne) (by simpa using hne')
        (List.forall_mem_map.mpr fun a ha => (hargs a ha).closed)
        (List.forall_mem_map.mpr fun a ha => (hargs' a ha).closed) htext
      obtain rfl := args_inj ih hargs' htexts
      exact Option.some.inj
        ((applied?_of_application? happ).symm.trans (applied?_of_application? happ'))

end Readable

/-! ## Values of expressions with one text -/

/-- An expression that has a type, no snippets and ordinary literals. -/
structure Legible (e : Expression) : Prop where
  /-- It has a type. -/
  typed : ∃ t, e.type = .ok t
  /-- It has no snippets. -/
  clear : e.isOpaque = false
  /-- Its literals are ordinary. -/
  plain : ∀ x ∈ e.literals, ordinary x = true

/-- Only numbers are spelled out as numbers. -/
theorem float_of_outline_spelled {e : Expression} {t : Ty} (ht : e.type = .ok t)
    (h : e.spelled.outline = .number) : t = .float := by
  cases e with
  | constant v =>
      cases ht
      rw [spelled, Value.spelled] at h
      split at h
      next hfloat => exact hfloat
      next => cases h
  | var | random | negate | binary | call | swizzle | construct | raw => cases h

end Expression

theorem Value.spelled_readable {v : Value} (h : ∀ x ∈ v.components, ordinary x = true) :
    v.spelled.Readable := by
  have hx := v.x_mem_components
  unfold Value.spelled
  split
  next => exact .number (isFinite_of_ordinary (h _ hx))
  next =>
    refine .application rfl ?_ (List.forall_mem_map.mpr fun x hmem => .number ?_)
    · rw [ne_eq, List.map_eq_nil_iff]
      split
      next => simp
      next => exact List.ne_nil_of_mem hx
    · split at hmem
      next => exact isFinite_of_ordinary (h _ (List.mem_singleton.mp hmem ▸ hx))
      next => exact isFinite_of_ordinary (h _ hmem)

/-- No components are selected from a number. -/
theorem selection?_float (components : String) : selection? components .float = none := by
  unfold selection?
  split <;> rfl

namespace Expression

mutual

theorem spelled_readable : ∀ (e : Expression) {t : Ty}, e.type = .ok t → e.isOpaque = false →
    (∀ x ∈ e.literals, ordinary x = true) → e.spelled.Readable
  | constant v, _, _, _, h => v.spelled_readable h
  | var v, _, _, _, _ => .var v
  | random seed, _, ht, ho, h => by
      have hseed := spelled_readable seed (type_random_inv ht).1 ho h
      exact .application rfl (by simp) (by simpa using hseed)
  | negate operand, _, ht, ho, h => .negate (spelled_readable operand ht ho h)
  | binary op left right, _, ht, ho, h => by
      obtain ⟨a, b, ha, hb, -⟩ := type_binary_inv ht
      obtain ⟨hol, hor⟩ := Bool.or_eq_false_iff.mp ho
      rw [literals, List.forall_mem_append] at h
      exact .binary op (spelled_readable left ha hol h.1) (spelled_readable right hb hor h.2)
  | call function args, _, ht, ho, h => by
      obtain ⟨tys, htys, hresult⟩ := type_call_inv ht
      obtain ⟨hne, hargs⟩ := spelledAll_readable args htys ho h
      refine .application rfl (hne ?_) hargs
      rintro rfl
      cases function <;> cases hresult
  | swizzle base components, _, ht, ho, h => by
      obtain ⟨s, indices, hs, hindices, -⟩ := type_swizzle_inv ht
      refine .swizzle (spelled_readable base hs ho h) (fun hnumber => ?_)
        (isWordChar_of_selection? hindices)
      rw [float_of_outline_spelled hs hnumber, selection?_float] at hindices
      cases hindices
  | construct ty args, _, ht, ho, h => by
      obtain ⟨-, tys, htys, hfits⟩ := type_construct_inv ht
      obtain ⟨hne, hargs⟩ := spelledAll_readable args htys ho h
      refine .application rfl (hne ?_) hargs
      rintro rfl
      rcases hfits with hsum | hnever
      · cases ty <;> cases hsum
      · cases hnever
  | raw _ _ _, _, _, ho, _ => by cases ho

theorem spelledAll_readable : ∀ (es : List Expression) {tys : List Ty}, types es = .ok tys →
    anyOpaque es = false → (∀ x ∈ literalsOfAll es, ordinary x = true) →
      (tys ≠ [] → spelledAll es ≠ []) ∧ ∀ a ∈ spelledAll es, Readable a
  | [], _, ht, _, _ => by
      cases ht
      exact ⟨fun h => absurd rfl h, by simp [spelledAll]⟩
  | e :: es, _, ht, ho, h => by
      obtain ⟨t, ts, -, he, hes⟩ := types_cons_inv ht
      obtain ⟨hoe, hoes⟩ := Bool.or_eq_false_iff.mp ho
      rw [literalsOfAll, List.forall_mem_append] at h
      exact ⟨fun _ => by simp [spelledAll], List.forall_mem_cons.mpr
        ⟨spelled_readable e he hoe h.1, (spelledAll_readable es hes hoes h.2).2⟩⟩

end

/-- Legible expressions with one text are spelled out alike. -/
theorem Legible.spelled_eq {a b : Expression} (ha : Legible a) (hb : Legible b)
    (h : a.glsl = b.glsl) : a.spelled = b.spelled := by
  obtain ⟨t, ht⟩ := ha.typed
  obtain ⟨u, hu⟩ := hb.typed
  have hreadable := spelled_readable a ht ha.clear ha.plain
  refine hreadable.glsl_inj _ (spelled_readable b hu hb.clear hb.plain) ?_
  rw [spelled_glsl, spelled_glsl, h]

/-- Legible expressions with one text have one value, up to lanes that are not live. -/
theorem Legible.eval_eq {a b : Expression} (ha : Legible a) (hb : Legible b) (h : a.glsl = b.glsl)
    (ctx : Context) : (a.eval ctx).map Value.tidy = (b.eval ctx).map Value.tidy := by
  rw [← eval_spelled ctx a ha.plain, ← eval_spelled ctx b hb.plain, ha.spelled_eq hb h]

theorem Legible.evalVector_eq {a b : Expression} (ha : Legible a) (hb : Legible b)
    (hta : a.type = .ok .vec3) (htb : b.type = .ok .vec3) (h : a.glsl = b.glsl) (ctx : Context) :
    a.evalVector ctx = b.evalVector ctx := by
  obtain ⟨v, hv, hvt⟩ := (eval_settles ctx a hta).exists_ok (by simp [ha.clear])
  obtain ⟨w, hw, hwt⟩ := (eval_settles ctx b htb).exists_ok (by simp [hb.clear])
  have htidy := ha.eval_eq hb h ctx
  rw [hv, hw] at htidy
  have hvector : v.toVec3 = w.toVec3 := by
    rw [← Value.toVec3_tidy hvt, ← Value.toVec3_tidy hwt, Except.ok.inj htidy]
  rw [evalVector, evalVector, hv, hw]
  exact congrArg Except.ok hvector

/-! ## Slots for numbers -/

theorem glslScalar_eq (e : Expression) : e.glslScalar = e.asScalar.glsl := by
  have hx : e.glsl ++ ".x" = e.x.glsl := by
    rw [x, glsl, String.append_assoc]
    rfl
  unfold glslScalar asScalar
  cases e.type with
  | error fault => exact hx
  | ok t =>
      cases t with
      | float => rfl
      | vec2 | vec3 | vec4 => exact hx

theorem Legible.asScalar {e : Expression} (he : Legible e) : Legible e.asScalar := by
  have htyped := type_asScalar_iff.mpr ⟨he.typed, rfl⟩
  by_cases hfloat : e.type = .ok .float
  · rw [asScalar_of_float hfloat]
    exact he
  · rw [asScalar_of_ne_float hfloat] at htyped ⊢
    exact ⟨⟨.float, htyped⟩, he.clear, he.plain⟩

theorem Legible.evalScalar_asScalar {e : Expression} (he : Legible e) (ctx : Context) :
    e.asScalar.evalScalar ctx = e.evalScalar ctx := by
  obtain ⟨t, ht⟩ := he.typed
  by_cases hfloat : e.type = .ok .float
  · rw [asScalar_of_float hfloat]
  · have hfirst : selection? "x" t = some [0] := selection?_x fun h => hfloat (h ▸ ht)
    obtain ⟨v, hv, hvt⟩ := (eval_settles ctx e ht).exists_ok (by simp [he.clear])
    rw [asScalar_of_ne_float hfloat, evalScalar, evalScalar, x, eval, hv]
    simp only [bind, Except.bind, Value.select, hvt, hfirst]
    obtain ⟨ty, lanes⟩ := v
    cases ty <;> rfl

theorem Legible.evalScalar_eq {a b : Expression} (ha : Legible a) (hb : Legible b)
    (h : a.glslScalar = b.glslScalar) (ctx : Context) : a.evalScalar ctx = b.evalScalar ctx := by
  have hx : ∀ e : Expression, e.evalScalar ctx = ((e.eval ctx).map Value.tidy).map Value.x := by
    intro e
    rw [evalScalar]
    cases e.eval ctx with
    | error err => rfl
    | ok v => exact congrArg Except.ok v.x_tidy.symm
  rw [glslScalar_eq, glslScalar_eq] at h
  rw [← ha.evalScalar_asScalar, ← hb.evalScalar_asScalar, hx, hx, ha.asScalar.eval_eq hb.asScalar h]

end Expression

end ImplicitScene
