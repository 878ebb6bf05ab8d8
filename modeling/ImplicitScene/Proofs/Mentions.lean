import Mathlib.Logic.Basic
import ImplicitScene.Proofs.Frames

/-!
# Variables in texts

A word is *declared* where it stands right behind a type, and *mentioned* where
it stands elsewhere.  `Mentions ok text` says that a text declares no variable
and mentions only variables that `ok` holds of.

Texts are woven from pieces again, and a seam must not put a type before a
variable.  A literal *leads* if it does not end with a type or inside a word.  A
literal *follows* if it also begins with a mark.

The text of an expression without snippets mentions what the expression reads.
-/

namespace ImplicitScene

open Text

/-! ## Places of words -/

namespace Text

/-- The words of a text in order, each with whether it stands right behind a type.  A word that does
is declared there. -/
def occurrences (types : List (List Char)) :
    (behindType : Bool) → List Token → List (Bool × List Char)
  | _, [] => []
  | behindType, .word w :: ts => (behindType, w) :: occurrences types (types.contains w) ts
  | _, .mark _ :: ts => occurrences types false ts

/-- Whether the next word would stand right behind a type. -/
def endsInType (types : List (List Char)) : (behindType : Bool) → List Token → Bool
  | behindType, [] => behindType
  | _, .word w :: ts => endsInType types (types.contains w) ts
  | _, .mark _ :: ts => endsInType types false ts

variable {types : List (List Char)}

theorem occurrences_append :
    ∀ (s t : List Token) (b : Bool), occurrences types b (s ++ t) =
      occurrences types b s ++ occurrences types (endsInType types b s) t
  | [], _, _ => rfl
  | .word w :: s, t, _ => by simp [occurrences, endsInType, occurrences_append s t]
  | .mark _ :: s, t, _ => by simp [occurrences, endsInType, occurrences_append s t]

theorem mem_of_mem_occurrences {o : Bool × List Char} :
    ∀ {ts : List Token} {b : Bool}, o ∈ occurrences types b ts → .word o.2 ∈ ts
  | .word w :: ts, b, h => by
      rcases List.mem_cons.mp h with rfl | h
      · exact List.mem_cons_self
      · exact List.mem_cons_of_mem _ (mem_of_mem_occurrences h)
  | .mark _ :: ts, b, h => by
      rw [occurrences] at h
      exact List.mem_cons_of_mem _ (mem_of_mem_occurrences h)

/-- What stands before a text can only make its first word declared. -/
theorem occurrences_behind (b : Bool) {o : Bool × List Char} :
    ∀ {ts : List Token}, o ∈ occurrences types false ts →
      ∃ d, (d, o.2) ∈ occurrences types b ts ∧ (o.1 = true → d = true)
  | .word w :: ts, h => by
      rcases List.mem_cons.mp h with rfl | h
      · exact ⟨b, List.mem_cons_self, by simp⟩
      · exact ⟨o.1, List.mem_cons_of_mem _ h, id⟩
  | .mark _ :: ts, h => ⟨o.1, h, id⟩

/-- The letters of a word come from the text. -/
theorem mem_of_mem_word {w : List Char} :
    ∀ {cs word : List Char}, .word w ∈ lexFrom word cs → ∀ c ∈ w, c ∈ word ∨ c ∈ cs := by
  have hpending : ∀ {word : List Char}, .word w ∈ pending word → ∀ c ∈ w, c ∈ word := by
    intro word h c hc
    cases word with
    | nil => cases h
    | cons d word =>
        cases List.mem_singleton.mp h
        exact List.mem_reverse.mp hc
  intro cs
  induction cs with
  | nil => exact fun h c hc => Or.inl (hpending h c hc)
  | cons d cs ih =>
      intro word h c hc
      rw [lexFrom] at h
      split at h
      next =>
        rcases ih h c hc with hword | hcs
        · rcases List.mem_cons.mp hword with rfl | hword
          · exact Or.inr List.mem_cons_self
          · exact Or.inl hword
        · exact Or.inr (List.mem_cons_of_mem _ hcs)
      next =>
        rw [List.mem_append, List.mem_append] at h
        rcases h with (h | h) | h
        · exact Or.inl (hpending h c hc)
        · split at h <;> simp at h
        · rcases ih h c hc with hnil | hcs
          · cases hnil
          · exact Or.inr (List.mem_cons_of_mem _ hcs)

end Text

/-! ## Texts that use some variables only -/

/-- The types of a scene's program. -/
def sceneTypes : List String := typeNames ++ ["Closest", "Material"]

/-- The letters of the types of a scene's program. -/
def typeSpelling : Spelling sceneTypes := by
  repeat first | exact .nil | refine .cons _ ?_

/-- The letters of a variable. -/
def Variable.letters : Variable → List Char
  | position => ['p']
  | normal => ['n']
  | direction => ['d']
  | cell => ['c', 'e', 'l', 'l']
  | time => ['t', 'i', 'm', 'e']
  | uv => ['u', 'v']
  | mouse => ['m', 'o', 'u', 's', 'e']

theorem Variable.glsl_toList (v : Variable) : v.glsl.toList = v.letters := by
  cases v <;> rfl

theorem Variable.letters_inj {v w : Variable} (h : v.letters = w.letters) : v = w := by
  cases v <;> cases w <;> first | rfl | cases h

theorem Variable.mem_all (v : Variable) : v ∈ all := by
  cases v <;> decide

/-- The tokens declare no variable, and mention only some. -/
def Text.Uses (ok : Variable → Bool) (ts : List Token) : Prop :=
  ∀ o ∈ occurrences typeSpelling.chars false ts, ∀ v : Variable, o.2 = v.letters →
    o.1 = false ∧ ok v = true

/-- Whether the tokens declare no variable and mention only some. -/
def Text.usesOnly (ok : Variable → Bool) (ts : List Token) : Bool :=
  (occurrences typeSpelling.chars false ts).all fun o =>
    Variable.all.all fun v => o.2 != v.letters || (!o.1 && ok v)

namespace Text

variable {ok : Variable → Bool} {s t : List Token}

theorem usesOnly_iff : usesOnly ok s = true ↔ Uses ok s := by
  simp only [usesOnly, Uses, List.all_eq_true, Bool.or_eq_true, bne_iff_ne, ne_eq,
    Bool.and_eq_true, Bool.not_eq_true', ← imp_iff_not_or]
  exact forall₂_congr fun o _ => ⟨fun h v => h v v.mem_all, fun h v _ => h v⟩

namespace Uses

theorem mono {ok' : Variable → Bool} (h : Uses ok s) (hok : ∀ v, ok v = true → ok' v = true) :
    Uses ok' s := fun o ho v hv => ⟨(h o ho v hv).1, hok v (h o ho v hv).2⟩

theorem append (hs : Uses ok s) (hend : endsInType typeSpelling.chars false s = false)
    (ht : Uses ok t) : Uses ok (s ++ t) := by
  intro o ho
  rw [occurrences_append, hend, List.mem_append] at ho
  exact ho.elim (hs o) (ht o)

/-- Nothing before a mark matters to what comes after it. -/
theorem append_mark {c : Char} (hs : Uses ok s) (ht : Uses ok (.mark c :: t)) :
    Uses ok (s ++ .mark c :: t) := by
  intro o ho
  rw [occurrences_append, List.mem_append] at ho
  exact ho.elim (hs o) (ht o)

theorem of_append_left (h : Uses ok (s ++ t)) : Uses ok s := by
  intro o ho
  refine h o ?_
  rw [occurrences_append]
  exact List.mem_append_left _ ho

theorem of_append_right (h : Uses ok (s ++ t)) : Uses ok t := by
  intro o ho v hv
  obtain ⟨d, hd, hdeclared⟩ := occurrences_behind (endsInType typeSpelling.chars false s) ho
  have huse := h (d, o.2) (by rw [occurrences_append]; exact List.mem_append_right _ hd) v hv
  refine ⟨Bool.eq_false_iff.mpr fun hdeclares => ?_, huse.2⟩
  rw [hdeclared hdeclares] at huse
  cases huse.1

/-- The lines of a text use what the text uses. -/
theorem of_mem_rows {rows : List String} (h : Uses ok (rows.flatMap fun row => lex row.toList)) :
    ∀ row ∈ rows, Uses ok (lex row.toList) := by
  induction rows with
  | nil => simp
  | cons row rows ih =>
      rw [List.flatMap_cons] at h
      exact List.forall_mem_cons.mpr ⟨h.of_append_left, ih h.of_append_right⟩

end Uses

/-- A text that declares no variable and mentions only some. -/
def Mentions (ok : Variable → Bool) (text : String) : Prop := Uses ok (lex text.toList)

/-- Whether a literal may stand before any text. -/
def literalLeads (ok : Variable → Bool) (cs : List Char) : Bool :=
  endsApart cs && !endsInType typeSpelling.chars false (lex cs) && usesOnly ok (lex cs)

/-- Whether a literal may stand between any two texts. -/
def literalFollows (ok : Variable → Bool) (cs : List Char) : Bool :=
  startsApart cs && ((lex cs).head?.any fun t => t matches .mark _) && literalLeads ok cs

/-- Whether texts may be woven into the literals. -/
def literalsLead (ok : Variable → Bool) : List (List Char) → Bool
  | [] => true
  | cs :: literals => literalLeads ok cs && literals.all (literalFollows ok)

end Text

theorem exists_weave_eq (l : String) (ls hs : List String) :
    ∃ rest, weave (l :: ls) hs = l ++ rest := by
  cases hs with
  | nil => exact ⟨"", by simp [weave]⟩
  | cons h hs => exact ⟨h ++ weave ls hs, by rw [weave, String.append_assoc]⟩

namespace Text.Mentions

variable {ok : Variable → Bool} {a e : String}

theorem mono {ok' : Variable → Bool} (h : Mentions ok e) (hok : ∀ v, ok v = true → ok' v = true) :
    Mentions ok' e := Uses.mono h hok

theorem literal {cs : List Char} (h : usesOnly ok (lex cs) = true) :
    Mentions ok (String.ofList cs) := by
  rw [Mentions, String.toList_ofList]
  exact usesOnly_iff.mp h

theorem literals {texts : List String} (t : Spelling texts)
    (h : (t.chars.all fun cs => usesOnly ok (lex cs)) = true) :
    ∀ text ∈ texts, Mentions ok text := by
  intro text htext
  rw [← t.spells, List.mem_map] at htext
  obtain ⟨cs, hcs, rfl⟩ := htext
  exact literal (List.all_eq_true.mp h cs hcs)

theorem empty : Mentions ok "" := literal rfl

theorem append_lead {cs : List Char} (h : literalLeads ok cs = true) (he : Mentions ok e) :
    Mentions ok (String.ofList cs ++ e) := by
  simp only [literalLeads, Bool.and_eq_true, Bool.not_eq_true'] at h
  rw [Mentions, String.toList_append, String.toList_ofList, lex_append_of_endsApart h.1.1]
  exact (usesOnly_iff.mp h.2).append h.1.2 he

/-- A text that begins with a literal that follows may stand behind any other. -/
theorem append_follow {cs : List Char} (ha : Mentions ok a) (h : literalFollows ok cs = true)
    (he : Mentions ok (String.ofList cs ++ e)) : Mentions ok (a ++ (String.ofList cs ++ e)) := by
  simp only [literalFollows, literalLeads, Bool.and_eq_true, Option.any_eq_true] at h
  obtain ⟨⟨hstarts, mark, hmark, hismark⟩, ⟨hends, -⟩, -⟩ := h
  have hapart : startsApart (String.ofList cs ++ e).toList = true := by
    rw [String.toList_append, String.toList_ofList]
    cases cs with
    | nil => cases hstarts
    | cons c cs => exact hstarts
  obtain ⟨ts, hts⟩ := List.head?_eq_some_iff.mp hmark
  have hlex : lex (String.ofList cs ++ e).toList = mark :: (ts ++ lex e.toList) := by
    rw [String.toList_append, String.toList_ofList, lex_append_of_endsApart hends, hts]
    rfl
  rw [Mentions, hlex] at he
  rw [Mentions, String.toList_append, lex_append_of_startsApart _ hapart, hlex]
  cases mark with
  | word w => cases hismark
  | mark c => exact Uses.append_mark ha he

/-- Texts woven into literals. -/
theorem woven : ∀ {ls : List (List Char)} {hs : List String}, literalsLead ok ls = true →
    (∀ h ∈ hs, Mentions ok h) → Mentions ok (weave (ls.map String.ofList) hs)
  | [], _, _, _ => empty
  | l :: ls, [], h, _ => by
      simp only [literalsLead, literalLeads, Bool.and_eq_true] at h
      exact literal h.1.2
  | l :: ls, hole :: holes, h, hh => by
      rw [List.forall_mem_cons] at hh
      obtain ⟨hl, hls⟩ := Bool.and_eq_true_iff.mp h
      rw [List.map_cons, weave, String.append_assoc]
      refine append_lead hl ?_
      cases ls with
      | nil => simpa [weave] using hh.1
      | cons l' ls =>
          rw [List.all_cons, Bool.and_eq_true] at hls
          have hlead : literalsLead ok (l' :: ls) = true :=
            Bool.and_eq_true_iff.mpr ⟨(Bool.and_eq_true_iff.mp hls.1).2, hls.2⟩
          obtain ⟨rest, hrest⟩ :=
            exists_weave_eq (String.ofList l') (ls.map String.ofList) holes
          have hwoven := woven hlead hh.2
          rw [List.map_cons, hrest] at hwoven ⊢
          exact hh.1.append_follow hls.1 hwoven

/-- A text whose characters spell no variable. -/
theorem of_class {p : Char → Bool} (hp : ∀ v : Variable, v.letters.all p = false)
    (h : ∀ c ∈ e.toList, p c = true) : Mentions ok e := by
  intro o ho v hv
  have hall : v.letters.all p = true := by
    rw [← hv, List.all_eq_true]
    intro c hc
    rcases mem_of_mem_word (mem_of_mem_occurrences ho) c hc with hnil | hc
    · cases hnil
    · exact h c hc
  rw [hp v] at hall
  cases hall

/-- A word that is no variable. -/
theorem of_word {name : String} (hword : (∀ c ∈ name.toList, isWordChar c = true) ∧ name ≠ "")
    (h : ∀ v : Variable, name.toList ≠ v.letters) : Mentions ok name := by
  rw [Mentions, lex_of_word hword.1 (by simpa using hword.2)]
  intro o ho v hv
  cases List.mem_singleton.mp ho
  exact absurd hv (h v)

theorem indent (h : Mentions ok e) (n : Nat) : Mentions ok (indentation n ++ e) := by
  rw [Mentions, String.toList_append, lex_blank_append (indentation_blank n)]
  exact h

/-- Texts divided by commas. -/
theorem intercalate : ∀ {texts : List String}, (∀ t ∈ texts, Mentions ok t) →
    Mentions ok (", ".intercalate texts)
  | [], _ => empty
  | [t], h => by
      rw [String.intercalate_singleton]
      exact h t (List.mem_singleton_self t)
  | t :: u :: texts, h => by
      rw [List.forall_mem_cons] at h
      have hcomma : literalFollows ok [',', ' '] = true := rfl
      rw [String.intercalate_cons_cons, String.append_assoc]
      exact h.1.append_follow hcomma
        (append_lead (Bool.and_eq_true_iff.mp hcomma).2 (intercalate h.2))

/-- A text between two literals. -/
theorem between {left right : List Char} (h : literalsLead ok [left, right] = true)
    (he : Mentions ok e) : Mentions ok (String.ofList left ++ e ++ String.ofList right) := by
  simpa [weave] using woven h (List.forall_mem_singleton.mpr he)

/-- A name applied to a text. -/
theorem call {name : String} (he : Mentions ok e) (hname : Mentions ok name) :
    Mentions ok (name ++ "(" ++ e ++ ")") := by
  have hwoven : Mentions ok (weave ["", "(", ")"] [name, e]) :=
    @woven ok [[], ['('], [')']] [name, e] rfl (by simp [hname, he])
  simpa [weave, String.append_assoc] using hwoven

end Text.Mentions

/-! ## Expressions -/

section Expressions

variable {ok : Variable → Bool}

/-- Whether a character may stand in the literal of a number. -/
def isFigure (c : Char) : Bool := c.isDigit || c == 'e' || c == '.' || c == '-'

theorem floatLiteral_figures (x : Float32) : ∀ c ∈ (floatLiteral x).toList, isFigure c = true := by
  have hdecimal : ∀ d : Decimal, ∀ c ∈ d.text.toList, isFigure c = true := fun d =>
    d.text_forall (fun c hc => by simp [isFigure, hc]) (by decide)
  unfold floatLiteral
  dsimp only
  split
  next => exact List.all_eq_true.mp (by decide)
  next hnan =>
    split
    next => split <;> exact List.all_eq_true.mp (by decide)
    next hinf =>
      have htext : ∀ c ∈ (decimalText x).toList, isFigure c = true := by
        rw [decimalText, if_neg hnan, if_neg hinf, String.toList_append, List.forall_mem_append]
        constructor
        · split <;> exact List.all_eq_true.mp (by decide)
        · dsimp only
          split
          next => exact List.all_eq_true.mp (by decide)
          next => exact hdecimal _
      split
      next => exact htext
      next =>
        rw [String.toList_append, List.forall_mem_append]
        exact ⟨htext, List.all_eq_true.mp (by decide)⟩

theorem floatLiteral_mentions (x : Float32) : Mentions ok (floatLiteral x) :=
  .of_class (fun v => by cases v <;> decide) (floatLiteral_figures x)

theorem languageSpelling_variables :
    (languageSpelling.chars.all fun w => Variable.all.all fun v => w != v.letters) = true := by
  decide +kernel

/-- No variable is a word of the language. -/
theorem mentions_of_mem_language {n : String} (h : n ∈ language) : Mentions ok n := by
  refine .of_word (isWord_of_mem_language h) fun v => ?_
  rw [← languageSpelling.spells, List.mem_map] at h
  obtain ⟨cs, hcs, rfl⟩ := h
  have hcs := List.all_eq_true.mp (List.all_eq_true.mp languageSpelling_variables cs hcs) v v.mem_all
  rw [String.toList_ofList]
  simpa using hcs

theorem Value.glsl_mentions (v : Value) : Mentions ok v.glsl := by
  unfold Value.glsl
  dsimp only
  split
  next => exact floatLiteral_mentions _
  next =>
    refine .call ?_ (mentions_of_mem_language v.ty.glsl_mem_language)
    split
    next => exact floatLiteral_mentions _
    next =>
      refine .intercalate fun t ht => ?_
      obtain ⟨x, -, rfl⟩ := List.mem_map.mp ht
      exact floatLiteral_mentions x

/-- The letters of a selection spell no variable. -/
theorem selection?_mentions {components : String} {base : Ty} {indices : List Nat}
    (h : selection? components base = some indices) : Mentions ok components := by
  have hletters : ∀ {cs : List Char} {indices : List Nat}, cs.mapM componentIndex? = some indices →
      ∀ c ∈ cs, (componentIndex? c).isSome = true := by
    intro cs
    induction cs with
    | nil => simp
    | cons c cs ih =>
        intro indices h
        rw [List.mapM_cons] at h
        cases hc : componentIndex? c with
        | none => simp [hc] at h
        | some i =>
            cases hcs : cs.mapM componentIndex? with
            | none => simp [hc, hcs] at h
            | some rest => exact List.forall_mem_cons.mpr ⟨by rw [hc]; rfl, ih hcs⟩
  unfold selection? at h
  split at h
  next found hfound =>
    unfold swizzleIndices? at hfound
    split at hfound
    next => cases hfound
    next => exact .of_class (fun v => by cases v <;> decide) (hletters hfound)
  next => cases h

theorem Text.Mentions.operation {left right : String} (hl : Mentions ok left) (op : BinaryOp)
    (hr : Mentions ok right) :
    Mentions ok ("(" ++ left ++ " " ++ op.symbol ++ " " ++ right ++ ")") := by
  obtain ⟨cs, hcs, hfollows⟩ : ∃ cs, " " ++ op.symbol ++ " " = String.ofList cs ∧
      literalFollows ok cs = true := by
    cases op with
    | add => exact ⟨[' ', '+', ' '], rfl, rfl⟩
    | sub => exact ⟨[' ', '-', ' '], rfl, rfl⟩
    | mul => exact ⟨[' ', '*', ' '], rfl, rfl⟩
    | div => exact ⟨[' ', '/', ' '], rfl, rfl⟩
  have hlead : literalsLead ok [['('], cs, [')']] = true := by
    simp only [literalsLead, List.all_cons, hfollows]
    rfl
  have hwoven := Mentions.woven hlead
    (List.forall_mem_cons.mpr ⟨hl, List.forall_mem_singleton.mpr hr⟩)
  simpa [weave, ← hcs, String.append_assoc] using hwoven

theorem Text.Mentions.select {e components : String} (he : Mentions ok e)
    (hc : Mentions ok components) : Mentions ok (e ++ "." ++ components) := by
  have hwoven : Mentions ok (weave ["", "."] [e, components]) :=
    @Mentions.woven ok [[], ['.']] [e, components] rfl (by simp [he, hc])
  simpa [weave, String.append_assoc] using hwoven

namespace Expression

mutual

/-- The text of an expression without snippets mentions what the expression reads. -/
theorem glsl_mentions : ∀ (e : Expression) {t : Ty}, e.type = .ok t → e.isOpaque = false →
    (∀ v, e.reads v = true → ok v = true) → Mentions ok e.glsl
  | .constant v, _, _, _, _ => v.glsl_mentions
  | .var v, _, _, _, hok => by
      have hword : ∀ c ∈ v.glsl.toList, isWordChar c = true := by
        cases v <;> exact List.all_eq_true.mp (by decide)
      have hne : v.glsl.toList ≠ [] := by
        cases v <;> decide
      rw [glsl, Mentions, lex_of_word hword hne]
      intro o ho w hw
      cases List.mem_singleton.mp ho
      cases Variable.letters_inj (v.glsl_toList.symm.trans hw)
      exact ⟨rfl, hok v (by simp [reads])⟩
  | .random seed, _, ht, ho, hok => by
      have hseed := glsl_mentions seed (type_random_inv ht).1 ho hok
      exact hseed.between rfl
  | .negate operand, _, ht, ho, hok => by
      have hoperand := glsl_mentions operand ht ho hok
      exact hoperand.between rfl
  | .binary op left right, _, ht, ho, hok => by
      obtain ⟨a, b, ha, hb, -⟩ := type_binary_inv ht
      obtain ⟨hol, hor⟩ := Bool.or_eq_false_iff.mp ho
      have hl := glsl_mentions left ha hol fun v hv => hok v (by simp [reads, hv])
      have hr := glsl_mentions right hb hor fun v hv => hok v (by simp [reads, hv])
      exact hl.operation op hr
  | .call function args, _, ht, ho, hok => by
      obtain ⟨tys, htys, -⟩ := type_call_inv ht
      have hargs := Mentions.intercalate (glslAll_mentions args htys ho hok)
      exact hargs.call (mentions_of_mem_language function.glsl_mem_language)
  | .swizzle base components, _, ht, ho, hok => by
      obtain ⟨s, indices, hs, hindices, -⟩ := type_swizzle_inv ht
      exact (glsl_mentions base hs ho hok).select (selection?_mentions hindices)
  | .construct ty args, _, ht, ho, hok => by
      obtain ⟨-, tys, htys, -⟩ := type_construct_inv ht
      have hargs := Mentions.intercalate (glslAll_mentions args htys ho hok)
      exact hargs.call (mentions_of_mem_language ty.glsl_mem_language)
  | .raw _ _ _, _, _, ho, _ => by cases ho

theorem glslAll_mentions : ∀ (es : List Expression) {tys : List Ty}, types es = .ok tys →
    anyOpaque es = false → (∀ v, anyReads v es = true → ok v = true) →
      ∀ text ∈ glslAll es, Mentions ok text
  | [], _, _, _, _ => by simp [glslAll]
  | e :: es, _, ht, ho, hok => by
      obtain ⟨t, ts, -, he, hes⟩ := types_cons_inv ht
      obtain ⟨hoe, hoes⟩ := Bool.or_eq_false_iff.mp ho
      have hfirst := glsl_mentions e he hoe fun v hv => hok v (by simp [anyReads, hv])
      have hrest := glslAll_mentions es hes hoes fun v hv => hok v (by simp [anyReads, hv])
      exact List.forall_mem_cons.mpr ⟨hfirst, hrest⟩

end

theorem glslScalar_mentions {e : Expression} (h : Mentions ok e.glsl) :
    Mentions ok e.glslScalar := by
  unfold glslScalar
  split
  next => exact h
  next =>
    have hx : e.glsl ++ ".x" = e.glsl ++ "." ++ "x" := by rw [String.append_assoc]; rfl
    rw [hx]
    exact h.select (.literal rfl)

end Expression

end Expressions

end ImplicitScene
