import ImplicitScene.Proofs.ShapeText
import ImplicitScene.Proofs.Variables

/-!
# Program texts tell functions apart

Two programs with the same declarations and the same text have, under each name,
functions with the same lines (`lines_eq_of_text_eq`).

No line of a program has a line feed inside, so the text determines the lines.
The lines of a body are empty or begin with a blank, so a function ends at the
first line that is a closing brace.  The head of a function tells its name, which
stands between the first blank and the first parenthesis.
-/

namespace ImplicitScene

open Text

/-! ## Lines -/

/-- The text is on one line. -/
def Flat (s : String) : Prop := '\n' ∉ s.toList

instance (s : String) : Decidable (Flat s) := inferInstanceAs (Decidable ('\n' ∉ s.toList))

@[simp] theorem flat_append {s t : String} : Flat (s ++ t) ↔ Flat s ∧ Flat t := by
  simp [Flat]

theorem flat_of_word {s : String} (h : ∀ c ∈ s.toList, isWordChar c = true) : Flat s := fun hmem =>
  absurd (h _ hmem) (by decide)

theorem flat_toString (n : Nat) : Flat (toString n) := fun hmem =>
  absurd (isDigit_of_mem_toString n _ hmem) (by decide)

theorem flat_intercalate : ∀ {ts : List String}, (∀ t ∈ ts, Flat t) → Flat (", ".intercalate ts)
  | [], _ => by decide
  | [t], h => by
      rw [String.intercalate_singleton]
      exact h t (List.mem_singleton_self t)
  | t :: u :: ts, h => by
      rw [List.forall_mem_cons] at h
      rw [String.intercalate_cons_cons, flat_append, flat_append]
      exact ⟨⟨h.1, by decide⟩, flat_intercalate h.2⟩

theorem flat_literals {texts : List String} (s : Spelling texts)
    (h : (s.chars.all fun cs => !cs.contains '\n') = true) : ∀ t ∈ texts, Flat t := by
  intro t ht
  rw [← s.spells, List.mem_map] at ht
  obtain ⟨cs, hcs, rfl⟩ := ht
  have hchars := List.all_eq_true.mp h cs hcs
  simpa [Flat] using hchars

theorem flat_weave : ∀ {ls hs : List String}, (∀ l ∈ ls, Flat l) → (∀ h ∈ hs, Flat h) →
    Flat (weave ls hs)
  | [], _, _, _ => by simp only [weave]; decide
  | l :: ls, [], hl, _ => hl l List.mem_cons_self
  | l :: ls, h :: hs, hl, hh => by
      rw [List.forall_mem_cons] at hl hh
      rw [weave, flat_append, flat_append]
      exact ⟨⟨hl.1, hh.1⟩, flat_weave hl.2 hh.2⟩

/-- Lines as a text, with a line feed after each. -/
def lined (rows : List String) : String := String.join (rows.map (· ++ "\n"))

/-- The lines of a text. -/
def linesOf (text : String) : List String := (splitLines [] text.toList).map String.ofList

theorem toList_lined (rows : List String) :
    (lined rows).toList = rows.flatMap fun row => row.toList ++ ['\n'] := by
  rw [lined, String.toList_join, List.flatMap_map]
  simp only [String.toList_append]
  rfl

theorem lined_append (rows others : List String) :
    lined (rows ++ others) = lined rows ++ lined others := by
  rw [← String.toList_inj, String.toList_append, toList_lined, toList_lined, toList_lined,
    List.flatMap_append]

theorem splitLines_append {cs : List Char} (h : '\n' ∉ cs) (current rest : List Char) :
    splitLines current (cs ++ '\n' :: rest) = (current.reverse ++ cs) :: splitLines [] rest := by
  induction cs generalizing current with
  | nil => simp [splitLines]
  | cons c cs ih =>
      rw [List.mem_cons, not_or] at h
      rw [List.cons_append, splitLines, if_neg fun hc => h.1 hc.symm, ih h.2, List.reverse_cons,
        List.append_assoc, List.singleton_append]

/-- The text of lines determines them. -/
theorem linesOf_lined {rows : List String} (h : ∀ row ∈ rows, Flat row) :
    linesOf (lined rows) = rows := by
  rw [linesOf, toList_lined]
  induction rows with
  | nil => rfl
  | cons row rows ih =>
      rw [List.forall_mem_cons] at h
      rw [List.flatMap_cons, List.append_assoc, List.singleton_append, splitLines_append h.1,
        List.map_cons, ih h.2, List.reverse_nil, List.nil_append, String.ofList_toList]

/-! ## Statements -/

namespace Statement

mutual

/-- The texts in a statement. -/
def texts : Statement → List String
  | line text => [text]
  | blank => []
  | block header body => header :: textsOfAll body
  | guard header statement => header :: statement.texts
termination_by structural s => s

/-- The texts in several statements. -/
def textsOfAll : List Statement → List String
  | [] => []
  | s :: ss => s.texts ++ textsOfAll ss
termination_by structural ss => ss

end

theorem mem_textsOfAll {t : String} {ss : List Statement} :
    t ∈ textsOfAll ss ↔ ∃ s ∈ ss, t ∈ s.texts := by
  induction ss with
  | nil => simp [textsOfAll]
  | cons s ss ih => simp [textsOfAll, ih]

theorem indentation_succ (n : Nat) : indentation (n + 1) = "    " ++ indentation n := by
  rw [← String.toList_inj, String.toList_append, indentation, indentation, String.toList_join,
    String.toList_join, List.replicate_succ, List.flatMap_cons]

theorem flat_indentation : ∀ n : Nat, Flat (indentation n)
  | 0 => by decide
  | n + 1 => by
      rw [indentation_succ, flat_append]
      exact ⟨by decide, flat_indentation n⟩

mutual

/-- The lines of a statement are as flat as its texts. -/
theorem rows_flat : ∀ (s : Statement) (indent : Nat), (∀ t ∈ s.texts, Flat t) →
    ∀ row ∈ s.rows indent, Flat row
  | line text, indent, h => by
      rw [texts, List.forall_mem_singleton] at h
      rw [rows, List.forall_mem_singleton, flat_append]
      exact ⟨flat_indentation indent, h⟩
  | blank, indent, _ => by
      rw [rows, List.forall_mem_singleton]
      decide
  | block header body, indent, h => by
      rw [texts, List.forall_mem_cons] at h
      have hbody := rowsOfAll_flat body (indent + 1) h.2
      have hindent := flat_indentation indent
      have hopen : Flat (opening header) := flat_append.mpr ⟨h.1, by decide⟩
      simp only [rows, List.forall_mem_append, List.forall_mem_cons, flat_append]
      exact ⟨⟨⟨hindent, hopen⟩, hbody⟩, ⟨hindent, by decide⟩, List.forall_mem_nil _⟩
  | guard header statement, indent, h => by
      rw [texts, List.forall_mem_cons] at h
      rw [rows, List.forall_mem_cons, flat_append]
      exact ⟨⟨flat_indentation indent, h.1⟩, rows_flat statement (indent + 1) h.2⟩

theorem rowsOfAll_flat : ∀ (ss : List Statement) (indent : Nat), (∀ t ∈ textsOfAll ss, Flat t) →
    ∀ row ∈ rowsOfAll indent ss, Flat row
  | [], _, _ => by simp [rowsOfAll]
  | s :: ss, indent, h => by
      rw [textsOfAll, List.forall_mem_append] at h
      rw [rowsOfAll, List.forall_mem_append]
      exact ⟨rows_flat s indent h.1, rowsOfAll_flat ss indent h.2⟩

end

theorem indentation_append_ne (n : Nat) (text : String) : indentation (n + 1) ++ text ≠ "\x7d" := by
  intro h
  rw [indentation_succ, String.append_assoc, ← String.toList_inj, String.toList_append] at h
  simp at h

mutual

/-- No line of a body is a closing brace without blanks before it. -/
theorem not_mem_rows : ∀ (s : Statement) (indent : Nat), "\x7d" ∉ s.rows (indent + 1)
  | line text, indent => by
      rw [rows, List.mem_singleton]
      exact (indentation_append_ne indent text).symm
  | blank, indent => by
      rw [rows, List.mem_singleton]
      decide
  | block header body, indent => by
      simp only [rows, List.mem_append, List.mem_cons, List.not_mem_nil, or_false, not_or]
      exact ⟨⟨(indentation_append_ne indent _).symm, not_mem_rowsOfAll body (indent + 1)⟩,
        (indentation_append_ne indent _).symm⟩
  | guard header statement, indent => by
      rw [rows, List.mem_cons, not_or]
      exact ⟨(indentation_append_ne indent _).symm, not_mem_rows statement (indent + 1)⟩

theorem not_mem_rowsOfAll : ∀ (ss : List Statement) (indent : Nat),
    "\x7d" ∉ rowsOfAll (indent + 1) ss
  | [], _ => by simp [rowsOfAll]
  | s :: ss, indent => by
      rw [rowsOfAll, List.mem_append, not_or]
      exact ⟨not_mem_rows s indent, not_mem_rowsOfAll ss indent⟩

end

end Statement

/-! ## Functions -/

/-- A head that is printed on one line, with words for the type of the result and the name. -/
structure Signature.Laid (s : Signature) : Prop where
  /-- The type of the result is a word. -/
  result : ∀ c ∈ s.result.toList, isWordChar c = true
  /-- The name is a word. -/
  name : ∀ c ∈ s.name.toList, isWordChar c = true
  /-- The parameters have no line feed. -/
  parameters : ∀ d ∈ s.parameters, Flat d.text

namespace Signature.Laid

theorem of_name {result name : String} {parameters : List Declaration}
    (hname : ∀ c ∈ name.toList, isWordChar c = true)
    (h : (result.toList.all isWordChar && parameters.all fun d => decide (Flat d.text)) = true) :
    Laid ⟨result, name, parameters⟩ := by
  rw [Bool.and_eq_true] at h
  refine ⟨List.all_eq_true.mp h.1, hname, fun d hd => ?_⟩
  simpa using List.all_eq_true.mp h.2 d hd

theorem flat {s : Signature} (h : s.Laid) : Flat s.text := by
  simp only [text, flat_append]
  exact ⟨⟨⟨⟨⟨flat_of_word h.result, by decide⟩, flat_of_word h.name⟩, by decide⟩,
    flat_intercalate (List.forall_mem_map.mpr h.parameters)⟩, by decide⟩

/-- A head tells the name. -/
theorem name_eq {s s' : Signature} (hs : s.Laid) (hs' : s'.Laid) (h : s.text = s'.text) :
    s.name = s'.name := by
  have hblank : isWordChar ' ' = false := by decide
  have hparenthesis : isWordChar '(' = false := by decide
  simp only [text, String.append_assoc, ← String.toList_inj, String.toList_append] at h
  obtain ⟨-, h⟩ := append_inj_of_forall (p := isWordChar) hs.result hs'.result (by simp [hblank])
    (by simp [hblank]) h
  obtain ⟨hname, -⟩ := append_inj_of_forall (p := isWordChar) hs.name hs'.name
    (by simp [hparenthesis]) (by simp [hparenthesis]) (List.append_cancel_left h)
  exact String.toList_inj.mp hname

end Signature.Laid

/-- A function that is printed on the lines it is made of. -/
structure FunctionDef.Laid (f : FunctionDef) : Prop where
  /-- The head is on one line. -/
  head : f.signature.Laid
  /-- The lines of the body have no line feed. -/
  lines : ∀ row ∈ f.lines, Flat row

namespace FunctionDef.Laid

theorem of_statements {s : Signature} {body : List Statement} (hs : s.Laid)
    (h : ∀ st ∈ body, ∀ t ∈ st.texts, Flat t) : FunctionDef.Laid ⟨s, body⟩ where
  head := hs
  lines := by
    refine Statement.rowsOfAll_flat body 1 fun t ht => ?_
    obtain ⟨st, hst, ht⟩ := Statement.mem_textsOfAll.mp ht
    exact h st hst t ht

theorem of_lines {s : Signature} {texts : List String} (hs : s.Laid) (h : ∀ t ∈ texts, Flat t) :
    FunctionDef.Laid ⟨s, texts.map .line⟩ := by
  refine of_statements hs ?_
  rw [List.forall_mem_map]
  intro text htext t ht
  rw [Statement.texts, List.mem_singleton] at ht
  exact ht ▸ h text htext

theorem rows {f : FunctionDef} (h : f.Laid) : ∀ row ∈ "" :: f.rows, Flat row := by
  simp only [FunctionDef.rows, opening, List.forall_mem_cons, List.forall_mem_append, flat_append]
  exact ⟨by decide, ⟨⟨h.head.flat, by decide⟩, h.lines⟩, by decide, List.forall_mem_nil _⟩

end FunctionDef.Laid

/-- The lines of functions in sequence, an empty line before each, tell their heads and the lines of
their bodies. -/
theorem functionRows_inj : ∀ {fs gs : List FunctionDef},
    (fs.flatMap fun f => "" :: f.rows) = (gs.flatMap fun g => "" :: g.rows) →
      fs.map (fun f => (f.signature.text, f.lines)) = gs.map fun g => (g.signature.text, g.lines)
  | [], [], _ => rfl
  | [], g :: gs, h => by simp at h
  | f :: fs, [], h => by simp at h
  | f :: fs, g :: gs, h => by
      simp only [List.flatMap_cons, FunctionDef.rows, List.cons_append, List.append_assoc,
        List.cons.injEq, true_and, List.nil_append, opening, String.append_left_inj] at h
      have hbrace : ∀ f : FunctionDef, ∀ row ∈ f.lines, (row != "\x7d") = true := by
        intro f row hrow
        simpa using fun heq : row = "\x7d" => Statement.not_mem_rowsOfAll f.body 0 (heq ▸ hrow)
      -- the body of each function ends at the first line that is a closing brace
      obtain ⟨hlines, hrest⟩ := append_inj_of_forall (p := (· != "\x7d")) (hbrace f) (hbrace g)
        (by simp) (by simp) h.2
      have htail := functionRows_inj (List.cons.inj hrest).2
      rw [List.map_cons, List.map_cons, h.1, htail]
      exact congrArg (fun lines => (g.signature.text, lines) :: _) hlines

/-! ## Programs -/

namespace Program

theorem rows_cons (item : Item) (items : List Item) :
    rows ⟨item :: items⟩ = item.rows ++ rowsAfter item items := rfl

/-- Items that follow others come after the last of them. -/
theorem rowsAfter_append (item : Item) (items others : List Item) :
    rowsAfter item (items ++ others) =
      rowsAfter item items ++
        rowsAfter ((item :: items).getLast (List.cons_ne_nil _ _)) others := by
  induction items generalizing item with
  | nil => rfl
  | cons next items ih =>
      simp only [List.cons_append, rowsAfter, ih, List.append_assoc, List.getLast_cons_cons]

/-- An empty line comes before every function. -/
theorem rowsAfter_functions (item : Item) (fs : List FunctionDef) :
    rowsAfter item (fs.map .function) = fs.flatMap fun f => "" :: f.rows := by
  have hjoins : ∀ (item : Item) (f : FunctionDef), item.joins (.function f) = false := by
    intro item f
    cases item <;> rfl
  induction fs generalizing item with
  | nil => rfl
  | cons f fs ih =>
      rw [List.map_cons, rowsAfter, hjoins, ih, List.flatMap_cons]
      rfl

/-- The text of a program is that of its declarations and that of its functions. -/
theorem text_functions (item : Item) (items : List Item) (fs : List FunctionDef) :
    text ⟨item :: (items ++ fs.map .function)⟩ =
      text ⟨item :: items⟩ ++ lined (fs.flatMap fun f => "" :: f.rows) := by
  have hrows : rows ⟨item :: (items ++ fs.map .function)⟩ =
      rows ⟨item :: items⟩ ++ fs.flatMap fun f => "" :: f.rows := by
    rw [rows_cons, rows_cons, rowsAfter_append, rowsAfter_functions, List.append_assoc]
  exact (congrArg lined hrows).trans (lined_append _ _)

end Program

/-- Programs with the same declarations and the same text have, under each name, functions with the
same lines. -/
theorem lines_eq_of_text_eq {item : Item} {items : List Item} {fs gs : List FunctionDef}
    (hfs : ∀ f ∈ fs, f.Laid) (hgs : ∀ g ∈ gs, g.Laid) (hnodup : (gs.map FunctionDef.name).Nodup)
    (h : Program.text ⟨item :: (items ++ fs.map .function)⟩ =
      Program.text ⟨item :: (items ++ gs.map .function)⟩)
    {f g : FunctionDef} (hf : f ∈ fs) (hg : g ∈ gs) (hname : f.name = g.name) :
    f.lines = g.lines := by
  have hflat : ∀ {fs : List FunctionDef}, (∀ f ∈ fs, f.Laid) →
      ∀ row ∈ fs.flatMap fun f => "" :: f.rows, Flat row := by
    intro fs hfs row hrow
    obtain ⟨f, hf, hrow⟩ := List.mem_flatMap.mp hrow
    exact (hfs f hf).rows row hrow
  have hrows : (fs.flatMap fun f => "" :: f.rows) = gs.flatMap fun g => "" :: g.rows := by
    rw [Program.text_functions, Program.text_functions, String.append_right_inj] at h
    rw [← linesOf_lined (hflat hfs), h, linesOf_lined (hflat hgs)]
  have hmem : (f.signature.text, f.lines) ∈ gs.map fun g => (g.signature.text, g.lines) := by
    rw [← functionRows_inj hrows]
    exact List.mem_map_of_mem hf
  -- the function with this head has the name of `g`, and no two functions share a name
  obtain ⟨g', hg', hsame⟩ := List.mem_map.mp hmem
  rw [Prod.mk.injEq] at hsame
  have hname' : g'.name = g.name :=
    ((hgs g' hg').head.name_eq (hfs f hf).head hsame.1).trans hname
  rw [← hsame.2, List.inj_on_of_nodup_map hnodup hg' hg hname']

/-! ## The functions of a scene -/

theorem Helper.function_laid (h : Helper) : h.function.Laid := by
  have hlines : ∀ t ∈ h.lines, Flat t := by
    cases h <;>
      exact flat_literals (by repeat first | exact .nil | refine .cons _ ?_) (by decide +kernel)
  refine .of_lines ?_ hlines
  cases h <;> exact .of_name (List.all_eq_true.mp (by decide)) (by decide)

theorem splitLines_flat : ∀ (current cs : List Char), '\n' ∉ current →
    ∀ l ∈ splitLines current cs, '\n' ∉ l
  | [], [], _ => by simp [splitLines]
  | c :: current, [], h => by
      rw [splitLines, List.forall_mem_singleton, List.mem_reverse]
      · exact h
      · simp
  | current, c :: cs, h => by
      rw [splitLines]
      split
      next =>
        rw [List.forall_mem_cons, List.mem_reverse]
        exact ⟨h, splitLines_flat [] cs (by simp)⟩
      next hc =>
        refine splitLines_flat (c :: current) cs ?_
        rw [List.mem_cons, not_or]
        exact ⟨fun heq => hc heq.symm, h⟩

theorem Statement.lines_flat (text : String) : ∀ st ∈ lines text, ∀ t ∈ st.texts, Flat t := by
  have htrim : ∀ cs : List Char, '\n' ∉ cs → '\n' ∉ trimEnd cs := by
    intro cs hcs hmem
    rw [trimEnd, List.mem_reverse] at hmem
    exact hcs (List.mem_reverse.mp ((List.dropWhile_suffix _).mem hmem))
  rw [lines, List.forall_mem_map]
  intro cs hcs
  have hcs : '\n' ∉ cs := by
    rw [trimmedLines, List.mem_map] at hcs
    obtain ⟨l, hl, rfl⟩ := hcs
    exact htrim l (splitLines_flat [] _ (by simp) l hl)
  cases cs with
  | nil => simp [ofLine, texts]
  | cons c cs => simpa [ofLine, texts, Flat] using hcs

theorem mainFunction_laid (c : Camera) : (mainFunction c).Laid :=
  .of_statements (.of_name (List.all_eq_true.mp (by decide)) (by decide)) (Statement.lines_flat _)

theorem Kind.frames_flat :
    (forms.all fun f => f.frameSpelling.chars.all fun line =>
      line.all fun cs => !cs.contains '\n') = true := by
  decide +kernel

theorem flat_weaves {frame hs : List (List String)} (hf : ∀ line ∈ frame, ∀ l ∈ line, Flat l)
    (hh : List.Forall₂ FitsBetween frame hs) : ∀ line ∈ List.zipWith weave frame hs, Flat line := by
  induction hh with
  | nil => simp
  | cons hfit _ ih =>
      rw [List.forall_mem_cons] at hf
      rw [List.zipWith_cons_cons, List.forall_mem_cons]
      exact ⟨flat_weave hf.1 fun t ht => (hfit.2 t ht).not_mem_newline, ih hf.2⟩

theorem Kind.body_flat (model : Nat) {kind : ShapeKind} (h : ∀ s ∈ kind.parameters, Slot.Fit s) :
    ∀ line ∈ kind.body model, Flat line := by
  rw [body_eq_signed]
  refine flat_weaves (fun line hline => ?_) (signedHoles_fit model h)
  obtain ⟨chars, hchars, rfl⟩ := kind.form.coarse.frameSpelling.exists_of_mem hline
  exact flat_literals ⟨chars, rfl⟩
    (List.all_eq_true.mp (List.all_eq_true.mp frames_flat _ (mem_forms _)) _ hchars)

theorem shapeDefinition_laid (model : Nat) {node : Node}
    (h : ∀ s ∈ node.kind.parameters, Slot.Fit s) : (shapeDefinition model node).Laid :=
  .of_lines (.of_name (shapeFunction_word model node.id).1 (by decide)) (Kind.body_flat model h)

theorem shapeCall_flat (model : Nat) (id : ShapeId) {point cell : String} (hp : Flat point)
    (hc : Flat cell) : Flat (shapeCall model id point cell) := by
  simp only [shapeCall_eq, flat_append]
  exact ⟨flat_of_word (shapeFunction_word model id).1, ⟨by decide, hp, by decide, hc⟩, by decide⟩

theorem distanceDefinition_laid (m : Model) : (distanceDefinition m).Laid := by
  refine .of_statements (.of_name (numbered_word (by decide) m.id).1 (by decide)) ?_
  simp only [List.forall_mem_singleton, Statement.texts, flat_append]
  exact ⟨⟨by decide, shapeCall_flat m.id m.shape (by decide) (by decide)⟩, by decide⟩

theorem flat_numbered {before after : String} (hbefore : Flat before) (n : Nat)
    (hafter : Flat after) : Flat (before ++ toString n ++ after) := by
  simp only [flat_append]
  exact ⟨⟨hbefore, flat_toString n⟩, hafter⟩

theorem normalDefinition_laid (m : Model) : (normalDefinition m).Laid := by
  have hslope : ∀ {step : String}, Flat step → Flat (slopeText m.id step) := by
    intro step hstep
    have htext : slopeText m.id step = "distance" ++ toString m.id ++ "(p + e." ++ step ++
      (") - " ++ "distance") ++ toString m.id ++ "(p - e." ++ step ++ ")" := rfl
    have hnumber := flat_toString m.id
    simp only [htext, flat_append, hstep, hnumber, and_true]
    decide
  refine .of_statements (.of_name (numbered_word (by decide) m.id).1 (by decide)) ?_
  simp only [List.forall_mem_cons, List.not_mem_nil, IsEmpty.forall_iff, implies_true, and_true,
    Statement.texts, flat_append]
  exact ⟨by decide, by decide, ⟨⟨by decide, hslope (by decide)⟩, by decide⟩,
    ⟨⟨by decide, hslope (by decide)⟩, by decide⟩, ⟨⟨by decide, hslope (by decide)⟩, by decide⟩⟩

theorem materialDefinition_laid {name : String} (hname : ∀ c ∈ name.toList, isWordChar c = true)
    {m : Material} (h : ∀ f ∈ m.fields, Flat (materialFieldText f.1 f.2)) :
    (materialDefinition name m).Laid := by
  have hnames : ∀ f ∈ m.fields, Flat f.1 := by
    simp only [Material.fields, List.forall_mem_cons]
    decide
  refine .of_statements (.of_name hname (by decide)) ?_
  simp only [List.forall_mem_append, List.forall_mem_map, List.forall_mem_singleton,
    Statement.texts, flat_append]
  refine ⟨⟨⟨?_, by decide⟩, fun f hf => ?_⟩, by decide⟩
  · split
    · simp only [List.forall_mem_singleton, Statement.texts]
      decide
    · exact List.forall_mem_nil _
  · exact ⟨⟨⟨⟨by decide, hnames f hf⟩, by decide⟩, h f hf⟩, by decide⟩

theorem closestDefinition_laid (models : List Model) : (closestDefinition models).Laid := by
  refine .of_statements (.of_name (List.all_eq_true.mp (by decide)) (by decide)) ?_
  simp only [List.forall_mem_append, List.forall_mem_cons, List.not_mem_nil, IsEmpty.forall_iff,
    implies_true, and_true, Statement.texts, List.mem_flatMap, forall_exists_index, and_imp]
  refine ⟨⟨⟨by decide, by decide⟩, fun s m _ hs => ?_⟩, by decide⟩
  revert s
  simp only [closestCase, List.forall_mem_cons, List.not_mem_nil, IsEmpty.forall_iff, implies_true,
    and_true, true_and, Statement.texts, Statement.textsOfAll, List.append_nil]
  exact ⟨flat_numbered (by decide) m.id (by decide), by decide,
    flat_numbered (by decide) m.id (by decide)⟩

/-- A function that chooses among the models. -/
theorem choice_laid {s : Signature} (hs : s.Laid) (models : List Model) {statement : Model → String}
    (hstatement : ∀ m, Flat (statement m)) {last : String} (hlast : Flat last) :
    FunctionDef.Laid
      ⟨s, models.map (fun m => objectCase m (statement m)) ++ [Statement.line last]⟩ := by
  refine .of_statements hs ?_
  simp only [List.forall_mem_append, List.forall_mem_map, List.forall_mem_singleton, objectCase,
    Statement.texts, List.forall_mem_cons]
  exact ⟨fun m _ => ⟨flat_numbered (by decide) m.id (by decide), hstatement m⟩, hlast⟩

theorem normalChoice_laid (models : List Model) : (normalChoice models).Laid :=
  choice_laid (.of_name (List.all_eq_true.mp (by decide)) (by decide)) models
    (fun m => flat_numbered (by decide) m.id (by decide)) (by decide)

theorem materialChoice_laid (models : List Model) : (materialChoice models).Laid :=
  choice_laid (.of_name (List.all_eq_true.mp (by decide)) (by decide)) models
    (fun m => flat_numbered (by decide) m.id (by decide)) (by decide +kernel)

end ImplicitScene
