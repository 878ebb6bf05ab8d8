import ImplicitScene.Proofs.Mentions
import ImplicitScene.Proofs.Scope

/-!
# Variables in scope

Every variable that a function of a program mentions has a value there.  It is a
parameter, or it was declared on an earlier line, or it is set from outside.

Nothing but the function of a material declares a variable, and it declares the
cell before any of its fields reads it.  All other functions mention only what
their heads bind and what is set from outside.  The checks of construction see to
that: what a slot reads has a value in the function the slot is printed in.
-/

namespace ImplicitScene

open Text

/-! ## Bound variables -/

/-- The structure that an item defines. -/
def Item.struct? : Item → Option String
  | struct name _ => some name
  | _ => none

namespace Program

/-- The types of a program. -/
def types (p : Program) : List String := typeNames ++ p.items.filterMap Item.struct?

/-- The words of a line in order, each with whether the line declares it there. -/
def words (p : Program) (row : String) : List (Bool × List Char) :=
  occurrences (p.types.map String.toList) false (lex row.toList)

/-- The words that a line declares, or those it mentions without declaring them there. -/
def named (p : Program) (declared : Bool) (row : String) : List String :=
  (p.words row).filterMap fun o => if o.1 = declared then some (String.ofList o.2) else none

end Program

/-- The lines of the body of a function. -/
def FunctionDef.lines (f : FunctionDef) : List String := Statement.rowsOfAll 1 f.body

/-- Every variable is bound where it is mentioned, and no shape declares one. -/
structure Program.BindsVariables (p : Program) : Prop where
  /-- A variable that a line mentions is a parameter, declared on an earlier line, or set from
  outside. -/
  bound : ∀ f ∈ p.functions, ∀ before row after, f.lines = before ++ row :: after →
    ∀ v : Variable, v.glsl ∈ p.named false row →
      (∃ d ∈ f.signature.parameters, d.name = v.glsl) ∨ (∃ r ∈ before, v.glsl ∈ p.named true r) ∨
        ∃ d, (.uniform d ∈ p.items ∨ .varying d ∈ p.items) ∧ d.name = v.glsl
  /-- The function of a shape declares no variable. -/
  locals : ∀ f ∈ p.functions, ∀ m id, f.name = shapeFunction m id →
    ∀ row ∈ f.lines, ∀ v : Variable, v.glsl ∉ p.named true row

theorem Scene.program_types (scene : Scene) (o : Options) :
    (scene.program o).types = sceneTypes := by
  have hnone : (scene.definitions.map Item.function).filterMap Item.struct? = [] := by
    rw [List.filterMap_eq_nil_iff, List.forall_mem_map]
    exact fun _ _ => rfl
  rw [Program.types, program_items, List.filterMap_append, hnone, List.append_nil]
  rfl

/-! ## Functions that declare no variable -/

/-- The variables that are set from outside. -/
def Variable.isGlobal : Variable → Bool
  | time | uv | mouse => true
  | _ => false

/-- The variables that a function binds before its first line. -/
def Signature.binds (s : Signature) (v : Variable) : Bool :=
  v.isGlobal || s.parameters.any fun d => d.name.toList == v.letters

/-- A function whose body declares no variable and mentions only what it binds. -/
def FunctionDef.Mentions (f : FunctionDef) : Prop :=
  ∀ row ∈ f.lines, Text.Mentions f.signature.binds row

/-- A statement whose lines declare no variable and mention only some. -/
def Statement.Mentions (ok : Variable → Bool) (s : Statement) : Prop :=
  ∀ indent, ∀ row ∈ s.rows indent, Text.Mentions ok row

namespace Statement.Mentions

variable {ok : Variable → Bool}

theorem line {text : String} (h : Text.Mentions ok text) : (Statement.line text).Mentions ok := by
  intro indent row hrow
  rw [List.mem_singleton.mp hrow]
  exact h.indent indent

theorem blank : Statement.blank.Mentions ok := by
  intro indent row hrow
  rw [List.mem_singleton.mp hrow]
  exact .empty

theorem block {header : String} {body : List Statement}
    (hheader : Text.Mentions ok (opening header)) (hbody : ∀ s ∈ body, s.Mentions ok) :
    (Statement.block header body).Mentions ok := by
  intro indent row hrow
  simp only [Statement.rows, List.cons_append, List.mem_cons, List.mem_append] at hrow
  rcases hrow with rfl | hrow | rfl | hnil
  · exact hheader.indent indent
  · obtain ⟨s, hs, hrow⟩ := Statement.mem_rowsOfAll.mp hrow
    exact hbody s hs (indent + 1) row hrow
  · exact Text.Mentions.indent (.literal rfl) indent
  · cases hnil

theorem guard {header : String} {statement : Statement} (hheader : Text.Mentions ok header)
    (hstatement : statement.Mentions ok) : (Statement.guard header statement).Mentions ok := by
  intro indent row hrow
  simp only [Statement.rows, List.mem_cons] at hrow
  rcases hrow with rfl | hrow
  · exact hheader.indent indent
  · exact hstatement (indent + 1) row hrow

end Statement.Mentions

theorem FunctionDef.Mentions.of_statements {f : FunctionDef}
    (h : ∀ s ∈ f.body, s.Mentions f.signature.binds) : f.Mentions := by
  intro row hrow
  obtain ⟨s, hs, hrow⟩ := Statement.mem_rowsOfAll.mp hrow
  exact h s hs 1 row hrow

theorem FunctionDef.Mentions.of_lines {signature : Signature} {texts : List String}
    (h : ∀ text ∈ texts, Text.Mentions signature.binds text) :
    FunctionDef.Mentions ⟨signature, texts.map .line⟩ := by
  refine .of_statements fun s hs => ?_
  obtain ⟨text, htext, rfl⟩ := List.mem_map.mp hs
  exact .line (h text htext)

theorem Helper.function_mentions (h : Helper) : h.function.Mentions := by
  refine .of_lines ?_
  cases h with
  | random | ortho | aroundNormal | onSphere | smoothMin | smoothMax | ellipsoid =>
      exact Mentions.literals (by repeat first | exact .nil | refine .cons _ ?_) (by decide +kernel)

section Names

variable {ok : Variable → Bool}

/-- A name with a digit or an underscore is no variable. -/
theorem mentions_of_not_isAlpha {name : String} {c : Char} (hc : c ∈ name.toList)
    (halpha : c.isAlpha = false)
    (hword : (∀ c ∈ name.toList, isWordChar c = true) ∧ name ≠ "") : Mentions ok name := by
  refine .of_word hword fun v hv => ?_
  have hall : v.letters.all Char.isAlpha = true := by
    cases v <;> decide
  rw [← hv, List.all_eq_true] at hall
  rw [hall c hc] at halpha
  cases halpha

theorem shapeFunction_mentions (model : Nat) (id : ShapeId) :
    Mentions ok (shapeFunction model id) := by
  have hunderscore : '_' ∈ (shapeFunction model id).toList := by
    rw [shapeFunction_toList]
    simp
  exact mentions_of_not_isAlpha hunderscore (by decide) (shapeFunction_word model id)

theorem numbered_mentions {stem : String} (hstem : stem.toList.all isWordChar = true) (n : Nat) :
    Mentions ok (stem ++ toString n) := by
  obtain ⟨d, digits, hdigits, hd⟩ := exists_toString_eq_cons n
  have hmem : d ∈ (stem ++ toString n).toList := by
    rw [String.toList_append, hdigits]
    simp
  exact mentions_of_not_isAlpha hmem hd (numbered_word hstem n)

/-- A line that applies a numbered name.  Its first literal ends with the stem of the name. -/
theorem Text.Mentions.numbered {before last : List Char} {first : String} (left stem : String)
    (hleft : left = String.ofList before) (hfirst : left ++ stem = first)
    (hstem : stem.toList.all isWordChar = true) (n : Nat)
    (h : literalsLead ok [before, last] = true) :
    Mentions ok (first ++ toString n ++ String.ofList last) := by
  subst hfirst hleft
  have hname : Mentions ok (stem ++ toString n) := numbered_mentions hstem n
  simpa only [String.append_assoc] using hname.between h

theorem number_mentions (n : Nat) : Mentions ok (toString n) :=
  .of_class (fun v => by cases v <;> decide) (isDigit_of_mem_toString n)

theorem shapeCall_mentions {model : Nat} {id : ShapeId} {point cell : String}
    (hpoint : Mentions ok point) (hcell : Mentions ok cell) :
    Mentions ok (shapeCall model id point cell) := by
  have hwoven := @Mentions.woven ok [[], ['('], [',', ' '], [')']]
    [shapeFunction model id, point, cell] rfl
    (by simp [hpoint, hcell, shapeFunction_mentions model id])
  have htext : shapeCall model id point cell =
      shapeFunction model id ++ "(" ++ point ++ ", " ++ cell ++ ")" := rfl
  rw [htext]
  simpa [weave, String.append_assoc] using hwoven

end Names

/-! ## Shapes -/

/-- The variables that have a value in shapes. -/
def inShapes (v : Variable) : Bool := !unboundInShapes.contains v

theorem Kind.forms_lead :
    (forms.all fun form => form.frameSpelling.chars.all (literalsLead inShapes)) = true := by
  decide +kernel

/-- What stands between the literals of a shape mentions what its parameters mention, and the point
and the cell. -/
theorem Kind.holes_mention {kind : ShapeKind} (model : Nat)
    (h : ∀ s ∈ kind.parameters, Mentions inShapes s.content.glsl) :
    ∀ line ∈ kind.holes model, ∀ text ∈ line, Mentions inShapes text := by
  have scalar : ∀ {e : Expression}, Mentions inShapes e.glsl → Mentions inShapes e.glslScalar :=
    Expression.glslScalar_mentions
  have call : ∀ {id : ShapeId} {point cell : String}, Mentions inShapes point →
      Mentions inShapes cell → Mentions inShapes (shapeCall model id point cell) :=
    shapeCall_mentions
  have point : Mentions inShapes "p" := .literal (by decide)
  have cell : Mentions inShapes "cell" := .literal (by decide)
  cases kind with
  | sphere | cube | skull => simp [holes]
  | plane normal offset =>
      simp only [parameters, List.forall_mem_cons] at h
      simp [holes, h.1, scalar h.2.1]
  | smoothBox size radius =>
      simp only [parameters, List.forall_mem_cons] at h
      simp [holes, h.1, scalar h.2.1]
  | cylinder radius height =>
      simp only [parameters, List.forall_mem_cons] at h
      simp [holes, scalar h.1, scalar h.2.1]
  | torus major minor =>
      simp only [parameters, List.forall_mem_cons] at h
      simp [holes, scalar h.1, scalar h.2.1]
  | truchet thickness =>
      simp only [parameters, List.forall_mem_cons] at h
      simp [holes, scalar h.1]
  | translate offset child =>
      simp only [parameters, List.forall_mem_cons] at h
      have hpoint : Mentions inShapes ("p - " ++ offset.glsl) := .append_lead (by decide) h.1
      simp [holes, call hpoint cell]
  | scale factor child =>
      simp only [parameters, List.forall_mem_cons] at h
      have hpoint : Mentions inShapes "p / _s" := .literal (by decide)
      simp [holes, scalar h.1, call hpoint cell]
  | rotate axis angle child =>
      simp only [parameters, List.forall_mem_cons] at h
      have hpoint : Mentions inShapes axis.turnedText := by
        cases axis <;> exact .literal (by decide +kernel)
      simp [holes, scalar h.1, call hpoint cell]
  | combine op a b => simp [holes, call point cell]
  | blend op a b radius =>
      simp only [parameters, List.forall_mem_cons] at h
      simp [holes, scalar h.1, call point cell]
  | tile mode period child =>
      have hpoint : Mentions inShapes "p - _span * _index" := .literal (by decide)
      have hcell : Mentions inShapes mode.cellText := by
        cases mode <;> exact .literal (by decide)
      have hperiod : Mentions inShapes period.glsl := by
        cases mode with
        | perCell | shared =>
            simp only [parameters, List.forall_mem_cons] at h
            exact h.1
      simp [holes, hperiod, call hpoint hcell]

theorem exists_of_mem_zipWith {α β γ : Type} {f : α → β → γ} {c : γ} :
    ∀ {as : List α} {bs : List β}, c ∈ List.zipWith f as bs → ∃ a ∈ as, ∃ b ∈ bs, f a b = c
  | [], _, h => by cases h
  | _ :: _, [], h => by cases h
  | a :: as, b :: bs, h => by
      rcases List.mem_cons.mp h with rfl | h
      · exact ⟨a, List.mem_cons_self, b, List.mem_cons_self, rfl⟩
      · obtain ⟨a', ha, b', hb, hc⟩ := exists_of_mem_zipWith h
        exact ⟨a', List.mem_cons_of_mem _ ha, b', List.mem_cons_of_mem _ hb, hc⟩

theorem shapeDefinition_mentions (model : Nat) {node : Node}
    (h : ∀ s ∈ node.kind.parameters, Mentions inShapes s.content.glsl) :
    (shapeDefinition model node).Mentions := by
  refine .of_lines fun line hline => ?_
  rw [Kind.body_eq] at hline
  obtain ⟨texts, htexts, holes, hholes, rfl⟩ := exists_of_mem_zipWith hline
  obtain ⟨chars, hchars, rfl⟩ := node.kind.form.frameSpelling.exists_of_mem htexts
  have hform := List.all_eq_true.mp Kind.forms_lead _ node.kind.form_mem_forms
  have hlead := List.all_eq_true.mp hform chars hchars
  refine (Mentions.woven hlead (Kind.holes_mention model h holes hholes)).mono fun v hv => ?_
  cases v <;> first | rfl | cases hv

/-! ## The functions of a model -/

/-- The variables that have a value at a point, without a cell or a surface. -/
def atPoints (v : Variable) : Bool := v.isGlobal || v = .position

/-- A function of a point. -/
theorem FunctionDef.Mentions.of_point {result name : String} {texts : List String}
    (h : ∀ text ∈ texts, Text.Mentions atPoints text) :
    FunctionDef.Mentions ⟨⟨result, name, [⟨"vec3", "p"⟩]⟩, texts.map .line⟩ := by
  refine .of_lines fun text htext => (h text htext).mono fun v hv => ?_
  cases v <;> first | rfl | cases hv

theorem distanceDefinition_mentions (m : Model) : (distanceDefinition m).Mentions := by
  have hcall : Mentions atPoints (shapeCall m.id m.shape "p" "vec3(0.0)") :=
    shapeCall_mentions (.literal (by decide)) (.literal (by decide))
  have hline : Mentions atPoints ("return " ++ shapeCall m.id m.shape "p" "vec3(0.0)" ++ ";") :=
    hcall.between (by decide)
  exact FunctionDef.Mentions.of_point (List.forall_mem_singleton.mpr hline)

theorem slopeText_mentions (model : Nat) {step : String} (hstep : Mentions atPoints step) :
    Mentions atPoints (slopeText model step) := by
  have hname : Mentions atPoints ("distance" ++ toString model) :=
    numbered_mentions (by decide) model
  have hwoven : Mentions atPoints
      (weave ["", "(p + e.", ") - ", "(p - e.", ")"]
        ["distance" ++ toString model, step, "distance" ++ toString model, step]) := by
    refine @Mentions.woven atPoints [[], _, _, _, _] _ ?_ ?_
    · decide
    · simp only [List.forall_mem_cons]
      exact ⟨hname, hstep, hname, hstep, List.forall_mem_nil _⟩
  have htext : slopeText model step = "distance" ++ toString model ++ "(p + e." ++ step ++
      (") - " ++ "distance") ++ toString model ++ "(p - e." ++ step ++ ")" := rfl
  rw [htext]
  simpa only [weave, String.append_assoc, String.empty_append, String.append_empty] using hwoven

theorem normalDefinition_mentions (m : Model) : (normalDefinition m).Mentions := by
  have hslope : ∀ {cs : List Char}, usesOnly atPoints (lex cs) = true →
      Mentions atPoints (slopeText m.id (String.ofList cs)) := fun h =>
    slopeText_mentions m.id (.literal h)
  have hlines : ∀ text ∈ ["vec2 e = vec2(epsilon, 0.0);", "return normalize(vec3(",
      "    " ++ slopeText m.id "xyy" ++ ",", "    " ++ slopeText m.id "yxy" ++ ",",
      "    " ++ slopeText m.id "yyx" ++ "));"], Mentions atPoints text := by
    simp only [List.forall_mem_cons]
    refine ⟨.literal (by decide), .literal (by decide), ?_, ?_, ?_, List.forall_mem_nil _⟩
    · exact (hslope (by decide)).between (by decide)
    · exact (hslope (by decide)).between (by decide)
    · exact (hslope (by decide)).between (by decide)
  exact FunctionDef.Mentions.of_point hlines

/-! ## The choice among the models -/

theorem closestDefinition_mentions (models : List Model) : (closestDefinition models).Mentions := by
  have hcase : ∀ m : Model, ∀ s ∈ closestCase m, s.Mentions closestSignature.binds := by
    intro m
    have hheader : Mentions closestSignature.binds (opening "if (candidate < closest.distance)") :=
      .append_lead (by decide) (.literal (by decide))
    simp only [closestCase, List.forall_mem_cons]
    refine ⟨.blank, .line ?_, .block hheader (List.forall_mem_singleton.mpr (.line ?_)),
      List.forall_mem_nil _⟩
    · exact .numbered "candidate = abs(" "distance" rfl rfl (by decide) m.id (by decide)
    · exact (number_mentions m.id).between (by decide)
  refine .of_statements ?_
  simp only [closestDefinition, List.forall_mem_append, List.forall_mem_cons]
  refine ⟨⟨⟨.line (.literal (by decide)), .line (.literal (by decide)), List.forall_mem_nil _⟩,
    fun s hs => ?_⟩, .blank, .line (.literal (by decide)), List.forall_mem_nil _⟩
  obtain ⟨m, -, hs⟩ := List.mem_flatMap.mp hs
  exact hcase m s hs

theorem objectCase_mentions {ok : Variable → Bool} (m : Model) {statement : String}
    (h : Mentions ok statement) : (objectCase m statement).Mentions ok :=
  .guard ((number_mentions m.id).between rfl) (.line h)

theorem normalChoice_mentions (models : List Model) : (normalChoice models).Mentions := by
  refine .of_statements ?_
  simp only [normalChoice, List.forall_mem_append, List.forall_mem_map, List.forall_mem_singleton]
  refine ⟨fun m _ => objectCase_mentions m ?_, .line (.literal (by decide))⟩
  exact .numbered "return " "normal" rfl rfl (by decide) m.id (by decide)

theorem materialChoice_mentions (models : List Model) : (materialChoice models).Mentions := by
  refine .of_statements ?_
  simp only [materialChoice, List.forall_mem_append, List.forall_mem_map, List.forall_mem_singleton]
  refine ⟨fun m _ => objectCase_mentions m ?_, .line (.literal (by decide +kernel))⟩
  exact .numbered "return " "material" rfl rfl (by decide) m.id (by decide)

/-! ## The main function -/

/-- The main function mentions what the fields of the camera mention. -/
theorem mainFunction_mentions {c : Camera}
    (h : ∀ s ∈ c.slots, Mentions Variable.isGlobal s.content.glsl)
    (hplain : ∀ s ∈ c.slots, Embeds (fun _ => True) s.content.glsl) :
    (mainFunction c).Mentions := by
  have scalar : ∀ {e : Expression}, Mentions Variable.isGlobal e.glsl →
      Mentions Variable.isGlobal e.glslScalar := Expression.glslScalar_mentions
  have hdollar : ∀ {text : String}, Embeds (fun _ => True) text → '$' ∉ text.toList := fun h hmem =>
    absurd (h.plain _ hmem) (by decide)
  simp only [Camera.slots, List.forall_mem_cons] at h hplain
  obtain ⟨heye, htarget, hup, hfield, haperture, -⟩ := hplain
  replace hfield := Expression.glslScalar_embeds hfield
  replace haperture := Expression.glslScalar_embeds haperture
  have hwoven : Mentions Variable.isGlobal
      (weave ["vec3 eye = ", ";\nvec3 target = ", ";\nvec3 up = ", ";\nfloat fieldOfView = ",
          ";\nfloat aperture = ", String.ofList PathTracing.remainderChars]
        [c.eye.glsl, c.target.glsl, c.up.glsl, c.fieldOfView.glslScalar,
          c.aperture.glslScalar]) := by
    refine @Mentions.woven _ [_, _, _, _, _, _] _ ?_ ?_
    · decide +kernel
    · simp only [List.forall_mem_cons]
      exact ⟨h.1, h.2.1, h.2.2.1, scalar h.2.2.2.1, scalar h.2.2.2.2.1, List.forall_mem_nil _⟩
  have hrows : ((mainFunction c).lines.flatMap fun row => lex row.toList) =
      lex (mainFunction c).bodyText.toList := (lex_rows _).symm
  refine Uses.of_mem_rows ?_
  rw [hrows, mainFunction, PathTracing.function, lex_lines, PathTracing.fill_template (hdollar heye)
    (hdollar htarget) (hdollar hup) (hdollar hfield) (hdollar haperture)]
  have hbinds : ∀ v, Variable.isGlobal v = true → Signature.binds ⟨"void", "main", []⟩ v = true :=
    fun v hv => by simp [Signature.binds, hv]
  simpa only [Mentions, weave, String.append_assoc] using hwoven.mono hbinds

/-! ## Materials -/

/-- The body of a function binds what it mentions. -/
def FunctionDef.Binds (f : FunctionDef) : Prop :=
  ∀ before row after, f.lines = before ++ row :: after →
    ∀ v : Variable, (false, v.letters) ∈ occurrences typeSpelling.chars false (lex row.toList) →
      f.signature.binds v = true ∨
        ∃ r ∈ before, (true, v.letters) ∈ occurrences typeSpelling.chars false (lex r.toList)

theorem FunctionDef.Mentions.binds {f : FunctionDef} (h : f.Mentions) : f.Binds := by
  intro before row after hlines v hv
  have hrow : row ∈ f.lines := by
    rw [hlines]
    exact List.mem_append_right _ List.mem_cons_self
  exact Or.inl (h row hrow _ hv v rfl).2

/-- The variables that have a value in materials.  The cell has one if it is declared. -/
def inMaterials (cell : Bool) (v : Variable) : Bool := v != .cell || cell

/-- The statements of a material, without the declaration of the cell. -/
def materialStatements (m : Material) : List Statement :=
  .line "Material m;" ::
    (m.fields.map fun f => .line ("m." ++ f.1 ++ " = " ++ materialFieldText f.1 f.2 ++ ";")) ++
      [.line "return m;"]

theorem materialDefinition_lines (name : String) (m : Material) :
    (materialDefinition name m).lines =
      (if m.fields.any fun f => f.2.reads .cell then
        [indentation 1 ++ "vec3 cell = vec3(0.0);"] else []) ++
        Statement.rowsOfAll 1 (materialStatements m) := by
  rw [FunctionDef.lines, materialDefinition, materialStatements]
  dsimp only
  split <;> rfl

theorem materialStatements_mention {m : Material}
    (h : ∀ f ∈ m.fields, Mentions f.2.reads f.2.glsl) :
    ∀ s ∈ materialStatements m,
      s.Mentions (inMaterials (m.fields.any fun f => f.2.reads .cell)) := by
  generalize hcell : (m.fields.any fun f => f.2.reads .cell) = cell
  have hread : ∀ f ∈ m.fields, ∀ v, f.2.reads v = true → inMaterials cell v = true := by
    intro f hf v hv
    by_cases hv' : v = .cell
    · subst hv'
      have hany : (m.fields.any fun f => f.2.reads .cell) = true :=
        List.any_eq_true.mpr ⟨f, hf, hv⟩
      simp [inMaterials, ← hcell, hany]
    · simp [inMaterials, hv']
  have hfield : ∀ f ∈ m.fields, Mentions (inMaterials cell) (materialFieldText f.1 f.2) := by
    intro f hf
    have hglsl := (h f hf).mono (hread f hf)
    unfold materialFieldText
    split
    · exact hglsl
    · exact Expression.glslScalar_mentions hglsl
  have hname : ∀ f ∈ m.fields, Mentions (inMaterials cell) f.1 := by
    simp only [Material.fields, List.forall_mem_cons]
    exact ⟨.literal rfl, .literal rfl, .literal rfl, .literal rfl, .literal rfl, .literal rfl,
      List.forall_mem_nil _⟩
  simp only [materialStatements, List.cons_append, List.forall_mem_cons, List.forall_mem_append,
    List.forall_mem_map]
  refine ⟨.line (.literal rfl), fun f hf => .line ?_, .line (.literal rfl), List.forall_mem_nil _⟩
  have hwoven := @Mentions.woven (inMaterials cell) [['m', '.'], [' ', '=', ' '], [';']]
    [f.1, materialFieldText f.1 f.2] rfl (by simp [hname f hf, hfield f hf])
  simpa [weave, String.append_assoc] using hwoven

/-- The first line of a material that reads the cell declares it, and mentions nothing else. -/
theorem occurrences_cellLine :
    occurrences typeSpelling.chars false (lex (indentation 1 ++ "vec3 cell = vec3(0.0);").toList) =
      [(false, ['v', 'e', 'c', '3']), (true, ['c', 'e', 'l', 'l']), (false, ['v', 'e', 'c', '3']),
        (false, ['0']), (false, ['0'])] := by
  rw [String.toList_append, lex_blank_append (indentation_blank 1)]
  decide +kernel

/-- The function of a material declares the cell before any field reads it. -/
theorem materialDefinition_binds (name : String) {m : Material}
    (h : ∀ f ∈ m.fields, Mentions f.2.reads f.2.glsl) : (materialDefinition name m).Binds := by
  have hstatements := materialStatements_mention h
  have hrows : ∀ row ∈ Statement.rowsOfAll 1 (materialStatements m),
      Mentions (inMaterials (m.fields.any fun f => f.2.reads .cell)) row := by
    intro row hrow
    obtain ⟨s, hs, hrow⟩ := Statement.mem_rowsOfAll.mp hrow
    exact hstatements s hs 1 row hrow
  have hlines := materialDefinition_lines name m
  cases hcell : (m.fields.any fun f => f.2.reads .cell) with
  | false =>
      rw [hcell] at hrows hlines
      refine FunctionDef.Mentions.binds fun row hrow => ?_
      rw [hlines] at hrow
      refine (hrows row hrow).mono fun v hv => ?_
      cases v <;> first | rfl | cases hv
  | true =>
      rw [hcell] at hrows hlines
      intro before row after hsplit v hv
      rw [hlines, if_pos rfl, List.singleton_append] at hsplit
      cases before with
      | nil =>
          obtain ⟨rfl, -⟩ := List.cons_eq_cons.mp hsplit
          rw [occurrences_cellLine] at hv
          cases v <;> simp [Variable.letters] at hv
      | cons first before =>
          obtain ⟨rfl, hrest⟩ := List.cons_eq_cons.mp hsplit
          have hrow : row ∈ Statement.rowsOfAll 1 (materialStatements m) := by
            rw [hrest]
            exact List.mem_append_right _ List.mem_cons_self
          have hok := (hrows row hrow _ hv v rfl).2
          cases v with
          | cell =>
              refine Or.inr ⟨_, List.mem_cons_self, ?_⟩
              rw [occurrences_cellLine]
              simp [Variable.letters]
          | _ => exact Or.inl rfl

/-! ## Programs -/

section Slots

variable {ok : Variable → Bool} {s : Slot}

theorem Slot.content_mentions (ht : s.checkType = .ok ()) (ho : s.content.isOpaque = false)
    (hok : ∀ v, s.content.reads v = true → ok v = true) : Mentions ok s.content.glsl := by
  obtain ⟨t, ht⟩ := Slot.typed_of_checkType ht
  exact s.content.glsl_mentions ht ho hok

/-- What a checked slot reads has a value there. -/
theorem Slot.contains_of_reads {unbound : List Variable} (h : s.checkVariables unbound = .ok ())
    {v : Variable} (hv : s.content.reads v = true) : unbound.contains v = false := by
  rw [Bool.eq_false_iff]
  intro hmem
  rw [reads_eq_false h (List.contains_iff_mem.mp hmem)] at hv
  cases hv

/-- Every field of a material is in a slot. -/
theorem Material.exists_slot_of_mem_fields {m : Material} {f : String × Expression}
    (h : f ∈ m.fields) : ∃ s ∈ m.slots, s.content = f.2 := by
  revert f
  simp [fields, slots]

end Slots

namespace Builder.WellFormed

variable {b : Builder}

theorem mainFunction_mentions (hw : b.WellFormed) (ho : ¬b.camera.HasSnippet) :
    (mainFunction b.camera).Mentions := by
  have hslots := Slot.checkAll_eq_ok.mp hw.camera
  have hplain : ∀ s ∈ b.camera.slots, s.content.isOpaque = false := fun s hs =>
    Bool.eq_false_iff.mpr fun hsnippet => ho ⟨s, hs, hsnippet⟩
  refine ImplicitScene.mainFunction_mentions (fun s hs => ?_) fun s hs => ?_
  · refine Slot.content_mentions (hslots s hs).1 (hplain s hs) fun v hv => ?_
    have hbound := Slot.contains_of_reads (hslots s hs).2 hv
    cases v <;> first | rfl | cases hbound
  · obtain ⟨t, ht⟩ := Slot.typed_of_checkType (hslots s hs).1
    exact s.content.glsl_embeds (fun _ _ => trivial) trivial ht (hplain s hs)

theorem material_binds (name : String) {m : Material} (hm : m.validate = .ok ())
    (ho : ¬m.HasSnippet) : (materialDefinition name m).Binds := by
  refine materialDefinition_binds name fun f hf => ?_
  obtain ⟨s, hs, hcontent⟩ := Material.exists_slot_of_mem_fields hf
  rw [← hcontent]
  refine Slot.content_mentions (Slot.all_eq_ok.mp hm s hs) ?_ fun v hv => hv
  exact Bool.eq_false_iff.mpr fun hsnippet => ho ⟨f, hf, hcontent ▸ hsnippet⟩

theorem shape_mentions (hw : b.WellFormed) (model : Nat) {node : Node}
    (hnode : node ∈ b.shapes.nodes) (ho : ¬node.kind.HasSnippet) : (shapeDefinition model node).Mentions := by
  refine shapeDefinition_mentions model fun s hs => ?_
  obtain ⟨ht, hv⟩ := hw.shapes.slot hnode s hs
  refine Slot.content_mentions ht ?_ fun v hread => ?_
  · exact Bool.eq_false_iff.mpr fun hsnippet => ho ⟨s, hs, hsnippet⟩
  · rw [inShapes, Slot.contains_of_reads hv hread]
    rfl

theorem modelDefinitions_bind (hw : b.WellFormed) {m : Model} (hm : m ∈ b.models)
    (hbelow : ¬b.shapes.HasSnippetBelow m.shape) (ho : ¬m.material.HasSnippet) :
    ∀ f ∈ modelDefinitions b.shapes m, f.Binds ∧ (stem f.name = "shape".toList → f.Mentions) := by
  simp only [modelDefinitions, List.forall_mem_append, List.forall_mem_map, List.forall_mem_cons]
  refine ⟨fun node hnode => ?_, ?_, ?_, ⟨?_, fun hshape => ?_⟩, List.forall_mem_nil _⟩
  · obtain ⟨x, hx, hget⟩ := List.mem_filterMap.mp hnode
    have hmentions := hw.shape_mentions m.id (Arena.mem_of_get? hget) fun hsnippet =>
      hbelow ⟨x, hx, node, hget, hsnippet⟩
    exact ⟨hmentions.binds, fun _ => hmentions⟩
  · exact ⟨(distanceDefinition_mentions m).binds, fun _ => distanceDefinition_mentions m⟩
  · exact ⟨(normalDefinition_mentions m).binds, fun _ => normalDefinition_mentions m⟩
  · exact material_binds _ (hw.model_material m hm) ho
  · exact absurd hshape (stem_numbered (by decide) (by decide) m.id)

/-- Every function binds what it mentions, and a function that is named for a shape declares no
variable. -/
theorem definitions_bind (hw : b.WellFormed) (ho : ¬b.scene.HasSnippet) :
    ∀ f ∈ b.scene.definitions, f.Binds ∧ (stem f.name = "shape".toList → f.Mentions) := by
  have hplain : ∀ {f : FunctionDef}, f.Mentions →
      f.Binds ∧ (stem f.name = "shape".toList → f.Mentions) := fun h => ⟨h.binds, fun _ => h⟩
  have hair : stem "materialAir" ≠ "shape".toList := by decide
  simp only [Scene.definitions, List.forall_mem_append, List.forall_mem_map, List.forall_mem_cons]
  refine ⟨⟨⟨fun h _ => hplain h.function_mentions, hplain ?_, List.forall_mem_nil _⟩, ?_⟩,
    ⟨?_, fun hshape => absurd hshape hair⟩, hplain (closestDefinition_mentions _),
    hplain (normalChoice_mentions _), hplain (materialChoice_mentions _), List.forall_mem_nil _⟩
  · exact hw.mainFunction_mentions fun hsnippet => ho (Or.inr (Or.inl hsnippet))
  · intro f hf
    obtain ⟨m, hm, hf⟩ := List.mem_flatMap.mp hf
    refine hw.modelDefinitions_bind hm ?_ ?_ f hf
    · exact fun hsnippet => ho (Or.inl ⟨m, hm, Or.inl hsnippet⟩)
    · exact fun hsnippet => ho (Or.inl ⟨m, hm, Or.inr hsnippet⟩)
  · exact material_binds _ hw.air fun hsnippet => ho (Or.inr (Or.inr hsnippet))

end Builder.WellFormed

namespace Scene

variable (scene : Scene) (o : Options)

theorem mem_named {declared : Bool} {row : String} {v : Variable} :
    v.glsl ∈ (scene.program o).named declared row ↔
      (declared, v.letters) ∈ occurrences typeSpelling.chars false (lex row.toList) := by
  rw [Program.named, Program.words, program_types, typeSpelling.map_toList, List.mem_filterMap]
  constructor
  · rintro ⟨⟨d, w⟩, hmem, hname⟩
    split at hname
    next hd =>
      have hw : w = v.letters := by
        rw [← v.glsl_toList, ← Option.some.inj hname, String.toList_ofList]
      subst hd hw
      exact hmem
    next => cases hname
  · intro hmem
    refine ⟨_, hmem, ?_⟩
    rw [if_pos rfl, ← v.glsl_toList, String.ofList_toList]

/-- What is set from outside is among the items of a program. -/
theorem exists_item_of_isGlobal {v : Variable} (h : v.isGlobal = true) :
    ∃ d, (.uniform d ∈ (scene.program o).items ∨ .varying d ∈ (scene.program o).items) ∧
      d.name = v.glsl := by
  have hinterface : ∀ item ∈ interfaceItems, item ∈ (scene.program o).items := by
    intro item hitem
    simp [program_items, declarationItems, hitem]
  cases v with
  | time => exact ⟨⟨"float", "time"⟩, Or.inl (hinterface _ (by simp [interfaceItems])), rfl⟩
  | uv => exact ⟨⟨"vec2", "uv"⟩, Or.inr (hinterface _ (by simp [interfaceItems])), rfl⟩
  | mouse => exact ⟨⟨"vec2", "mouse"⟩, Or.inl (hinterface _ (by simp [interfaceItems])), rfl⟩
  | position | normal | direction | cell => cases h

end Scene

/-- In the program of a scene without snippets every variable is bound where it is mentioned. -/
theorem Builder.Reachable.program_bindsVariables {b : Builder} (hb : b.Reachable)
    (ho : ¬b.scene.HasSnippet) (o : Options) : (b.scene.program o).BindsVariables := by
  have hdefinitions := hb.wellFormed.definitions_bind ho
  refine ⟨?_, ?_⟩
  · intro f hf before row after hlines v hv
    rw [Scene.program_functions] at hf
    rw [Scene.mem_named] at hv
    rcases (hdefinitions f hf).1 before row after hlines v hv with hbinds | ⟨r, hr, hdeclared⟩
    · rcases Bool.or_eq_true_iff.mp hbinds with hglobal | hparameter
      · exact Or.inr (Or.inr (b.scene.exists_item_of_isGlobal o hglobal))
      · obtain ⟨d, hd, hname⟩ := List.any_eq_true.mp hparameter
        refine Or.inl ⟨d, hd, String.toList_injective ?_⟩
        rw [v.glsl_toList]
        exact eq_of_beq hname
    · exact Or.inr (Or.inl ⟨r, hr, (b.scene.mem_named o).mpr hdeclared⟩)
  · intro f hf m id hname row hrow v hv
    rw [Scene.program_functions] at hf
    have hmentions := (hdefinitions f hf).2 (hname ▸ stem_shapeFunction m id)
    have hused := (hmentions row hrow _ ((b.scene.mem_named o).mp hv) v rfl).1
    cases hused

theorem Builder.tiles_not_hasSnippet : ¬Builder.tiles.scene.HasSnippet :=
  Scene.not_hasSnippet (by decide) (by decide) (by decide) (by decide)

/-- The material of the tiles declares the cell. -/
theorem program_bindsVariables_tiles :
    Builder.tiles.Reachable ∧ ¬Builder.tiles.scene.HasSnippet ∧
      (Builder.tiles.scene.program {}).BindsVariables :=
  ⟨Builder.tiles_reachable, Builder.tiles_not_hasSnippet,
    Builder.tiles_reachable.program_bindsVariables Builder.tiles_not_hasSnippet {}⟩

end ImplicitScene
