import ImplicitScene.Program.Assembly
import ImplicitScene.Proofs.ExpressionText

/-!
# What the functions of a program apply

For every function of a program this says which words its body applies.  The
words are given by a predicate `known`, and a lemma asks only that it holds of
the words the function needs.  So one lemma serves to show that a name is
declared and that a name belongs to a model.

A body is printed line by line.  A line is *complete* when it applies known words
only, also if the next line began with a parenthesis.  Indentation and line ends
are blank, so the words that a body applies are those of its lines.
-/

namespace ImplicitScene

open Text

/-! ## Bodies -/

/-- The text of the body of a function. -/
def FunctionDef.bodyText (f : FunctionDef) : String :=
  String.join ((Statement.rowsOfAll 1 f.body).map (· ++ "\n"))

/-- The words that the body of a function applies. -/
def FunctionDef.applied (f : FunctionDef) : List String :=
  (Text.applied (lex f.bodyText.toList)).map String.ofList

variable {known : String → Prop}

theorem indentation_blank (indent : Nat) : ∀ c ∈ (indentation indent).toList, isBlank c = true := by
  intro c hc
  rw [indentation, String.toList_join, List.mem_flatMap] at hc
  obtain ⟨blanks, hblanks, hc⟩ := hc
  rw [List.eq_of_mem_replicate hblanks] at hc
  exact List.all_eq_true.mp (by decide) c hc

theorem lex_rows : ∀ rows : List String,
    lex (String.join (rows.map (· ++ "\n"))).toList = rows.flatMap fun row => lex row.toList
  | [] => by simp [lex, lexFrom, pending]
  | row :: rows => by
      have hends : endsApart (row ++ "\n").toList = true := by
        rw [String.toList_append]
        exact endsApart_append (by decide) fun hnil => by cases hnil
      have hrow : lex (row ++ "\n").toList = lex row.toList := by
        rw [String.toList_append]
        exact lex_append_blank _ (List.all_eq_true.mp (by decide))
      rw [List.map_cons, String.toList_join, List.flatMap_cons, List.flatMap_cons,
        lex_append_of_endsApart hends, hrow, ← String.toList_join, lex_rows rows]

theorem Text.Complete.indent {text : String} (h : Complete known text) (indent : Nat) :
    Complete known (indentation indent ++ text) := by
  rw [Complete, String.toList_append, lex_blank_append (indentation_blank indent)]
  exact h

theorem Text.Complete.empty : Complete known "" := (Opens.silent rfl).2

theorem Text.Calls.flatMap_rows : ∀ {rows : List String}, (∀ row ∈ rows, Complete known row) →
    Calls known (rows.flatMap fun row => lex row.toList)
  | [], _ => by simp [Calls, Text.applied]
  | row :: rows, h => by
      rw [List.forall_mem_cons] at h
      exact Calls.append h.1 (flatMap_rows h.2)

namespace Statement

/-- A statement all of whose lines are complete. -/
inductive Complete (known : String → Prop) : Statement → Prop where
  /-- A complete line. -/
  | line {text : String} (h : Text.Complete known text) : Complete known (.line text)
  /-- An empty line. -/
  | blank : Complete known .blank
  /-- A block with a complete header and body. -/
  | block {header : String} {body : List Statement} (hheader : Text.Complete known (opening header))
      (hbody : ∀ s ∈ body, Complete known s) : Complete known (.block header body)
  /-- A guard with a complete header and statement. -/
  | guard {header : String} {statement : Statement} (hheader : Text.Complete known header)
      (hstatement : Complete known statement) : Complete known (.guard header statement)

theorem mem_rowsOfAll {row : String} {indent : Nat} :
    ∀ {ss : List Statement}, row ∈ rowsOfAll indent ss ↔ ∃ s ∈ ss, row ∈ s.rows indent
  | [] => by simp [rowsOfAll]
  | s :: ss => by simp [rowsOfAll, @mem_rowsOfAll row indent ss]

theorem Complete.rows {s : Statement} (h : s.Complete known) :
    ∀ indent, ∀ row ∈ s.rows indent, Text.Complete known row := by
  induction h with
  | line h =>
      intro indent row hrow
      rw [List.mem_singleton.mp hrow]
      exact h.indent indent
  | blank =>
      intro indent row hrow
      rw [List.mem_singleton.mp hrow]
      exact .empty
  | block hheader hbody ih =>
      intro indent row hrow
      simp only [Statement.rows, List.cons_append, List.mem_cons, List.mem_append] at hrow
      rcases hrow with rfl | hrow | rfl | hnil
      · exact hheader.indent indent
      · obtain ⟨s, hs, hrow⟩ := mem_rowsOfAll.mp hrow
        exact ih s hs (indent + 1) row hrow
      · exact Text.Complete.indent (Opens.silent (by decide)).2 indent
      · cases hnil
  | guard hheader _ ih =>
      intro indent row hrow
      simp only [Statement.rows, List.mem_cons] at hrow
      rcases hrow with rfl | hrow
      · exact hheader.indent indent
      · exact ih (indent + 1) row hrow

end Statement

/-- A function applies known words only. -/
def FunctionDef.AppliesOnly (known : String → Prop) (f : FunctionDef) : Prop :=
  ∀ n ∈ f.applied, known n

theorem FunctionDef.AppliesOnly.of_statements {f : FunctionDef}
    (h : ∀ s ∈ f.body, s.Complete known) : f.AppliesOnly known := by
  intro n hn
  obtain ⟨w, hw, rfl⟩ := List.mem_map.mp hn
  rw [bodyText, lex_rows] at hw
  refine Text.Calls.flatMap_rows (fun row hrow => ?_) w hw
  obtain ⟨s, hs, hrow⟩ := Statement.mem_rowsOfAll.mp hrow
  exact (h s hs).rows 1 row hrow

theorem FunctionDef.AppliesOnly.of_lines {signature : Signature} {texts : List String}
    (h : ∀ text ∈ texts, Opens known text) :
    FunctionDef.AppliesOnly known ⟨signature, texts.map .line⟩ := by
  refine .of_statements fun s hs => ?_
  obtain ⟨text, htext, rfl⟩ := List.mem_map.mp hs
  exact .line (h text htext).2

/-! ## Helpers -/

/-- A helper applies the language.  One helper applies another. -/
theorem Helper.function_appliesOnly (hlanguage : ∀ n ∈ language, known n) (h : Helper)
    (hortho : h = .aroundNormal → known Helper.ortho.signature.name) :
    h.function.AppliesOnly known := by
  refine .of_lines ?_
  cases h with
  | aroundNormal =>
      have hbase : ∀ n ∈ "ortho" :: language, known n :=
        List.forall_mem_cons.mpr ⟨hortho rfl, hlanguage⟩
      exact Opens.literals (.cons _ languageSpelling) hbase
        (by repeat first | exact .nil | refine .cons _ ?_) (by decide +kernel)
  | random | ortho | onSphere | smoothMin | smoothMax | ellipsoid =>
      exact Opens.literals languageSpelling hlanguage
        (by repeat first | exact .nil | refine .cons _ ?_) (by decide +kernel)

/-! ## Shapes -/

theorem shapeFunction_toList (model : Nat) (id : ShapeId) :
    (shapeFunction model id).toList =
      "shape".toList ++ ((toString model).toList ++ '_' :: (toString id.number).toList) := by
  simp only [shapeFunction, String.toList_append, List.append_assoc]
  rfl

theorem shapeFunction_word (model : Nat) (id : ShapeId) :
    (∀ c ∈ (shapeFunction model id).toList, isWordChar c = true) ∧ shapeFunction model id ≠ "" := by
  have hdigits : ∀ n : Nat, ∀ c ∈ (toString n).toList, isWordChar c = true := fun n c hc =>
    isWordChar_of_isDigit (isDigit_of_mem_toString n c hc)
  have hchars := shapeFunction_toList model id
  constructor
  · simp only [hchars, List.forall_mem_append, List.forall_mem_cons]
    exact ⟨List.all_eq_true.mp (by decide), hdigits _, by decide, hdigits _⟩
  · intro hempty
    rw [hempty] at hchars
    cases hchars

theorem shapeCall_opens {model : Nat} {id : ShapeId} {point cell : String}
    (hname : known (shapeFunction model id)) (hpoint : Text.AppliesOnly known point)
    (hcell : Text.AppliesOnly known cell) : Opens known (shapeCall model id point cell) := by
  have hopen := Opens.call hname (shapeFunction_word model id)
  exact (hopen.close hpoint (by decide)).close hcell (by decide)

/-- Two children called one after the other. -/
theorem shapeCalls_open (hlanguage : ∀ n ∈ language, known n) {model : Nat} {a b : ShapeId}
    (ha : known (shapeFunction model a)) (hb : known (shapeFunction model b)) {first : String}
    {between last : List Char} (hfirst : Opens known first)
    (h : (literalJoins languageSpelling.chars between &&
      literalJoins languageSpelling.chars last) = true) :
    Opens known (first ++ shapeCall model a "p" "cell" ++ String.ofList between ++
      shapeCall model b "p" "cell" ++ String.ofList last) := by
  have point : Text.AppliesOnly known "p" := .literal (by decide)
  have cell : Text.AppliesOnly known "cell" := .literal (by decide)
  have hcall : ∀ {id}, known (shapeFunction model id) →
      Text.AppliesOnly known (shapeCall model id "p" "cell") := fun hname =>
    (shapeCall_opens hname point cell).2.appliesOnly
  rw [Bool.and_eq_true_iff] at h
  have hleft := hfirst.fill (hcall ha) languageSpelling hlanguage h.1
  exact hleft.fill (hcall hb) languageSpelling hlanguage h.2

/-- The function of a shape applies the language, the helpers of the shape and the functions of its
children, beyond what its parameters apply. -/
theorem Kind.body_opens (hlanguage : ∀ n ∈ language, known n) {kind : ShapeKind} (model : Nat)
    (hhelpers : ∀ h ∈ kind.helpers, known h.signature.name)
    (hchildren : ∀ c ∈ kind.children, known (shapeFunction model c))
    (hparameters : ∀ s ∈ kind.parameters, Embeds known s.content.glsl) :
    ∀ line ∈ kind.body model, Opens known line := by
  have lit : ∀ {cs}, literalOpens languageSpelling.chars cs = true →
      Opens known (String.ofList cs) := Opens.literal languageSpelling hlanguage
  have around : ∀ {e left right}, Text.AppliesOnly known e →
      (literalOpens languageSpelling.chars left &&
        literalJoins languageSpelling.chars right) = true →
      Opens known (String.ofList left ++ e ++ String.ofList right) :=
    Opens.around languageSpelling hlanguage
  have fill : ∀ {a e cs}, Opens known a → Text.AppliesOnly known e →
      literalJoins languageSpelling.chars cs = true → Opens known (a ++ e ++ String.ofList cs) :=
    fun ha he h => ha.fill he languageSpelling hlanguage h
  have scalar : ∀ {e : Expression}, Embeds known e.glsl → Text.AppliesOnly known e.glslScalar :=
    fun h => (Expression.glslScalar_embeds h).applies
  have corner : Opens known cornerText := lit (by decide +kernel)
  have cell : Text.AppliesOnly known "cell" := .literal (by decide)
  cases kind with
  | sphere => exact List.forall_mem_singleton.mpr (lit (by decide +kernel))
  | cube =>
      simp only [body, List.forall_mem_cons]
      refine ⟨lit (by decide +kernel), ?_, List.forall_mem_nil _⟩
      exact around corner.2.appliesOnly (by decide +kernel)
  | skull =>
      have hbase : ∀ n ∈ "smin" :: "smax" :: "ellipsoid" :: language, known n := by
        simp only [helpers, List.forall_mem_cons] at hhelpers
        obtain ⟨hmin, hmax, hellipsoid, -⟩ := hhelpers
        simp only [List.forall_mem_cons]
        exact ⟨hmin, hmax, hellipsoid, hlanguage⟩
      rw [body]
      exact Opens.literals (.cons _ (.cons _ (.cons _ languageSpelling))) hbase
        (by repeat first | exact .nil | refine .cons _ ?_) (by decide +kernel)
  | plane normal offset =>
      simp only [parameters, List.forall_mem_cons] at hparameters
      refine List.forall_mem_singleton.mpr ?_
      exact fill (around hparameters.1.applies (by decide +kernel)) (scalar hparameters.2.1)
        (by decide +kernel)
  | smoothBox size radius =>
      simp only [parameters, List.forall_mem_cons] at hparameters
      simp only [body, List.forall_mem_cons]
      refine ⟨?_, ?_, ?_, List.forall_mem_nil _⟩
      · exact around (scalar hparameters.2.1) (by decide +kernel)
      · exact around hparameters.1.applies (by decide +kernel)
      · exact around corner.2.appliesOnly (by decide +kernel)
  | cylinder radius height =>
      simp only [parameters, List.forall_mem_cons] at hparameters
      simp only [body, List.forall_mem_cons]
      refine ⟨?_, lit (by decide +kernel), List.forall_mem_nil _⟩
      exact fill (around (scalar hparameters.1) (by decide +kernel)) (scalar hparameters.2.1)
        (by decide +kernel)
  | torus major minor =>
      simp only [parameters, List.forall_mem_cons] at hparameters
      simp only [body, List.forall_mem_cons]
      refine ⟨?_, ?_, List.forall_mem_nil _⟩
      · exact around (scalar hparameters.1) (by decide +kernel)
      · exact around (scalar hparameters.2.1) (by decide +kernel)
  | truchet thickness =>
      simp only [parameters, List.forall_mem_cons] at hparameters
      simp only [body, List.forall_mem_cons]
      refine ⟨lit (by decide +kernel), lit (by decide +kernel), lit (by decide +kernel),
        lit (by decide +kernel), lit (by decide +kernel), lit (by decide +kernel),
        lit (by decide +kernel), ?_, List.forall_mem_nil _⟩
      exact around (scalar hparameters.1) (by decide +kernel)
  | translate offset child =>
      simp only [parameters, List.forall_mem_cons] at hparameters
      have hpoint : Text.AppliesOnly known s!"p - {offset.glsl}" :=
        (lit (by decide +kernel)).append_text hparameters.1.applies
      have hcall := shapeCall_opens (hchildren child (by simp [children])) hpoint cell
      refine List.forall_mem_singleton.mpr ?_
      exact around hcall.2.appliesOnly (by decide +kernel)
  | scale factor child =>
      simp only [parameters, List.forall_mem_cons] at hparameters
      have hcall := shapeCall_opens (hchildren child (by simp [children]))
        (Text.AppliesOnly.literal (by decide) : Text.AppliesOnly known "p / _s") cell
      simp only [body, List.forall_mem_cons]
      refine ⟨?_, ?_, List.forall_mem_nil _⟩
      · exact around (scalar hparameters.1) (by decide +kernel)
      · exact around hcall.2.appliesOnly (by decide +kernel)
  | rotate axis angle child =>
      simp only [parameters, List.forall_mem_cons] at hparameters
      have hpoint : Opens known axis.turnedText := by
        cases axis <;> exact lit (by decide +kernel)
      have hcall := shapeCall_opens (hchildren child (by simp [children])) hpoint.2.appliesOnly cell
      simp only [body, List.forall_mem_cons]
      refine ⟨?_, lit (by decide +kernel), lit (by decide +kernel), ?_, List.forall_mem_nil _⟩
      · exact around (scalar hparameters.1) (by decide +kernel)
      · exact around hcall.2.appliesOnly (by decide +kernel)
  | combine op a b =>
      have ha := hchildren a (by simp [children])
      have hb := hchildren b (by simp [children])
      cases op with
      | union | intersection | difference =>
          refine List.forall_mem_singleton.mpr ?_
          exact shapeCalls_open hlanguage ha hb (lit (by decide +kernel)) (by decide +kernel)
  | blend op a b radius =>
      simp only [parameters, List.forall_mem_cons] at hparameters
      have ha := hchildren a (by simp [children])
      have hb := hchildren b (by simp [children])
      have hradius := scalar hparameters.1
      cases op with
      | union =>
          have hbase : ∀ n ∈ "smin" :: language, known n :=
            List.forall_mem_cons.mpr ⟨hhelpers .smoothMin (List.mem_singleton_self _), hlanguage⟩
          have hfirst : ∀ {cs}, literalOpens (Spelling.cons _ languageSpelling).chars cs = true →
              Opens known (String.ofList cs) := Opens.literal (.cons _ languageSpelling) hbase
          refine List.forall_mem_singleton.mpr ?_
          refine fill (shapeCalls_open hlanguage ha hb ?_ (by decide +kernel)) hradius
            (by decide +kernel)
          exact hfirst (by decide +kernel)
      | intersection | difference =>
          have hbase : ∀ n ∈ "smax" :: language, known n :=
            List.forall_mem_cons.mpr ⟨hhelpers .smoothMax (List.mem_singleton_self _), hlanguage⟩
          have hfirst : ∀ {cs}, literalOpens (Spelling.cons _ languageSpelling).chars cs = true →
              Opens known (String.ofList cs) := Opens.literal (.cons _ languageSpelling) hbase
          refine List.forall_mem_singleton.mpr ?_
          refine fill (shapeCalls_open hlanguage ha hb ?_ (by decide +kernel)) hradius
            (by decide +kernel)
          exact hfirst (by decide +kernel)
  | tile mode period child =>
      have hperiod : Embeds known period.glsl := by
        cases mode with
        | perCell | shared =>
            simp only [parameters, List.forall_mem_cons] at hparameters
            exact hparameters.1
      have hcell : Text.AppliesOnly known mode.cellText := by
        cases mode with
        | perCell | shared => exact .literal (by decide)
      have hcall := shapeCall_opens (hchildren child (by simp [children]))
        (Text.AppliesOnly.literal (by decide) : Text.AppliesOnly known "p - _span * _index") hcell
      simp only [body, List.forall_mem_cons]
      refine ⟨?_, lit (by decide +kernel), ?_, List.forall_mem_nil _⟩
      · exact around hperiod.applies (by decide +kernel)
      · exact around hcall.2.appliesOnly (by decide +kernel)

/-! ## The functions of a model -/

/-- A numbered name belongs to a word. -/
theorem numbered_word {stem : String} (hstem : stem.toList.all isWordChar = true) (n : Nat) :
    (∀ c ∈ (stem ++ toString n).toList, isWordChar c = true) ∧ stem ++ toString n ≠ "" := by
  constructor
  · rw [String.toList_append, List.forall_mem_append]
    refine ⟨List.all_eq_true.mp hstem, fun c hc => ?_⟩
    exact isWordChar_of_isDigit (isDigit_of_mem_toString n c hc)
  · intro hempty
    simp at hempty

/-- A line that applies a numbered name.  Its literals end and begin inside the call. -/
theorem Text.Opens.numbered {first last : String} {n : Nat} (left stem right : String)
    (hfirst : left ++ stem = first) (hlast : "(" ++ right = last)
    (hname : known (stem ++ toString n)) (hstem : stem.toList.all isWordChar = true)
    (hleft : Opens known left) (hright : Opens known right) :
    Opens known (first ++ toString n ++ last) := by
  subst hfirst hlast
  have hword := numbered_word hstem n
  have hcall := hleft.append_call hname hword.1 hword.2 hright
  simpa only [String.append_assoc] using hcall

theorem distanceDefinition_appliesOnly (hlanguage : ∀ n ∈ language, known n) {m : Model}
    (hshape : known (shapeFunction m.id m.shape)) : (distanceDefinition m).AppliesOnly known := by
  have hcell : Opens known "vec3(0.0)" :=
    Opens.literal languageSpelling hlanguage (by decide +kernel)
  have hcall := shapeCall_opens hshape (.literal (by decide) : Text.AppliesOnly known "p")
    hcell.2.appliesOnly
  have hreturn : Opens known "return " :=
    Opens.literal languageSpelling hlanguage (by decide +kernel)
  refine .of_statements (List.forall_mem_singleton.mpr (.line ?_))
  exact (hreturn.close hcall.2.appliesOnly (by decide)).2

example : (distanceDefinition ⟨1, ⟨1, 4⟩, {}⟩).applied = ["shape1_4", "vec3"] := by
  decide +kernel

theorem slopeText_opens {model : Nat} {step : String} (hname : known ("distance" ++ toString model))
    (hstep : '(' ∉ step.toList) : Opens known (slopeText model step) := by
  have hword := @numbered_word "distance" (by decide) model
  have hbehind : Opens known ("p - e." ++ step ++ ")") :=
    (Opens.silent (by decide)).close (.of_no_parenthesis hstep) (by decide)
  have hahead : Opens known ("distance" ++ toString model ++ "(" ++ "p + e." ++ step ++ ") - ") :=
    ((Opens.call hname hword).append (Opens.silent (by decide))).close
      (.of_no_parenthesis hstep) (by decide)
  have hslope := hahead.append_call hname hword.1 hword.2 hbehind
  have htext : slopeText model step = "distance" ++ toString model ++ ("(" ++ "p + e.") ++ step ++
      (") - " ++ "distance") ++ toString model ++ ("(" ++ "p - e.") ++ step ++ ")" := rfl
  rw [htext]
  simpa only [String.append_assoc] using hslope

theorem normalDefinition_appliesOnly (hlanguage : ∀ n ∈ language, known n) {m : Model}
    (hdistance : known ("distance" ++ toString m.id)) : (normalDefinition m).AppliesOnly known := by
  have hindent : Opens known "    " := Opens.silent (by decide)
  have hslope : ∀ step : String, '(' ∉ step.toList → Text.AppliesOnly known (slopeText m.id step) :=
    fun step hstep => (slopeText_opens hdistance hstep).2.appliesOnly
  refine .of_statements ?_
  simp only [normalDefinition, List.forall_mem_cons]
  refine ⟨.line (Opens.literal languageSpelling hlanguage (by decide +kernel)).2,
    .line (Opens.literal languageSpelling hlanguage (by decide +kernel)).2,
    .line ?_, .line ?_, .line ?_, List.forall_mem_nil _⟩
  · exact (hindent.close (hslope _ (by decide)) (by decide)).2
  · exact (hindent.close (hslope _ (by decide)) (by decide)).2
  · exact (hindent.close (hslope _ (by decide)) (by decide)).2

/-- The function of a material applies the language, beyond what its fields apply. -/
theorem materialDefinition_appliesOnly (hlanguage : ∀ n ∈ language, known n) {name : String}
    {m : Material} (hfields : ∀ f ∈ m.fields, Embeds known f.2.glsl) :
    (materialDefinition name m).AppliesOnly known := by
  have hfield : ∀ f ∈ m.fields, Text.AppliesOnly known (materialFieldText f.1 f.2) := by
    intro f hf
    unfold materialFieldText
    split
    · exact (hfields f hf).applies
    · exact (Expression.glslScalar_embeds (hfields f hf)).applies
  have hnames : ∀ f ∈ m.fields, '(' ∉ f.1.toList := by
    simp only [Material.fields, List.forall_mem_cons]
    exact ⟨by decide, by decide, by decide, by decide, by decide, by decide, List.forall_mem_nil _⟩
  refine .of_statements ?_
  simp only [materialDefinition, List.forall_mem_append, List.forall_mem_singleton,
    List.forall_mem_map]
  refine ⟨⟨⟨?_, .line ?_⟩, fun f hf => .line ?_⟩, .line ?_⟩
  · split
    · exact List.forall_mem_singleton.mpr
        (.line (Opens.literal languageSpelling hlanguage (by decide +kernel)).2)
    · exact List.forall_mem_nil _
  · exact (Opens.silent (by decide)).2
  · have hleft : Opens known ("m." ++ f.1 ++ " = ") :=
      (Opens.silent (by decide)).close (.of_no_parenthesis (hnames f hf)) (by decide)
    exact (hleft.close (hfield f hf) (by decide)).2
  · exact (Opens.silent (by decide)).2

/-! ## The choice among the models -/

theorem number_appliesOnly (n : Nat) : Text.AppliesOnly known (toString n) :=
  .of_no_parenthesis fun hmem => absurd (isDigit_of_mem_toString n _ hmem) (by decide)

theorem closestDefinition_appliesOnly (hlanguage : ∀ n ∈ language, known n)
    (hclosest : known "Closest") {models : List Model}
    (hdistance : ∀ m ∈ models, known ("distance" ++ toString m.id)) :
    (closestDefinition models).AppliesOnly known := by
  have hbase : ∀ n ∈ "Closest" :: language, known n :=
    List.forall_mem_cons.mpr ⟨hclosest, hlanguage⟩
  have lit : ∀ {cs}, literalOpens (Spelling.cons _ languageSpelling).chars cs = true →
      Opens known (String.ofList cs) := Opens.literal (.cons _ languageSpelling) hbase
  have hcase : ∀ m ∈ models, ∀ s ∈ closestCase m, s.Complete known := by
    intro m hm
    simp only [closestCase, List.forall_mem_cons]
    refine ⟨.blank, .line ?_, .block ?_ (List.forall_mem_singleton.mpr (.line ?_)),
      List.forall_mem_nil _⟩
    · exact (Opens.numbered "candidate = abs(" "distance" "position));" rfl rfl (hdistance m hm)
        (by decide) (lit (by decide +kernel)) (lit (by decide +kernel))).2
    · have hheader : Opens known "if (candidate < closest.distance)" := lit (by decide +kernel)
      exact (hheader.append (lit (by decide +kernel))).2
    · exact ((lit (by decide +kernel)).close (number_appliesOnly m.id) (by decide)).2
  refine .of_statements ?_
  simp only [closestDefinition, List.forall_mem_append, List.forall_mem_cons]
  refine ⟨⟨⟨.line (lit (by decide +kernel)).2, .line (lit (by decide +kernel)).2,
    List.forall_mem_nil _⟩, fun s hs => ?_⟩, .blank, .line (lit (by decide +kernel)).2,
    List.forall_mem_nil _⟩
  obtain ⟨m, hm, hs⟩ := List.mem_flatMap.mp hs
  exact hcase m hm s hs

theorem objectCase_complete (hlanguage : ∀ n ∈ language, known n) (m : Model) {statement : String}
    (h : Opens known statement) : (objectCase m statement).Complete known := by
  refine .guard ?_ (.line h.2)
  exact (Opens.around languageSpelling hlanguage (number_appliesOnly m.id) (by decide +kernel)).2

theorem normalChoice_appliesOnly (hlanguage : ∀ n ∈ language, known n) {models : List Model}
    (hnormal : ∀ m ∈ models, known ("normal" ++ toString m.id)) :
    (normalChoice models).AppliesOnly known := by
  have lit : ∀ {cs}, literalOpens languageSpelling.chars cs = true →
      Opens known (String.ofList cs) := Opens.literal languageSpelling hlanguage
  refine .of_statements ?_
  simp only [normalChoice, List.forall_mem_append, List.forall_mem_map, List.forall_mem_singleton]
  refine ⟨fun m hm => objectCase_complete hlanguage m ?_, .line (lit (by decide +kernel)).2⟩
  exact Opens.numbered "return " "normal" "position);" rfl rfl (hnormal m hm) (by decide)
    (lit (by decide +kernel)) (lit (by decide +kernel))

theorem materialChoice_appliesOnly (hlanguage : ∀ n ∈ language, known n)
    (hmaterial : known "Material") {models : List Model}
    (hmaterials : ∀ m ∈ models, known ("material" ++ toString m.id)) :
    (materialChoice models).AppliesOnly known := by
  have hbase : ∀ n ∈ "Material" :: language, known n :=
    List.forall_mem_cons.mpr ⟨hmaterial, hlanguage⟩
  have lit : ∀ {cs}, literalOpens (Spelling.cons _ languageSpelling).chars cs = true →
      Opens known (String.ofList cs) := Opens.literal (.cons _ languageSpelling) hbase
  refine .of_statements ?_
  simp only [materialChoice, List.forall_mem_append, List.forall_mem_map, List.forall_mem_singleton]
  refine ⟨fun m hm => objectCase_complete hlanguage m ?_, .line (lit (by decide +kernel)).2⟩
  exact Opens.numbered "return " "material" "position, normal, direction);" rfl rfl
    (hmaterials m hm) (by decide) (lit (by decide +kernel)) (lit (by decide +kernel))

end ImplicitScene
