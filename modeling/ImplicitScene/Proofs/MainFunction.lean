import ImplicitScene.Proofs.FunctionText
import ImplicitScene.Proofs.Replacing

/-!
# What the main function applies

The main function is a template with a slot for every field of the camera.  A
template falls into pieces: texts without a dollar sign, and slots.  Filling a
name replaces its slots and leaves the other pieces alone, since a pattern begins
with a dollar sign and ends with its only closing brace.

The filled text is cut into lines, which are trimmed and indented.  None of this
touches a token.  So the words that the main function applies are those of the
filled text, where the fields of the camera stand between literals.
-/

namespace ImplicitScene

open Text

/-! ## Pieces of a template -/

namespace Template

/-- A part of a template. -/
inductive Piece where
  /-- A text without slots. -/
  | text (s : String)
  /-- The slot of a name. -/
  | slot (name : String)

namespace Piece

/-- The text of a piece. -/
def string : Piece → String
  | text s => s
  | slot name => Template.slot name

/-- The piece when a name has a value. -/
def fill (name value : String) : Piece → Piece
  | text s => text s
  | slot n => if n = name then text value else slot n

/-- A text has no dollar sign, and a name has neither a dollar sign nor a closing brace. -/
def Fillable : Piece → Prop
  | text s => '$' ∉ s.toList
  | slot name => '$' ∉ name.toList ∧ '\x7d' ∉ name.toList

end Piece

/-- The template of several pieces. -/
def render (pieces : List Piece) : String := String.join (pieces.map Piece.string)

theorem slot_toList (name : String) :
    (slot name).toList = '$' :: '\x7b' :: (name.toList ++ ['\x7d']) := by
  simp [slot, braced, String.toList_append]

theorem replaceFrom_piece {name value : String} (hname : '\x7d' ∉ name.toList) {p : Piece}
    (hp : p.Fillable) (b : List Char) :
    replaceFrom (slot name).toList value.toList 0 (p.string.toList ++ b) =
      (p.fill name value).string.toList ++ replaceFrom (slot name).toList value.toList 0 b := by
  rw [slot_toList]
  cases p with
  | text s => exact replaceFrom_append_of_not_mem _ _ b hp
  | slot n =>
      by_cases hn : n = name
      · subst hn
        simp only [Piece.string, Piece.fill, if_pos, slot_toList]
        exact replaceFrom_pattern _ _ _ b
      · -- the pattern starts at the dollar sign and fails, and no other dollar sign follows
        have hprefix : ¬('$' :: '\x7b' :: (name.toList ++ ['\x7d'])).isPrefixOf
            ('$' :: '\x7b' :: (n.toList ++ '\x7d' :: b)) = true := by
          intro h
          rw [List.isPrefixOf_iff_prefix, List.cons_prefix_cons, List.cons_prefix_cons] at h
          exact hn (String.toList_injective (eq_of_slot_begins hp.2 hname h.2.2).symm)
        have hrest : '$' ∉ '\x7b' :: (n.toList ++ ['\x7d']) := by simp [hp.1]
        simp only [Piece.string, Piece.fill, if_neg hn, slot_toList, List.cons_append,
          List.append_assoc, List.nil_append]
        rw [replaceFrom, if_neg hprefix]
        have hskip := replaceFrom_append_of_not_mem ('\x7b' :: (name.toList ++ ['\x7d']))
          value.toList
          b hrest
        simpa using hskip

theorem replaceAll_render {name value : String} (hname : '\x7d' ∉ name.toList) {pieces : List Piece}
    (h : ∀ p ∈ pieces, p.Fillable) :
    replaceAll (render pieces) (slot name) value = render (pieces.map (Piece.fill name value)) := by
  apply String.toList_injective
  rw [replaceAll, String.toList_ofList, render, render, String.toList_join, String.toList_join]
  induction pieces with
  | nil => rfl
  | cons p pieces ih =>
      rw [List.forall_mem_cons] at h
      simp only [List.map_cons, List.flatMap_cons]
      rw [replaceFrom_piece hname h.1, ih h.2]

/-- Filling the names in turn.  Values without a dollar sign bring in no slots. -/
theorem fill_render : ∀ {values : List (String × String)} {pieces : List Piece},
    (∀ v ∈ values, '\x7d' ∉ v.1.toList ∧ '$' ∉ v.2.toList) → (∀ p ∈ pieces, p.Fillable) →
      fill (render pieces) values =
        render (values.foldl (fun pieces v => pieces.map (Piece.fill v.1 v.2)) pieces)
  | [], _, _, _ => rfl
  | (name, value) :: values, pieces, hv, h => by
      rw [List.forall_mem_cons] at hv
      have hfilled : ∀ p ∈ pieces.map (Piece.fill name value), p.Fillable := by
        rw [List.forall_mem_map]
        intro p hp
        cases p with
        | text s => exact h _ hp
        | slot n =>
            rw [Piece.fill]
            split
            · exact hv.1.2
            · exact h _ hp
      have hstep : fill (render pieces) ((name, value) :: values) =
          fill (replaceAll (render pieces) (slot name) value) values := rfl
      rw [hstep, replaceAll_render hv.1.1 h, List.foldl_cons]
      exact fill_render hv.2 hfilled

end Template

/-! ## Lines of a text -/

theorem lex_trimEnd (cs : List Char) : lex (trimEnd cs) = lex cs := by
  have hcs : cs = trimEnd cs ++ (cs.reverse.takeWhile isBlank).reverse := by
    rw [trimEnd, ← List.reverse_append, List.takeWhile_append_dropWhile, List.reverse_reverse]
  have hblank : ∀ c ∈ (cs.reverse.takeWhile isBlank).reverse, isBlank c = true := by
    intro c hc
    exact List.all_eq_true.mp List.all_takeWhile c (List.mem_reverse.mp hc)
  rw [← lex_append_blank (trimEnd cs) hblank, ← hcs]

theorem lex_splitLines : ∀ current cs : List Char,
    (splitLines current cs).flatMap lex = lex (current.reverse ++ cs)
  | [], [] => rfl
  | c :: current, [] => by simp [splitLines]
  | current, c :: cs => by
      rw [splitLines]
      split
      next hc =>
        subst hc
        have hbreak : lex (current.reverse ++ '\n' :: cs) = lex current.reverse ++ lex cs := by
          have hline : endsApart (current.reverse ++ ['\n']) = true :=
            endsApart_append (by decide) fun hnil => by cases hnil
          rw [List.append_cons, lex_append_of_endsApart hline,
            lex_append_blank _ (List.all_eq_true.mp (by decide))]
        rw [List.flatMap_cons, lex_splitLines [] cs, hbreak]
        rfl
      next =>
        rw [lex_splitLines (c :: current) cs]
        simp

/-- Cutting a text into lines, trimming and indenting them keeps its tokens. -/
theorem lex_lines (signature : Signature) (text : String) :
    lex (FunctionDef.bodyText ⟨signature, Statement.lines text⟩).toList = lex text.toList := by
  have hrows : ∀ lines : List (List Char),
      ((Statement.rowsOfAll 1 (lines.map Statement.ofLine)).flatMap fun row => lex row.toList) =
        lines.flatMap lex := by
    intro lines
    induction lines with
    | nil => rfl
    | cons cs lines ih =>
        have hrow : ((Statement.rows 1 (Statement.ofLine cs)).flatMap fun row => lex row.toList) =
            lex cs := by
          cases cs with
          | nil => simp [Statement.ofLine, Statement.rows]
          | cons c cs =>
              simp only [Statement.ofLine, Statement.rows, List.flatMap_cons, List.flatMap_nil,
                List.append_nil, String.toList_append, String.toList_ofList]
              exact lex_blank_append (indentation_blank 1) _
        rw [List.map_cons, Statement.rowsOfAll, List.flatMap_append, hrow, ih, List.flatMap_cons]
  rw [FunctionDef.bodyText, lex_rows, Statement.lines, hrows, trimmedLines, List.flatMap_map]
  simp only [lex_trimEnd]
  exact lex_splitLines [] text.toList

/-! ## The main function -/

namespace PathTracing

/-- The characters of the lines. -/
def linesSpelling : Spelling lines := by
  repeat first | exact .nil | refine .cons _ ?_

/-- The characters after the last slot. -/
def remainderChars : List Char :=
  ';' :: '\n' :: ['\n'].intercalate (linesSpelling.chars.drop 5)

open Template (Piece)

/-- The pieces of the template. -/
def pieces : List Piece :=
  [.text "vec3 eye = ", .slot "eye", .text ";\nvec3 target = ", .slot "target",
    .text ";\nvec3 up = ", .slot "up", .text ";\nfloat fieldOfView = ", .slot "field_of_view",
    .text ";\nfloat aperture = ", .slot "aperture", .text (String.ofList remainderChars)]

theorem template_eq_render : template = Template.render pieces := by
  apply String.toList_injective
  rw [template, String.toList_intercalate, linesSpelling.map_toList, Template.render,
    String.toList_join]
  simp only [pieces, List.map_cons, List.map_nil, List.flatMap_cons, List.flatMap_nil, Piece.string,
    Template.slot_toList, String.toList_ofList]
  decide +kernel

theorem pieces_fillable : ∀ p ∈ pieces, p.Fillable := by
  simp only [pieces, List.forall_mem_cons, Piece.Fillable, String.toList_ofList, List.not_mem_nil,
    false_implies, implies_true, and_true]
  decide +kernel

/-- The functions that the main function calls, and the structure it builds. -/
def needed : List String :=
  ["random", "calculateSample", "sampleSphere", "calculateClosest", "calculateNormal",
    "calculateMaterial", "materialAir", "Closest"]

/-- The letters of the words of the main function. -/
def neededSpelling : Spelling (needed ++ language) := by
  repeat first | exact languageSpelling | refine .cons _ ?_

/-- The text of the main function, with the fields of the camera in their places. -/
theorem fill_template {eye target up fieldOfView aperture : String} (heye : '$' ∉ eye.toList)
    (htarget : '$' ∉ target.toList) (hup : '$' ∉ up.toList) (hfield : '$' ∉ fieldOfView.toList)
    (haperture : '$' ∉ aperture.toList) :
    Template.fill template [("eye", eye), ("target", target), ("up", up),
        ("field_of_view", fieldOfView), ("aperture", aperture)] =
      "vec3 eye = " ++ eye ++ ";\nvec3 target = " ++ target ++ ";\nvec3 up = " ++ up ++
        ";\nfloat fieldOfView = " ++ fieldOfView ++ ";\nfloat aperture = " ++ aperture ++
        String.ofList remainderChars := by
  have hvalues : ∀ v ∈ [("eye", eye), ("target", target), ("up", up),
      ("field_of_view", fieldOfView), ("aperture", aperture)],
      '\x7d' ∉ v.1.toList ∧ '$' ∉ v.2.toList := by
    simp only [List.forall_mem_cons]
    exact ⟨⟨by decide, heye⟩, ⟨by decide, htarget⟩, ⟨by decide, hup⟩, ⟨by decide, hfield⟩,
      ⟨by decide, haperture⟩, List.forall_mem_nil _⟩
  rw [template_eq_render, Template.fill_render hvalues pieces_fillable]
  simp [pieces, Piece.fill, Template.render, Piece.string, String.append_assoc]

end PathTracing

/-- The main function applies the language and the words in `PathTracing.needed`, beyond what the
fields of the camera apply. -/
theorem mainFunction_appliesOnly {known : String → Prop} (hlanguage : ∀ n ∈ language, known n)
    (hneeded : ∀ n ∈ PathTracing.needed, known n) {c : Camera}
    (hcamera : ∀ s ∈ c.slots, Embeds known s.content.glsl) :
    (mainFunction c).AppliesOnly known := by
  simp only [Camera.slots, List.forall_mem_cons] at hcamera
  obtain ⟨heye, htarget, hup, hfield, haperture, -⟩ := hcamera
  replace hfield := Expression.glslScalar_embeds hfield
  replace haperture := Expression.glslScalar_embeds haperture
  have hdollar : ∀ {text : String}, Embeds known text → '$' ∉ text.toList := fun h hmem =>
    absurd (h.plain _ hmem) (by decide)
  have hbase : ∀ n ∈ PathTracing.needed ++ language, known n :=
    List.forall_mem_append.mpr ⟨hneeded, hlanguage⟩
  intro n hn
  obtain ⟨w, hw, rfl⟩ := List.mem_map.mp hn
  rw [mainFunction, PathTracing.function, lex_lines, PathTracing.fill_template (hdollar heye)
    (hdollar htarget) (hdollar hup) (hdollar hfield) (hdollar haperture)] at hw
  refine (?_ : Opens known _).2.appliesOnly w hw
  have hfirst : Opens known "vec3 eye = " := Opens.silent (by decide)
  refine Opens.fill ?_ haperture.applies PathTracing.neededSpelling hbase (by decide +kernel)
  refine Opens.close ?_ hfield.applies (by decide)
  refine Opens.close ?_ hup.applies (by decide)
  refine Opens.close ?_ htarget.applies (by decide)
  exact hfirst.close heye.applies (by decide)

end ImplicitScene
