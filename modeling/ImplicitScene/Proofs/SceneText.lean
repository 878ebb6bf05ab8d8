import ImplicitScene.Proofs.Agreement
import ImplicitScene.Proofs.ProgramText

/-!
# The program text determines the picture

Two scenes that were built, without snippets and with ordinary literals, and that
have the same program text are traced alike (`tracePixel_eq_of_compile`).

The text determines the lines of every function by its name.  The function that
finds the closest model has five lines for each model, so the scenes have equally
many.  The function of a shape is named for its number, and its lines name the
numbers of its children.  So the distances agree by induction on the number, in
the order that the shapes were made in.  The lines of a material and of the main
function hold the texts of the fields.
-/

namespace ImplicitScene

open Text

/-! ## The expressions of a scene -/

/-- The expressions of a scene in their slots, without those of shapes that no model is made
from. -/
def Scene.slots (scene : Scene) : List Slot :=
  scene.usedKinds.flatMap Kind.parameters ++ scene.models.flatMap (fun m => m.material.slots) ++
    scene.camera.slots ++ scene.air.slots

/-- The numbers that are written in the expressions of a scene. -/
def Scene.literals (scene : Scene) : List Float32 :=
  scene.slots.flatMap fun s => s.content.literals

/-- A scene whose expressions are legible and fit their slots. -/
structure Scene.Legible (scene : Scene) : Prop where
  /-- The parameters of the shapes below the models fit. -/
  shapes : ∀ m ∈ scene.models, ∀ x ∈ scene.shapes.order m.shape, ∀ node,
    scene.shapes.get? x = some node → ∀ s ∈ node.kind.parameters, Slot.Fit s
  /-- The materials of the models fit. -/
  materials : ∀ m ∈ scene.models, ∀ s ∈ m.material.slots, Slot.Fit s
  /-- The camera fits. -/
  camera : ∀ s ∈ scene.camera.slots, Slot.Fit s
  /-- The air fits. -/
  air : ∀ s ∈ scene.air.slots, Slot.Fit s

theorem Material.isOpaque_of_not_hasSnippet {m : Material} (h : ¬m.HasSnippet) :
    ∀ s ∈ m.slots, s.content.isOpaque = false := by
  intro s hs
  have hfield : ∃ f ∈ m.fields, f.2 = s.content := by
    revert s
    simp [slots, fields]
  obtain ⟨f, hf, hcontent⟩ := hfield
  exact Bool.eq_false_iff.mpr fun hsnippet => h ⟨f, hf, hcontent ▸ hsnippet⟩

/-- Without snippets and with ordinary literals, the scene of a builder is legible. -/
theorem Builder.WellFormed.legible {b : Builder} (hw : b.WellFormed) (ho : ¬b.scene.HasSnippet)
    (hl : ∀ x ∈ b.scene.literals, ordinary x = true) : b.scene.Legible := by
  have hfit : ∀ {s : Slot}, s ∈ b.scene.slots → s.checkType = .ok () →
      s.content.isOpaque = false → s.Fit := by
    intro s hs hcheck hclear
    obtain ⟨t, ht, hdemand⟩ := Slot.type_of_checkType hcheck
    have hplain : ∀ x ∈ s.content.literals, ordinary x = true := fun x hx =>
      hl x (List.mem_flatMap.mpr ⟨s, hs, hx⟩)
    refine ⟨⟨⟨t, ht⟩, hclear, hplain⟩, fun d hd => ?_⟩
    rw [ht, hdemand d hd]
  simp only [Scene.slots, Scene.usedKinds, List.mem_append, List.mem_flatMap, List.mem_map,
    List.mem_filterMap] at hfit
  constructor
  · intro m hm x hx node hnode s hs
    refine hfit (Or.inl (Or.inl (Or.inl ⟨node.kind, ⟨m, hm, node, ⟨x, hx, hnode⟩, rfl⟩, hs⟩)))
      (hw.shapes.slot (Arena.mem_of_get? hnode) s hs).1 (Bool.eq_false_iff.mpr ?_)
    exact fun hsnippet => ho (Or.inl ⟨m, hm, Or.inl ⟨x, hx, node, hnode, s, hs, hsnippet⟩⟩)
  · intro m hm s hs
    refine hfit (Or.inl (Or.inl (Or.inr ⟨m, hm, hs⟩)))
      (Slot.all_eq_ok.mp (hw.model_material m hm) s hs) ?_
    exact Material.isOpaque_of_not_hasSnippet
      (fun hsnippet => ho (Or.inl ⟨m, hm, Or.inr hsnippet⟩)) s hs
  · intro s hs
    refine hfit (Or.inl (Or.inr hs)) (Slot.checkAll_eq_ok.mp hw.camera s hs).1
      (Bool.eq_false_iff.mpr ?_)
    exact fun hsnippet => ho (Or.inr (Or.inl ⟨s, hs, hsnippet⟩))
  · intro s hs
    refine hfit (Or.inr hs) (Slot.all_eq_ok.mp hw.air s hs) ?_
    exact Material.isOpaque_of_not_hasSnippet (fun hsnippet => ho (Or.inr (Or.inr hsnippet))) s hs

/-! ## Lines of the functions -/

theorem materialFieldText_flat {m : Material} (h : ∀ s ∈ m.slots, Slot.Fit s) :
    ∀ f ∈ m.fields, Flat (materialFieldText f.1 f.2) := by
  intro f hf
  obtain ⟨s, hs, hcontent⟩ := Material.exists_slot_of_mem_fields hf
  rw [← hcontent, materialFieldText]
  split
  · exact (h s hs).legible.closed.not_mem_newline
  · exact (h s hs).legible.closed_glslScalar.not_mem_newline

theorem Scene.Legible.definitions_laid {scene : Scene} (h : scene.Legible) :
    ∀ f ∈ scene.definitions, f.Laid := by
  have hmodel : ∀ m ∈ scene.models, ∀ f ∈ modelDefinitions scene.shapes m, f.Laid := by
    intro m hm
    simp only [modelDefinitions, List.forall_mem_append, List.forall_mem_map, List.forall_mem_cons,
      List.mem_filterMap, forall_exists_index, and_imp]
    exact ⟨fun node x hx hnode => shapeDefinition_laid m.id (h.shapes m hm x hx node hnode),
      distanceDefinition_laid m, normalDefinition_laid m,
      materialDefinition_laid (numbered_word (by decide) m.id).1
        (materialFieldText_flat (h.materials m hm)), List.forall_mem_nil _⟩
  simp only [definitions, List.forall_mem_append, List.forall_mem_map, List.forall_mem_cons,
    List.mem_flatMap, forall_exists_index, and_imp]
  exact ⟨⟨⟨fun h _ => h.function_laid, mainFunction_laid _, List.forall_mem_nil _⟩,
      fun f m hm hf => hmodel m hm f hf⟩,
    materialDefinition_laid (List.all_eq_true.mp (by decide)) (materialFieldText_flat h.air),
    closestDefinition_laid _, normalChoice_laid _, materialChoice_laid _, List.forall_mem_nil _⟩

theorem Statement.rowsOfAll_lines (indent : Nat) (texts : List String) (ss : List Statement) :
    rowsOfAll indent (texts.map .line ++ ss) =
      texts.map (indentation indent ++ ·) ++ rowsOfAll indent ss := by
  induction texts with
  | nil => rfl
  | cons text texts ih =>
      rw [List.map_cons, List.cons_append, rowsOfAll, ih]
      rfl

theorem indented_inj {indent : Nat} {texts texts' : List String}
    (h : texts.map (indentation indent ++ ·) = texts'.map (indentation indent ++ ·)) :
    texts = texts' :=
  List.map_injective_iff.mpr (fun _ _ => (String.append_right_inj _).mp) h

/-- The lines of a function whose body is lines determine them. -/
theorem FunctionDef.lines_inj {s s' : Signature} {texts texts' : List String}
    (h : FunctionDef.lines ⟨s, texts.map .line⟩ = FunctionDef.lines ⟨s', texts'.map .line⟩) :
    texts = texts' := by
  have hlines := fun texts => Statement.rowsOfAll_lines 1 texts []
  simp only [List.append_nil, Statement.rowsOfAll] at hlines
  rw [lines, lines, hlines, hlines] at h
  exact indented_inj h

theorem closestDefinition_lines_length (models : List Model) :
    (closestDefinition models).lines.length = 5 * models.length + 4 := by
  have hcases : ∀ models : List Model,
      (Statement.rowsOfAll 1
        (models.flatMap closestCase ++
          [Statement.blank, Statement.line "return closest;"])).length =
        5 * models.length + 2 := by
    intro models
    induction models with
    | nil => rfl
    | cons m models ih =>
        rw [List.flatMap_cons, List.append_assoc, List.length_cons, Nat.mul_add, Nat.add_right_comm,
          ← ih]
        rfl
  exact congrArg (· + 2) (hcases models)

theorem rowsOfAll_materialStatements (m : Material) :
    Statement.rowsOfAll 1 (materialStatements m) =
      ("Material m;" :: (m.fields.map fun f =>
        "m." ++ f.1 ++ " = " ++ materialFieldText f.1 f.2 ++ ";") ++ ["return m;"]).map
          (indentation 1 ++ ·) := by
  have hlines := Statement.rowsOfAll_lines 1 ("Material m;" :: (m.fields.map fun f =>
    "m." ++ f.1 ++ " = " ++ materialFieldText f.1 f.2 ++ ";") ++ ["return m;"]) []
  rw [List.append_nil, Statement.rowsOfAll, List.append_nil] at hlines
  rw [← hlines, materialStatements]
  simp only [List.map_append, List.map_cons, List.map_map, List.map_nil]
  rfl

/-- The lines of a material determine the texts of its fields. -/
theorem materialDefinition_lines_inj {name name' : String} {m m' : Material}
    (h : (materialDefinition name m).lines = (materialDefinition name' m').lines) :
    m.fields.map (fun f => materialFieldText f.1 f.2) =
      m'.fields.map fun f => materialFieldText f.1 f.2 := by
  rw [materialDefinition_lines, materialDefinition_lines, rowsOfAll_materialStatements,
    rowsOfAll_materialStatements] at h
  have htexts := indented_inj (List.append_inj' h (by simp [Material.fields])).2
  simp only [Material.fields, List.map_cons, List.map_nil, List.cons_append, List.nil_append,
    List.cons.injEq, String.append_right_inj, String.append_left_inj, and_true, true_and] at htexts
  simpa only [Material.fields, List.map_cons, List.map_nil, List.cons.injEq, and_true] using htexts

theorem Material.sample_eq {m m' : Material} (hm : ∀ s ∈ m.slots, Slot.Fit s)
    (hm' : ∀ s ∈ m'.slots, Slot.Fit s)
    (h : m.fields.map (fun f => materialFieldText f.1 f.2) =
      m'.fields.map fun f => materialFieldText f.1 f.2) (ctx : Context) :
    m.sample ctx = m'.sample ctx := by
  simp only [slots, List.forall_mem_cons] at hm hm'
  obtain ⟨hcolor, htransmittance, hsmoothness, hrefraction, hscatter, hemissivity, -⟩ := hm
  obtain ⟨hcolor', htransmittance', hsmoothness', hrefraction', hscatter', hemissivity', -⟩ := hm'
  simp only [fields, List.map_cons, List.map_nil, List.cons.injEq, and_true] at h
  obtain ⟨h₁, h₂, h₃, h₄, h₅, h₆⟩ := h
  simp only [sample, htransmittance.sameScalar htransmittance' h₁ ctx,
    hsmoothness.sameScalar hsmoothness' h₂ ctx, hrefraction.sameScalar hrefraction' h₃ ctx,
    hscatter.sameScalar hscatter' h₄ ctx, hcolor.sameVector hcolor' rfl rfl h₅ ctx,
    hemissivity.sameVector hemissivity' rfl rfl h₆ ctx]

/-! ## The camera -/

/-- A line that ends with a semicolon is not trimmed. -/
theorem Statement.lines_append {line : String} (h : Flat line) (rest : String) :
    lines (line ++ (";\n" ++ rest)) = .line (line ++ ";") :: lines rest := by
  have hsplit : (line ++ (";\n" ++ rest)).toList = (line ++ ";").toList ++ '\n' :: rest.toList := by
    simp [String.toList_append]
  have hflat : '\n' ∉ (line ++ ";").toList := flat_append.mpr ⟨h, by decide⟩
  have htrim : trimEnd (line ++ ";").toList = (line ++ ";").toList := by
    have hsemicolon : isBlank ';' = false := by decide
    simp [trimEnd, String.toList_append, List.reverse_append, hsemicolon]
  have hline : ofLine (line ++ ";").toList = .line (line ++ ";") := by
    cases hcs : (line ++ ";").toList with
    | nil => simp [String.toList_append] at hcs
    | cons c cs => rw [ofLine, ← hcs, String.ofList_toList]; simp
  rw [lines, trimmedLines, hsplit, splitLines_append hflat, List.map_cons, List.map_cons,
    List.reverse_nil, List.nil_append, htrim, hline]
  rfl

/-- The text of the main function after the lines of the camera. -/
def PathTracing.remainder : String :=
  String.ofList (['\n'].intercalate (linesSpelling.chars.drop 5))

theorem PathTracing.ofList_remainderChars : String.ofList remainderChars = ";\n" ++ remainder := by
  have hcons : ∀ cs, String.ofList (';' :: '\n' :: cs) = ";\n" ++ String.ofList cs := by
    intro cs
    rw [← String.toList_inj]
    simp
  exact hcons _

/-- The lines of the main function that set the fields of the camera. -/
def Camera.texts (c : Camera) : List String :=
  ["vec3 eye = " ++ c.eye.glsl ++ ";", "vec3 target = " ++ c.target.glsl ++ ";",
    "vec3 up = " ++ c.up.glsl ++ ";", "float fieldOfView = " ++ c.fieldOfView.glslScalar ++ ";",
    "float aperture = " ++ c.aperture.glslScalar ++ ";"]

/-- The main function begins with a line for each field of the camera. -/
theorem mainFunction_lines {c : Camera} (h : ∀ s ∈ c.slots, Slot.Fit s) :
    (mainFunction c).lines = c.texts.map (indentation 1 ++ ·) ++
      Statement.rowsOfAll 1 (Statement.lines PathTracing.remainder) := by
  have hplain : ∀ s ∈ c.slots, Embeds (fun _ => True) s.content.glsl := by
    intro s hs
    obtain ⟨t, ht⟩ := (h s hs).legible.typed
    exact s.content.glsl_embeds (fun _ _ => trivial) trivial ht (h s hs).legible.clear
  simp only [Camera.slots, List.forall_mem_cons] at hplain
  obtain ⟨heye, htarget, hup, hfield, haperture, -⟩ := hplain
  replace hfield := Expression.glslScalar_embeds hfield
  replace haperture := Expression.glslScalar_embeds haperture
  have hdollar : ∀ {text : String}, Embeds (fun _ => True) text → '$' ∉ text.toList :=
    fun h hmem => absurd (h.plain _ hmem) (by decide)
  have hflat : ∀ {first text : String}, Flat first → Embeds (fun _ => True) text →
      Flat (first ++ text) := fun hfirst h =>
    flat_append.mpr ⟨hfirst, fun hmem => absurd (h.plain _ hmem) (by decide)⟩
  have hbreaks : ";\nvec3 target = " = ";\n" ++ "vec3 target = " ∧
      ";\nvec3 up = " = ";\n" ++ "vec3 up = " ∧
      ";\nfloat fieldOfView = " = ";\n" ++ "float fieldOfView = " ∧
      ";\nfloat aperture = " = ";\n" ++ "float aperture = " := by decide
  rw [← Statement.rowsOfAll_lines, FunctionDef.lines, mainFunction, PathTracing.function,
    PathTracing.fill_template (hdollar heye) (hdollar htarget) (hdollar hup) (hdollar hfield)
      (hdollar haperture), PathTracing.ofList_remainderChars]
  simp only [Camera.texts, List.map_cons, List.map_nil, List.cons_append, List.nil_append]
  -- the lines are put back before the rest of the text, the last one first
  rw [← Statement.lines_append (hflat (by decide) haperture),
    ← Statement.lines_append (hflat (by decide) hfield),
    ← Statement.lines_append (hflat (by decide) hup),
    ← Statement.lines_append (hflat (by decide) htarget),
    ← Statement.lines_append (hflat (by decide) heye)]
  simp only [hbreaks, String.append_assoc]

theorem Camera.agree_of_lines {c c' : Camera} (hc : ∀ s ∈ c.slots, Slot.Fit s)
    (hc' : ∀ s ∈ c'.slots, Slot.Fit s) (h : (mainFunction c).lines = (mainFunction c').lines) :
    c.Agree c' := by
  rw [mainFunction_lines hc, mainFunction_lines hc'] at h
  have htexts := indented_inj (List.append_cancel_right h)
  simp only [texts, List.cons.injEq, String.append_right_inj, String.append_left_inj,
    and_true] at htexts
  obtain ⟨heye, htarget, hup, hfield, haperture⟩ := htexts
  simp only [slots, List.forall_mem_cons] at hc hc'
  exact
    { eye := hc.1.sameVector hc'.1 rfl rfl heye
      target := hc.2.1.sameVector hc'.2.1 rfl rfl htarget
      up := hc.2.2.1.sameVector hc'.2.2.1 rfl rfl hup
      fieldOfView := hc.2.2.2.1.sameScalar hc'.2.2.2.1 hfield
      aperture := hc.2.2.2.2.1.sameScalar hc'.2.2.2.2.1 haperture }

/-! ## Scenes -/

/-- Builders with legible scenes, whose programs have the same lines under each name. -/
structure Builder.Alike (b b' : Builder) : Prop where
  /-- The first builder is well-formed. -/
  left : b.WellFormed
  /-- The second builder is well-formed. -/
  right : b'.WellFormed
  /-- The first scene is legible. -/
  legible_left : b.scene.Legible
  /-- The second scene is legible. -/
  legible_right : b'.scene.Legible
  /-- Functions of one name have the same lines. -/
  lines : ∀ f ∈ b.scene.definitions, ∀ g ∈ b'.scene.definitions, f.name = g.name → f.lines = g.lines

section Definitions

variable {scene : Scene} {m : Model} (hm : m ∈ scene.models)

include hm

theorem mem_definitions {f : FunctionDef} (hf : f ∈ modelDefinitions scene.shapes m) :
    f ∈ scene.definitions := by
  simp only [Scene.definitions, List.mem_append]
  exact Or.inl (Or.inr (List.mem_flatMap.mpr ⟨m, hm, hf⟩))

theorem shapeDefinition_mem {x : ShapeId} (hx : x ∈ scene.shapes.order m.shape) {node : Node}
    (hnode : scene.shapes.get? x = some node) :
    shapeDefinition m.id node ∈ scene.definitions := by
  refine mem_definitions hm (List.mem_append_left _ (List.mem_map_of_mem ?_))
  exact List.mem_filterMap.mpr ⟨x, hx, hnode⟩

theorem distanceDefinition_mem : distanceDefinition m ∈ scene.definitions :=
  mem_definitions hm (List.mem_append_right _ (.head _))

theorem materialDefinition_mem :
    materialDefinition ("material" ++ toString m.id) m.material ∈ scene.definitions :=
  mem_definitions hm (List.mem_append_right _ (.tail _ (.tail _ (.head _))))

end Definitions

namespace Builder.Alike

variable {b b' : Builder}

theorem of_compile (hb : b.WellFormed) (hb' : b'.WellFormed) (hl : b.scene.Legible)
    (hl' : b'.scene.Legible) {o : Options} (h : b.scene.compile o = b'.scene.compile o) :
    b.Alike b' where
  left := hb
  right := hb'
  legible_left := hl
  legible_right := hl'
  lines _ hf _ hg hname :=
    lines_eq_of_text_eq hl.definitions_laid hl'.definitions_laid hb'.definitions_nodup h hf hg hname

/-- Shapes of one number below models of one number have the same lines, so they match. -/
theorem kind_matches (h : b.Alike b') {m m' : Model} (hm : m ∈ b.models) (hm' : m' ∈ b'.models)
    (hid : m.id = m'.id) {x x' : ShapeId} (hx : x ∈ b.shapes.order m.shape)
    (hx' : x' ∈ b'.shapes.order m'.shape) (hnumber : x.number = x'.number) {node node' : Node}
    (hnode : b.shapes.get? x = some node) (hnode' : b'.shapes.get? x' = some node') :
    node.kind.Matches node'.kind := by
  have hname : shapeFunction m.id node.id = shapeFunction m'.id node'.id := by
    rw [h.left.shapes.id_of_get? hnode, h.right.shapes.id_of_get? hnode', shapeFunction,
      shapeFunction, hid, hnumber]
  have hlines := h.lines _ (shapeDefinition_mem hm hx hnode) _
    (shapeDefinition_mem hm' hx' hnode') hname
  have hbody : node.kind.body m.id = node'.kind.body m.id := by
    rw [FunctionDef.lines_inj hlines, hid]
  exact Kind.matches_of_body (h.legible_left.shapes m hm x hx node hnode)
    (h.legible_right.shapes m' hm' x' hx' node' hnode') hbody

/-- Shapes of one number below models of one number have the same distance. -/
theorem distance_eq (h : b.Alike b') {m m' : Model} (hm : m ∈ b.models) (hm' : m' ∈ b'.models)
    (hid : m.id = m'.id) (ctx : Context) {x x' : ShapeId} (hx : x ∈ b.shapes.order m.shape)
    (hx' : x' ∈ b'.shapes.order m'.shape) (hnumber : x.number = x'.number) (point cell : Float3) :
    b.shapes.distance ctx x point cell = b'.shapes.distance ctx x' point cell := by
  -- what a shape below a model is made from is below the model
  have hbelow : ∀ {b : Builder} {m : Model} {x c : ShapeId}, b.WellFormed → m ∈ b.models →
      x ∈ b.shapes.order m.shape → c ∈ b.shapes.dependencies x → c ∈ b.shapes.order m.shape := by
    intro b m x c hw hm hx hc
    rw [hw.shapes.order_eq (hw.model_shape m hm), hw.shapes.mem_listing_iff] at hx ⊢
    exact hx.tail hc
  obtain ⟨node, hnode⟩ := Arena.exists_get?_of_contains
    (h.left.shapes.contains_of_mem_order (h.left.model_shape m hm) x hx)
  obtain ⟨node', hnode'⟩ := Arena.exists_get?_of_contains
    (h.right.shapes.contains_of_mem_order (h.right.model_shape m' hm') x' hx')
  rw [Arena.distance, Arena.distance, hnode, hnode']
  refine (h.kind_matches hm hm' hid hx hx' hnumber hnode hnode').distance_eq ?_ ctx point cell
  -- children have smaller numbers, and they are below the same models
  intro c hc c' hc' hchild p q
  rw [← Node.dependencies, ← Arena.dependencies_of_get? hnode] at hc
  rw [← Node.dependencies, ← Arena.dependencies_of_get? hnode'] at hc'
  have hlt := (h.left.shapes.child_of_dependencies hc).2
  rw [if_pos hlt, if_pos (h.right.shapes.child_of_dependencies hc').2]
  exact h.distance_eq hm hm' hid ctx (hbelow h.left hm hx hc) (hbelow h.right hm' hx' hc') hchild
    p q
termination_by x.number

theorem models_length (h : b.Alike b') : b.models.length = b'.models.length := by
  have hlines := h.lines (closestDefinition b.models) (by simp [Scene.definitions, scene])
    (closestDefinition b'.models) (by simp [Scene.definitions, scene]) rfl
  have hlength := congrArg List.length hlines
  rw [closestDefinition_lines_length, closestDefinition_lines_length] at hlength
  omega

theorem model_agree (h : b.Alike b') {m m' : Model} (hm : m ∈ b.models) (hm' : m' ∈ b'.models)
    (hid : m.id = m'.id) : Model.Agree b.scene b'.scene m m' where
  id := hid
  distance ctx point cell := by
    have hlines := h.lines _ (distanceDefinition_mem hm) _ (distanceDefinition_mem hm')
      (congrArg (fun n => "distance" ++ toString n) hid)
    have hcall := List.cons.inj (@FunctionDef.lines_inj _ _ [_] [_] hlines)
    rw [String.append_left_inj, String.append_right_inj, hid] at hcall
    have hroot : ∀ {b : Builder} {m : Model}, b.WellFormed → m ∈ b.models →
        m.shape ∈ b.shapes.order m.shape := by
      intro b m hw hm
      rw [hw.shapes.order_eq (hw.model_shape m hm)]
      exact hw.shapes.self_mem_listing m.shape
    exact h.distance_eq hm hm' hid ctx (hroot h.left hm) (hroot h.right hm')
      (shapeCall_inj hcall.1).1 point cell
  material := by
    have hlines := h.lines _ (materialDefinition_mem hm) _ (materialDefinition_mem hm')
      (congrArg (fun n => "material" ++ toString n) hid)
    exact Material.sample_eq (h.legible_left.materials m hm) (h.legible_right.materials m' hm')
      (materialDefinition_lines_inj hlines)

/-- Builders with the same lines have scenes that agree. -/
theorem agree (h : b.Alike b') : b.scene.Agree b'.scene where
  models := by
    refine List.forall₂_iff_get.mpr ⟨h.models_length, fun i hi hi' => ?_⟩
    refine h.model_agree (List.get_mem _ _) (List.get_mem _ _) ?_
    exact (h.left.model_id (List.getElem?_eq_getElem hi)).trans
      (h.right.model_id (List.getElem?_eq_getElem hi')).symm
  camera := by
    have hname : ∀ c : Camera, (mainFunction c).name = "main" := fun c => rfl
    have hlines := h.lines (mainFunction b.camera) (by simp [Scene.definitions, scene])
      (mainFunction b'.camera) (by simp [Scene.definitions, scene])
      ((hname b.camera).trans (hname b'.camera).symm)
    exact Camera.agree_of_lines h.legible_left.camera h.legible_right.camera hlines
  air := by
    have hlines := h.lines (materialDefinition "materialAir" b.air)
      (by simp [Scene.definitions, scene]) (materialDefinition "materialAir" b'.air)
      (by simp [Scene.definitions, scene]) rfl
    exact Material.sample_eq h.legible_left.air h.legible_right.air
      (materialDefinition_lines_inj hlines)

end Builder.Alike

/-- The program text determines the picture: scenes that were built, without snippets and with
literals that are finite and not negative zero, are traced alike if they have one program text. -/
theorem Builder.Reachable.tracePixel_eq_of_compile {b b' : Builder} (hb : b.Reachable)
    (hb' : b'.Reachable) (hs : ¬b.scene.HasSnippet) (hs' : ¬b'.scene.HasSnippet)
    (hl : ∀ x ∈ b.scene.literals, ordinary x = true)
    (hl' : ∀ x ∈ b'.scene.literals, ordinary x = true) {o : Options} (ho : o.validate = .ok ())
    (h : b.scene.compile o = b'.scene.compile o) (uv : Float2) (frame : Frame) (previous : Float4) :
    (Tracer.mk b.scene o ho).tracePixel uv frame previous =
      (Tracer.mk b'.scene o ho).tracePixel uv frame previous := by
  have halike := Builder.Alike.of_compile hb.wellFormed hb'.wellFormed
    (hb.wellFormed.legible hs hl) (hb'.wellFormed.legible hs' hl') h
  exact halike.agree.tracePixel_eq ho uv frame previous

/-! ## One picture, two scenes -/

namespace Builder

/-- A ball that is moved and scaled. -/
def moved (tag : Nat) (offset factor : Expression) : Builder :=
  let b := ((Build.push .sphere).runOn (.empty tag)).2
  let b := ((Build.push (.translate offset ⟨tag, 1⟩)).runOn b).2
  let b := ((Build.push (.scale factor ⟨tag, 2⟩)).runOn b).2
  ((Build.model ⟨tag, 3⟩ {}).runOn b).2

theorem moved_reachable (tag : Nat) (offset factor : Expression) :
    (moved tag offset factor).Reachable :=
  .model _ _ (.push _ (.push _ (.push _ (.empty tag))))

/-- The ball with constant vectors, one of them where a number is asked for. -/
def movedShort : Builder := moved 1 (.vector [1.0, 0.0, 0.0]) (.vector [2.0, 2.0])

/-- The ball with these vectors built from numbers, in an arena with another tag. -/
def movedLong : Builder :=
  moved 2 (.construct .vec3 [.scalar 1.0, .scalar 0.0, .scalar 0.0])
    (.swizzle (.construct .vec2 [.scalar 2.0]) "x")

theorem movedShort_not_hasSnippet : ¬movedShort.scene.HasSnippet :=
  Scene.not_hasSnippet (by decide) (by decide) (by decide) (by decide)

theorem movedLong_not_hasSnippet : ¬movedLong.scene.HasSnippet :=
  Scene.not_hasSnippet (by decide) (by decide) (by decide) (by decide)

theorem compile_movedShort (o : Options) :
    movedShort.scene.compile o = movedLong.scene.compile o := by
  have hmodels : movedShort.models = [⟨1, ⟨1, 3⟩, {}⟩] := rfl
  have hmodels' : movedLong.models = [⟨1, ⟨2, 3⟩, {}⟩] := rfl
  have hnodes : (movedShort.shapes.order ⟨1, 3⟩).filterMap movedShort.shapes.get? =
      [⟨⟨1, 1⟩, .sphere⟩, ⟨⟨1, 2⟩, .translate (.vector [1.0, 0.0, 0.0]) ⟨1, 1⟩⟩,
        ⟨⟨1, 3⟩, .scale (.vector [2.0, 2.0]) ⟨1, 2⟩⟩] := rfl
  have hnodes' : (movedLong.shapes.order ⟨2, 3⟩).filterMap movedLong.shapes.get? =
      [⟨⟨2, 1⟩, .sphere⟩,
        ⟨⟨2, 2⟩, .translate (.construct .vec3 [.scalar 1.0, .scalar 0.0, .scalar 0.0]) ⟨2, 1⟩⟩,
        ⟨⟨2, 3⟩, .scale (.swizzle (.construct .vec2 [.scalar 2.0]) "x") ⟨2, 2⟩⟩] := rfl
  have hoffset : (Expression.vector [1.0, 0.0, 0.0]).glsl =
      (Expression.construct .vec3 [.scalar 1.0, .scalar 0.0, .scalar 0.0]).glsl := rfl
  have hfactor : (Expression.vector [2.0, 2.0]).glslScalar =
      (Expression.swizzle (.construct .vec2 [.scalar 2.0]) "x").glslScalar := by
    rw [Expression.glslScalar_eq, Expression.glslScalar_eq]
    rfl
  have hcamera : movedShort.camera = movedLong.camera := rfl
  have hair : movedShort.air = movedLong.air := rfl
  simp only [Scene.compile, Scene.program, Scene.definitions, Scene.usedKinds, scene, hmodels,
    hmodels', List.flatMap_cons, List.flatMap_nil, List.append_nil, modelDefinitions, hnodes,
    hnodes', List.map_cons, List.map_nil, shapeDefinition, Kind.body, hoffset, hfactor, hcamera,
    hair]
  rfl

end Builder

theorem Options.default_valid : ({} : Options).validate = .ok () := by
  decide

/-- The two ways to write the ball have one text and one picture. -/
theorem tracePixel_eq_of_compile_moved :
    Builder.movedShort.Reachable ∧ Builder.movedLong.Reachable ∧
      ¬Builder.movedShort.scene.HasSnippet ∧ ¬Builder.movedLong.scene.HasSnippet ∧
      (∀ x ∈ Builder.movedShort.scene.literals, ordinary x = true) ∧
      (∀ x ∈ Builder.movedLong.scene.literals, ordinary x = true) ∧
      Builder.movedShort.scene.compile {} = Builder.movedLong.scene.compile {} ∧
      ∀ uv frame previous,
        (Tracer.mk Builder.movedShort.scene {} Options.default_valid).tracePixel uv frame previous =
          (Tracer.mk Builder.movedLong.scene {} Options.default_valid).tracePixel uv frame
            previous := by
  have hshort : ∀ x ∈ Builder.movedShort.scene.literals, ordinary x = true := by decide +kernel
  have hlong : ∀ x ∈ Builder.movedLong.scene.literals, ordinary x = true := by decide +kernel
  have htext := Builder.compile_movedShort {}
  refine ⟨Builder.moved_reachable _ _ _, Builder.moved_reachable _ _ _,
    Builder.movedShort_not_hasSnippet, Builder.movedLong_not_hasSnippet, hshort, hlong, htext, ?_⟩
  exact Builder.Reachable.tracePixel_eq_of_compile (Builder.moved_reachable _ _ _)
    (Builder.moved_reachable _ _ _) Builder.movedShort_not_hasSnippet
    Builder.movedLong_not_hasSnippet hshort hlong Options.default_valid htext

end ImplicitScene
