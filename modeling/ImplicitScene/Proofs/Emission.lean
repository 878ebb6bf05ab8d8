import ImplicitScene.Proofs.Scope

/-!
# What a program consists of

Besides nine functions that are always there, a program has the functions of its
models and the helpers on demand.  Each model has one function for every shape that
it is made from, and three more.  Only the functions of shapes have names that begin
with `shape`, so they can be counted by name.

A helper on demand is listed in a table by the kind of the shape that calls it.  The
body of a shape is written elsewhere.  The two agree: a body applies the helpers that
the table lists, and no other helper on demand.  The text of a parameter could apply
anything if it were a snippet.  Without snippets it applies the language and `random`.
-/

namespace ImplicitScene

open Text

/-! ## The functions of the shapes -/

/-- Whether a function is named like the function of a shape. -/
def FunctionDef.namedAsShape (f : FunctionDef) : Bool := "shape".toList.isPrefixOf f.name.toList

theorem shapeDefinition_namedAsShape (model : Nat) (node : Node) :
    (shapeDefinition model node).namedAsShape = true := by
  have hname : (shapeDefinition model node).name = shapeFunction model node.id := rfl
  rw [FunctionDef.namedAsShape, hname, shapeFunction_toList]
  simp

theorem namedAsShape_of_stem {f : FunctionDef}
    (h : "shape".toList.isPrefixOf (stem f.name) = false) : f.namedAsShape = false := by
  rw [Bool.eq_false_iff] at h ⊢
  intro hname
  obtain ⟨rest, hrest⟩ : "shape".toList <+: f.name.toList := by
    simpa [FunctionDef.namedAsShape] using hname
  refine h ?_
  rw [stem, ← hrest, List.takeWhile_append_of_pos (List.all_eq_true.mp (by decide))]
  simp

theorem filter_namedAsShape_fixed {fs : List FunctionDef}
    (h : fs.map FunctionDef.name ⊆ fixedNames) : fs.filter FunctionDef.namedAsShape = [] := by
  have hfixed : ∀ n ∈ fixedNames, "shape".toList.isPrefixOf (stem n) = false := by decide +kernel
  rw [List.filter_eq_nil_iff]
  intro f hf
  rw [namedAsShape_of_stem (hfixed f.name (h (List.mem_map_of_mem hf)))]
  exact Bool.false_ne_true

theorem filter_namedAsShape_model (shapes : Arena) (m : Model) :
    (modelDefinitions shapes m).filter FunctionDef.namedAsShape =
      ((shapes.order m.shape).filterMap shapes.get?).map (shapeDefinition m.id) := by
  have hshapes : ∀ f ∈ ((shapes.order m.shape).filterMap shapes.get?).map (shapeDefinition m.id),
      f.namedAsShape = true := by
    rw [List.forall_mem_map]
    exact fun node _ => shapeDefinition_namedAsShape m.id node
  have hnumbered : ∀ {f : FunctionDef} {letters : String}, f.name = letters ++ toString m.id →
      letters.toList.all Char.isAlpha = true → "shape".toList.isPrefixOf letters.toList = false →
      ¬f.namedAsShape = true := by
    intro f letters hname hletters hshape
    rw [Bool.not_eq_true]
    refine namedAsShape_of_stem ?_
    rwa [hname, stem_letters hletters]
  have hothers : [distanceDefinition m, normalDefinition m,
      materialDefinition s!"material{m.id}" m.material].filter FunctionDef.namedAsShape = [] := by
    rw [List.filter_eq_nil_iff]
    simp only [List.forall_mem_cons]
    refine ⟨?_, ?_, ?_, List.forall_mem_nil _⟩
    · exact @hnumbered _ "distance" rfl (by decide) (by decide)
    · exact @hnumbered _ "normal" rfl (by decide) (by decide)
    · exact @hnumbered _ "material" rfl (by decide) (by decide)
  rw [modelDefinitions, List.filter_append, List.filter_eq_self.mpr hshapes, hothers,
    List.append_nil]

namespace Scene

variable (scene : Scene)

/-- The functions of the shapes that the models are made from, model by model. -/
def shapeFunctions : List FunctionDef :=
  scene.models.flatMap fun m =>
    ((scene.shapes.order m.shape).filterMap scene.shapes.get?).map (shapeDefinition m.id)

/-- The functions of a program that are named like functions of shapes are just these. -/
theorem filter_namedAsShape :
    scene.definitions.filter FunctionDef.namedAsShape = scene.shapeFunctions := by
  have hhelpers : ((Helper.needed scene.usedKinds).map Helper.function).filter
      FunctionDef.namedAsShape = [] := by
    refine filter_namedAsShape_fixed ?_
    rw [List.map_map]
    exact fun n hn => scene.fixed_sublist.subset (List.mem_append_left _ hn)
  have hmain : [mainFunction scene.camera].filter FunctionDef.namedAsShape = [] :=
    filter_namedAsShape_fixed (show ["main"] ⊆ fixedNames by decide)
  have hlast : [materialDefinition "materialAir" scene.air, closestDefinition scene.models,
      normalChoice scene.models, materialChoice scene.models].filter
        FunctionDef.namedAsShape = [] :=
    filter_namedAsShape_fixed
      (show ["materialAir", "calculateClosest", "calculateNormal", "calculateMaterial"] ⊆
        fixedNames by decide)
  rw [definitions, List.filter_append, List.filter_append, List.filter_append, hhelpers, hmain,
    hlast, List.filter_flatMap, List.append_nil]
  simp only [filter_namedAsShape_model, List.nil_append, shapeFunctions]

/-- The function of a shape that a model is made from. -/
def IsShapeFunction (f : FunctionDef) : Prop :=
  ∃ m ∈ scene.models, ∃ x node, scene.shapes.Below m.shape x ∧ scene.shapes.get? x = some node ∧
    f = shapeDefinition m.id node

end Scene

theorem Builder.WellFormed.mem_shapeFunctions_iff {b : Builder} (hw : b.WellFormed)
    {f : FunctionDef} : f ∈ b.scene.shapeFunctions ↔ b.scene.IsShapeFunction f := by
  have hbelow : ∀ m ∈ b.models, ∀ x, x ∈ b.shapes.order m.shape ↔ b.shapes.Below m.shape x := by
    intro m hm x
    rw [hw.shapes.order_eq (hw.model_shape m hm)]
    exact hw.shapes.mem_listing_iff
  constructor
  · intro hf
    obtain ⟨m, hm, hf⟩ := List.mem_flatMap.mp hf
    obtain ⟨node, hnode, rfl⟩ := List.mem_map.mp hf
    obtain ⟨x, hx, hnode⟩ := List.mem_filterMap.mp hnode
    exact ⟨m, hm, x, node, (hbelow m hm x).mp hx, hnode, rfl⟩
  · rintro ⟨m, hm, x, node, hx, hnode, rfl⟩
    refine List.mem_flatMap.mpr ⟨m, hm, List.mem_map_of_mem ?_⟩
    exact List.mem_filterMap.mpr ⟨x, (hbelow m hm x).mpr hx, hnode⟩

/-! ## Bodies that apply a word -/

theorem Text.mem_applied_append_left {w a : List Char} (ha : endsApart a = true)
    (hw : w ∈ applied (lex a)) (b : List Char) : w ∈ applied (lex (a ++ b)) := by
  rw [lex_append_of_endsApart ha]
  exact mem_applied_append.mpr (Or.inl hw)

/-- What a line applies, the function applies. -/
theorem FunctionDef.mem_applied_of_line {signature : Signature} {texts : List String}
    {text name : String} (htext : text ∈ texts)
    (h : name.toList ∈ Text.applied (lex text.toList)) :
    name ∈ (FunctionDef.mk signature (texts.map .line)).applied := by
  have hrow : indentation 1 ++ text ∈ Statement.rowsOfAll 1 (texts.map .line) :=
    Statement.mem_rowsOfAll.mpr ⟨.line text, List.mem_map_of_mem htext, List.mem_singleton_self _⟩
  obtain ⟨before, after, hrows⟩ := List.append_of_mem hrow
  refine List.mem_map.mpr ⟨name.toList, ?_, String.ofList_toList⟩
  rw [bodyText, lex_rows, hrows, List.flatMap_append, List.flatMap_cons, String.toList_append,
    lex_blank_append (indentation_blank 1)]
  exact mem_applied_append.mpr (Or.inr (Or.inl (mem_applied_append.mpr (Or.inl h))))

/-! ## Helpers on demand -/

namespace Helper

theorem name_notMem_language : ∀ h ∈ onDemand, h.signature.name ∉ language := by
  decide +kernel

theorem mem_needed_iff {h : Helper} (hh : h ∈ onDemand) {kinds : List ShapeKind} :
    h ∈ needed kinds ↔ ∃ kind ∈ kinds, h ∈ kind.helpers := by
  have hnot : h ∉ always := by
    revert h
    decide
  simp [needed, hnot, hh]

end Helper

/-- A body applies the helpers of its kind. -/
theorem Kind.applies_helper {kind : ShapeKind} {h : Helper} (hh : h ∈ kind.helpers) (model : Nat) :
    ∃ line ∈ kind.body model, h.signature.name.toList ∈ applied (lex line.toList) := by
  cases kind with
  | skull =>
      simp only [helpers, List.mem_cons, List.not_mem_nil, or_false] at hh
      -- the second line applies two of them, the fifth the other
      rcases hh with rfl | rfl | rfl
      · exact ⟨_, .tail _ (.head _), by decide +kernel⟩
      · exact ⟨_, .tail _ (.tail _ (.tail _ (.tail _ (.head _)))), by decide +kernel⟩
      · exact ⟨_, .tail _ (.head _), by decide +kernel⟩
  | blend op a b radius =>
      cases op with
      | union | intersection | difference =>
          cases List.mem_singleton.mp hh
          refine ⟨_, List.mem_singleton_self _, ?_⟩
          simp only [String.toList_append, List.append_assoc]
          exact mem_applied_append_left (by decide +kernel) (by decide +kernel) _
  | _ => cases hh

/-- A body applies no other helper on demand, if none of its parameters is a snippet. -/
theorem Node.mem_helpers_of_applied {node : Node} {h : Helper} (hh : h ∈ Helper.onDemand)
    (ht : ∀ s ∈ node.kind.parameters, Slot.checkType s = .ok ()) (ho : ¬node.kind.HasSnippet)
    {model : Nat} (happlied : h.signature.name ∈ (shapeDefinition model node).applied) :
    h ∈ node.kind.helpers := by
  by_contra hnot
  have hlanguage : ∀ n ∈ language, n ≠ h.signature.name := by
    rintro n hn rfl
    exact Helper.name_notMem_language h hh hn
  have hrandom : Helper.random.signature.name ≠ h.signature.name := by
    intro hname
    cases Helper.name_inj hname
    exact absurd hh (by decide)
  -- the body applies only words that are not the name of the helper
  have honly : (shapeDefinition model node).AppliesOnly fun n => n ≠ h.signature.name := by
    refine .of_lines (Kind.body_opens hlanguage model ?_ ?_ ?_)
    · intro k hk hname
      exact hnot (Helper.name_inj hname ▸ hk)
    · intro c _ hname
      exact stem_helper h (hname ▸ stem_shapeFunction model c)
    · intro s hs
      obtain ⟨t, ht⟩ := Slot.typed_of_checkType (ht s hs)
      refine Expression.glsl_embeds hlanguage hrandom _ ht ?_
      exact Bool.eq_false_iff.mpr fun hsnippet => ho ⟨s, hs, hsnippet⟩
  exact honly _ happlied rfl

/-- The name of a helper is defined only by the helper itself. -/
theorem Scene.helper_mem_names_iff (scene : Scene) (h : Helper) :
    h.signature.name ∈ scene.definitions.map FunctionDef.name ↔
      h ∈ Helper.needed scene.usedKinds := by
  rw [scene.definitions_perm.mem_iff, List.mem_append, List.mem_append]
  constructor
  · rintro ((hhelper | hother) | hmodel)
    · obtain ⟨k, hk, hname⟩ := List.mem_map.mp hhelper
      exact Helper.name_inj hname ▸ hk
    · exact absurd hother (List.disjoint_of_nodup_append fixedNames_nodup h.name_mem_all)
    · obtain ⟨m, -, hname⟩ := List.mem_flatMap.mp hmodel
      obtain ⟨f, hf, hname⟩ := List.mem_map.mp hname
      have hstem := (name_of_mem_modelDefinitions hf).1
      rw [hname] at hstem
      exact absurd hstem (stem_fixedNames _ h.name_mem_fixedNames)
  · intro hh
    exact Or.inl (Or.inl (List.mem_map_of_mem hh))

namespace Builder.WellFormed

variable {b : Builder}

theorem mem_needed_iff_applied (hw : b.WellFormed) (ho : ¬b.scene.HasSnippet) {h : Helper}
    (hh : h ∈ Helper.onDemand) : h ∈ Helper.needed b.scene.usedKinds ↔
      ∃ f ∈ b.scene.shapeFunctions, h.signature.name ∈ f.applied := by
  constructor
  · intro hneeded
    obtain ⟨kind, hkind, hhelper⟩ := (Helper.mem_needed_iff hh).mp hneeded
    obtain ⟨m, hm, hkind⟩ := List.mem_flatMap.mp hkind
    obtain ⟨node, hnode, rfl⟩ := List.mem_map.mp hkind
    obtain ⟨line, hline, happlied⟩ := Kind.applies_helper hhelper m.id
    exact ⟨shapeDefinition m.id node, List.mem_flatMap.mpr ⟨m, hm, List.mem_map_of_mem hnode⟩,
      FunctionDef.mem_applied_of_line hline happlied⟩
  · rintro ⟨f, hf, happlied⟩
    obtain ⟨m, hm, hf⟩ := List.mem_flatMap.mp hf
    obtain ⟨node, hnode, rfl⟩ := List.mem_map.mp hf
    obtain ⟨x, hx, hnode⟩ := List.mem_filterMap.mp hnode
    refine Scene.helper_mem_needed hm hx hnode (Node.mem_helpers_of_applied hh ?_ ?_ happlied)
    · exact fun s hs => (hw.shapes.slot (Arena.mem_of_get? hnode) s hs).1
    · exact fun hsnippet => ho (Or.inl ⟨m, hm, Or.inl ⟨x, hx, node, hnode, hsnippet⟩⟩)

end Builder.WellFormed

/-- A function is defined once, before the main function. -/
structure Program.DefinesBeforeMain (p : Program) (f : FunctionDef) : Prop where
  /-- No other function has its name. -/
  once : (p.functions.filter fun g => g.name == f.name) = [f]
  /-- The main function is a later one. -/
  before : ∃ earlier main later,
    p.functions = earlier ++ main :: later ∧ main.name = "main" ∧ f ∈ earlier

theorem Builder.WellFormed.definesBeforeMain {b : Builder} (hw : b.WellFormed) (o : Options)
    {h : Helper} (hh : h ∈ Helper.needed b.scene.usedKinds) :
    (b.scene.program o).DefinesBeforeMain h.function := by
  have hearlier : h.function ∈ (Helper.needed b.scene.usedKinds).map Helper.function :=
    List.mem_map_of_mem hh
  have hsplit : ∃ later, b.scene.definitions =
      (Helper.needed b.scene.usedKinds).map Helper.function ++ mainFunction b.camera :: later := by
    simp only [Scene.definitions, List.append_assoc, List.singleton_append]
    exact ⟨_, rfl⟩
  obtain ⟨later, hlater⟩ := hsplit
  constructor
  · rw [Scene.program_functions]
    exact filter_name_eq hw.definitions_nodup (hlater ▸ List.mem_append_left _ hearlier)
  · exact ⟨_, mainFunction b.camera, later, (Scene.program_functions _ o).trans hlater, rfl,
      hearlier⟩

/-- A helper on demand is defined, once and before the main function, exactly if a function of a
shape applies it.  These are the functions of the shapes below the models, and no other function is
named like them. -/
theorem Builder.Reachable.helper_defined_iff_applied {b : Builder} (hb : b.Reachable)
    (ho : ¬b.scene.HasSnippet) (o : Options) {h : Helper} (hh : h ∈ Helper.onDemand) :
    ((∃ f ∈ (b.scene.program o).functions, f.name = h.signature.name) ↔
      ∃ f, b.scene.IsShapeFunction f ∧ h.signature.name ∈ f.applied) ∧
    ((∃ f ∈ (b.scene.program o).functions, f.name = h.signature.name) →
      (b.scene.program o).DefinesBeforeMain h.function) ∧
    ∀ f, b.scene.IsShapeFunction f ↔
      f ∈ (b.scene.program o).functions ∧ "shape".toList.isPrefixOf f.name.toList = true := by
  have hw := hb.wellFormed
  have hdefined : (∃ f ∈ b.scene.definitions, f.name = h.signature.name) ↔
      h ∈ Helper.needed b.scene.usedKinds := by
    rw [← Scene.helper_mem_names_iff, List.mem_map]
  simp only [Scene.program_functions, hdefined, ← hw.mem_shapeFunctions_iff]
  refine ⟨hw.mem_needed_iff_applied ho hh, fun hneeded => hw.definesBeforeMain o hneeded, ?_⟩
  intro f
  rw [← Scene.filter_namedAsShape, List.mem_filter]
  rfl

/-- The diamond is a blend, so the smooth minimum is defined.  The skull beside it calls the
ellipsoid, but no model is made from it. -/
theorem helper_defined_iff_applied_diamond :
    let b := ((Build.push .skull).runOn Builder.diamond).2
    b.Reachable ∧ ¬b.scene.HasSnippet ∧ b.shapes.contains ⟨1, 5⟩ = true ∧
      Helper.onDemand.map (fun h => h.signature.name) = ["smin", "smax", "ellipsoid"] ∧
      (b.scene.program {}).DefinesBeforeMain Helper.smoothMin.function ∧
      (∃ f, b.scene.IsShapeFunction f ∧ "smin" ∈ f.applied) ∧
      ¬∃ f, b.scene.IsShapeFunction f ∧ "ellipsoid" ∈ f.applied := by
  intro b
  have hb : b.Reachable := .push _ Builder.diamond_reachable
  have ho : ¬b.scene.HasSnippet :=
    Scene.not_hasSnippet (by decide) (by decide) (by decide) (by decide)
  obtain ⟨hmin, honce, -⟩ := hb.helper_defined_iff_applied ho {} (h := .smoothMin) (by decide)
  obtain ⟨hellipsoid, -, -⟩ := hb.helper_defined_iff_applied ho {} (h := .ellipsoid) (by decide)
  rw [Scene.program_functions] at hmin honce hellipsoid
  have hdefined : ∃ f ∈ b.scene.definitions, f.name = "smin" :=
    List.mem_map.mp ((b.scene.helper_mem_names_iff .smoothMin).mpr (by decide))
  have hundefined : ¬∃ f ∈ b.scene.definitions, f.name = "ellipsoid" := by
    rw [← List.mem_map]
    exact fun hmem => absurd ((b.scene.helper_mem_names_iff .ellipsoid).mp hmem) (by decide)
  exact ⟨hb, ho, rfl, rfl, honce hdefined, hmin.mp hdefined,
    fun hcalled => hundefined (hellipsoid.mpr hcalled)⟩

/-! ## Counts -/

/-- The helpers on demand that a program defines. -/
def Program.helpersOnDemand (p : Program) : List Helper :=
  Helper.onDemand.filter fun h => (p.function? h.signature.name).isSome

theorem Scene.length_needed (scene : Scene) (o : Options) :
    (Helper.needed scene.usedKinds).length = 4 + (scene.program o).helpersOnDemand.length := by
  have hfilter : (scene.program o).helpersOnDemand = Helper.onDemand.filter fun h =>
      scene.usedKinds.any fun kind => kind.helpers.contains h := by
    refine List.filter_congr fun h hh => Bool.eq_iff_iff.mpr ?_
    have hdefined : ((scene.program o).function? h.signature.name).isSome = true ↔
        h.signature.name ∈ scene.definitions.map FunctionDef.name := by
      rw [Program.function?, List.find?_isSome, scene.program_functions]
      simp
    rw [hdefined, scene.helper_mem_names_iff, Helper.mem_needed_iff hh]
    simp
  rw [hfilter, Helper.needed, List.length_append]
  rfl

theorem Arena.WellFormed.length_filterMap_get? {shapes : Arena} (hw : shapes.WellFormed)
    {id : ShapeId} (h : shapes.contains id = true) :
    ((shapes.order id).filterMap shapes.get?).length = (shapes.order id).length := by
  have hids := hw.map_id_filterMap_get? (hw.contains_of_mem_order h)
  rw [← List.length_map (f := Node.id), hids]

namespace Builder.WellFormed

variable {b : Builder}

theorem length_shapeFunctions (hw : b.WellFormed) : b.scene.shapeFunctions.length =
    (b.models.map fun m => (b.shapes.order m.shape).length).sum := by
  rw [Scene.shapeFunctions, List.length_flatMap]
  refine congrArg List.sum (List.map_congr_left fun m hm => ?_)
  rw [List.length_map]
  exact hw.shapes.length_filterMap_get? (hw.model_shape m hm)

theorem length_modelDefinitions (hw : b.WellFormed) :
    (b.models.flatMap (modelDefinitions b.shapes)).length =
      (b.models.map fun m => (b.shapes.order m.shape).length + 3).sum := by
  rw [List.length_flatMap]
  refine congrArg List.sum (List.map_congr_left fun m hm => ?_)
  rw [modelDefinitions, List.length_append, List.length_map,
    hw.shapes.length_filterMap_get? (hw.model_shape m hm)]
  rfl

end Builder.WellFormed

/-- The counts of a program are those of the shapes that were resolved.  Every shape below a model
is one function, each model has three more, and nine functions and the helpers on demand belong to
no model. -/
theorem Builder.Reachable.compileStats_counts {b : Builder} (hb : b.Reachable) (o : Options) :
    (b.scene.compileStats o).models = b.models.length ∧
    (b.scene.compileStats o).shapeFunctions =
      (b.models.map fun m => (b.shapes.order m.shape).length).sum ∧
    (b.scene.compileStats o).functions = 9 + (b.scene.program o).helpersOnDemand.length +
      (b.models.map fun m => (b.shapes.order m.shape).length + 3).sum := by
  have hw := hb.wellFormed
  refine ⟨rfl, ?_, ?_⟩
  · rw [← hw.length_shapeFunctions, ← Scene.filter_namedAsShape, ← Scene.program_functions _ o]
    rfl
  · have hneeded := b.scene.length_needed o
    have hmodels := hw.length_modelDefinitions
    have hfunctions : (b.scene.compileStats o).functions = b.scene.definitions.length :=
      congrArg List.length (b.scene.program_functions o)
    rw [hfunctions, Scene.definitions]
    simp only [List.length_append, List.length_map, List.length_cons, List.length_nil]
    change _ + _ + (b.models.flatMap (modelDefinitions b.shapes)).length + _ = _
    omega

/-- Four shapes in one model, one of them a blend. -/
theorem compileStats_counts_diamond :
    let stats := Builder.diamond.scene.compileStats {}
    Builder.diamond.Reachable ∧ stats.models = 1 ∧ stats.shapeFunctions = 4 ∧
      stats.functions = 9 + 1 + (4 + 3) := by
  intro stats
  have hneeded := Builder.diamond.scene.length_needed {}
  have hcount : (Helper.needed Builder.diamond.scene.usedKinds).length = 5 := rfl
  obtain ⟨hmodels, hshapes, hfunctions⟩ := Builder.diamond_reachable.compileStats_counts {}
  refine ⟨Builder.diamond_reachable, hmodels, hshapes, hfunctions.trans ?_⟩
  have hsum : (Builder.diamond.models.map fun m =>
      (Builder.diamond.shapes.order m.shape).length + 3).sum = 4 + 3 := rfl
  omega

end ImplicitScene
