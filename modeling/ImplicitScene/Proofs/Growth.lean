import ImplicitScene.Proofs.Scope
import ImplicitScene.Proofs.Twins

/-!
# Adding shapes

Shapes can be added to a builder at any time.  Nothing that was there before takes
notice.  A handle that was good has the same shapes below it, in the same order, the
same text and the same distance.  A scene that gets more shapes and no other model
has the same program, to the last character.

The walk below a shape keeps a flag for every shape of the arena, so a larger arena
makes another walk.  But the walk gives the listing by recursion, and the recursion
never leaves the shapes that were there.

The names of the functions tell more: a shape that no model is made from has no
function in the program at all.
-/

namespace ImplicitScene

/-! ## Below a shape that was there -/

namespace Arena.Extends

variable {small large : Arena} {id : ShapeId}

theorem get?_eq (h : small.Extends large) (hid : small.contains id = true) :
    large.get? id = small.get? id := by
  obtain ⟨node, hnode⟩ := exists_get?_of_contains hid
  rw [hnode, h.get? hnode]

theorem dependencies_eq (h : small.Extends large) (hid : small.contains id = true) :
    large.dependencies id = small.dependencies id := by
  rw [dependencies, dependencies, h.get?_eq hid]

/-- The recursion stays in the smaller arena, because all children are there. -/
theorem listing_eq (h : small.Extends large) (hsmall : small.WellFormed)
    (hlarge : large.WellFormed) (id : ShapeId) (hid : small.contains id = true) :
    large.listing id = small.listing id := by
  have hchildren : (small.dependencies id).flatMap large.listing =
      (small.dependencies id).flatMap small.listing := by
    refine List.flatMap_congr fun c hc => ?_
    obtain ⟨hcontains, hlt⟩ := hsmall.child_of_dependencies hc
    exact h.listing_eq hsmall hlarge c hcontains
  rw [hlarge.listing_eq, hsmall.listing_eq, h.dependencies_eq hid, hchildren]
termination_by id.number

theorem order_eq (h : small.Extends large) (hsmall : small.WellFormed)
    (hlarge : large.WellFormed) (hid : small.contains id = true) :
    large.order id = small.order id := by
  rw [hlarge.order_eq (h.contains hid), hsmall.order_eq hid, h.listing_eq hsmall hlarge id hid]

/-- The stored shapes below a shape are the same. -/
theorem filterMap_order_eq (h : small.Extends large) (hsmall : small.WellFormed)
    (hlarge : large.WellFormed) (hid : small.contains id = true) :
    (large.order id).filterMap large.get? = (small.order id).filterMap small.get? := by
  rw [h.order_eq hsmall hlarge hid]
  exact List.filterMap_congr fun x hx => h.get?_eq (hsmall.contains_of_mem_order hid x hx)

end Arena.Extends

/-! ## The program -/

namespace Builder

variable {b c : Builder}

/-- A builder that got nothing but shapes has the same functions in its program. -/
theorem Grows.definitions_eq (h : b.Grows c) (hb : b.WellFormed) :
    c.scene.definitions = b.scene.definitions := by
  have hbelow : ∀ m ∈ b.models, (c.shapes.order m.shape).filterMap c.shapes.get? =
      (b.shapes.order m.shape).filterMap b.shapes.get? := fun m hm =>
    h.shapes.filterMap_order_eq hb.shapes h.wellFormed.shapes (hb.model_shape m hm)
  have hkinds : c.scene.usedKinds = b.scene.usedKinds := by
    show c.models.flatMap _ = b.models.flatMap _
    rw [h.models]
    refine List.flatMap_congr fun m hm => ?_
    show List.map Node.kind ((c.shapes.order m.shape).filterMap c.shapes.get?) = _
    rw [hbelow m hm]
    rfl
  have hmodels : c.models.flatMap (modelDefinitions c.shapes) =
      b.models.flatMap (modelDefinitions b.shapes) := by
    rw [h.models]
    refine List.flatMap_congr fun m hm => ?_
    rw [modelDefinitions, modelDefinitions, hbelow m hm]
  show _ ++ [mainFunction c.camera] ++ c.models.flatMap (modelDefinitions c.shapes) ++
    [materialDefinition "materialAir" c.air, closestDefinition c.models, normalChoice c.models,
      materialChoice c.models] = _
  rw [hkinds, hmodels, h.models, h.camera, h.air]
  rfl

theorem Grows.compile_eq (h : b.Grows c) (hb : b.WellFormed) (o : Options) :
    c.scene.compile o = b.scene.compile o := by
  rw [Scene.compile, Scene.compile, Scene.program, Scene.program, h.definitions_eq hb]

/-- A function that is named for a shape belongs to a model that is made from the shape. -/
theorem WellFormed.model_of_shapeFunction (hw : b.WellFormed) {model : Nat} {x : ShapeId}
    (h : shapeFunction model x ∈ b.scene.definitions.map FunctionDef.name) :
    ∃ m ∈ b.models, m.id = model ∧ ∃ y ∈ b.shapes.order m.shape, y.number = x.number := by
  have hstem := stem_shapeFunction model x
  rw [b.scene.definitions_perm.mem_iff, List.mem_append] at h
  rcases h with hfixed | hmodel
  · -- the other functions have other stems
    have hmem := b.scene.fixed_sublist.subset hfixed
    exact absurd (hstem ▸ by decide) (stem_fixedNames _ hmem)
  · obtain ⟨m, hm, hname⟩ := List.mem_flatMap.mp hmodel
    change _ ∈ (modelDefinitions b.shapes m).map FunctionDef.name at hname
    rw [hw.shapes.modelDefinitions_names (hw.model_shape m hm), List.mem_append] at hname
    rcases hname with hshape | hother
    · obtain ⟨y, hy, heq⟩ := List.mem_map.mp hshape
      obtain ⟨hid, hnumber⟩ := shapeFunction_inj heq
      exact ⟨m, hm, hid, y, hy, hnumber⟩
    · simp only [List.mem_cons, List.not_mem_nil, or_false] at hother
      rcases hother with heq | heq | heq <;> rw [heq, stem_letters (by decide)] at hstem <;>
        exact absurd hstem (by decide)

/-- A shape that no model is made from has no function in the program. -/
theorem WellFormed.name_ne_shapeFunction (hw : b.WellFormed) {x : ShapeId}
    (hx : b.shapes.contains x = true) (hunused : ∀ m ∈ b.models, ¬b.shapes.Below m.shape x)
    {f : FunctionDef} (hf : f ∈ b.scene.definitions) (model : Nat) :
    f.name ≠ shapeFunction model x := by
  intro hname
  have hmem : f.name ∈ b.scene.definitions.map FunctionDef.name := List.mem_map_of_mem hf
  rw [hname] at hmem
  obtain ⟨m, hm, -, y, hy, hnumber⟩ := hw.model_of_shapeFunction hmem
  have hshape := hw.model_shape m hm
  have hyx : y = x :=
    Arena.eq_of_number_eq (hw.shapes.contains_of_mem_order hshape y hy) hx hnumber
  rw [hw.shapes.order_eq hshape, hw.shapes.mem_listing_iff, hyx] at hy
  exact hunused m hm hy

/-! ## Operations that add shapes -/

/-- The second builder arises from the first by operations that add shapes, successful or not.  The
mapping of a repetition is any step that does the same. -/
inductive Appends : Builder → Builder → Prop where
  | refl (b : Builder) : Appends b b
  | push {b c : Builder} (kind : ShapeKind) (h : Appends b c) :
      Appends b ((Build.push kind).runOn c).2
  | modulate {b c : Builder} (period : Expression) (mapping : Expression → Build ShapeId)
      (h : Appends b c) (hm : Appends c ((mapping (.var .cell)).runOn c).2) :
      Appends b ((Build.modulate period mapping).runOn c).2

theorem WellFormed.grows_push (hb : b.WellFormed) (kind : ShapeKind) :
    b.Grows ((Build.push kind).runOn b).2 := by
  rw [Build.push_runOn]
  cases h : b.shapes.admits kind with
  | error e => exact .refl hb
  | ok u => exact hb.grows_insert h

/-- Such operations add nothing but shapes. -/
theorem Appends.grows (h : b.Appends c) (hb : b.WellFormed) : b.Grows c := by
  induction h with
  | refl b => exact .refl hb
  | push kind _ ih => exact (ih hb).trans ((ih hb).wellFormed.grows_push kind)
  | modulate period mapping _ _ ih ihm =>
      have hmapped := ihm (ih hb).wellFormed
      rw [Build.modulate_runOn]
      generalize (mapping (.var .cell)).runOn _ = result at hmapped ⊢
      obtain ⟨r, d⟩ := result
      cases r with
      | error e => exact (ih hb).trans hmapped
      | ok child => exact ((ih hb).trans hmapped).trans (hmapped.wellFormed.grows_push _)

end Builder

/-! ## Nothing is disturbed -/

/-- Adding shapes leaves what was there as it was.  The shapes below a handle, their text and the
distance to it stay the same, and so does the program.  Of a shape that no model is made from the
program has no function. -/
theorem Builder.Reachable.unchanged_of_appends {b c : Builder} (hb : b.Reachable)
    (h : b.Appends c) :
    (∀ id, b.shapes.contains id = true →
      c.shapes.contains id = true ∧ c.shapes.order id = b.shapes.order id ∧
      (∀ model, (c.shapes.get? id).map (fun node => node.kind.body model) =
        (b.shapes.get? id).map fun node => node.kind.body model) ∧
      ∀ ctx point cell, c.shapes.distance ctx id point cell = b.shapes.distance ctx id point cell) ∧
    (∀ o, c.scene.compile o = b.scene.compile o) ∧
    ∀ o x, c.shapes.contains x = true → (∀ m ∈ c.models, ¬c.shapes.Below m.shape x) →
      ∀ f ∈ (c.scene.program o).functions, ∀ model, f.name ≠ shapeFunction model x := by
  have hw := hb.wellFormed
  have hgrows := h.grows hw
  have hshapes := hgrows.wellFormed.shapes
  refine ⟨fun id hid => ⟨hgrows.shapes.contains hid, ?_, fun model => ?_, fun ctx point cell => ?_⟩,
    hgrows.compile_eq hw, fun o x hx hunused f hf model => ?_⟩
  · exact hgrows.shapes.order_eq hw.shapes hshapes hid
  · rw [hgrows.shapes.get?_eq hid]
  · exact hgrows.shapes.distance_eq hw.shapes hshapes ctx hid point cell
  · rw [Scene.program_functions] at hf
    exact hgrows.wellFormed.name_ne_shapeFunction hx hunused hf model

/-- The diamond with a copy of it repeated, whose period is first a number and then a vector.  The
repetition is added at the second attempt, and no function of the program is named for it. -/
theorem unchanged_of_appends_diamond :
    let copy : Expression → Build ShapeId := fun cell => Build.translate cell ⟨1, 4⟩
    let c := ((Build.modulate (.scalar 1.0) copy).runOn Builder.diamond).2
    let d := ((Build.modulate (.vector [2.0]) copy).runOn c).2
    Builder.diamond.Reachable ∧ Builder.diamond.Appends d ∧ d.shapes.size = 7 ∧
      Builder.diamond.shapes.contains ⟨1, 4⟩ = true ∧
      d.shapes.order ⟨1, 4⟩ = Builder.diamond.shapes.order ⟨1, 4⟩ ∧
      d.scene.compile {} = Builder.diamond.scene.compile {} ∧
      d.shapes.contains ⟨1, 7⟩ = true ∧ (∀ m ∈ d.models, ¬d.shapes.Below m.shape ⟨1, 7⟩) ∧
      ∀ f ∈ (d.scene.program {}).functions, ∀ model, f.name ≠ shapeFunction model ⟨1, 7⟩ := by
  intro copy c d
  have hc : Builder.diamond.Appends c := .modulate _ copy (.refl _) (.push _ (.refl _))
  have hd : Builder.diamond.Appends d := .modulate _ copy hc (.push _ (.refl _))
  obtain ⟨hold, hcompile, hfunctions⟩ := Builder.diamond_reachable.unchanged_of_appends hd
  have horder := (hold ⟨1, 4⟩ rfl).2.1
  have hshapes := (hd.grows Builder.diamond_reachable.wellFormed).wellFormed.shapes
  have hunused : ∀ m ∈ d.models, ¬d.shapes.Below m.shape ⟨1, 7⟩ := by
    intro m hm hbelow
    cases List.mem_singleton.mp hm
    rw [← hshapes.mem_listing_iff, ← hshapes.order_eq rfl, horder] at hbelow
    exact absurd hbelow (by decide)
  exact ⟨Builder.diamond_reachable, hd, rfl, rfl, horder, hcompile {}, rfl, hunused,
    hfunctions {} ⟨1, 7⟩ rfl hunused⟩

end ImplicitScene
