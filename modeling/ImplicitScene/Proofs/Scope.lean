import ImplicitScene.Proofs.MainFunction
import ImplicitScene.Proofs.Names
import ImplicitScene.Proofs.Probing

/-!
# Declaration before use

In the program of a scene without snippets every function is defined once, and
what a function applies is part of the language or declared before it.  The
shading language has no forward references, so this is what makes a program
compile.

The items of a program are looked at in segments.  `Scoped known items` says that
every item applies words that are known from outside or declared before it among
the items.  Two segments in sequence are scoped if the second is scoped when the
names of the first are known.  Inside a model the shapes stand in the order of
`Arena.order`, and there the children of a shape come first.

The same pass shows that the functions of the shapes of a model are applied by
functions of that model only.
-/

namespace ImplicitScene

/-! ## Scopes -/

/-- The name that an item makes known: the constructor of a structure, or a function. -/
def Item.declares? : Item → Option String
  | struct name _ => some name
  | prototype s => some s.name
  | function f => some f.name
  | _ => none

/-- The words that an item applies. -/
def Item.applied : Item → List String
  | function f => f.applied
  | _ => []

/-- The names that items make known. -/
def declared (items : List Item) : List String := items.filterMap Item.declares?

/-- The item may apply the name: a function of a shape is for the functions of its model. -/
def Item.Admits (item : Item) (n : String) : Prop :=
  ∀ m id, n = shapeFunction m id →
    item.declares? = some ("distance" ++ toString m) ∨
      ∃ k, item.declares? = some (shapeFunction m k)

/-- Every item applies admitted words that are known or declared before it. -/
def Scoped (known : List String) (items : List Item) : Prop :=
  ∀ before item after, items = before ++ item :: after →
    ∀ n ∈ item.applied, (n ∈ known ∨ n ∈ declared before) ∧ item.Admits n

theorem declared_append (items others : List Item) :
    declared (items ++ others) = declared items ++ declared others :=
  List.filterMap_append

theorem declared_functions (fs : List FunctionDef) :
    declared (fs.map .function) = fs.map FunctionDef.name := by
  rw [declared, List.filterMap_map]
  exact congrFun (List.filterMap_eq_map (f := FunctionDef.name)) fs

namespace Scoped

variable {known other : List String} {items others : List Item}

theorem mono (h : Scoped known items) (hsub : known ⊆ other) : Scoped other items := by
  intro before item after hitems n hn
  obtain ⟨hknown, hadmits⟩ := h before item after hitems n hn
  exact ⟨hknown.imp_left fun hn => hsub hn, hadmits⟩

/-- Items that need nothing from each other. -/
theorem of_forall (h : ∀ item ∈ items, ∀ n ∈ item.applied, n ∈ known ∧ item.Admits n) :
    Scoped known items := by
  intro before item after hitems n hn
  obtain ⟨hknown, hadmits⟩ := h item (by simp [hitems]) n hn
  exact ⟨Or.inl hknown, hadmits⟩

theorem append (h : Scoped known items) (ho : Scoped (known ++ declared items) others) :
    Scoped known (items ++ others) := by
  intro before item after hsplit n hn
  have hlater : ∀ {earlier : List Item}, others = earlier ++ item :: after →
      (n ∈ known ∨ n ∈ declared (items ++ earlier)) ∧ item.Admits n := by
    intro earlier hothers
    obtain ⟨hknown, hadmits⟩ := ho earlier item after hothers n hn
    rw [declared_append, List.mem_append]
    rw [List.mem_append] at hknown
    exact ⟨or_assoc.mp hknown, hadmits⟩
  rcases List.append_eq_append_iff.mp hsplit with ⟨earlier, rfl, hothers⟩ | ⟨rest, hitems, hrest⟩
  · exact hlater hothers
  · cases rest with
    | nil =>
        rw [List.append_nil] at hitems
        subst hitems
        have hfirst := @hlater [] hrest.symm
        rwa [List.append_nil] at hfirst
    | cons next rest =>
        obtain ⟨rfl, -⟩ := List.cons_eq_cons.mp hrest
        exact h before item rest hitems n hn

theorem flatMap {α : Type} {f : α → List Item} :
    ∀ {xs : List α}, (∀ x ∈ xs, Scoped known (f x)) → Scoped known (xs.flatMap f)
  | [], _ => of_forall (by simp)
  | x :: xs, h => by
      rw [List.forall_mem_cons] at h
      rw [List.flatMap_cons]
      exact h.1.append ((flatMap h.2).mono (List.subset_append_left _ _))

end Scoped

/-! ## Names of other functions -/

theorem Item.admits_of_stem {item : Item} {n : String} (h : stem n ≠ "shape".toList) :
    item.Admits n := by
  rintro m id rfl
  exact absurd (stem_shapeFunction m id) h

theorem languageSpelling_stems :
    (languageSpelling.chars.all fun w => w.takeWhile Char.isAlpha != ['s', 'h', 'a', 'p', 'e']) =
      true := by
  decide +kernel

theorem stem_language {n : String} (h : n ∈ language) : stem n ≠ "shape".toList := by
  rw [← languageSpelling.spells, List.mem_map] at h
  obtain ⟨cs, hcs, rfl⟩ := h
  have hstem := List.all_eq_true.mp languageSpelling_stems cs hcs
  rw [stem, String.toList_ofList]
  simpa using hstem

theorem stem_helper (h : Helper) : stem h.signature.name ≠ "shape".toList := by
  intro hshape
  exact stem_fixedNames _ h.name_mem_fixedNames (hshape ▸ List.mem_cons_self)

theorem stem_numbered {letters : String} (hletters : letters.toList.all Char.isAlpha = true)
    (hne : letters.toList ≠ "shape".toList) (n : Nat) :
    stem (letters ++ toString n) ≠ "shape".toList := by
  rwa [stem_letters hletters]

/-! ## The items before the functions -/

/-- The items of a program that are not functions. -/
def declarationItems (o : Options) : List Item :=
  [.precision "highp float"] ++ interfaceItems ++ constantItems o ++ structItems ++ prototypeItems

/-- The structures, and the functions that are announced. -/
def announced : List String :=
  ["Closest", "Material", "calculateClosest", "calculateNormal", "calculateMaterial", "materialAir"]

theorem declared_declarationItems (o : Options) : declared (declarationItems o) = announced := rfl

theorem applied_declarationItems (o : Options) :
    ∀ item ∈ declarationItems o, item.applied = [] ∧ item.function? = none := by
  have hnone : ((declarationItems o).all fun item => item.function?.isNone) = true := rfl
  intro item hitem
  have hitem := List.all_eq_true.mp hnone item hitem
  cases item with
  | function f => cases hitem
  | _ => exact ⟨rfl, rfl⟩

theorem stem_announced : ∀ n ∈ announced, stem n ≠ "shape".toList := by
  decide +kernel

theorem Scene.program_items (scene : Scene) (o : Options) :
    (scene.program o).items = declarationItems o ++ scene.definitions.map .function := rfl

theorem Scene.program_functions (scene : Scene) (o : Options) :
    (scene.program o).functions = scene.definitions := by
  have hnone : (declarationItems o).filterMap Item.function? = [] :=
    List.filterMap_eq_nil_iff.mpr fun item hitem => (applied_declarationItems o item hitem).2
  rw [Program.functions, program_items, List.filterMap_append, hnone, List.nil_append,
    List.filterMap_map]
  exact List.filterMap_some

/-! ## Segments -/

/-- What a function of a program may apply, given the names that are known. -/
def FunctionDef.Fits (known : List String) (f : FunctionDef) : Prop :=
  f.AppliesOnly fun n => n ∈ known ∧ (Item.function f).Admits n

theorem Scoped.functions {known : List String} {fs : List FunctionDef}
    (h : ∀ f ∈ fs, f.Fits known) : Scoped known (fs.map .function) := by
  refine .of_forall fun item hitem => ?_
  obtain ⟨f, hf, rfl⟩ := List.mem_map.mp hitem
  exact h f hf

section Segments

variable {known : List String} (hlanguage : language ⊆ known)
include hlanguage

theorem language_fits {f : FunctionDef} :
    ∀ n ∈ language, n ∈ known ∧ (Item.function f).Admits n :=
  fun _ hn => ⟨hlanguage hn, Item.admits_of_stem (stem_language hn)⟩

theorem helpers_scoped (kinds : List ShapeKind) :
    Scoped known (((Helper.needed kinds).map Helper.function).map .function) := by
  -- `aroundNormal` calls `ortho`, all others only the language
  have hsplit : Helper.needed kinds = [Helper.random, Helper.ortho] ++
      ([Helper.aroundNormal, Helper.onSphere] ++
        Helper.onDemand.filter fun h => kinds.any fun kind => kind.helpers.contains h) := rfl
  rw [hsplit, List.map_append, List.map_append]
  refine Scoped.append (.functions ?_) (.functions ?_)
  · rw [List.forall_mem_map]
    intro h hh
    refine Helper.function_appliesOnly (language_fits hlanguage) h fun hortho => ?_
    subst hortho
    exact absurd hh (by decide)
  · rw [List.forall_mem_map]
    intro h _
    have hsub : language ⊆ known ++
        declared (([Helper.random, .ortho].map Helper.function).map Item.function) :=
      fun n hn => List.mem_append_left _ (hlanguage hn)
    refine Helper.function_appliesOnly (language_fits hsub) h fun _ => ⟨?_, ?_⟩
    · exact List.mem_append_right _ (List.mem_cons_of_mem _ List.mem_cons_self)
    · exact Item.admits_of_stem (stem_helper .ortho)

variable (hrandom : Helper.random.signature.name ∈ known)
include hrandom

theorem slot_fits {f : FunctionDef} {s : Slot} (ht : s.checkType = .ok ())
    (ho : s.content.isOpaque = false) :
    Embeds (fun n => n ∈ known ∧ (Item.function f).Admits n) s.content.glsl := by
  obtain ⟨t, ht⟩ := Slot.typed_of_checkType ht
  exact Expression.glsl_embeds (language_fits hlanguage)
    ⟨hrandom, Item.admits_of_stem (stem_helper .random)⟩ _ ht ho

theorem mainFunction_fits (hneeded : PathTracing.needed ⊆ known) {c : Camera}
    (hc : c.validate = .ok ()) (ho : ¬c.HasSnippet) : (mainFunction c).Fits known := by
  have hstems : ∀ n ∈ PathTracing.needed, stem n ≠ "shape".toList := by decide +kernel
  refine mainFunction_appliesOnly (language_fits hlanguage)
    (fun n hn => ⟨hneeded hn, Item.admits_of_stem (hstems n hn)⟩) fun s hs => ?_
  refine slot_fits hlanguage hrandom (Slot.checkAll_eq_ok.mp hc s hs).1 ?_
  exact Bool.eq_false_iff.mpr fun hsnippet => ho ⟨s, hs, hsnippet⟩

theorem materialDefinition_fits (name : String) {m : Material} (hm : m.validate = .ok ())
    (ho : ¬m.HasSnippet) : (materialDefinition name m).Fits known := by
  have hslot : ∀ f ∈ m.fields, ∃ s ∈ m.slots, s.content = f.2 := by
    simp [Material.fields, Material.slots]
  refine materialDefinition_appliesOnly (language_fits hlanguage) fun f hf => ?_
  obtain ⟨s, hs, hcontent⟩ := hslot f hf
  rw [← hcontent]
  refine slot_fits hlanguage hrandom (Slot.all_eq_ok.mp hm s hs) ?_
  exact Bool.eq_false_iff.mpr fun hsnippet => ho ⟨f, hf, hcontent ▸ hsnippet⟩

theorem shapeDefinition_fits (model : Nat) {node : Node}
    (ht : ∀ s ∈ node.kind.parameters, Slot.checkType s = .ok ()) (ho : ¬node.kind.HasSnippet)
    (hhelpers : ∀ h ∈ node.kind.helpers, h.signature.name ∈ known)
    (hchildren : ∀ c ∈ node.kind.children, shapeFunction model c ∈ known) :
    (shapeDefinition model node).Fits known := by
  refine .of_lines (Kind.body_opens (language_fits hlanguage) model ?_ ?_ ?_)
  · exact fun h hh => ⟨hhelpers h hh, Item.admits_of_stem (stem_helper h)⟩
  · refine fun c hc => ⟨hchildren c hc, fun m id hname => Or.inr ⟨node.id, ?_⟩⟩
    rw [(shapeFunction_inj hname).1]
    rfl
  · intro s hs
    refine slot_fits hlanguage hrandom (ht s hs) ?_
    exact Bool.eq_false_iff.mpr fun hsnippet => ho ⟨s, hs, hsnippet⟩

/-- The functions of the shapes of a list in which children come first. -/
theorem shapes_scoped {shapes : Arena} (hw : shapes.WellFormed) (model : Nat) {ids : List ShapeId}
    (hfirst : shapes.ChildrenFirst ids) (hcontains : ∀ x ∈ ids, shapes.contains x = true)
    (hhelpers : ∀ x ∈ ids, ∀ node, shapes.get? x = some node →
      ∀ h ∈ node.kind.helpers, h.signature.name ∈ known)
    (ho : ∀ x ∈ ids, ∀ node, shapes.get? x = some node → ¬node.kind.HasSnippet) :
    Scoped known (((ids.filterMap shapes.get?).map (shapeDefinition model)).map .function) := by
  induction ids using List.reverseRecOn with
  | nil => exact .functions (by simp)
  | append_singleton ids x ih =>
      obtain ⟨hids, hchildren⟩ := Arena.ChildrenFirst.concat_iff.mp hfirst
      rw [List.forall_mem_append, List.forall_mem_singleton] at hcontains hhelpers ho
      obtain ⟨node, hnode⟩ := Arena.exists_get?_of_contains hcontains.2
      rw [Arena.dependencies_of_get? hnode] at hchildren
      rw [List.filterMap_append, List.filterMap_cons_some hnode, List.filterMap_nil,
        List.map_append, List.map_append]
      refine (ih hids hcontains.1 hhelpers.1 ho.1).append
        (.functions (List.forall_mem_singleton.mpr ?_))
      rw [declared_functions, hw.shapeDefinition_names hcontains.1]
      refine shapeDefinition_fits (List.subset_append_of_subset_left _ hlanguage)
        (List.mem_append_left _ hrandom) model
        (fun s hs => (hw.slot (Arena.mem_of_get? hnode) s hs).1) (ho.2 node hnode) ?_ ?_
      · exact fun h hh => List.mem_append_left _ (hhelpers.2 node hnode h hh)
      · exact fun c hc => List.mem_append_right _ (List.mem_map_of_mem (hchildren c hc))

theorem modelDefinitions_scoped {shapes : Arena} (hw : shapes.WellFormed) {m : Model}
    (hshape : shapes.contains m.shape = true) (hmaterial : m.material.validate = .ok ())
    (hhelpers : ∀ x ∈ shapes.order m.shape, ∀ node, shapes.get? x = some node →
      ∀ h ∈ node.kind.helpers, h.signature.name ∈ known)
    (hbelow : ¬shapes.HasSnippetBelow m.shape) (ho : ¬m.material.HasSnippet) :
    Scoped known ((modelDefinitions shapes m).map .function) := by
  have hcontains := hw.contains_of_mem_order hshape
  have hfirst : shapes.ChildrenFirst (shapes.order m.shape) := by
    rw [hw.order_eq hshape]
    exact hw.childrenFirst_listing m.shape
  have hself : m.shape ∈ shapes.order m.shape := by
    rw [hw.order_eq hshape]
    exact hw.self_mem_listing m.shape
  have hsplit : modelDefinitions shapes m =
      ((shapes.order m.shape).filterMap shapes.get?).map (shapeDefinition m.id) ++
        ([distanceDefinition m] ++
          [normalDefinition m, materialDefinition s!"material{m.id}" m.material]) := rfl
  rw [hsplit, List.map_append, List.map_append]
  refine (shapes_scoped hlanguage hrandom hw m.id hfirst hcontains hhelpers ?_).append
    ((Scoped.functions ?_).append (.functions ?_))
  · exact fun x hx node hnode hsnippet => hbelow ⟨x, hx, node, hnode, hsnippet⟩
  · rw [List.forall_mem_singleton, declared_functions, hw.shapeDefinition_names hcontains]
    have hsub := List.subset_append_of_subset_left
      ((shapes.order m.shape).map (shapeFunction m.id)) hlanguage
    refine distanceDefinition_appliesOnly (language_fits hsub) ⟨?_, fun n id hname => Or.inl ?_⟩
    · exact List.mem_append_right _ (List.mem_map_of_mem hself)
    · rw [← (shapeFunction_inj hname).1]
      rfl
  · rw [List.append_assoc]
    have hsub : ∀ names : List String, language ⊆ known ++ names := fun names =>
      List.subset_append_of_subset_left names hlanguage
    simp only [List.forall_mem_cons]
    refine ⟨?_, ?_, List.forall_mem_nil _⟩
    · refine normalDefinition_appliesOnly (language_fits (hsub _)) ⟨?_, ?_⟩
      · exact List.mem_append_right _ (List.mem_append_right _ List.mem_cons_self)
      · exact Item.admits_of_stem (stem_numbered (by decide) (by decide) m.id)
    · exact materialDefinition_fits (hsub _) (List.mem_append_left _ hrandom) _ hmaterial ho

/-- The medium and the three functions that choose among the models. -/
theorem choices_fit (hannounced : announced ⊆ known) {air : Material} (hair : air.validate = .ok ())
    (ho : ¬air.HasSnippet) {models : List Model}
    (hmodels : ∀ m ∈ models, ∀ letters ∈ ["distance", "normal", "material"],
      letters ++ toString m.id ∈ known) :
    ∀ f ∈ [materialDefinition "materialAir" air, closestDefinition models, normalChoice models,
      materialChoice models], f.Fits known := by
  have hstruct : ∀ {f : FunctionDef}, ∀ n ∈ announced, n ∈ known ∧ (Item.function f).Admits n :=
    fun n hn => ⟨hannounced hn, Item.admits_of_stem (stem_announced n hn)⟩
  have hletters : ∀ letters ∈ ["distance", "normal", "material"],
      letters.toList.all Char.isAlpha = true ∧ letters.toList ≠ "shape".toList := by decide
  have hnumbered : ∀ {f : FunctionDef}, ∀ letters ∈ ["distance", "normal", "material"],
      ∀ m ∈ models, letters ++ toString m.id ∈ known ∧
        (Item.function f).Admits (letters ++ toString m.id) := by
    intro f letters hmem m hm
    obtain ⟨halpha, hne⟩ := hletters letters hmem
    exact ⟨hmodels m hm letters hmem, Item.admits_of_stem (stem_numbered halpha hne m.id)⟩
  simp only [List.forall_mem_cons]
  refine ⟨?_, ?_, ?_, ?_, List.forall_mem_nil _⟩
  · exact materialDefinition_fits hlanguage hrandom _ hair ho
  · exact closestDefinition_appliesOnly (language_fits hlanguage) (hstruct _ (by decide))
      (hnumbered _ (by decide))
  · exact normalChoice_appliesOnly (language_fits hlanguage) (hnumbered _ (by decide))
  · exact materialChoice_appliesOnly (language_fits hlanguage) (hstruct _ (by decide))
      (hnumbered _ (by decide))

end Segments

/-! ## Programs -/

namespace Scene

variable (scene : Scene)

/-- What is known after the helpers of a program. -/
def baseNames : List String :=
  language ++ announced ++
    ((Helper.needed scene.usedKinds).map Helper.function).map FunctionDef.name

theorem language_subset_baseNames : language ⊆ scene.baseNames :=
  List.subset_append_of_subset_left _ (List.subset_append_left _ _)

theorem announced_subset_baseNames : announced ⊆ scene.baseNames :=
  List.subset_append_of_subset_left _ (List.subset_append_right _ _)

variable {scene}

theorem helper_mem_baseNames {h : Helper} (hh : h ∈ Helper.needed scene.usedKinds) :
    h.signature.name ∈ scene.baseNames :=
  List.mem_append_right _ (List.mem_map_of_mem (List.mem_map_of_mem hh))

theorem always_mem_baseNames {h : Helper} (hh : h ∈ Helper.always) :
    h.signature.name ∈ scene.baseNames :=
  helper_mem_baseNames (List.mem_append_left _ hh)

/-- The main function finds what it needs among the helpers and the announced functions. -/
theorem needed_subset_baseNames : PathTracing.needed ⊆ scene.baseNames := by
  have hsource : ∀ n ∈ PathTracing.needed,
      n ∈ Helper.always.map (fun h => h.signature.name) ∨ n ∈ announced := by decide +kernel
  intro n hn
  rcases hsource n hn with hhelper | hannounced
  · obtain ⟨h, hh, rfl⟩ := List.mem_map.mp hhelper
    exact always_mem_baseNames hh
  · exact scene.announced_subset_baseNames hannounced

/-- The helpers of the shapes of a model are in the program. -/
theorem helper_mem_needed {m : Model} (hm : m ∈ scene.models) {x : ShapeId}
    (hx : x ∈ scene.shapes.order m.shape) {node : Node} (hnode : scene.shapes.get? x = some node)
    {h : Helper} (hh : h ∈ node.kind.helpers) : h ∈ Helper.needed scene.usedKinds := by
  have hused : node.kind ∈ scene.usedKinds :=
    List.mem_flatMap.mpr ⟨m, hm, List.mem_map_of_mem (List.mem_filterMap.mpr ⟨x, hx, hnode⟩)⟩
  have hsource : h ∈ Helper.always ∨ h ∈ Helper.onDemand := by
    cases h <;> decide
  rcases hsource with halways | hdemand
  · exact List.mem_append_left _ halways
  · refine List.mem_append_right _ (List.mem_filter.mpr ⟨hdemand, ?_⟩)
    exact List.any_eq_true.mpr ⟨node.kind, hused, List.contains_iff_mem.mpr hh⟩

end Scene

namespace Builder.WellFormed

variable {b : Builder}

theorem numbered_mem_names (hw : b.WellFormed) :
    ∀ m ∈ b.models, ∀ letters ∈ ["distance", "normal", "material"], letters ++ toString m.id ∈
      (b.models.flatMap (modelDefinitions b.shapes)).map FunctionDef.name := by
  intro m hm letters hletters
  rw [List.map_flatMap, List.mem_flatMap]
  refine ⟨m, hm, ?_⟩
  rw [hw.shapes.modelDefinitions_names (hw.model_shape m hm)]
  exact List.mem_append_right _ (List.mem_map_of_mem (f := (· ++ toString m.id)) hletters)

theorem models_scoped (hw : b.WellFormed) (ho : ¬b.scene.HasSnippet) :
    Scoped b.scene.baseNames ((b.models.flatMap (modelDefinitions b.shapes)).map .function) := by
  rw [List.map_flatMap]
  refine .flatMap fun m hm => ?_
  refine modelDefinitions_scoped b.scene.language_subset_baseNames
    (Scene.always_mem_baseNames (by decide)) hw.shapes (hw.model_shape m hm) (hw.model_material m hm)
    ?_ ?_ ?_
  · intro x hx node hnode h hh
    exact Scene.helper_mem_baseNames (Scene.helper_mem_needed hm hx hnode hh)
  · exact fun hsnippet => ho (Or.inl ⟨m, hm, Or.inl hsnippet⟩)
  · exact fun hsnippet => ho (Or.inl ⟨m, hm, Or.inr hsnippet⟩)

theorem definitions_scoped (hw : b.WellFormed) (ho : ¬b.scene.HasSnippet) :
    Scoped (language ++ announced) (b.scene.definitions.map .function) := by
  have hlanguage := b.scene.language_subset_baseNames
  have hrandom : Helper.random.signature.name ∈ b.scene.baseNames :=
    Scene.always_mem_baseNames (by decide)
  have hsplit : b.scene.definitions =
      (Helper.needed b.scene.usedKinds).map Helper.function ++ ([mainFunction b.camera] ++
        (b.models.flatMap (modelDefinitions b.shapes) ++
          [materialDefinition "materialAir" b.air, closestDefinition b.models,
            normalChoice b.models, materialChoice b.models])) := by
    simp only [Scene.definitions, List.append_assoc]
    rfl
  rw [hsplit, List.map_append, List.map_append, List.map_append]
  refine (helpers_scoped (List.subset_append_left _ _) _).append ?_
  rw [declared_functions]
  refine (Scoped.functions (List.forall_mem_singleton.mpr ?_)).append
    (((hw.models_scoped ho).mono (List.subset_append_left _ _)).append (.functions ?_))
  · refine mainFunction_fits hlanguage hrandom Scene.needed_subset_baseNames hw.camera ?_
    exact fun hsnippet => ho (Or.inr (Or.inl hsnippet))
  · rw [declared_functions, declared_functions, List.append_assoc]
    refine choices_fit (List.subset_append_of_subset_left _ hlanguage)
      (List.mem_append_left _ hrandom)
      (List.subset_append_of_subset_left _ b.scene.announced_subset_baseNames) hw.air ?_ ?_
    · exact fun hsnippet => ho (Or.inr (Or.inr hsnippet))
    · intro m hm letters hletters
      have hname := hw.numbered_mem_names m hm letters hletters
      exact List.mem_append_right _ (List.mem_append_right _ hname)

theorem program_scoped (hw : b.WellFormed) (ho : ¬b.scene.HasSnippet) (o : Options) :
    Scoped language (b.scene.program o).items := by
  rw [Scene.program_items]
  refine Scoped.append (.of_forall fun item hitem n hn => ?_) ?_
  · rw [(applied_declarationItems o item hitem).1] at hn
    cases hn
  · rw [declared_declarationItems]
    exact hw.definitions_scoped ho

end Builder.WellFormed

/-- A name that no other function has finds its function. -/
theorem filter_name_eq {f : FunctionDef} :
    ∀ {fs : List FunctionDef}, (fs.map FunctionDef.name).Nodup → f ∈ fs →
      (fs.filter fun g => g.name == f.name) = [f]
  | [], _, hf => by cases hf
  | g :: fs, hnodup, hf => by
      rw [List.map_cons, List.nodup_cons] at hnodup
      rcases List.mem_cons.mp hf with rfl | hf
      · have hrest : (fs.filter fun g => g.name == f.name) = [] := by
          rw [List.filter_eq_nil_iff]
          intro g hg hname
          exact hnodup.1 (eq_of_beq hname ▸ List.mem_map_of_mem hg)
        rw [List.filter_cons_of_pos (by simp), hrest]
      · have hne : ¬(g.name == f.name) = true := fun hname =>
          hnodup.1 (eq_of_beq hname ▸ List.mem_map_of_mem hf)
        rw [List.filter_cons, if_neg hne]
        exact filter_name_eq hnodup.2 hf

theorem Scene.exists_definition_of_prototype (scene : Scene) (o : Options) {s : Signature}
    (h : .prototype s ∈ (scene.program o).items) : ∃ f ∈ scene.definitions, f.signature = s := by
  have hs : s ∈ [closestSignature, normalSignature, materialSignature, airSignature] := by
    simpa [program_items, declarationItems, interfaceItems, constantItems, structItems,
      prototypeItems] using h
  have hlast : ∀ f ∈ [materialDefinition "materialAir" scene.air, closestDefinition scene.models,
      normalChoice scene.models, materialChoice scene.models], f ∈ scene.definitions :=
    fun f hf => List.mem_append_right _ hf
  simp only [List.forall_mem_cons] at hlast
  obtain ⟨hair, hclosest, hnormal, hmaterial, -⟩ := hlast
  simp only [List.mem_cons, List.not_mem_nil, or_false] at hs
  rcases hs with rfl | rfl | rfl | rfl
  · exact ⟨_, hclosest, rfl⟩
  · exact ⟨_, hnormal, rfl⟩
  · exact ⟨_, hmaterial, rfl⟩
  · exact ⟨_, hair, rfl⟩

/-- Every function is declared before it is used, and defined once. -/
structure Program.DeclaresBeforeUse (p : Program) : Prop where
  /-- No name is defined twice. -/
  names : (p.functions.map FunctionDef.name).Nodup
  /-- What is announced is defined once, with the head that was announced. -/
  prototypes : ∀ s, .prototype s ∈ p.items →
    (p.functions.filter fun f => f.name == s.name).map FunctionDef.signature = [s]
  /-- A body applies words of the language and names that an earlier item declares. -/
  applied : ∀ before f after, p.items = before ++ .function f :: after →
    ∀ n ∈ f.applied, n ∈ language ∨ ∃ item ∈ before, item.declares? = some n
  /-- A body that applies the function of a shape belongs to the same model, where that function is
  already defined. -/
  shapes : ∀ before f after, p.items = before ++ .function f :: after →
    ∀ m id, shapeFunction m id ∈ f.applied →
      (∃ g, .function g ∈ before ∧ g.name = shapeFunction m id) ∧
        (f.name = "distance" ++ toString m ∨ ∃ k, f.name = shapeFunction m k)

/-- Only a function declares the name of a shape's function. -/
theorem Scene.function_of_declares {scene : Scene} {o : Options} {item : Item} {m : Nat}
    {id : ShapeId} (hitem : item ∈ (scene.program o).items)
    (h : item.declares? = some (shapeFunction m id)) :
    ∃ g, item = .function g ∧ g.name = shapeFunction m id := by
  rw [program_items, List.mem_append] at hitem
  rcases hitem with hitem | hitem
  · have hname : shapeFunction m id ∈ announced := List.mem_filterMap.mpr ⟨item, hitem, h⟩
    exact absurd (stem_shapeFunction m id) (stem_announced _ hname)
  · obtain ⟨g, -, rfl⟩ := List.mem_map.mp hitem
    exact ⟨g, rfl, Option.some.inj h⟩

/-- The program of a scene without snippets declares everything before it is used. -/
theorem Builder.Reachable.program_declaresBeforeUse {b : Builder} (hb : b.Reachable)
    (ho : ¬b.scene.HasSnippet) (o : Options) : (b.scene.program o).DeclaresBeforeUse := by
  have hw := hb.wellFormed
  have hnames := hw.definitions_nodup
  have hscoped := hw.program_scoped ho o
  refine ⟨?_, ?_, ?_, ?_⟩
  · rw [Scene.program_functions]
    exact hnames
  · intro s hs
    obtain ⟨f, hf, rfl⟩ := b.scene.exists_definition_of_prototype o hs
    rw [Scene.program_functions]
    exact congrArg (List.map FunctionDef.signature) (filter_name_eq hnames hf)
  · intro before f after hitems n hn
    exact (hscoped before _ after hitems n hn).1.imp_right List.mem_filterMap.mp
  · intro before f after hitems m id hn
    obtain ⟨hknown, hadmits⟩ := hscoped before _ after hitems _ hn
    constructor
    · rcases hknown with hlanguage | hdeclared
      · exact absurd (stem_shapeFunction m id) (stem_language hlanguage)
      · obtain ⟨item, hitem, hname⟩ := List.mem_filterMap.mp hdeclared
        have hmem : item ∈ (b.scene.program o).items := hitems ▸ List.mem_append_left _ hitem
        obtain ⟨g, rfl, hg⟩ := Scene.function_of_declares hmem hname
        exact ⟨g, hitem, hg⟩
    · refine (hadmits m id rfl).imp Option.some.inj ?_
      rintro ⟨k, hk⟩
      exact ⟨k, Option.some.inj hk⟩

/-- Two copies of a ball in one shape. -/
theorem program_declaresBeforeUse_diamond :
    Builder.diamond.Reachable ∧ ¬Builder.diamond.scene.HasSnippet ∧
      (Builder.diamond.scene.program {}).DeclaresBeforeUse :=
  ⟨Builder.diamond_reachable, Builder.diamond_not_hasSnippet,
    Builder.diamond_reachable.program_declaresBeforeUse Builder.diamond_not_hasSnippet {}⟩

end ImplicitScene
