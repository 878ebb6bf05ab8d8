import ImplicitScene.Proofs.Expansion
import ImplicitScene.Proofs.PostOrder

/-!
# A scene is what its description says

A description that can be carried out determines its shapes and models, handle by
handle.  The entries of the list of named shapes are built in turn, and the shapes
that the models describe in place come after them, all in post-order.  An entry may
name shapes only that come before it, and a name stands for the last of the shapes
that its entry describes.  No name is given twice.

The models follow the description in order.  Each has the shape that its term stands
for, and the material that is described for it.

The names are put into a table while the entries are built.  `lookup_of_buildShapes`
says what is in it at the end: the entries with their roots, which are known from the
text alone.
-/

namespace ImplicitScene

open ShapeTerm

/-! ## Named shapes -/

namespace Description

open Build

/-- The entries have different names, and none of them is in the table. -/
structure NewNames {α β : Type} (names : List (String × β)) (entries : List (String × α)) :
    Prop where
  /-- No two entries have one name. -/
  nodup : (entries.map Prod.fst).Nodup
  /-- No entry has a name of the table. -/
  unknown : ∀ name ∈ entries.map Prod.fst, names.lookup name = none

theorem NewNames.nil {α β : Type} (names : List (String × β)) :
    NewNames names ([] : List (String × α)) :=
  ⟨.nil, fun _ h => by cases h⟩

/-- A new name is put into the table before the other entries are looked at. -/
theorem NewNames.cons {α β : Type} {names : List (String × β)} {name : String} {x : α} {y : β}
    {rest : List (String × α)} (hname : names.lookup name = none)
    (h : NewNames ((name, y) :: names) rest) : NewNames names ((name, x) :: rest) := by
  have hrest : ∀ n ∈ rest.map Prod.fst, n ≠ name ∧ names.lookup n = none := by
    intro n hn
    have hlookup := h.unknown n hn
    rw [List.lookup_cons] at hlookup
    cases heq : n == name with
    | true =>
        rw [heq] at hlookup
        cases hlookup
    | false =>
        rw [heq] at hlookup
        exact ⟨beq_eq_false_iff_ne.mp heq, hlookup⟩
  refine ⟨List.nodup_cons.mpr ⟨fun hmem => (hrest name hmem).1 rfl, h.nodup⟩, fun n hn => ?_⟩
  rcases List.mem_cons.mp hn with rfl | hn
  · exact hname
  · exact (hrest n hn).2

/-- The names of the entries with the handles of their shapes, from `before` shapes on.  The shape
of an entry is the last that the entry describes. -/
def roots (tag : Nat) : (before : Nat) → List (String × Kind Formula ShapeTerm) →
    List (String × ShapeId)
  | _, [] => []
  | before, (name, kind) :: rest =>
      let last := before + (ShapeTerm.inline kind).postorder.length
      (name, ⟨tag, last⟩) :: roots tag last rest

variable {names names' : List (String × ShapeId)}
  {entries : List (String × Kind Formula ShapeTerm)} {b c : Builder}

theorem newNames_of_buildShapes (h : (buildShapes names entries).runOn b = (.ok names', c)) :
    NewNames names entries := by
  induction entries generalizing names b with
  | nil => exact .nil names
  | cons entry rest ih =>
      obtain ⟨hnew, id, m, -, hrest⟩ := of_buildShapes_cons h
      exact .cons hnew (ih hrest)

/-- The table that results has what it had, and the entries with their roots. -/
theorem lookup_of_buildShapes (h : (buildShapes names entries).runOn b = (.ok names', c))
    (name : String) : names'.lookup name =
      (names.lookup name).or ((roots b.shapes.tag b.shapes.size entries).lookup name) := by
  induction entries generalizing names b with
  | nil =>
      cases h
      exact (Option.or_none).symm
  | cons entry rest ih =>
      obtain ⟨hnew, id, m, hkind, hrest⟩ := of_buildShapes_cons h
      have hgains := ((buildKind_completes names entry.2).makes hkind).1
      have hsize : m.shapes.size = b.shapes.size + (ShapeTerm.inline entry.2).postorder.length := by
        simpa using hgains.size
      have hid : id = ⟨b.shapes.tag, m.shapes.size⟩ := by
        rw [hsize]
        exact (Option.some.inj (List.cons.inj hgains.ids).1).symm
      rw [ih hrest, hgains.tag, roots, ← hsize, ← hid, List.lookup_cons, List.lookup_cons]
      cases heq : name == entry.1 with
      | true => rw [eq_of_beq heq, hnew]; rfl
      | false => rfl

theorem lookup_kept (h : (buildShapes names entries).runOn b = (.ok names', c)) {name : String}
    {x : ShapeId} (hx : names.lookup name = some x) : names'.lookup name = some x := by
  rw [lookup_of_buildShapes h, hx]
  rfl

/-- The entries are built in turn. -/
theorem gains_of_buildShapes (h : (buildShapes names entries).runOn b = (.ok names', c)) :
    (∃ ids, b.shapes.Gains names' (entries.map fun entry => .inline entry.2) ids c.shapes) ∧
      c.models = b.models := by
  induction entries generalizing names b with
  | nil =>
      cases h
      exact ⟨⟨[], .nil⟩, rfl⟩
  | cons entry rest ih =>
      obtain ⟨hnew, id, m, hkind, hrest⟩ := of_buildShapes_cons h
      obtain ⟨hgains, hmodels⟩ := (buildKind_completes names entry.2).makes hkind
      obtain ⟨⟨ids, hgains'⟩, hmodels'⟩ := ih hrest
      have hkept : ∀ {n x}, names.lookup n = some x → names'.lookup n = some x :=
        fun hx => lookup_kept hrest (lookup_cons_of_new hnew id hx)
      exact ⟨⟨id :: ids, (hgains.mono hkept).append hgains'⟩, hmodels'.trans hmodels⟩

/-- A name inside an entry is in the table or belongs to an earlier entry. -/
theorem earlier_of_buildShapes (h : (buildShapes names entries).runOn b = (.ok names', c))
    {i : Nat} {entry : String × Kind Formula ShapeTerm} (hi : entries[i]? = some entry)
    {kind : Kind Formula ShapeTerm} (hkind : kind ∈ (ShapeTerm.inline entry.2).postorder)
    {name : String} (hname : .named name ∈ kind.children) :
    (∃ x, names.lookup name = some x) ∨ ∃ j < i, ∃ other, entries[j]? = some (name, other) := by
  induction entries generalizing names b i with
  | nil => cases hi
  | cons first rest ih =>
      obtain ⟨-, id, m, hkind', hrest⟩ := of_buildShapes_cons h
      cases i with
      | zero =>
          cases hi
          have hgains := ((buildKind_completes names entry.2).makes hkind').1
          exact .inl (hgains.lookup (by simpa using hkind) hname)
      | succ i =>
          rcases ih hrest hi with ⟨x, hx⟩ | ⟨j, hj, other, hother⟩
          · rw [List.lookup_cons] at hx
            cases heq : name == first.1 with
            | true => exact .inr ⟨0, Nat.succ_pos i, first.2, by rw [eq_of_beq heq]; rfl⟩
            | false =>
                rw [heq] at hx
                exact .inl ⟨x, hx⟩
          · exact .inr ⟨j + 1, Nat.succ_lt_succ hj, other, hother⟩

/-! ## Materials and models -/

theorem newNames_of_resolveMaterials {names names' : List (String × Material)}
    {terms : List (String × MaterialTerm)} (h : resolveMaterials names terms = .ok names') :
    NewNames names terms := by
  induction terms generalizing names with
  | nil => exact .nil names
  | cons entry rest ih =>
      obtain ⟨hnew, m, -, hrest⟩ := of_resolveMaterials_cons h
      exact .cons hnew (ih hrest)

/-- The material that is described for a model: the default if there is none, what is described in
place, or what the entry of the name describes. -/
def Denotes (d : Description) : Option MaterialRef → Material → Prop
  | none, m => m = {}
  | some (.inline term), m => term.toMaterial = .ok m
  | some (.named name), m =>
      ∃ term, d.materials.lookup name = some term ∧ term.toMaterial = .ok m

theorem denotes_of_modelMaterial {d : Description} {materials : List (String × Material)}
    (h : resolveMaterials [] d.materials = .ok materials) {reference : Option MaterialRef}
    {m : Material} (hm : modelMaterial materials reference = .ok m) : d.Denotes reference m := by
  cases reference with
  | none => exact (Except.ok.inj hm).symm
  | some reference =>
      cases reference with
      | inline term => exact hm
      | named name =>
          rw [modelMaterial, MaterialRef.toMaterial] at hm
          cases hfound : materials.lookup name with
          | none =>
              rw [hfound] at hm
              cases hm
          | some found =>
              rw [hfound] at hm
              cases hm
              exact term_of_resolveMaterials h rfl hfound

/-- The models are built in turn, and numbered. -/
theorem gains_of_buildModels {names : List (String × ShapeId)}
    {materials : List (String × Material)} {terms : List ModelTerm} {b c : Builder}
    (h : (buildModels names materials terms).runOn b = (.ok (), c)) :
    ∃ added, c.models = b.models ++ added ∧
      b.shapes.Gains names (terms.map ModelTerm.shape) (added.map Model.shape) c.shapes ∧
      added.map Model.id = List.range' (b.models.length + 1) terms.length ∧
      List.Forall₂ (fun t m => modelMaterial materials t.material = .ok m.material) terms
        added := by
  induction terms generalizing b with
  | nil =>
      cases h
      exact ⟨[], (List.append_nil _).symm, .nil, rfl, .nil⟩
  | cons t rest ih =>
      obtain ⟨x, b₁, hshape, h⟩ := of_bind_ok h
      obtain ⟨material, hmaterial, h⟩ := of_liftExcept_ok h
      rw [discard_bind] at h
      obtain ⟨n, b₂, hmodel, h⟩ := of_bind_ok h
      obtain ⟨hgains, hmodels⟩ := build_makes names t.shape hshape
      have hadded : b₂.shapes = b₁.shapes ∧
          b₂.models = b.models ++ [⟨b.models.length + 1, x, material⟩] := by
        rw [model_runOn] at hmodel
        split at hmodel
        next =>
          cases hvalid : material.validate with
          | error e =>
              rw [hvalid] at hmodel
              cases hmodel
          | ok u =>
              rw [hvalid] at hmodel
              cases hmodel
              exact ⟨rfl, by rw [hmodels]⟩
        next => cases hmodel
      obtain ⟨hshapes, hmodels₂⟩ := hadded
      obtain ⟨added, hc, hrest, hids, hmaterials⟩ := ih h
      refine ⟨⟨b.models.length + 1, x, material⟩ :: added, ?_, ?_, ?_, .cons hmaterial hmaterials⟩
      · rw [hc, hmodels₂, List.append_assoc, List.singleton_append]
      · exact hgains.append (hshapes ▸ hrest)
      · rw [List.map_cons, hids, hmodels₂, List.length_cons, List.range'_succ, List.length_append,
          List.length_singleton]

theorem setCamera_frame {camera : Option CameraTerm} {b c : Builder}
    (h : (setCamera camera).runOn b = (.ok (), c)) : c.shapes = b.shapes ∧ c.models = b.models := by
  cases camera with
  | none =>
      cases h
      exact ⟨rfl, rfl⟩
  | some term =>
      obtain ⟨camera, -, hset⟩ := of_liftExcept_ok h
      rw [camera_runOn] at hset
      split at hset <;> cases hset
      exact ⟨rfl, rfl⟩

theorem setAir_frame {materials : List (String × Material)} {air : Option MaterialRef}
    {b c : Builder} (h : (setAir materials air).runOn b = (.ok (), c)) :
    c.shapes = b.shapes ∧ c.models = b.models := by
  cases air with
  | none =>
      cases h
      exact ⟨rfl, rfl⟩
  | some reference =>
      obtain ⟨air, -, hset⟩ := of_liftExcept_ok h
      rw [air_runOn] at hset
      split at hset <;> cases hset
      exact ⟨rfl, rfl⟩

/-! ## Scenes -/

/-- The steps of a description that can be carried out.  Camera and air come last and leave shapes
and models as they are. -/
theorem of_scene_ok {d : Description} {tag : Nat} {scene : Scene} (h : d.scene tag = .ok scene) :
    ∃ names b materials c,
      (buildShapes [] d.shapes).runOn (.empty tag) = (.ok names, b) ∧
      resolveMaterials [] d.materials = .ok materials ∧
      (buildModels names materials d.models).runOn b = (.ok (), c) ∧
      scene.shapes = c.shapes ∧ scene.models = c.models := by
  obtain ⟨_, last, hrun, rfl⟩ := of_toScene_ok h
  rw [build_eq] at hrun
  obtain ⟨names, b, hshapes, hrun⟩ := of_bind_ok hrun
  obtain ⟨materials, hmaterials, hrun⟩ := of_liftExcept_ok hrun
  obtain ⟨_, c, hmodels, hrun⟩ := of_bind_ok hrun
  obtain ⟨_, m, hcamera, hair⟩ := of_bind_ok hrun
  obtain ⟨hcshapes, hcmodels⟩ := setCamera_frame hcamera
  obtain ⟨hashapes, hamodels⟩ := setAir_frame hair
  exact ⟨names, b, materials, c, hshapes, hmaterials, hmodels, hashapes.trans hcshapes,
    hamodels.trans hcmodels⟩

/-- The shapes that the entries describe in place, in post-order. -/
def entryShapes (d : Description) : List (Kind Formula ShapeTerm) :=
  (d.shapes.map fun entry => ShapeTerm.inline entry.2).flatMap postorder

/-- The shapes that the models describe in place, in post-order. -/
def modelShapes (d : Description) : List (Kind Formula ShapeTerm) :=
  (d.models.map ModelTerm.shape).flatMap postorder

/-- The scene is what the description says, shape by shape and model by model. -/
structure Faithful (d : Description) (tag : Nat) (scene : Scene) : Prop where
  /-- No two shapes have one name. -/
  shape_names : (d.shapes.map Prod.fst).Nodup
  /-- No two materials have one name. -/
  material_names : (d.materials.map Prod.fst).Nodup
  /-- A name that stands for a child inside an entry belongs to an earlier entry. -/
  earlier : ∀ {i : Nat} {entry : String × Kind Formula ShapeTerm}, d.shapes[i]? = some entry →
    ∀ kind ∈ (ShapeTerm.inline entry.2).postorder, ∀ name, .named name ∈ kind.children →
      ∃ j < i, ∃ other, d.shapes[j]? = some (name, other)
  /-- There is one shape for each that is described in place. -/
  size : scene.shapes.size = (d.entryShapes ++ d.modelShapes).length
  /-- The shapes are as described, in post-order, the entries before the models. -/
  shape : ∀ {i : Nat} {kind : Kind Formula ShapeTerm},
    (d.entryShapes ++ d.modelShapes)[i]? = some kind →
      ∃ node, scene.shapes.nodes[i]? = some node ∧ Realizes (roots tag 0 d.shapes) tag i kind node
  /-- The models count from 1. -/
  model_ids : scene.models.map Model.id = List.range' 1 d.models.length
  /-- The shapes of the models are what their terms stand for. -/
  model_shapes : handlesFrom (roots tag 0 d.shapes) tag d.entryShapes.length
    (d.models.map ModelTerm.shape) = (scene.models.map Model.shape).map some
  /-- The materials of the models are those that are described for them. -/
  model_materials : List.Forall₂ (fun t m => d.Denotes t.material m.material) d.models scene.models

/-- A description that can be carried out is carried out in post-order.  Names are different and
refer to earlier entries, every shape that is described in place is stored once and where it comes
in post-order, and the models follow the description. -/
theorem scene_faithful {d : Description} {tag : Nat} {scene : Scene}
    (h : d.scene tag = .ok scene) : d.Faithful tag scene := by
  obtain ⟨names, b, materials, c, hshapes, hmaterials, hmodels, hsceneshapes, hscenemodels⟩ :=
    of_scene_ok h
  have hroots : ∀ name, names.lookup name = (roots tag 0 d.shapes).lookup name :=
    lookup_of_buildShapes hshapes
  obtain ⟨⟨ids, hentries⟩, hnone⟩ := gains_of_buildShapes hshapes
  obtain ⟨added, hadded, hplaced, hids, hdenotes⟩ := gains_of_buildModels hmodels
  -- the builder starts without models
  have hmodelsadded : scene.models = added := by
    rw [hscenemodels, hadded, hnone]
    rfl
  have hall := (hentries.append hplaced).mono fun {n x} hx => (hroots n).symm.trans hx
  have hsize : b.shapes.size = d.entryShapes.length := by
    rw [hentries.size]
    exact Nat.zero_add _
  refine
    { shape_names := (newNames_of_buildShapes hshapes).nodup
      material_names := (newNames_of_resolveMaterials hmaterials).nodup
      earlier := fun hi kind hkind name hname => ?_
      size := ?_
      shape := fun {i kind} hi => ?_
      model_ids := ?_
      model_shapes := ?_
      model_materials := ?_ }
  · rcases earlier_of_buildShapes hshapes hi hkind hname with ⟨x, hx⟩ | hearlier
    · cases hx
    · exact hearlier
  · rw [hsceneshapes, hall.size, List.flatMap_append]
    exact Nat.zero_add _
  · rw [hsceneshapes]
    have hi' : ((d.shapes.map fun entry => ShapeTerm.inline entry.2) ++
        d.models.map ModelTerm.shape |>.flatMap postorder)[i]? = some kind := by
      rw [List.flatMap_append]
      exact hi
    have hnew := hall.new hi'
    rwa [show (Builder.empty tag).shapes.size + i = i from Nat.zero_add i] at hnew
  · rw [hmodelsadded, hids, hnone]
    rfl
  · have hplaced' := hplaced.ids
    rw [hentries.tag, hsize] at hplaced'
    rw [hmodelsadded]
    exact handlesFrom_mono (fun {n x} hx => (hroots n).symm.trans hx) hplaced'
  · rw [hmodelsadded]
    exact hdenotes.imp fun _ _ hm => denotes_of_modelMaterial hmaterials hm

/-- The ball and the head are stored when they are named.  The union comes with the model that
describes it, and its children are the two that were there. -/
theorem scene_faithful_snowman :
    ∃ scene, snowman.scene 1 = .ok scene ∧ snowman.Faithful 1 scene ∧
      scene.shapes.nodes.toList.map (fun node => node.kind.children) =
        [[], [⟨1, 1⟩], [⟨1, 2⟩, ⟨1, 1⟩]] ∧
      scene.models.map Model.shape = [⟨1, 2⟩, ⟨1, 3⟩] := by
  have hshapes : (snowman.scene 1).map (fun scene =>
      (scene.shapes.nodes.toList.map fun node => node.kind.children,
        scene.models.map Model.shape)) =
      .ok ([[], [⟨1, 1⟩], [⟨1, 2⟩, ⟨1, 1⟩]], [⟨1, 2⟩, ⟨1, 3⟩]) := by
    decide +kernel
  cases h : snowman.scene 1 with
  | error e =>
      rw [h] at hshapes
      cases hshapes
  | ok scene =>
      rw [h] at hshapes
      obtain ⟨hchildren, hmodels⟩ := Prod.mk.inj (Except.ok.inj hshapes)
      exact ⟨scene, rfl, scene_faithful h, hchildren, hmodels⟩

end Description

end ImplicitScene
