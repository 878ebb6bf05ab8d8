import Mathlib.Data.List.Forall2
import ImplicitScene.Proofs.Twins
import ImplicitScene.Scene.Probe

/-!
# Descriptions without names

A description may name shapes and materials.  To expand it is to write out what
every name stands for: in place of a name stands a copy of its definition, which
is expanded already, and nothing is defined any more.

A name and its copy are built differently.  The name denotes one shape, made once
when it was defined.  The copy is made anew wherever it stands, so an expanded
scene has other shapes and more of them.  But a shape and its copy have the same
distance.  So if a description can be carried out, then so can the expanded one,
and the scenes have the same camera, the same air, and model by model the same
material and the same distance.
-/

namespace ImplicitScene

/-! ## Expansion -/

namespace ShapeTerm

mutual

/-- A shape with every name replaced by its definition.  A name without definition stays. -/
def expand (definitions : List (String × Kind Formula ShapeTerm)) : ShapeTerm → ShapeTerm
  | named name =>
      match definitions.lookup name with
      | some kind => inline kind
      | none => named name
  | inline kind => inline (expandKind definitions kind)
termination_by structural t => t

/-- One step of a shape with the names in its children replaced. -/
def expandKind (definitions : List (String × Kind Formula ShapeTerm)) :
    Kind Formula ShapeTerm → Kind Formula ShapeTerm
  | .sphere => .sphere
  | .cube => .cube
  | .skull => .skull
  | .plane normal offset => .plane normal offset
  | .smoothBox size radius => .smoothBox size radius
  | .cylinder radius height => .cylinder radius height
  | .torus major minor => .torus major minor
  | .truchet thickness => .truchet thickness
  | .translate offset child => .translate offset (expand definitions child)
  | .scale factor child => .scale factor (expand definitions child)
  | .rotate axis angle child => .rotate axis angle (expand definitions child)
  | .combine op a b => .combine op (expand definitions a) (expand definitions b)
  | .blend op a b radius => .blend op (expand definitions a) (expand definitions b) radius
  | .tile mode period child => .tile mode period (expand definitions child)
termination_by structural kind => kind

end

end ShapeTerm

/-- A material with its name replaced by its definition.  A name without definition stays. -/
def MaterialRef.expand (definitions : List (String × MaterialTerm)) : MaterialRef → MaterialRef
  | named name =>
      match definitions.lookup name with
      | some term => inline term
      | none => named name
  | inline term => inline term

/-- A model with every name replaced. -/
def ModelTerm.expand (shapes : List (String × Kind Formula ShapeTerm))
    (materials : List (String × MaterialTerm)) (m : ModelTerm) : ModelTerm :=
  ⟨m.shape.expand shapes, m.material.map (MaterialRef.expand materials)⟩

namespace Description

/-- The expanded definitions, each expanded by those before it. -/
def expandShapes (definitions : List (String × Kind Formula ShapeTerm)) :
    List (String × Kind Formula ShapeTerm) → List (String × Kind Formula ShapeTerm)
  | [] => definitions
  | (name, kind) :: rest =>
      expandShapes ((name, ShapeTerm.expandKind definitions kind) :: definitions) rest

/-- A description with every name replaced, that defines nothing. -/
def expand (d : Description) : Description where
  models := d.models.map (ModelTerm.expand (expandShapes [] d.shapes) d.materials)
  camera := d.camera
  air := d.air.map (MaterialRef.expand d.materials)

end Description

/-! ## Shapes -/

/-- Every name that denotes a shape has a definition that makes a twin of it, from whatever builder
it is carried out. -/
def Known (names : List (String × ShapeId)) (definitions : List (String × Kind Formula ShapeTerm))
    (arena : Arena) : Prop :=
  ∀ ⦃name : String⦄ ⦃x : ShapeId⦄, names.lookup name = some x →
    ∃ kind, definitions.lookup name = some kind ∧ ∀ ⦃b : Builder⦄, b.WellFormed →
      ∃ y c, (ShapeTerm.buildKind [] kind).runOn b = (.ok y, c) ∧ b.Grows c ∧
        arena.Twins c.shapes x y

theorem Known.grow {names : List (String × ShapeId)}
    {definitions : List (String × Kind Formula ShapeTerm)} {b c : Builder}
    (h : Known names definitions b.shapes) (hb : b.WellFormed) (hc : b.Grows c) :
    Known names definitions c.shapes := by
  intro name x hx
  obtain ⟨kind, hkind, hmakes⟩ := h hx
  refine ⟨kind, hkind, fun b' hb' => ?_⟩
  obtain ⟨y, c', hrun, hgrows, htwins⟩ := hmakes hb'
  exact ⟨y, c', hrun, hgrows, htwins.grow hb hgrows.wellFormed hc (.refl hgrows.wellFormed)⟩

namespace ShapeTerm

open Build

variable (names : List (String × ShapeId)) (definitions : List (String × Kind Formula ShapeTerm))

theorem known_lasting : Lasting fun b _ => Known names definitions b.shapes :=
  fun _ _ _ _ hb _ hc _ h => h.grow hb hc

mutual

/-- Where a shape can be built, the expanded shape can, and the two are twins. -/
theorem expand_twins : ∀ t : ShapeTerm,
    MakesTwins (fun b _ => Known names definitions b.shapes) (build names t)
      (build [] (expand definitions t))
  | named name => by
      intro b b' c a hb hb' hknown hrun
      rw [build] at hrun
      cases hx : names.lookup name with
      | none =>
          rw [hx] at hrun
          cases hrun
      | some x =>
          rw [hx] at hrun
          cases hrun
          obtain ⟨kind, hkind, hmakes⟩ := hknown hx
          obtain ⟨y, c', hrun', hgrows, htwins⟩ := hmakes hb'
          rw [expand, hkind]
          exact ⟨y, c', hrun', .refl hb, hgrows, htwins⟩
  | inline kind => expandKind_twins kind

/-- The children are built in the same order on both sides, and the last step is the same. -/
theorem expandKind_twins : ∀ kind : Kind Formula ShapeTerm,
    MakesTwins (fun b _ => Known names definitions b.shapes) (buildKind names kind)
      (buildKind [] (expandKind definitions kind))
  | .sphere => .push_primitive .sphere rfl
  | .cube => .push_primitive .cube rfl
  | .skull => .push_primitive .skull rfl
  | .plane normal offset =>
      .resolve normal fun n => .resolve offset fun o => .push_primitive (.plane n o) rfl
  | .smoothBox size radius =>
      .resolve size fun s => .resolve radius fun r => .push_primitive (.smoothBox s r) rfl
  | .cylinder radius height =>
      .resolve radius fun r => .resolve height fun h => .push_primitive (.cylinder r h) rfl
  | .torus major minor =>
      .resolve major fun r => .resolve minor fun t => .push_primitive (.torus r t) rfl
  | .truchet thickness => .resolve thickness fun t => .push_primitive (.truchet t) rfl
  | .translate offset child =>
      .bind (known_lasting names definitions) (expand_twins child) fun x y =>
        .resolve offset fun o => .push_over (.translate o (x, y)) rfl
  | .scale factor child =>
      .bind (known_lasting names definitions) (expand_twins child) fun x y =>
        .resolve factor fun f => .push_over (.scale f (x, y)) rfl
  | .rotate axis angle child =>
      .bind (known_lasting names definitions) (expand_twins child) fun x y =>
        .resolve angle fun a => .push_over (.rotate axis a (x, y)) rfl
  | .combine op first second =>
      .bind (known_lasting names definitions) (expand_twins first) fun x y =>
        .bind ((known_lasting names definitions).and_twins x y)
          ((expand_twins second).weaken fun _ _ h => h.1) fun x' y' =>
            .push_over_both (.combine op (x, y) (x', y')) rfl
  | .blend op first second radius =>
      .bind (known_lasting names definitions) (expand_twins first) fun x y =>
        .bind ((known_lasting names definitions).and_twins x y)
          ((expand_twins second).weaken fun _ _ h => h.1) fun x' y' =>
            .resolve radius fun r => .push_over_both (.blend op (x, y) (x', y') r) rfl
  | .tile .perCell period child =>
      .resolve period fun p => .bind (known_lasting names definitions) (expand_twins child)
        fun x y => .push_over (.tile .perCell p (x, y)) rfl
  | .tile .shared period child =>
      .bind (known_lasting names definitions) (expand_twins child) fun x y =>
        .resolve period fun p => .push_over (.tile .shared p (x, y)) rfl

end

end ShapeTerm

namespace Description

open Build

/-- One entry more. -/
theorem of_buildShapes_cons {names names' : List (String × ShapeId)} {name : String}
    {kind : Kind Formula ShapeTerm} {rest : List (String × Kind Formula ShapeTerm)} {b c : Builder}
    (h : (buildShapes names ((name, kind) :: rest)).runOn b = (.ok names', c)) :
    names.lookup name = none ∧ ∃ id m, (ShapeTerm.buildKind names kind).runOn b = (.ok id, m) ∧
      (buildShapes ((name, id) :: names) rest).runOn m = (.ok names', c) := by
  rw [buildShapes] at h
  split at h
  next => cases h
  next hnew => exact ⟨Option.not_isSome_iff_eq_none.mp hnew, of_bind_ok h⟩

/-- The named shapes add nothing but shapes, and every name comes to stand for one. -/
theorem known_buildShapes {names names' : List (String × ShapeId)}
    {definitions shapes : List (String × Kind Formula ShapeTerm)} {b c : Builder}
    (hb : b.WellFormed) (hknown : Known names definitions b.shapes)
    (h : (buildShapes names shapes).runOn b = (.ok names', c)) :
    b.Grows c ∧ Known names' (expandShapes definitions shapes) c.shapes := by
  induction shapes generalizing names definitions b with
  | nil =>
      cases h
      exact ⟨.refl hb, hknown⟩
  | cons entry rest ih =>
      obtain ⟨name, kind⟩ := entry
      obtain ⟨-, id, m, hkind, hrest⟩ := of_buildShapes_cons h
      have hfollows := ShapeTerm.expandKind_twins names definitions kind
      obtain ⟨_, _, _, hm, _⟩ := hfollows hb hb hknown hkind
      have hnew : Known ((name, id) :: names)
          ((name, ShapeTerm.expandKind definitions kind) :: definitions) m.shapes := by
        intro name' x hx
        rw [List.lookup_cons] at hx ⊢
        cases hname : name' == name with
        | true =>
            rw [hname] at hx
            cases hx
            refine ⟨_, rfl, fun b' hb' => ?_⟩
            obtain ⟨y, c', hrun, -, hc', htwins⟩ := hfollows hb hb' hknown hkind
            exact ⟨y, c', hrun, hc', htwins⟩
        | false =>
            rw [hname] at hx
            exact hknown.grow hb hm hx
      obtain ⟨hc, hall⟩ := ih hm.wellFormed hnew hrest
      exact ⟨hm.trans hc, hall⟩

end Description

/-! ## Materials -/

namespace Description

/-- One definition more. -/
theorem of_resolveMaterials_cons {names names' : List (String × Material)} {name : String}
    {term : MaterialTerm} {rest : List (String × MaterialTerm)}
    (h : resolveMaterials names ((name, term) :: rest) = .ok names') :
    names.lookup name = none ∧
      ∃ m, term.toMaterial = .ok m ∧ resolveMaterials ((name, m) :: names) rest = .ok names' := by
  rw [resolveMaterials] at h
  split at h
  next => cases h
  next hnew =>
    refine ⟨Option.not_isSome_iff_eq_none.mp hnew, ?_⟩
    cases hm : term.toMaterial with
    | error e =>
        rw [hm] at h
        cases h
    | ok m =>
        rw [hm] at h
        change (m.validate >>= fun _ => resolveMaterials ((name, m) :: names) rest) = _ at h
        cases hvalid : m.validate with
        | error e =>
            rw [hvalid] at h
            cases h
        | ok u =>
            rw [hvalid] at h
            exact ⟨m, rfl, h⟩

/-- A name that is taken stands for the same when a new name is added. -/
theorem lookup_cons_of_new {β : Type} {names : List (String × β)} {new : String}
    (hnew : names.lookup new = none) (y : β) {name : String} {x : β}
    (hx : names.lookup name = some x) : ((new, y) :: names).lookup name = some x := by
  have hne : (name == new) = false := by
    rw [beq_eq_false_iff_ne]
    rintro rfl
    rw [hx] at hnew
    cases hnew
  rw [List.lookup_cons, hne]
  exact hx

/-- A name that is taken keeps its material. -/
theorem lookup_of_resolveMaterials {names names' : List (String × Material)}
    {terms : List (String × MaterialTerm)} (h : resolveMaterials names terms = .ok names')
    {name : String} {m : Material} (hm : names.lookup name = some m) :
    names'.lookup name = some m := by
  induction terms generalizing names with
  | nil =>
      cases h
      exact hm
  | cons entry rest ih =>
      obtain ⟨hnew, found, -, hrest⟩ := of_resolveMaterials_cons h
      exact ih hrest (lookup_cons_of_new hnew found hm)

/-- The material of a new name is the one that its definition denotes. -/
theorem term_of_resolveMaterials {names names' : List (String × Material)}
    {terms : List (String × MaterialTerm)} (h : resolveMaterials names terms = .ok names')
    {name : String} {m : Material} (hnew : names.lookup name = none)
    (hm : names'.lookup name = some m) :
    ∃ term, terms.lookup name = some term ∧ term.toMaterial = .ok m := by
  induction terms generalizing names with
  | nil =>
      cases h
      rw [hnew] at hm
      cases hm
  | cons entry rest ih =>
      obtain ⟨-, found, hfound, hrest⟩ := of_resolveMaterials_cons h
      rw [List.lookup_cons]
      cases hname : name == entry.1 with
      | true =>
          -- later definitions have other names
          have hkept : names'.lookup name = some found :=
            lookup_of_resolveMaterials hrest (by rw [List.lookup_cons, hname])
          rw [hm] at hkept
          cases hkept
          exact ⟨entry.2, rfl, hfound⟩
      | false => exact ih hrest (by rw [List.lookup_cons, hname]; exact hnew)

/-- A material and its expansion are the same. -/
theorem toMaterial_expand {names : List (String × Material)} {terms : List (String × MaterialTerm)}
    (h : resolveMaterials [] terms = .ok names) {reference : MaterialRef} {m : Material}
    (hm : reference.toMaterial names = .ok m) :
    (reference.expand terms).toMaterial [] = .ok m := by
  cases reference with
  | inline term => exact hm
  | named name =>
      rw [MaterialRef.toMaterial] at hm
      cases hfound : names.lookup name with
      | none =>
          rw [hfound] at hm
          cases hm
      | some found =>
          rw [hfound] at hm
          cases hm
          obtain ⟨term, hterm, hmaterial⟩ := term_of_resolveMaterials h rfl hfound
          rw [MaterialRef.expand, hterm]
          exact hmaterial

theorem modelMaterial_expand {names : List (String × Material)}
    {terms : List (String × MaterialTerm)} (h : resolveMaterials [] terms = .ok names)
    {reference : Option MaterialRef} {m : Material} (hm : modelMaterial names reference = .ok m) :
    modelMaterial [] (reference.map (MaterialRef.expand terms)) = .ok m := by
  cases reference with
  | none => exact hm
  | some reference => exact toMaterial_expand h hm

end Description

/-! ## Models, camera and air -/

/-- Builders whose models are paired by material and distance, with the same camera and air. -/
structure Builder.Paired (b b' : Builder) : Prop where
  /-- The first is well-formed. -/
  left : b.WellFormed
  /-- The second is well-formed. -/
  right : b'.WellFormed
  /-- The models are paired. -/
  models : List.Forall₂ (fun m m' => m.id = m'.id ∧ m.material = m'.material ∧
    b.shapes.Twins b'.shapes m.shape m'.shape) b.models b'.models
  /-- The cameras are the same. -/
  camera : b.camera = b'.camera
  /-- The airs are the same. -/
  air : b.air = b'.air

namespace Builder.Paired

variable {b b' c c' : Builder}

theorem empty (tag tag' : Nat) : (Builder.empty tag).Paired (.empty tag') where
  left := .empty tag
  right := .empty tag'
  models := .nil
  camera := rfl
  air := rfl

theorem grow (h : b.Paired b') (hc : b.Grows c) (hc' : b'.Grows c') : c.Paired c' where
  left := hc.wellFormed
  right := hc'.wellFormed
  models := by
    rw [hc.models, hc'.models]
    exact h.models.imp fun _ _ hm => ⟨hm.1, hm.2.1, hm.2.2.grow h.left h.right hc hc'⟩
  camera := by rw [hc.camera, hc'.camera, h.camera]
  air := by rw [hc.air, hc'.air, h.air]

/-- A pair of models is added. -/
theorem model (h : b.Paired b') {x y : ShapeId} (hxy : b.shapes.Twins b'.shapes x y)
    {material : Material} {n : Nat} (hrun : (Build.model x material).runOn b = (.ok n, c)) :
    c.shapes = b.shapes ∧
      ∃ c', (Build.model y material).runOn b' = (.ok n, c') ∧ c.Paired c' := by
  have hc := h.left.model x material
  have hc' := h.right.model y material
  have hlength := h.models.length_eq
  rw [hrun] at hc
  rw [Build.model_runOn, if_pos hxy.left] at hrun
  rw [Build.model_runOn, if_pos hxy.right] at hc' ⊢
  cases hvalid : material.validate with
  | error e =>
      rw [hvalid] at hrun
      cases hrun
  | ok u =>
      rw [hvalid] at hrun hc'
      cases hrun
      refine ⟨rfl, _, by rw [hlength], hc, hc', ?_, h.camera, h.air⟩
      exact List.rel_append h.models (.cons ⟨by rw [hlength], rfl, hxy⟩ .nil)

theorem setCamera (h : b.Paired b') {camera : Camera}
    (hrun : (Build.camera camera).runOn b = (.ok (), c)) :
    ∃ c', (Build.camera camera).runOn b' = (.ok (), c') ∧ c.Paired c' := by
  have hc := h.left.setCamera camera
  have hc' := h.right.setCamera camera
  rw [hrun] at hc
  rw [Build.camera_runOn] at hrun hc' ⊢
  cases hvalid : camera.validate with
  | error e =>
      rw [hvalid] at hrun
      cases hrun
  | ok u =>
      rw [hvalid] at hrun hc'
      cases hrun
      exact ⟨_, rfl, hc, hc', h.models, rfl, h.air⟩

theorem setAir (h : b.Paired b') {air : Material}
    (hrun : (Build.air air).runOn b = (.ok (), c)) :
    ∃ c', (Build.air air).runOn b' = (.ok (), c') ∧ c.Paired c' := by
  have hc := h.left.setAir air
  have hc' := h.right.setAir air
  rw [hrun] at hc
  rw [Build.air_runOn] at hrun hc' ⊢
  cases hvalid : air.validate with
  | error e =>
      rw [hvalid] at hrun
      cases hrun
  | ok u =>
      rw [hvalid] at hrun hc'
      cases hrun
      exact ⟨_, rfl, hc, hc', h.models, h.camera, rfl⟩

end Builder.Paired

namespace Description

open Build

theorem discard_bind {α β : Type} (x : Build α) (f : Unit → Build β) :
    discard x >>= f = x >>= fun _ => f () := by
  have hdiscard : discard x = x >>= fun _ => pure () := by
    rw [bind_pure_comp]
    rfl
  rw [hdiscard, bind_assoc]
  simp only [pure_bind]

/-- Where the models can be built, the expanded models can. -/
theorem paired_buildModels {names : List (String × ShapeId)}
    {definitions : List (String × Kind Formula ShapeTerm)} {materials : List (String × Material)}
    {terms : List (String × MaterialTerm)} (hterms : resolveMaterials [] terms = .ok materials)
    {models : List ModelTerm} {b b' c : Builder} (hknown : Known names definitions b.shapes)
    (h : b.Paired b') (hrun : (buildModels names materials models).runOn b = (.ok (), c)) :
    ∃ c', (buildModels [] [] (models.map (ModelTerm.expand definitions terms))).runOn b' =
      (.ok (), c') ∧ c.Paired c' := by
  induction models generalizing b b' with
  | nil =>
      cases hrun
      exact ⟨b', rfl, h⟩
  | cons m rest ih =>
      obtain ⟨x, b₁, hshape, hrun⟩ := of_bind_ok hrun
      obtain ⟨material, hmaterial, hrun⟩ := of_liftExcept_ok hrun
      rw [discard_bind] at hrun
      obtain ⟨n, b₂, hmodel, hrun⟩ := of_bind_ok hrun
      obtain ⟨y, b₁', hshape', hgrows, hgrows', htwins⟩ :=
        ShapeTerm.expand_twins names definitions m.shape h.left h.right hknown hshape
      obtain ⟨hshapes, b₂', hmodel', hpaired⟩ := (h.grow hgrows hgrows').model htwins hmodel
      have hknown' : Known names definitions b₂.shapes := hshapes ▸ hknown.grow h.left hgrows
      obtain ⟨c', hrest, hc'⟩ := ih hknown' hpaired hrun
      refine ⟨c', ?_, hc'⟩
      rw [List.map_cons, buildModels]
      refine (bind_of_ok hshape').trans ?_
      refine (liftExcept_of_ok (modelMaterial_expand hterms hmaterial)).trans ?_
      rw [discard_bind]
      exact (bind_of_ok hmodel').trans hrest

/-- Set the camera that is described, if any. -/
def setCamera : Option CameraTerm → Build Unit
  | some term => do
      let camera ← liftExcept term.toCamera
      Build.camera camera
  | none => pure ()

/-- Set the medium that is described, if any. -/
def setAir (materials : List (String × Material)) : Option MaterialRef → Build Unit
  | some reference => do
      let air ← liftExcept (reference.toMaterial materials)
      Build.air air
  | none => pure ()

/-- The five steps in which a description is carried out. -/
theorem build_eq (d : Description) :
    d.build = buildShapes [] d.shapes >>= fun shapes =>
      liftExcept (resolveMaterials [] d.materials) >>= fun materials =>
        buildModels shapes materials d.models >>= fun _ =>
          setCamera d.camera >>= fun _ => setAir materials d.air := by
  rw [build]
  refine bind_congr fun shapes => bind_congr fun materials => bind_congr fun _ => ?_
  cases d.camera with
  | none => exact (pure_bind _ _).symm
  | some term => exact (bind_assoc _ _ _).symm

theorem paired_setCamera {camera : Option CameraTerm} {b b' c : Builder} (h : b.Paired b')
    (hrun : (setCamera camera).runOn b = (.ok (), c)) :
    ∃ c', (setCamera camera).runOn b' = (.ok (), c') ∧ c.Paired c' := by
  cases camera with
  | none =>
      cases hrun
      exact ⟨b', rfl, h⟩
  | some term =>
      obtain ⟨camera, hcamera, hset⟩ := of_liftExcept_ok hrun
      obtain ⟨c', hset', hc'⟩ := h.setCamera hset
      exact ⟨c', (liftExcept_of_ok hcamera).trans hset', hc'⟩

theorem paired_setAir {materials : List (String × Material)} {terms : List (String × MaterialTerm)}
    (hterms : resolveMaterials [] terms = .ok materials) {air : Option MaterialRef}
    {b b' c : Builder} (h : b.Paired b') (hrun : (setAir materials air).runOn b = (.ok (), c)) :
    ∃ c', (setAir [] (air.map (MaterialRef.expand terms))).runOn b' = (.ok (), c') ∧
      c.Paired c' := by
  cases air with
  | none =>
      cases hrun
      exact ⟨b', rfl, h⟩
  | some reference =>
      obtain ⟨air, hair, hset⟩ := of_liftExcept_ok hrun
      obtain ⟨c', hset', hc'⟩ := h.setAir hset
      exact ⟨c', (liftExcept_of_ok (toMaterial_expand hterms hair)).trans hset', hc'⟩

/-- Where a description can be carried out, the expanded description can. -/
theorem paired_build {d : Description} {tag : Nat} {c : Builder}
    (hrun : d.build.runOn (.empty tag) = (.ok (), c)) (tag' : Nat) :
    ∃ c', d.expand.build.runOn (.empty tag') = (.ok (), c') ∧ c.Paired c' := by
  rw [build_eq] at hrun
  obtain ⟨names, b₁, hshapes, hrun⟩ := of_bind_ok hrun
  obtain ⟨materials, hmaterials, hrun⟩ := of_liftExcept_ok hrun
  obtain ⟨_, b₂, hmodels, hrun⟩ := of_bind_ok hrun
  obtain ⟨_, b₃, hcamera, hair⟩ := of_bind_ok hrun
  have hstart : Known [] [] (Builder.empty tag).shapes := fun name x hx => by cases hx
  obtain ⟨hgrows, hknown⟩ := known_buildShapes (.empty tag) hstart hshapes
  -- the expanded description defines nothing, so it begins with the models
  have hpaired := (Builder.Paired.empty tag tag').grow hgrows (.refl (.empty tag'))
  obtain ⟨b₂', hmodels', hpaired⟩ := paired_buildModels hmaterials hknown hpaired hmodels
  obtain ⟨b₃', hcamera', hpaired⟩ := paired_setCamera hpaired hcamera
  obtain ⟨c', hair', hpaired⟩ := paired_setAir hmaterials hpaired hair
  refine ⟨c', ?_, hpaired⟩
  rw [build_eq]
  exact (bind_of_ok hmodels').trans ((bind_of_ok hcamera').trans hair')

end Description

/-! ## Scenes -/

/-- The same scene with other shapes: the models have the same materials and the same distances, and
camera and air are the same. -/
structure Scene.Likeness (scene scene' : Scene) : Prop where
  /-- There are as many models. -/
  length : scene'.models.length = scene.models.length
  /-- The camera is the same. -/
  camera : scene'.camera = scene.camera
  /-- The air is the same. -/
  air : scene'.air = scene.air
  /-- Models at the same position have the same number and the same material. -/
  model : ∀ {i : Nat} {m m' : Model}, scene.models[i]? = some m → scene'.models[i]? = some m' →
    m'.id = m.id ∧ m'.material = m.material
  /-- They have the same distance in every frame, or fail with the same error. -/
  distance : ∀ {i : Nat} {m m' : Model}, scene.models[i]? = some m → scene'.models[i]? = some m' →
    ∀ epsilon frame position, (Probe.mk scene' epsilon frame).distance m' position =
      (Probe.mk scene epsilon frame).distance m position

theorem Builder.Paired.likeness {b b' : Builder} (h : b.Paired b') :
    b.scene.Likeness b'.scene := by
  have hmodel : ∀ {i : Nat} {m m' : Model}, b.models[i]? = some m → b'.models[i]? = some m' →
      m.id = m'.id ∧ m.material = m'.material ∧ b.shapes.Twins b'.shapes m.shape m'.shape := by
    intro i m m' hm hm'
    obtain ⟨hi, rfl⟩ := List.getElem?_eq_some_iff.mp hm
    obtain ⟨hi', rfl⟩ := List.getElem?_eq_some_iff.mp hm'
    exact h.models.get hi hi'
  refine ⟨h.models.length_eq.symm, h.camera.symm, h.air.symm, fun hm hm' => ?_,
    fun hm hm' epsilon frame position => ?_⟩
  · exact ⟨(hmodel hm hm').1.symm, (hmodel hm hm').2.1.symm⟩
  · exact ((hmodel hm hm').2.2.distance frame position .zero).symm

/-- Names in a description are transparent: the description with every name written out can be
carried out as well, and gives the same scene up to its shapes. -/
theorem Description.scene_expand {d : Description} {tag : Nat} {scene : Scene}
    (h : d.scene tag = .ok scene) (tag' : Nat) :
    ∃ scene', d.expand.scene tag' = .ok scene' ∧ scene.Likeness scene' := by
  obtain ⟨c, hrun, rfl⟩ : ∃ c, d.build.runOn (.empty tag) = (.ok (), c) ∧ c.scene = scene := by
    rw [Description.scene, Build.toScene] at h
    cases hrun : d.build.runOn (.empty tag) with
    | mk result c =>
        rw [hrun] at h
        cases result with
        | error e => cases h
        | ok u => exact ⟨c, rfl, Except.ok.inj h⟩
  obtain ⟨c', hrun', hpaired⟩ := paired_build hrun tag'
  refine ⟨c'.scene, ?_, hpaired.likeness⟩
  rw [Description.scene, Build.toScene, hrun']
  rfl

/-- A moved ball that is shown alone and together with the ball, under one paint. -/
def Description.snowman : Description where
  shapes := [("ball", .sphere), ("head", .translate (.vector [0.0, 1.0, 0.0]) (.named "ball"))]
  materials := [("paint", .plain (some (.vector [1.0, 1.0, 1.0])) none none none none none)]
  models :=
    [⟨.named "head", some (.named "paint")⟩,
      ⟨.inline (.combine .union (.named "head") (.named "ball")), none⟩]
  air := some (.named "paint")

/-- There are three shapes where the ball and the head have names, and six where both are written
out. -/
theorem Description.scene_expand_snowman :
    ∃ scene scene', Description.snowman.scene 1 = .ok scene ∧
      Description.snowman.expand.scene 2 = .ok scene' ∧ scene.shapes.size = 3 ∧
      scene'.shapes.size = 6 ∧ scene.Likeness scene' := by
  have hsize : (Description.snowman.scene 1).map (fun s => s.shapes.size) = .ok 3 := by
    decide +kernel
  have hsize' : (Description.snowman.expand.scene 2).map (fun s => s.shapes.size) = .ok 6 := by
    decide +kernel
  cases h : Description.snowman.scene 1 with
  | error e =>
      rw [h] at hsize
      cases hsize
  | ok scene =>
      obtain ⟨scene', h', hlikeness⟩ := Description.scene_expand h 2
      rw [h] at hsize
      rw [h'] at hsize'
      exact ⟨scene, scene', rfl, h', Except.ok.inj hsize, Except.ok.inj hsize', hlikeness⟩

end ImplicitScene
