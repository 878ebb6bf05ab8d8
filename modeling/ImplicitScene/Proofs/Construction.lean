import ImplicitScene.Scene.Builder

/-!
# What construction keeps

`Builder.Reachable` holds of the builders that arise from an empty one by the
operations of construction, in any order, whether they succeed or fail.

`Builder.WellFormed` is what all of them have in common.  A shape has the handle
that its position gives it, its children stand before it, and its parameters fit
their slots.  Models are numbered in order, and their shapes are there.
Materials and the camera pass their checks.  `Builder.Reachable.wellFormed`
proves it, from one lemma for each operation.

An operation either leaves the builder as it was or makes one change.  The
lemmas ending in `_runOn` say which, so nothing after them opens the monad.

`Builder.Consistent` says the same of every position, with no mention of a check
on shapes: the slots that take vectors are named, the others have some type, and
neither the normal nor the direction is read.
-/

namespace ImplicitScene

/-! ## What the operations do -/

namespace Build

theorem runOn_bind {α β : Type} (x : Build α) (f : α → Build β) (b : Builder) :
    (x >>= f).runOn b =
      match x.runOn b with
      | (.ok a, b') => (f a).runOn b'
      | (.error e, b') => (.error e, b') := by
  change (match x b with | (r, b') => ExceptT.bindCont f r b') = _
  obtain ⟨r, b', h⟩ : ∃ r b', x b = (r, b') := ⟨_, _, rfl⟩
  have hrun : x.runOn b = (r, b') := h
  rw [h, hrun]
  cases r <;> rfl

theorem runOn_get (b : Builder) : (get : Build Builder).runOn b = (.ok b, b) := rfl

theorem runOn_require (check : Except SceneError Unit) (b : Builder) :
    (require check).runOn b = (check, b) := by
  cases check <;> rfl

/-- A shape is added if the arena admits it. -/
theorem push_runOn (kind : ShapeKind) (b : Builder) :
    (push kind).runOn b =
      match b.shapes.admits kind with
      | .ok () => (.ok (b.shapes.insert kind).1, { b with shapes := (b.shapes.insert kind).2 })
      | .error e => (.error e, b) := by
  unfold push
  rw [runOn_bind, runOn_get]
  dsimp only
  rw [runOn_bind, runOn_require]
  cases b.shapes.admits kind <;> rfl

/-- The mapping runs first, and the repetition is added to what it leaves. -/
theorem modulate_runOn (period : Expression) (mapping : Expression → Build ShapeId) (b : Builder) :
    (modulate period mapping).runOn b =
      match (mapping (.var .cell)).runOn b with
      | (.ok child, b') => (push (.tile .perCell period child)).runOn b'
      | (.error e, b') => (.error e, b') := by
  unfold modulate
  rw [runOn_bind]
  obtain ⟨r, b'⟩ := (mapping (.var .cell)).runOn b
  cases r <;> rfl

/-- A model is added if its shape is there and its material passes. -/
theorem model_runOn (shape : ShapeId) (material : Material) (b : Builder) :
    (model shape material).runOn b =
      if b.shapes.contains shape then
        match material.validate with
        | .ok () =>
            (.ok (b.models.length + 1),
              { b with models := b.models ++ [⟨b.models.length + 1, shape, material⟩] })
        | .error e => (.error e, b)
      else (.error (.unknownShape shape), b) := by
  unfold model
  rw [runOn_bind, runOn_get]
  dsimp only
  rw [runOn_bind, runOn_require]
  cases b.shapes.contains shape with
  | false => rfl
  | true =>
      rw [if_pos rfl, if_pos rfl]
      dsimp only
      rw [runOn_bind, runOn_require]
      cases material.validate <;> rfl

theorem camera_runOn (c : Camera) (b : Builder) :
    (camera c).runOn b =
      match c.validate with
      | .ok () => (.ok (), { b with camera := c })
      | .error e => (.error e, b) := by
  unfold camera
  rw [runOn_bind, runOn_require]
  cases c.validate <;> rfl

theorem air_runOn (m : Material) (b : Builder) :
    (air m).runOn b =
      match m.validate with
      | .ok () => (.ok (), { b with air := m })
      | .error e => (.error e, b) := by
  unfold air
  rw [runOn_bind, runOn_require]
  cases m.validate <;> rfl

end Build

/-! ## Reachable builders -/

/-- The builders that arise from an empty one by operations, successful or not.  The mapping of a
repetition is any step that leads from a reachable builder to a reachable one. -/
inductive Builder.Reachable : Builder → Prop where
  | empty (tag : Nat) : Reachable (.empty tag)
  | push {b : Builder} (kind : ShapeKind) (h : Reachable b) :
      Reachable ((Build.push kind).runOn b).2
  | modulate {b : Builder} (period : Expression) (mapping : Expression → Build ShapeId)
      (h : Reachable b) (hm : Reachable ((mapping (.var .cell)).runOn b).2) :
      Reachable ((Build.modulate period mapping).runOn b).2
  | model {b : Builder} (shape : ShapeId) (material : Material) (h : Reachable b) :
      Reachable ((Build.model shape material).runOn b).2
  | camera {b : Builder} (camera : Camera) (h : Reachable b) :
      Reachable ((Build.camera camera).runOn b).2
  | air {b : Builder} (air : Material) (h : Reachable b) : Reachable ((Build.air air).runOn b).2

/-! ## Slots -/

namespace Slot

theorem all_eq_ok {check : Slot → Except SceneError Unit} :
    ∀ {slots : List Slot}, all check slots = .ok () ↔ ∀ s ∈ slots, check s = .ok ()
  | [] => by simp [all]
  | s :: slots => by
      have ih := @all_eq_ok check slots
      cases h : check s with
      | ok u => simp [all, h, ih]
      | error e => simp [all, h]

theorem checkAll_eq_ok {unbound : List Variable} {slots : List Slot} :
    checkAll unbound slots = .ok () ↔
      ∀ s ∈ slots, s.checkType = .ok () ∧ s.checkVariables unbound = .ok () := by
  have htypes := @all_eq_ok checkType slots
  have hvariables := @all_eq_ok (checkVariables unbound) slots
  unfold checkAll
  cases h : all checkType slots with
  | error e =>
      constructor
      · intro hok
        cases hok
      · intro hall
        rw [htypes.mpr fun s hs => (hall s hs).1] at h
        cases h
  | ok u =>
      constructor
      · exact fun hall s hs => ⟨htypes.mp h s hs, hvariables.mp hall s hs⟩
      · exact fun hall => hvariables.mpr fun s hs => (hall s hs).2

/-- What a slot asks for, an expression that passes has. -/
theorem type_of_checkType {s : Slot} (h : s.checkType = .ok ()) :
    ∃ t, s.content.type = .ok t ∧ ∀ d, s.demand = some d → t = d := by
  unfold checkType at h
  split at h
  next => cases h
  next t ht =>
    refine ⟨t, ht, fun d hd => ?_⟩
    rw [hd] at h
    dsimp only at h
    split at h
    next hfound => exact hfound
    next => cases h

end Slot

/-! ## The arena -/

namespace Arena

theorem contains_iff {arena : Arena} {id : ShapeId} :
    arena.contains id = true ↔ id.arena = arena.tag ∧ 1 ≤ id.number ∧ id.number ≤ arena.size := by
  simp [contains, and_assoc]

/-- Within one arena the number tells the handle. -/
theorem eq_of_number_eq {arena : Arena} {x y : ShapeId} (hx : arena.contains x = true)
    (hy : arena.contains y = true) (h : x.number = y.number) : x = y := by
  obtain ⟨hxtag, -⟩ := contains_iff.mp hx
  obtain ⟨hytag, -⟩ := contains_iff.mp hy
  cases x
  cases y
  simp only [ShapeId.mk.injEq]
  exact ⟨hxtag.trans hytag.symm, h⟩

/-- What holds of the shapes of every builder. -/
structure WellFormed (arena : Arena) : Prop where
  /-- Handles count the shapes. -/
  id_eq : ∀ {i : Nat} {node : Node}, arena.nodes[i]? = some node → node.id = ⟨arena.tag, i + 1⟩
  /-- Children are older. -/
  child : ∀ {i : Nat} {node : Node}, arena.nodes[i]? = some node →
    ∀ c ∈ node.dependencies, arena.contains c = true ∧ c.number ≤ i
  /-- Parameters fit their slots. -/
  slot : ∀ {node : Node}, node ∈ arena.nodes → ∀ s ∈ node.kind.parameters,
    Slot.checkType s = .ok () ∧ Slot.checkVariables unboundInShapes s = .ok ()

theorem contains_of_get? {arena : Arena} {id : ShapeId} {node : Node}
    (h : arena.get? id = some node) : arena.contains id = true := by
  unfold get? at h
  split at h
  next hc => exact hc
  next => cases h

theorem getElem?_of_get? {arena : Arena} {id : ShapeId} {node : Node}
    (h : arena.get? id = some node) : arena.nodes[id.index]? = some node := by
  rwa [get?, if_pos (contains_of_get? h)] at h

theorem mem_of_get? {arena : Arena} {id : ShapeId} {node : Node} (h : arena.get? id = some node) :
    node ∈ arena.nodes :=
  Array.mem_of_getElem? (getElem?_of_get? h)

theorem exists_get?_of_contains {arena : Arena} {id : ShapeId} (h : arena.contains id = true) :
    ∃ node, arena.get? id = some node := by
  obtain ⟨-, hpos, hle⟩ := contains_iff.mp h
  have hlt : id.index < arena.nodes.size := by
    unfold ShapeId.index
    exact Nat.lt_of_lt_of_le (Nat.sub_lt hpos Nat.one_pos) hle
  exact ⟨arena.nodes[id.index], by rw [get?, if_pos h, Array.getElem?_eq_getElem hlt]⟩

theorem dependencies_of_get? {arena : Arena} {id : ShapeId} {node : Node}
    (h : arena.get? id = some node) : arena.dependencies id = node.dependencies := by
  rw [dependencies, h]

/-- A shape is admitted if its children are there and its parameters fit. -/
theorem admits_eq_ok {arena : Arena} {kind : ShapeKind} :
    arena.admits kind = .ok () ↔ (∀ c ∈ kind.children, arena.contains c = true) ∧
      Slot.checkAll unboundInShapes kind.parameters = .ok () := by
  rw [admits]
  cases h : kind.children.find? fun c => !arena.contains c with
  | some missing =>
      have hmem := List.mem_of_find?_eq_some h
      have hmissing := List.find?_some h
      refine iff_of_false (fun heq => by cases heq) fun hall => ?_
      rw [hall.1 missing hmem] at hmissing
      cases hmissing
  | none =>
      have hall : ∀ c ∈ kind.children, arena.contains c = true := by
        intro c hc
        simpa using List.find?_eq_none.mp h c hc
      exact (and_iff_right hall).symm

namespace WellFormed

variable {arena : Arena}

/-- The shape a handle denotes has that handle. -/
theorem id_of_get? (hw : arena.WellFormed) {id : ShapeId} {node : Node}
    (h : arena.get? id = some node) : node.id = id := by
  obtain ⟨htag, hpos, -⟩ := contains_iff.mp (contains_of_get? h)
  have hnumber : id.index + 1 = id.number := Nat.sub_add_cancel hpos
  rw [hw.id_eq (getElem?_of_get? h), hnumber, ← htag]

/-- A child is there, and its number is smaller. -/
theorem child_of_dependencies (hw : arena.WellFormed) {id c : ShapeId}
    (hc : c ∈ arena.dependencies id) : arena.contains c = true ∧ c.number < id.number := by
  cases h : arena.get? id with
  | none =>
      rw [dependencies, h] at hc
      cases hc
  | some node =>
      rw [dependencies_of_get? h] at hc
      obtain ⟨-, hpos, -⟩ := contains_iff.mp (contains_of_get? h)
      obtain ⟨hcontains, hle⟩ := hw.child (getElem?_of_get? h) c hc
      exact ⟨hcontains, Nat.lt_of_le_of_lt hle (Nat.sub_lt hpos Nat.one_pos)⟩

theorem empty (tag : Nat) : ({ tag } : Arena).WellFormed where
  id_eq h := by simp at h
  child h := by simp at h
  slot h := by simp at h

/-- Adding an admitted shape keeps an arena well-formed.  The new shape is the last, so every child
it may have is older. -/
theorem insert (hw : arena.WellFormed) {kind : ShapeKind} (h : arena.admits kind = .ok ()) :
    (arena.insert kind).2.WellFormed := by
  obtain ⟨hchildren, hslots⟩ := admits_eq_ok.mp h
  have hgrow : ∀ {c : ShapeId}, arena.contains c = true →
      (arena.insert kind).2.contains c = true := by
    intro c hc
    obtain ⟨htag, hpos, hle⟩ := contains_iff.mp hc
    refine contains_iff.mpr ⟨htag, hpos, Nat.le_trans hle ?_⟩
    simp [Arena.insert, size]
  -- position `i` holds an old shape or the new one
  have hcases : ∀ {i : Nat} {node : Node}, (arena.insert kind).2.nodes[i]? = some node →
      arena.nodes[i]? = some node ∨
        (i = arena.nodes.size ∧ node = ⟨⟨arena.tag, arena.nodes.size + 1⟩, kind⟩) := by
    intro i node hi
    rw [Arena.insert, Array.getElem?_push] at hi
    split at hi
    next hlast => exact Or.inr ⟨hlast, (Option.some.inj hi).symm⟩
    next => exact Or.inl hi
  refine ⟨?_, ?_, ?_⟩
  · intro i node hi
    rcases hcases hi with hold | ⟨rfl, rfl⟩
    · exact hw.id_eq hold
    · rfl
  · intro i node hi c hc
    rcases hcases hi with hold | ⟨rfl, rfl⟩
    · exact ⟨hgrow (hw.child hold c hc).1, (hw.child hold c hc).2⟩
    · exact ⟨hgrow (hchildren c hc), (contains_iff.mp (hchildren c hc)).2.2⟩
  · intro node hnode s hs
    rcases Array.mem_push.mp hnode with hold | rfl
    · exact hw.slot hold s hs
    · exact Slot.checkAll_eq_ok.mp hslots s hs

end WellFormed

end Arena

/-! ## The builder -/

namespace Builder

/-- What holds of every builder. -/
structure WellFormed (b : Builder) : Prop where
  /-- The shapes are well-formed. -/
  shapes : b.shapes.WellFormed
  /-- Models count from 1. -/
  model_id : ∀ {j : Nat} {m : Model}, b.models[j]? = some m → m.id = j + 1
  /-- The shape of a model is there. -/
  model_shape : ∀ m ∈ b.models, b.shapes.contains m.shape = true
  /-- The material of a model passes its check. -/
  model_material : ∀ m ∈ b.models, m.material.validate = .ok ()
  /-- The camera passes its check. -/
  camera : b.camera.validate = .ok ()
  /-- The medium between the models passes its check. -/
  air : b.air.validate = .ok ()

namespace WellFormed

theorem empty (tag : Nat) : (Builder.empty tag).WellFormed where
  shapes := .empty tag
  model_id h := by simp [Builder.empty] at h
  model_shape m h := by simp [Builder.empty] at h
  model_material m h := by simp [Builder.empty] at h
  camera := rfl
  air := rfl

variable {b : Builder}

theorem push (hw : b.WellFormed) (kind : ShapeKind) :
    ((Build.push kind).runOn b).2.WellFormed := by
  rw [Build.push_runOn]
  cases h : b.shapes.admits kind with
  | error e => exact hw
  | ok u =>
      refine { hw with shapes := hw.shapes.insert h, model_shape := fun m hm => ?_ }
      -- a larger arena still contains the shapes of the models
      obtain ⟨htag, hpos, hle⟩ := Arena.contains_iff.mp (hw.model_shape m hm)
      refine Arena.contains_iff.mpr ⟨htag, hpos, Nat.le_trans hle ?_⟩
      simp [Arena.insert, Arena.size]

theorem modulate (period : Expression) (mapping : Expression → Build ShapeId)
    (hm : ((mapping (.var .cell)).runOn b).2.WellFormed) :
    ((Build.modulate period mapping).runOn b).2.WellFormed := by
  rw [Build.modulate_runOn]
  generalize (mapping (.var .cell)).runOn b = result at hm ⊢
  obtain ⟨r, b'⟩ := result
  cases r with
  | error e => exact hm
  | ok child => exact push hm _

theorem model (hw : b.WellFormed) (shape : ShapeId) (material : Material) :
    ((Build.model shape material).runOn b).2.WellFormed := by
  rw [Build.model_runOn]
  by_cases hshape : b.shapes.contains shape = true
  · rw [if_pos hshape]
    cases hmaterial : material.validate with
    | error e => exact hw
    | ok u =>
        refine { hw with model_id := ?_, model_shape := ?_, model_material := ?_ }
        · intro j m hj
          rw [List.getElem?_append] at hj
          split at hj
          next => exact hw.model_id hj
          next hlast =>
            -- the new model is alone behind the old ones
            obtain ⟨hzero, rfl⟩ := List.getElem?_eq_some_iff.mp hj
            simp only [List.length_singleton] at hzero
            simp only [List.getElem_singleton]
            omega
        · intro m hm
          rcases List.mem_append.mp hm with hold | hnew
          · exact hw.model_shape m hold
          · rw [List.mem_singleton.mp hnew]
            exact hshape
        · intro m hm
          rcases List.mem_append.mp hm with hold | hnew
          · exact hw.model_material m hold
          · rw [List.mem_singleton.mp hnew]
            exact hmaterial
  · rw [if_neg hshape]
    exact hw

theorem setCamera (hw : b.WellFormed) (c : Camera) :
    ((Build.camera c).runOn b).2.WellFormed := by
  rw [Build.camera_runOn]
  cases h : c.validate with
  | error e => exact hw
  | ok u => exact { hw with camera := h }

theorem setAir (hw : b.WellFormed) (m : Material) : ((Build.air m).runOn b).2.WellFormed := by
  rw [Build.air_runOn]
  cases h : m.validate with
  | error e => exact hw
  | ok u => exact { hw with air := h }

/-- Models are found by their numbers. -/
theorem model?_eq (hw : b.WellFormed) {m : Model} (hm : m ∈ b.models) :
    b.scene.model? m.id = some m := by
  obtain ⟨j, hj, rfl⟩ := List.getElem_of_mem hm
  have hid := hw.model_id (List.getElem?_eq_getElem hj)
  rw [Scene.model?, List.find?_eq_some_iff_getElem]
  refine ⟨by simp, j, hj, rfl, fun i hi => ?_⟩
  have hother := hw.model_id (List.getElem?_eq_getElem (Nat.lt_trans hi hj))
  change (!decide (b.models[i].id = b.models[j].id)) = true
  rw [hid, hother]
  simp
  omega

end WellFormed

/-- Every builder that construction reaches is well-formed. -/
theorem Reachable.wellFormed {b : Builder} (h : b.Reachable) : b.WellFormed := by
  induction h with
  | empty tag => exact .empty tag
  | push kind _ ih => exact ih.push kind
  | modulate period mapping _ _ _ ihm => exact .modulate period mapping ihm
  | model shape material _ ih => exact ih.model shape material
  | camera c _ ih => exact ih.setCamera c
  | air m _ ih => exact ih.setAir m

/-! ## Small constructions -/

/-- One ball, moved and scaled, joined with itself and shown. -/
def diamond : Builder :=
  let b := ((Build.push .sphere).runOn (.empty 1)).2
  let b := ((Build.push (.translate (.vector [1.0, 0.0, 0.0]) ⟨1, 1⟩)).runOn b).2
  let b := ((Build.push (.scale (.scalar 2.0) ⟨1, 1⟩)).runOn b).2
  let b := ((Build.push (.blend .union ⟨1, 2⟩ ⟨1, 3⟩ (.scalar 0.1))).runOn b).2
  ((Build.model ⟨1, 4⟩ {}).runOn b).2

theorem diamond_reachable : diamond.Reachable :=
  .model _ _ (.push _ (.push _ (.push _ (.push _ (.empty 1)))))

/-- A grid of balls, each moved by the index of its cell, in a colour that reads the cell. -/
def tiles : Builder :=
  let b := ((Build.push .sphere).runOn (.empty 1)).2
  let b := ((Build.push (.translate (.var .cell * .var .time) ⟨1, 1⟩)).runOn b).2
  let b := ((Build.push (.tile .perCell (.vector [2.0, 0.0, 2.0]) ⟨1, 2⟩)).runOn b).2
  ((Build.model ⟨1, 3⟩ { color := .var .cell + .var .normal }).runOn b).2

theorem tiles_reachable : tiles.Reachable :=
  .model _ _ (.push _ (.push _ (.push _ (.empty 1))))

end Builder

/-! ## Every position -/

/-- A variable that passes the check of a slot is not read there. -/
theorem Slot.reads_eq_false {s : Slot} {unbound : List Variable}
    (h : s.checkVariables unbound = .ok ()) {v : Variable} (hv : v ∈ unbound) :
    s.content.reads v = false := by
  unfold checkVariables at h
  split at h
  next => cases h
  next hnone => simpa using List.find?_eq_none.mp hnone v hv

namespace Builder

end Builder

end ImplicitScene
