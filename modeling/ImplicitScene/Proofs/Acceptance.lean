import ImplicitScene.Proofs.Construction

/-!
# What construction accepts

The operations of construction accept what is legal and nothing else.  What legal
means is said here from the meaning of the parameters, with no mention of a check:
which expressions of a shape, a material or a camera are vectors, which are read as
numbers, and which variables none of them may read.

A shape that is not legal is refused for the first thing that is wrong with it.
`Arena.Objection` says what that is.  Children come before types and types before
variables, and each of these goes from first to last.

An operation that fails adds nothing.  Only a repetition may have done something by
then, because its mapping runs first.
-/

namespace ImplicitScene

/-! ## The first that fails -/

/-- An element of a list with nothing before it but elements that pass. -/
inductive First {α : Type} (passes : α → Prop) : List α → α → Prop where
  | head (x : α) (l : List α) : First passes (x :: l) x
  | tail {x y : α} {l : List α} (hy : passes y) (h : First passes l x) : First passes (y :: l) x

theorem first_cons {α : Type} {passes : α → Prop} {x y : α} {l : List α} :
    First passes (y :: l) x ↔ x = y ∨ passes y ∧ First passes l x := by
  constructor
  · intro h
    cases h with
    | head => exact .inl rfl
    | tail hy h => exact .inr ⟨hy, h⟩
  · rintro (rfl | ⟨hy, h⟩)
    · exact .head x l
    · exact .tail hy h

theorem First.mem {α : Type} {passes : α → Prop} {x : α} {l : List α} (h : First passes l x) :
    x ∈ l := by
  induction h with
  | head x l => exact .head l
  | tail _ _ ih => exact .tail _ ih

theorem find?_eq_some_iff_first {α : Type} {p : α → Bool} {x : α} {l : List α} :
    l.find? p = some x ↔ First (fun y => p y = false) l x ∧ p x = true := by
  induction l with
  | nil =>
      refine iff_of_false (fun h => by cases h) ?_
      rintro ⟨⟨⟩, -⟩
  | cons y l ih =>
      rw [first_cons]
      cases hy : p y with
      | false =>
          rw [List.find?_cons_of_neg (by rw [hy]; decide), ih]
          constructor
          · rintro ⟨hfirst, hx⟩
            exact ⟨.inr ⟨rfl, hfirst⟩, hx⟩
          · rintro ⟨rfl | ⟨-, hfirst⟩, hx⟩
            · rw [hy] at hx
              cases hx
            · exact ⟨hfirst, hx⟩
      | true =>
          rw [List.find?_cons_of_pos hy]
          constructor
          · rintro ⟨⟩
            exact ⟨.inl rfl, hy⟩
          · rintro ⟨rfl | ⟨hfalse, -⟩, -⟩
            · rfl
            · cases hfalse

/-! ## One slot -/

/-- An expression has the type that is asked for, or any type if none is asked for. -/
def Expression.Fits (e : Expression) : Option Ty → Prop
  | some t => e.type = .ok t
  | none => ∃ t, e.type = .ok t

namespace Slot

variable {s : Slot} {slots : List Slot} {unbound : List Variable} {err : SceneError}

/-- What is said of an expression whose type does not fit. -/
inductive Misfit (s : Slot) : SceneError → Prop where
  | illTyped {fault : TypeFault} (h : s.content.type = .error fault) :
      Misfit s (.illTyped s.slot fault)
  | mismatch {expected found : Ty} (hdemand : s.demand = some expected)
      (h : s.content.type = .ok found) (hne : found ≠ expected) :
      Misfit s (.typeMismatch s.slot expected found)

/-- What is said of an expression that reads a variable without a value: the first it reads. -/
inductive Stray (unbound : List Variable) (s : Slot) : SceneError → Prop where
  | intro {v : Variable} (hfirst : First (fun u => s.content.reads u = false) unbound v)
      (h : s.content.reads v = true) : Stray unbound s (.unboundVariable s.slot v)

theorem checkType_eq_ok : s.checkType = .ok () ↔ s.content.Fits s.demand := by
  unfold checkType
  cases htype : s.content.type with
  | error fault =>
      cases s.demand <;> simp [Expression.Fits, htype]
  | ok found =>
      cases s.demand with
      | none => simp [Expression.Fits, htype]
      | some expected => by_cases h : found = expected <;> simp [Expression.Fits, htype, h]

theorem checkType_eq_error : s.checkType = .error err ↔ s.Misfit err := by
  unfold checkType
  constructor
  · intro h
    split at h
    next fault htype =>
      cases h
      exact .illTyped htype
    next found htype =>
      split at h
      next => cases h
      next expected hdemand =>
        split at h
        next => cases h
        next hne =>
          cases h
          exact .mismatch hdemand htype hne
  · rintro (htype | ⟨hdemand, htype, hne⟩)
    · rw [htype]
    · rw [htype, hdemand]
      exact if_neg hne

theorem checkVariables_eq_ok :
    s.checkVariables unbound = .ok () ↔ ∀ v ∈ unbound, s.content.reads v = false := by
  refine ⟨fun h v hv => reads_eq_false h hv, fun h => ?_⟩
  have hnone : unbound.find? s.content.reads = none :=
    List.find?_eq_none.mpr fun v hv => by simp [h v hv]
  rw [checkVariables, hnone]

theorem checkVariables_eq_error :
    s.checkVariables unbound = .error err ↔ s.Stray unbound err := by
  unfold checkVariables
  constructor
  · intro h
    split at h
    next v hv =>
      cases h
      obtain ⟨hfirst, hreads⟩ := find?_eq_some_iff_first.mp hv
      exact .intro hfirst hreads
    next => cases h
  · rintro ⟨hfirst, hreads⟩
    rw [find?_eq_some_iff_first.mpr ⟨hfirst, hreads⟩]

/-! ## All slots -/

theorem all_eq_error {check : Slot → Except SceneError Unit} :
    all check slots = .error err ↔
      ∃ s, First (fun r => check r = .ok ()) slots s ∧ check s = .error err := by
  induction slots with
  | nil =>
      refine iff_of_false (fun h => by cases h) ?_
      rintro ⟨s, ⟨⟩, -⟩
  | cons r slots ih =>
      simp only [first_cons]
      cases hr : check r with
      | error e =>
          rw [all, hr]
          constructor
          · intro h
            exact ⟨r, .inl rfl, hr.trans h⟩
          · rintro ⟨s, rfl | ⟨hok, -⟩, hs⟩
            · exact hr.symm.trans hs
            · cases hok
      | ok u =>
          rw [all, hr]
          dsimp only
          rw [ih]
          constructor
          · rintro ⟨s, hfirst, hs⟩
            exact ⟨s, .inr ⟨rfl, hfirst⟩, hs⟩
          · rintro ⟨s, rfl | ⟨-, hfirst⟩, hs⟩
            · rw [hr] at hs
              cases hs
            · exact ⟨s, hfirst, hs⟩

theorem all_checkType_eq_ok :
    all checkType slots = .ok () ↔ ∀ s ∈ slots, s.content.Fits s.demand := by
  simp only [all_eq_ok, checkType_eq_ok]

theorem all_checkType_eq_error :
    all checkType slots = .error err ↔
      ∃ s, First (fun r => r.content.Fits r.demand) slots s ∧ s.Misfit err := by
  simp only [all_eq_error, checkType_eq_ok, checkType_eq_error]

theorem checkAll_eq_ok_iff :
    checkAll unbound slots = .ok () ↔ (∀ s ∈ slots, s.content.Fits s.demand) ∧
      ∀ s ∈ slots, ∀ v ∈ unbound, s.content.reads v = false := by
  simp only [checkAll_eq_ok, checkType_eq_ok, checkVariables_eq_ok, forall_and]

/-- Either a type does not fit, or all do and a variable has no value. -/
theorem checkAll_eq_error :
    checkAll unbound slots = .error err ↔
      (∃ s, First (fun r => r.content.Fits r.demand) slots s ∧ s.Misfit err) ∨
      (∀ s ∈ slots, s.content.Fits s.demand) ∧
        ∃ s, First (fun r => ∀ v ∈ unbound, r.content.reads v = false) slots s ∧
          s.Stray unbound err := by
  have hvariables : all (checkVariables unbound) slots = .error err ↔
      ∃ s, First (fun r => ∀ v ∈ unbound, r.content.reads v = false) slots s ∧
        s.Stray unbound err := by
    simp only [all_eq_error, checkVariables_eq_ok, checkVariables_eq_error]
  rw [← hvariables, ← all_checkType_eq_error, ← all_checkType_eq_ok, checkAll]
  -- the two reasons exclude each other: variables are looked at only when no type fails
  cases all checkType slots with
  | error e => simp
  | ok u => simp

end Slot

/-! ## What is legal -/

namespace Kind

variable {ε σ : Type}

/-- The parameters that are vectors. -/
def vectors : Kind ε σ → List ε
  | plane normal _ => [normal]
  | smoothBox size _ => [size]
  | translate offset _ => [offset]
  | tile _ period _ => [period]
  | sphere | cube | skull | cylinder _ _ | torus _ _ | truchet _ => []
  | scale _ _ | rotate _ _ _ | combine _ _ _ | blend _ _ _ _ => []

/-- The parameters that are read as numbers. -/
def numbers : Kind ε σ → List ε
  | plane _ offset => [offset]
  | smoothBox _ radius => [radius]
  | cylinder radius height => [radius, height]
  | torus major minor => [major, minor]
  | truchet thickness => [thickness]
  | scale factor _ => [factor]
  | rotate _ angle _ => [angle]
  | blend _ _ _ radius => [radius]
  | sphere | cube | skull | translate _ _ | combine _ _ _ | tile _ _ _ => []

/-- The slots are these parameters, and ask for vectors of three where vectors are due. -/
theorem forall_parameters (kind : Kind ε σ) (p : Option Ty → ε → Prop) :
    (∀ s ∈ kind.parameters, p s.demand s.content) ↔
      (∀ e ∈ kind.vectors, p (some .vec3) e) ∧ ∀ e ∈ kind.numbers, p none e := by
  cases kind with
  | tile mode => cases mode <;> simp [parameters, vectors, numbers]
  | _ => simp [parameters, vectors, numbers]

end Kind

/-- A shape that may be added to an arena. -/
structure Arena.Legal (arena : Arena) (kind : ShapeKind) : Prop where
  /-- Its children are there. -/
  children : ∀ c ∈ kind.children, arena.contains c = true
  /-- Vectors have three components. -/
  vectors : ∀ e ∈ kind.vectors, e.type = .ok .vec3
  /-- Numbers have some type. -/
  numbers : ∀ e ∈ kind.numbers, ∃ t, e.type = .ok t
  /-- None reads what only a surface has. -/
  unread : ∀ e ∈ kind.vectors ++ kind.numbers,
    e.reads .normal = false ∧ e.reads .direction = false

/-- The first thing that is wrong with a shape that may not be added to an arena. -/
inductive Arena.Objection (arena : Arena) (kind : ShapeKind) : SceneError → Prop where
  /-- A child is not there. -/
  | child {missing : ShapeId}
      (hfirst : First (fun c => arena.contains c = true) kind.children missing)
      (h : arena.contains missing = false) : Objection arena kind (.unknownShape missing)
  /-- The children are there, and a type does not fit. -/
  | misfit {s : Slot} {err : SceneError} (hchildren : ∀ c ∈ kind.children, arena.contains c = true)
      (hfirst : First (fun r => r.content.Fits r.demand) kind.parameters s) (h : s.Misfit err) :
      Objection arena kind err
  /-- The children are there and all types fit, and a variable has no value. -/
  | stray {s : Slot} {err : SceneError}
      (hchildren : ∀ c ∈ kind.children, arena.contains c = true)
      (hfits : ∀ r ∈ kind.parameters, r.content.Fits r.demand)
      (hfirst : First
        (fun r => r.content.reads .normal = false ∧ r.content.reads .direction = false)
        kind.parameters s)
      (h : s.Stray [.normal, .direction] err) : Objection arena kind err

/-- A material that may be given to a model or to the air. -/
structure Material.Legal (m : Material) : Prop where
  color : m.color.type = .ok .vec3
  emissivity : m.emissivity.type = .ok .vec3
  transmittance : ∃ t, m.transmittance.type = .ok t
  smoothness : ∃ t, m.smoothness.type = .ok t
  refraction : ∃ t, m.refraction.type = .ok t
  scatter : ∃ t, m.scatter.type = .ok t

/-- A camera that may be set. -/
structure Camera.Legal (c : Camera) : Prop where
  eye : c.eye.type = .ok .vec3
  target : c.target.type = .ok .vec3
  up : c.up.type = .ok .vec3
  fieldOfView : ∃ t, c.fieldOfView.type = .ok t
  aperture : ∃ t, c.aperture.type = .ok t
  /-- None reads what a camera does not have. -/
  unread : ∀ e ∈ [c.eye, c.target, c.up, c.fieldOfView, c.aperture],
    ∀ v ∈ [Variable.position, .normal, .direction, .cell], e.reads v = false

/-! ## The checks decide it -/

theorem unread_in_shapes (e : Expression) :
    (∀ v ∈ unboundInShapes, e.reads v = false) ↔
      e.reads .normal = false ∧ e.reads .direction = false := by
  simp [unboundInShapes]

namespace Arena

variable {arena : Arena} {kind : ShapeKind} {err : SceneError}

theorem admits_iff_legal : arena.admits kind = .ok () ↔ arena.Legal kind := by
  have htypes := kind.forall_parameters fun demand e => e.Fits demand
  have hreads := kind.forall_parameters
    fun _ e => e.reads .normal = false ∧ e.reads .direction = false
  simp only [admits_eq_ok, Slot.checkAll_eq_ok_iff, unread_in_shapes]
  rw [htypes, hreads, ← List.forall_mem_append]
  constructor
  · exact fun ⟨hchildren, ⟨hvectors, hnumbers⟩, hunread⟩ =>
      ⟨hchildren, hvectors, hnumbers, hunread⟩
  · exact fun ⟨hchildren, hvectors, hnumbers, hunread⟩ =>
      ⟨hchildren, ⟨hvectors, hnumbers⟩, hunread⟩

theorem admits_eq_error : arena.admits kind = .error err ↔ arena.Objection kind err := by
  have hsome : ∀ missing, kind.children.find? (fun c => !arena.contains c) = some missing ↔
      First (fun c => arena.contains c = true) kind.children missing ∧
        arena.contains missing = false := by
    simp [find?_eq_some_iff_first]
  have hnone : kind.children.find? (fun c => !arena.contains c) = none ↔
      ∀ c ∈ kind.children, arena.contains c = true := by
    simp
  unfold admits
  constructor
  · intro h
    split at h
    next missing hfind =>
      cases h
      obtain ⟨hfirst, hmissing⟩ := (hsome missing).mp hfind
      exact .child hfirst hmissing
    next hfind =>
      have hchildren := hnone.mp hfind
      rcases Slot.checkAll_eq_error.mp h with ⟨s, hfirst, hs⟩ | ⟨hfits, s, hfirst, hs⟩
      · exact .misfit hchildren hfirst hs
      · simp only [unread_in_shapes] at hfirst
        exact .stray hchildren hfits hfirst hs
  · intro h
    cases h with
    | child hfirst hmissing => rw [(hsome _).mpr ⟨hfirst, hmissing⟩]
    | misfit hchildren hfirst hs =>
        rw [hnone.mpr hchildren]
        exact Slot.checkAll_eq_error.mpr (.inl ⟨_, hfirst, hs⟩)
    | stray hchildren hfits hfirst hs =>
        simp only [← unread_in_shapes] at hfirst
        rw [hnone.mpr hchildren]
        exact Slot.checkAll_eq_error.mpr (.inr ⟨hfits, _, hfirst, hs⟩)

end Arena

theorem Material.validate_iff_legal {m : Material} : m.validate = .ok () ↔ m.Legal := by
  rw [validate, Slot.all_checkType_eq_ok]
  simp only [slots, List.forall_mem_cons, List.not_mem_nil, false_implies, implies_true,
    and_true]
  constructor
  · exact fun ⟨color, transmittance, smoothness, refraction, scatter, emissivity⟩ =>
      ⟨color, emissivity, transmittance, smoothness, refraction, scatter⟩
  · exact fun ⟨color, emissivity, transmittance, smoothness, refraction, scatter⟩ =>
      ⟨color, transmittance, smoothness, refraction, scatter, emissivity⟩

theorem Camera.validate_iff_legal {c : Camera} : c.validate = .ok () ↔ c.Legal := by
  have hfits : (∀ s ∈ c.slots, s.content.Fits s.demand) ↔
      c.eye.Fits (some .vec3) ∧ c.target.Fits (some .vec3) ∧ c.up.Fits (some .vec3) ∧
        c.fieldOfView.Fits none ∧ c.aperture.Fits none := by
    simp [slots]
  have hreads : (∀ s ∈ c.slots, ∀ v ∈ unboundInCamera, s.content.reads v = false) ↔
      ∀ e ∈ c.slots.map Parameter.content, ∀ v ∈ unboundInCamera, e.reads v = false := by
    simp only [List.forall_mem_map]
  rw [validate, Slot.checkAll_eq_ok_iff, hfits, hreads]
  constructor
  · exact fun ⟨⟨eye, target, up, fieldOfView, aperture⟩, hunread⟩ =>
      ⟨eye, target, up, fieldOfView, aperture, hunread⟩
  · exact fun ⟨eye, target, up, fieldOfView, aperture, hunread⟩ =>
      ⟨⟨eye, target, up, fieldOfView, aperture⟩, hunread⟩

/-! ## The operations -/

namespace Build

variable {α : Type} {b c : Builder} {err : SceneError}

/-- The step ends in a result. -/
def Succeeds (action : Build α) (b : Builder) : Prop := ∃ a, (action.runOn b).1 = .ok a

/-- The step is a check, and then a change that cannot fail. -/
structure Guarded (action : Build α) (b : Builder) (check : Except SceneError Unit) : Prop where
  passes : check = .ok () → action.Succeeds b
  fails : ∀ {err : SceneError}, check = .error err → action.runOn b = (.error err, b)

namespace Guarded

variable {action : Build α} {check : Except SceneError Unit}

theorem succeeds_iff (h : action.Guarded b check) : action.Succeeds b ↔ check = .ok () := by
  refine ⟨fun ⟨a, ha⟩ => ?_, h.passes⟩
  cases hcheck : check with
  | ok u => rfl
  | error err =>
      rw [h.fails hcheck] at ha
      cases ha

theorem error_iff (h : action.Guarded b check) :
    action.runOn b = (.error err, c) ↔ check = .error err ∧ c = b := by
  constructor
  · intro hrun
    cases hcheck : check with
    | ok u =>
        obtain ⟨a, ha⟩ := h.passes hcheck
        rw [hrun] at ha
        cases ha
    | error e =>
        rw [h.fails hcheck] at hrun
        cases hrun
        exact ⟨rfl, rfl⟩
  · rintro ⟨hcheck, rfl⟩
    exact h.fails hcheck

end Guarded

theorem push_guarded (kind : ShapeKind) (b : Builder) :
    (push kind).Guarded b (b.shapes.admits kind) where
  passes h := by rw [Succeeds, push_runOn, h]; exact ⟨_, rfl⟩
  fails h := by rw [push_runOn, h]

theorem model_guarded (shape : ShapeId) (material : Material) (b : Builder) :
    (model shape material).Guarded b
      (if b.shapes.contains shape then material.validate else .error (.unknownShape shape)) := by
  cases hshape : b.shapes.contains shape with
  | true =>
      constructor
      · intro h
        rw [Succeeds, model_runOn, if_pos hshape, show material.validate = .ok () from h]
        exact ⟨_, rfl⟩
      · intro err h
        rw [model_runOn, if_pos hshape, show material.validate = .error err from h]
  | false =>
      constructor
      · intro h
        cases h
      · rintro err ⟨⟩
        rw [model_runOn, hshape]
        rfl

theorem camera_guarded (camera : Camera) (b : Builder) :
    (Build.camera camera).Guarded b camera.validate where
  passes h := by rw [Succeeds, camera_runOn, h]; exact ⟨_, rfl⟩
  fails h := by rw [camera_runOn, h]

theorem air_guarded (air : Material) (b : Builder) :
    (Build.air air).Guarded b air.validate where
  passes h := by rw [Succeeds, air_runOn, h]; exact ⟨_, rfl⟩
  fails h := by rw [air_runOn, h]

theorem model_succeeds_iff {shape : ShapeId} {material : Material} :
    (model shape material).Succeeds b ↔ b.shapes.contains shape = true ∧ material.Legal := by
  rw [(model_guarded shape material b).succeeds_iff, ← Material.validate_iff_legal]
  cases b.shapes.contains shape <;> simp

/-- Whether the mapping fails or the repetition does, what the mapping did stays. -/
theorem eq_of_modulate_error {period : Expression} {mapping : Expression → Build ShapeId}
    (h : (modulate period mapping).runOn b = (.error err, c)) :
    c = ((mapping (.var .cell)).runOn b).2 := by
  rw [modulate_runOn] at h
  split at h
  next child d hd =>
    rw [hd]
    exact ((push_guarded _ d).error_iff.mp h).2
  next e d hd =>
    cases h
    rw [hd]

end Build

/-- The operations accept what is legal and nothing else.  A shape is refused for the first thing
that is wrong with it.  What fails leaves the builder as it was, and a repetition that fails leaves
what its mapping left. -/
theorem Builder.succeeds_iff_legal (b : Builder) :
    (∀ kind, ((Build.push kind).Succeeds b ↔ b.shapes.Legal kind) ∧
      ∀ err c, (Build.push kind).runOn b = (.error err, c) ↔
        b.shapes.Objection kind err ∧ c = b) ∧
    (∀ shape material, ((Build.model shape material).Succeeds b ↔
        b.shapes.contains shape = true ∧ material.Legal) ∧
      ∀ err c, (Build.model shape material).runOn b = (.error err, c) → c = b) ∧
    (∀ camera, ((Build.camera camera).Succeeds b ↔ camera.Legal) ∧
      ∀ err c, (Build.camera camera).runOn b = (.error err, c) → c = b) ∧
    (∀ air, ((Build.air air).Succeeds b ↔ air.Legal) ∧
      ∀ err c, (Build.air air).runOn b = (.error err, c) → c = b) ∧
    ∀ period mapping err c, (Build.modulate period mapping).runOn b = (.error err, c) →
      c = ((mapping (.var .cell)).runOn b).2 := by
  refine ⟨fun kind => ⟨?_, fun err c => ?_⟩, fun shape material => ⟨?_, fun err c h => ?_⟩,
    fun camera => ⟨?_, fun err c h => ?_⟩, fun air => ⟨?_, fun err c h => ?_⟩,
    fun period mapping err c h => Build.eq_of_modulate_error h⟩
  · rw [(Build.push_guarded kind b).succeeds_iff, Arena.admits_iff_legal]
  · rw [(Build.push_guarded kind b).error_iff, Arena.admits_eq_error]
  · exact Build.model_succeeds_iff
  · exact ((Build.model_guarded shape material b).error_iff.mp h).2
  · rw [(Build.camera_guarded camera b).succeeds_iff, Camera.validate_iff_legal]
  · exact ((Build.camera_guarded camera b).error_iff.mp h).2
  · rw [(Build.air_guarded air b).succeeds_iff, Material.validate_iff_legal]
  · exact ((Build.air_guarded air b).error_iff.mp h).2

/-- An offset that is a number made from the normal is refused for its type.  With a child of
another arena it is refused for the child, and the normal itself is refused for being read.  A
repetition whose period is a number fails, and the ball of its mapping stays. -/
theorem Builder.succeeds_iff_legal_diamond :
    let number := Expression.dot (.var .normal) (.var .normal)
    let repetition := Build.modulate (.scalar 1.0) fun _ => Build.sphere
    diamond.shapes.Objection (.translate number ⟨2, 1⟩) (.unknownShape ⟨2, 1⟩) ∧
      diamond.shapes.Objection (.translate number ⟨1, 4⟩)
        (.typeMismatch "translate.offset" .vec3 .float) ∧
      diamond.shapes.Objection (.translate (.var .normal) ⟨1, 4⟩)
        (.unboundVariable "translate.offset" .normal) ∧
      diamond.shapes.Legal (.translate (.var .cell) ⟨1, 4⟩) ∧
      ∃ c, repetition.runOn diamond = (.error (.typeMismatch "modulate.period" .vec3 .float), c) ∧
        c = (Build.sphere.runOn diamond).2 ∧ c.shapes.size = 5 := by
  intro number repetition
  obtain ⟨hpush, -, -, -, hmodulate⟩ := diamond.succeeds_iff_legal
  have hrun : repetition.runOn diamond =
      (.error (.typeMismatch "modulate.period" .vec3 .float), (repetition.runOn diamond).2) :=
    Prod.ext rfl rfl
  exact ⟨(((hpush _).2 _ diamond).mp rfl).1, (((hpush _).2 _ diamond).mp rfl).1,
    (((hpush _).2 _ diamond).mp rfl).1, (hpush _).1.mp ⟨⟨1, 5⟩, rfl⟩, _, hrun,
    hmodulate _ _ _ _ hrun, rfl⟩

end ImplicitScene
