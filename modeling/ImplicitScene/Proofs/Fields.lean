import ImplicitScene.Proofs.Construction
import ImplicitScene.Shape.Field

/-!
# What a distance depends on

The distance to one step of a shape depends on its parameters and on the
distances to its children.  How the children are named does not matter:
`Kind.map` gives them other names, and the distance follows.

An arena extends another one if every handle of the smaller arena denotes the
same shape in the larger.  Shapes are only added, so construction leads from an
arena to one that extends it.  The distance to a shape is then the same in both,
because all shapes below it are in the smaller arena already.
-/

namespace ImplicitScene

/-! ## Other names for the children -/

namespace Kind

variable {ε σ τ : Type}

/-- The same step over other children. -/
def map (f : σ → τ) : Kind ε σ → Kind ε τ
  | sphere => .sphere
  | cube => .cube
  | skull => .skull
  | plane normal offset => .plane normal offset
  | smoothBox size radius => .smoothBox size radius
  | cylinder radius height => .cylinder radius height
  | torus major minor => .torus major minor
  | truchet thickness => .truchet thickness
  | translate offset child => .translate offset (f child)
  | scale factor child => .scale factor (f child)
  | rotate axis angle child => .rotate axis angle (f child)
  | combine op a b => .combine op (f a) (f b)
  | blend op a b radius => .blend op (f a) (f b) radius
  | tile mode period child => .tile mode period (f child)

@[simp]
theorem map_id (kind : Kind ε σ) : kind.map id = kind := by
  cases kind <;> rfl

@[simp]
theorem children_map (f : σ → τ) (kind : Kind ε σ) :
    (kind.map f).children = kind.children.map f := by
  cases kind <;> rfl

@[simp]
theorem parameters_map (f : σ → τ) (kind : Kind ε σ) :
    (kind.map f).parameters = kind.parameters := by
  cases kind with
  | tile mode => cases mode <;> rfl
  | _ => rfl

theorem distance_map (f : σ → τ) (kind : Kind Expression σ)
    (child : τ → (point cell : Float3) → Except EvalError Float32) (ctx : Context)
    (point cell : Float3) :
    (kind.map f).distance child ctx point cell =
      kind.distance (fun c => child (f c)) ctx point cell := by
  cases kind <;> rfl

/-- Only the values of the parameters and the distances to the children matter.  Where the children
do not tell the cells `R` relates apart, the cells may differ by `R`. -/
theorem distance_congr_cells {kind : Kind Expression σ}
    {child child' : σ → (point cell : Float3) → Except EvalError Float32} {ctx ctx' : Context}
    {R : Float3 → Float3 → Prop} (hrefl : ∀ q, R q q) {point cell cell' : Float3}
    (hcell : R cell cell')
    (hparameters : ∀ s ∈ kind.parameters,
      s.content.eval { ctx with position := point, cell } =
        s.content.eval { ctx' with position := point, cell := cell' })
    (hchildren : ∀ c ∈ kind.children, ∀ p q q', R q q' → child c p q = child' c p q') :
    kind.distance child ctx point cell = kind.distance child' ctx' point cell' := by
  cases kind with
  | sphere | cube | skull => rfl
  | plane a b | smoothBox a b | cylinder a b | torus a b =>
      have ha := hparameters _ (.head _)
      have hb := hparameters _ (.tail _ (.head _))
      simp only [distance, Expression.evalVector, Expression.evalScalar, ha, hb]
  | truchet a =>
      have ha := hparameters _ (.head _)
      simp only [distance, Expression.evalScalar, ha]
  | translate a c | scale a c | rotate _ a c =>
      have ha := hparameters _ (.head _)
      have hc := fun p => hchildren c (.head _) p cell cell' hcell
      simp only [distance, Expression.evalVector, Expression.evalScalar, ha, hc]
  | combine _ a b =>
      have ha := hchildren a (.head _) point cell cell' hcell
      have hb := hchildren b (.tail _ (.head _)) point cell cell' hcell
      simp only [distance, ha, hb]
  | blend _ a b radius =>
      have ha := hchildren a (.head _) point cell cell' hcell
      have hb := hchildren b (.tail _ (.head _)) point cell cell' hcell
      have hradius := hparameters _ (.head _)
      simp only [distance, Expression.evalScalar, ha, hb, hradius]
  | tile mode period c =>
      cases mode with
      | perCell =>
          -- the child sees the same index on both sides
          have hperiod := hparameters _ (.head _)
          have hc := fun p q => hchildren c (.head _) p q q (hrefl q)
          simp only [distance, Expression.evalVector, hperiod, hc]
      | shared =>
          have hperiod := hparameters _ (.head _)
          have hc := fun p => hchildren c (.head _) p cell cell' hcell
          simp only [distance, Expression.evalVector, hperiod, hc]

/-- Within one cell, only the values of the parameters and the distances to the children matter. -/
theorem distance_congr_eval {kind : Kind Expression σ}
    {child child' : σ → (point cell : Float3) → Except EvalError Float32} {ctx ctx' : Context}
    {point cell : Float3}
    (hparameters : ∀ s ∈ kind.parameters,
      s.content.eval { ctx with position := point, cell } =
        s.content.eval { ctx' with position := point, cell })
    (hchildren : ∀ c ∈ kind.children, ∀ p q, child c p q = child' c p q) :
    kind.distance child ctx point cell = kind.distance child' ctx' point cell :=
  distance_congr_cells (R := Eq) (fun _ => rfl) rfl hparameters
    fun c hc p q _ hq => hq ▸ hchildren c hc p q

/-- Only the distances to the children matter. -/
theorem distance_congr {kind : Kind Expression σ}
    {child child' : σ → (point cell : Float3) → Except EvalError Float32}
    (h : ∀ c ∈ kind.children, ∀ point cell, child c point cell = child' c point cell)
    (ctx : Context) (point cell : Float3) :
    kind.distance child ctx point cell = kind.distance child' ctx point cell :=
  distance_congr_eval (fun _ _ => rfl) h

end Kind

namespace Arena

/-- Where children are older than their parents, the distance to a shape is that of its last step
over the distances to its children. -/
theorem WellFormed.distance_eq {arena : Arena} (hw : arena.WellFormed) {id : ShapeId} {node : Node}
    (h : arena.get? id = some node) (ctx : Context) (point cell : Float3) :
    arena.distance ctx id point cell =
      node.kind.distance (arena.distance ctx) ctx point cell := by
  rw [Arena.distance, h]
  refine Kind.distance_congr (fun c hc p q => ?_) ctx point cell
  have hmem : c ∈ arena.dependencies id := (dependencies_of_get? h).symm ▸ hc
  exact if_pos (hw.child_of_dependencies hmem).2

/-- A copy of the shapes below a shape has the same distance.  Here `f` leads from a handle to the
handle of its copy. -/
theorem WellFormed.distance_of_copy {arena other : Arena} (hw : arena.WellFormed)
    (hother : other.WellFormed) {f : ShapeId → ShapeId}
    (hf : ∀ {id node}, arena.get? id = some node →
      ∃ copy, other.get? (f id) = some copy ∧ copy.kind = node.kind.map f)
    (ctx : Context) (id : ShapeId) (hid : arena.contains id = true) (point cell : Float3) :
    other.distance ctx (f id) point cell = arena.distance ctx id point cell := by
  obtain ⟨node, hnode⟩ := exists_get?_of_contains hid
  obtain ⟨copy, hcopy, hkind⟩ := hf hnode
  rw [hw.distance_eq hnode, hother.distance_eq hcopy, hkind, Kind.distance_map]
  refine Kind.distance_congr (fun c hc p q => ?_) ctx point cell
  have hmem : c ∈ arena.dependencies id := (dependencies_of_get? hnode).symm ▸ hc
  obtain ⟨hcontains, hlt⟩ := hw.child_of_dependencies hmem
  exact hw.distance_of_copy hother hf ctx c hcontains p q
termination_by id.number

/-! ## Arenas that grow -/

/-- The larger arena has the same tag, and all that the smaller has. -/
structure Extends (small large : Arena) : Prop where
  /-- The tag is the same. -/
  tag : large.tag = small.tag
  /-- A handle denotes what it denoted. -/
  get? : ∀ {id : ShapeId} {node : Node}, small.get? id = some node → large.get? id = some node

namespace Extends

theorem refl (arena : Arena) : arena.Extends arena := ⟨rfl, fun h => h⟩

theorem trans {a b c : Arena} (hab : a.Extends b) (hbc : b.Extends c) : a.Extends c :=
  ⟨hbc.tag.trans hab.tag, fun h => hbc.get? (hab.get? h)⟩

theorem contains {small large : Arena} (h : small.Extends large) {id : ShapeId}
    (hid : small.contains id = true) : large.contains id = true := by
  obtain ⟨node, hnode⟩ := exists_get?_of_contains hid
  exact contains_of_get? (h.get? hnode)

theorem insert (arena : Arena) (kind : ShapeKind) : arena.Extends (arena.insert kind).2 := by
  refine ⟨rfl, fun {id node} h => ?_⟩
  obtain ⟨htag, hpos, hle⟩ := contains_iff.mp (contains_of_get? h)
  have hcontains : (arena.insert kind).2.contains id = true := by
    refine contains_iff.mpr ⟨htag, hpos, Nat.le_trans hle ?_⟩
    simp [Arena.insert, size]
  have hstored := getElem?_of_get? h
  obtain ⟨hlt, -⟩ := Array.getElem?_eq_some_iff.mp hstored
  rw [Arena.get?, if_pos hcontains, Arena.insert, Array.getElem?_push_lt hlt,
    ← Array.getElem?_eq_getElem hlt]
  exact hstored

/-- The distance to a shape stays the same when the arena grows. -/
theorem distance_eq {small large : Arena} (h : small.Extends large) (hsmall : small.WellFormed)
    (hlarge : large.WellFormed) (ctx : Context) {id : ShapeId} (hid : small.contains id = true)
    (point cell : Float3) :
    large.distance ctx id point cell = small.distance ctx id point cell :=
  hsmall.distance_of_copy hlarge (fun hget => ⟨_, h.get? hget, (Kind.map_id _).symm⟩) ctx id hid
    point cell

end Extends

theorem contains_insert (arena : Arena) (kind : ShapeKind) :
    (arena.insert kind).2.contains (arena.insert kind).1 = true :=
  contains_iff.mpr ⟨rfl, Nat.succ_pos _, by simp [Arena.insert, size]⟩

/-- A new handle denotes the shape it was issued for. -/
theorem get?_insert (arena : Arena) (kind : ShapeKind) :
    (arena.insert kind).2.get? (arena.insert kind).1 = some ⟨(arena.insert kind).1, kind⟩ := by
  rw [get?, if_pos (contains_insert arena kind)]
  simp [Arena.insert, size, ShapeId.index]

/-- The distance to a new shape. -/
theorem WellFormed.distance_insert {arena : Arena} (hw : arena.WellFormed) {kind : ShapeKind}
    (h : arena.admits kind = .ok ()) (ctx : Context) (point cell : Float3) :
    (arena.insert kind).2.distance ctx (arena.insert kind).1 point cell =
      kind.distance (arena.distance ctx) ctx point cell := by
  rw [(hw.insert h).distance_eq (get?_insert arena kind)]
  refine Kind.distance_congr (fun c hc p q => ?_) ctx point cell
  have hchild : arena.contains c = true := (admits_eq_ok.mp h).1 c hc
  exact (Extends.insert arena kind).distance_eq hw (hw.insert h) ctx hchild p q

end Arena

end ImplicitScene
