import ImplicitScene.Proofs.Reading

/-!
# What is not read makes no difference

Two contexts that differ in one variable give an expression the same value, or the
same error, if the expression does not read the variable.  The expression need not
have a type.  The time and the screen coordinate take more: they are part of the
key of random numbers, so none may be drawn.

For shapes the variable of interest is the cell.  The two kinds of repetition
differ only in the cell that they hand to the child.  One hands down the index of
the cell that the point is in, the other the cell that was in force outside.  If
nothing below the child reads the cell, then the distance to the child is the same
in all cells.  Repetitions below it may set the cell anew, and that is no obstacle:
their children see the same index on both sides.  So both kinds of repetition have
the same distance.
-/

namespace ImplicitScene

/-! ## Expressions -/

namespace Context

/-- The contexts give every variable but `v` the same value. -/
def DifferOnlyIn (v : Variable) (ctx ctx' : Context) : Prop :=
  ∀ u, u ≠ v → ctx.read u = ctx'.read u

namespace DifferOnlyIn

variable {v : Variable} {ctx ctx' : Context}

theorem time_eq (h : DifferOnlyIn v ctx ctx') (hv : v ≠ .time) : ctx.time = ctx'.time :=
  congrArg Value.x (h .time hv.symm)

theorem uv_eq (h : DifferOnlyIn v ctx ctx') (hv : v ≠ .uv) : ctx.uv = ctx'.uv :=
  congrArg Value.toVec2 (h .uv hv.symm)

/-- The contexts agree on what is read and drawn, if `v` is not read, and is no part of the key of
random numbers that are drawn. -/
theorem agreeOn (h : DifferOnlyIn v ctx ctx') {reads : Variable → Bool} {draws : Bool}
    (hreads : reads v = false) (hdraws : v = .time ∨ v = .uv → draws = false) :
    AgreeOn reads draws ctx ctx' where
  read_eq u hu := by
    refine h u ?_
    rintro rfl
    rw [hreads] at hu
    cases hu
  noise_eq hdrawn := by
    have hkey : ¬(v = .time ∨ v = .uv) := fun hv => by
      rw [hdraws hv] at hdrawn
      cases hdrawn
    rw [h.time_eq fun hv => hkey (.inl hv), h.uv_eq fun hv => hkey (.inr hv)]

end DifferOnlyIn

/-- A context in two cells. -/
theorem differOnlyIn_cell (ctx : Context) (cell cell' : Float3) :
    DifferOnlyIn .cell { ctx with cell } { ctx with cell := cell' } := by
  intro u hu
  cases u with
  | cell => exact absurd rfl hu
  | position | normal | direction | time | uv | mouse => rfl

end Context

/-- An expression has the same value, or fails in the same way, in contexts that differ only in a
variable it does not read.  If the variable is the time or the screen coordinate, no random numbers
may be drawn.  Those inside a snippet do not count, for a snippet has no value. -/
theorem Expression.eval_eq_of_unread {e : Expression} {v : Variable} (hreads : e.reads v = false)
    (hdraws : v = .time ∨ v = .uv → e.draws = false) {ctx ctx' : Context}
    (h : ctx.DifferOnlyIn v ctx') : e.eval ctx = e.eval ctx' :=
  eval_congr (h.agreeOn hreads hdraws)

/-- A product with random numbers is the same for every mouse position.  What fails at any time for
want of a type fails in the same way. -/
theorem Expression.eval_eq_of_unread_mouse :
    let drawn : Expression := random (var .time) * var .uv
    let faulty : Expression := var .mouse - call .cross [var .cell, var .uv]
    drawn.reads .mouse = false ∧
      Context.DifferOnlyIn .mouse {} { mouse := .splat 1.0 } ∧
      drawn.eval {} = drawn.eval { mouse := .splat 1.0 } ∧
      faulty.reads .time = false ∧ faulty.draws = false ∧
      Context.DifferOnlyIn .time {} { time := 2.0 } ∧
      faulty.eval {} = faulty.eval { time := 2.0 } := by
  intro drawn faulty
  have hmouse : Context.DifferOnlyIn .mouse {} { mouse := .splat 1.0 } := by
    intro u hu
    cases u <;> first | rfl | exact absurd rfl hu
  have htime : Context.DifferOnlyIn .time {} { time := 2.0 } := by
    intro u hu
    cases u <;> first | rfl | exact absurd rfl hu
  refine ⟨rfl, hmouse, eval_eq_of_unread rfl (by simp) hmouse, rfl, rfl, htime, ?_⟩
  exact eval_eq_of_unread rfl (fun _ => rfl) htime

/-! ## Cells -/

/-- Where the distance to the child is the same in all cells, both kinds of repetition have the same
distance. -/
theorem Kind.distance_tile {σ : Type} {c : σ}
    {child : σ → (point cell : Float3) → Except EvalError Float32}
    (h : ∀ p q q', child c p q = child c p q') (period : Expression) (ctx : Context)
    (point cell : Float3) :
    (tile .perCell period c).distance child ctx point cell =
      (tile .shared period c).distance child ctx point cell := by
  simp only [distance]
  exact bind_congr fun _ => h _ _ _

namespace Arena

variable {arena : Arena}

/-- No shape below reads the cell in a parameter. -/
def IgnoresCell (arena : Arena) (id : ShapeId) : Prop :=
  ∀ x, arena.Below id x → ∀ node, arena.get? x = some node →
    ∀ s ∈ node.kind.parameters, s.content.reads .cell = false

/-- What ignores the cell is at the same distance in all cells. -/
theorem WellFormed.distance_ignores_cell (hw : arena.WellFormed) (ctx : Context) (id : ShapeId)
    (h : arena.IgnoresCell id) (point cell cell' : Float3) :
    arena.distance ctx id point cell = arena.distance ctx id point cell' := by
  cases hnode : arena.get? id with
  | none => rw [Arena.distance, Arena.distance, hnode]
  | some node =>
      rw [hw.distance_eq hnode, hw.distance_eq hnode]
      refine Kind.distance_congr_cells (R := fun _ _ => True) (fun _ => trivial) trivial
        (fun s hs => ?_) fun c hc p q q' _ => ?_
      · have hreads := h id .refl node hnode s hs
        have hcells := Context.differOnlyIn_cell { ctx with position := point } cell cell'
        exact Expression.eval_congr (hcells.agreeOn hreads (by simp))
      · have hmem : c ∈ arena.dependencies id := (dependencies_of_get? hnode).symm ▸ hc
        have hlt := (hw.child_of_dependencies hmem).2
        exact hw.distance_ignores_cell ctx c (fun x hx => h x (.head hmem hx)) p q q'
termination_by id.number

namespace Extends

variable {small large : Arena}

/-- A shape keeps its distance whatever is added, be it checked or not. -/
theorem distance_kept (h : small.Extends large) (hw : small.WellFormed) (ctx : Context)
    (id : ShapeId) (hid : small.contains id = true) (point cell : Float3) :
    large.distance ctx id point cell = small.distance ctx id point cell := by
  obtain ⟨node, hnode⟩ := exists_get?_of_contains hid
  rw [hw.distance_eq hnode, Arena.distance, h.get? hnode]
  refine Kind.distance_congr (fun c hc p q => ?_) ctx point cell
  have hmem : c ∈ small.dependencies id := (dependencies_of_get? hnode).symm ▸ hc
  obtain ⟨hcontains, hlt⟩ := hw.child_of_dependencies hmem
  rw [if_pos hlt]
  exact h.distance_kept hw ctx c hcontains p q
termination_by id.number

/-- A shape that is made from shapes of the smaller arena is newer than they are, unless it is a
shape of the smaller arena itself.  There the children are older too. -/
theorem child_lt (h : small.Extends large) (hw : small.WellFormed) {x c : ShapeId} {node : Node}
    (hx : large.get? x = some node) (hc : c ∈ node.kind.children)
    (hcontains : small.contains c = true) : c.number < x.number := by
  by_cases hold : small.contains x = true
  · obtain ⟨found, hfound⟩ := exists_get?_of_contains hold
    obtain rfl : found = node := Option.some.inj ((h.get? hfound).symm.trans hx)
    exact (hw.child_of_dependencies ((dependencies_of_get? hfound).symm ▸ hc)).2
  · obtain ⟨htag, hpos, -⟩ := contains_iff.mp (contains_of_get? hx)
    have hsize := (contains_iff.mp hcontains).2.2
    have hnew : ¬x.number ≤ small.size := fun hle =>
      hold (contains_iff.mpr ⟨htag.trans h.tag, hpos, hle⟩)
    omega

/-- The distance to a shape over shapes of the smaller arena. -/
theorem distance_over (h : small.Extends large) (hw : small.WellFormed) {x : ShapeId} {node : Node}
    (hx : large.get? x = some node)
    (hchildren : ∀ c ∈ node.kind.children, small.contains c = true) (ctx : Context)
    (point cell : Float3) :
    large.distance ctx x point cell = node.kind.distance (small.distance ctx) ctx point cell := by
  rw [Arena.distance, hx]
  refine Kind.distance_congr (fun c hc p q => ?_) ctx point cell
  rw [if_pos (h.child_lt hw hx hc (hchildren c hc))]
  exact h.distance_kept hw ctx c (hchildren c hc) p q

/-- The two kinds of repetition, with one period and over one shape that ignores the cell, have the
same distance. -/
theorem distance_tilings (h : small.Extends large) (hw : small.WellFormed) {c : ShapeId}
    (hc : small.contains c = true) (hcell : small.IgnoresCell c) {period : Expression}
    {x y : ShapeId} {node other : Node} (hx : large.get? x = some node)
    (hy : large.get? y = some other) (hnode : node.kind = .tile .perCell period c)
    (hother : other.kind = .tile .shared period c) (ctx : Context) (point cell : Float3) :
    large.distance ctx x point cell = large.distance ctx y point cell := by
  have hchild : ∀ d ∈ [c], small.contains d = true := fun d hd => List.mem_singleton.mp hd ▸ hc
  rw [h.distance_over hw hx (by rw [hnode]; exact hchild),
    h.distance_over hw hy (by rw [hother]; exact hchild), hnode, hother]
  exact Kind.distance_tile (hw.distance_ignores_cell ctx c hcell) period ctx point cell

end Extends

end Arena

/-! ## Repetitions -/

/-- Over a shape that ignores the cell, both kinds of repetition are the same.  The shape itself is
at the same distance in all cells.  The repetitions have the same distance whatever their period is,
when they are added to the shapes of the builder, and if they are among these already. -/
theorem Builder.Reachable.tilings_agree {b : Builder} (hb : b.Reachable) {c : ShapeId}
    (hc : b.shapes.contains c = true) (hcell : b.shapes.IgnoresCell c) :
    (∀ ctx point cell cell',
      b.shapes.distance ctx c point cell = b.shapes.distance ctx c point cell') ∧
    (∀ period ctx point cell,
      let perCell := b.shapes.insert (.tile .perCell period c)
      let shared := perCell.2.insert (.tile .shared period c)
      shared.2.distance ctx perCell.1 point cell = shared.2.distance ctx shared.1 point cell) ∧
    ∀ period x y node other, b.shapes.get? x = some node → b.shapes.get? y = some other →
      node.kind = .tile .perCell period c → other.kind = .tile .shared period c →
      ∀ ctx point cell,
        b.shapes.distance ctx x point cell = b.shapes.distance ctx y point cell := by
  have hw := hb.wellFormed.shapes
  refine ⟨fun ctx => hw.distance_ignores_cell ctx c hcell, fun period ctx point cell => ?_,
    fun period x y node other hx hy hnode hother => ?_⟩
  · have hfirst := Arena.Extends.insert b.shapes (.tile .perCell period c)
    have hsecond := Arena.Extends.insert (b.shapes.insert (.tile .perCell period c)).2
      (.tile .shared period c)
    exact (hfirst.trans hsecond).distance_tilings hw hc hcell (hsecond.get? (Arena.get?_insert ..))
      (Arena.get?_insert ..) rfl rfl ctx point cell
  · exact (Arena.Extends.refl b.shapes).distance_tilings hw hc hcell hx hy hnode hother

/-- A grid of moved grids of balls.  The inner grid gives every ball the index of its cell, and the
period of the outer grid reads the cell.  No ball is made with it. -/
def Builder.grids : Builder :=
  let period : Expression := .vector [4.0] + .var .cell
  let b := ((Build.push .sphere).runOn (.empty 1)).2
  let b := ((Build.push (.tile .perCell (.vector [1.0]) ⟨1, 1⟩)).runOn b).2
  let b := ((Build.push (.translate (.var .position * .var .time) ⟨1, 2⟩)).runOn b).2
  let b := ((Build.push (.tile .perCell period ⟨1, 3⟩)).runOn b).2
  ((Build.push (.tile .shared period ⟨1, 3⟩)).runOn b).2

theorem Builder.grids_reachable : Builder.grids.Reachable :=
  .push _ (.push _ (.push _ (.push _ (.push _ (.empty 1)))))

/-- Whether the outer grid hands its cell down makes no difference, neither for the grids that are
there nor for one whose period is a number. -/
theorem tilings_agree_grids :
    let arena := Builder.grids.shapes
    Builder.grids.Reachable ∧ arena.contains ⟨1, 3⟩ = true ∧ arena.IgnoresCell ⟨1, 3⟩ ∧
      (∀ ctx point cell,
        arena.distance ctx ⟨1, 4⟩ point cell = arena.distance ctx ⟨1, 5⟩ point cell) ∧
      ∀ ctx point cell,
        let perCell := arena.insert (.tile .perCell (.scalar 2.0) ⟨1, 3⟩)
        let shared := perCell.2.insert (.tile .shared (.scalar 2.0) ⟨1, 3⟩)
        shared.2.distance ctx ⟨1, 6⟩ point cell = shared.2.distance ctx ⟨1, 7⟩ point cell := by
  intro arena
  have hw := Builder.grids_reachable.wellFormed.shapes
  have hcell : arena.IgnoresCell ⟨1, 3⟩ := by
    intro x hx node hnode
    rw [← hw.mem_listing_iff, ← hw.order_eq rfl] at hx
    have hlisted : x ∈ [(⟨1, 1⟩ : ShapeId), ⟨1, 2⟩, ⟨1, 3⟩] := hx
    simp only [List.mem_cons, List.not_mem_nil, or_false] at hlisted
    rcases hlisted with rfl | rfl | rfl <;> cases hnode <;> decide
  obtain ⟨-, hadded, hthere⟩ := Builder.grids_reachable.tilings_agree rfl hcell
  exact ⟨Builder.grids_reachable, rfl, hcell, hthere _ _ _ _ _ rfl rfl rfl rfl,
    hadded (.scalar 2.0)⟩

end ImplicitScene
