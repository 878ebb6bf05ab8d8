import ImplicitScene.Proofs.Probing
import ImplicitScene.Proofs.Fields

/-!
# What answers depend on

The value of an expression depends on the variables that it reads, and on nothing
else in the context.  Only random numbers are drawn from more: they are keyed by
the time and the screen coordinate, whether these are read or not.

From this it follows that the questions about a scene depend on the frame alone,
that is on the time, the screen coordinate and the mouse position.  The other four
variables are set in one of two ways.  A question about a material sets all of
them.  A distance sets the point and the cell and leaves the normal and the
direction as they were, all the way down the shape.  There it matters that
construction let no shape read these two, and no camera any of the four.
-/

namespace ImplicitScene

/-! ## Expressions -/

namespace Expression

mutual

/-- Whether random numbers are drawn in an evaluation. -/
def draws : Expression → Bool
  | constant _ => false
  | var _ => false
  | random _ => true
  | negate operand => operand.draws
  | binary _ left right => left.draws || right.draws
  | call _ args => anyDraws args
  | swizzle base _ => base.draws
  | construct _ args => anyDraws args
  | raw _ _ _ => false
termination_by structural e => e

/-- Whether one of the expressions draws random numbers. -/
def anyDraws : List Expression → Bool
  | [] => false
  | e :: es => e.draws || anyDraws es
termination_by structural es => es

end

end Expression

/-- The contexts agree on the variables that are read, and on the key of random numbers if any are
drawn. -/
structure Context.AgreeOn (reads : Variable → Bool) (draws : Bool) (ctx ctx' : Context) :
    Prop where
  /-- What is read is the same. -/
  read_eq : ∀ v, reads v = true → ctx.read v = ctx'.read v
  /-- What is drawn is the same. -/
  noise_eq : draws = true → noise ctx.uv ctx.time = noise ctx'.uv ctx'.time

namespace Context.AgreeOn

variable {reads reads' : Variable → Bool} {draws draws' : Bool} {ctx ctx' : Context}

theorem left (h : AgreeOn (fun v => reads v || reads' v) (draws || draws') ctx ctx') :
    AgreeOn reads draws ctx ctx' where
  read_eq v hv := h.read_eq v (Bool.or_eq_true_iff.mpr (.inl hv))
  noise_eq hdraws := h.noise_eq (Bool.or_eq_true_iff.mpr (.inl hdraws))

theorem right (h : AgreeOn (fun v => reads v || reads' v) (draws || draws') ctx ctx') :
    AgreeOn reads' draws' ctx ctx' where
  read_eq v hv := h.read_eq v (Bool.or_eq_true_iff.mpr (.inr hv))
  noise_eq hdraws := h.noise_eq (Bool.or_eq_true_iff.mpr (.inr hdraws))

end Context.AgreeOn

namespace Expression

variable {ctx ctx' : Context}

mutual

/-- Contexts that agree on what an expression reads and draws give it the same value. -/
theorem eval_congr : ∀ {e : Expression},
    Context.AgreeOn (fun v => e.reads v) e.draws ctx ctx' → e.eval ctx = e.eval ctx'
  | constant _, _ => rfl
  | var v, h => by
      rw [eval, eval, h.read_eq v (by simp [reads])]
  | random seed, h => by
      have hnoise := h.noise_eq rfl
      have hseed : seed.eval ctx = seed.eval ctx' := eval_congr ⟨h.read_eq, fun _ => hnoise⟩
      rw [eval, eval, hseed, hnoise]
  | negate operand, h => by
      have hoperand : operand.eval ctx = operand.eval ctx' := eval_congr h
      rw [eval, eval, hoperand]
  | binary op left right, h => by
      have hleft : left.eval ctx = left.eval ctx' := eval_congr h.left
      have hright : right.eval ctx = right.eval ctx' := eval_congr h.right
      rw [eval, eval, hleft, hright]
  | call f args, h => by
      rw [eval, eval, evalAll_congr h]
  | swizzle base components, h => by
      have hbase : base.eval ctx = base.eval ctx' := eval_congr h
      rw [eval, eval, hbase]
  | construct ty args, h => by
      rw [eval, eval, evalAll_congr h]
  | raw _ _ _, _ => rfl

/-- The same of several expressions. -/
theorem evalAll_congr : ∀ {es : List Expression},
    Context.AgreeOn (fun v => anyReads v es) (anyDraws es) ctx ctx' →
      evalAll ctx es = evalAll ctx' es
  | [], _ => rfl
  | e :: es, h => by
      have hfirst : e.eval ctx = e.eval ctx' := eval_congr h.left
      have hrest : evalAll ctx es = evalAll ctx' es := evalAll_congr h.right
      rw [evalAll, evalAll, hfirst, hrest]

end

end Expression

/-! ## Frames -/

/-- The contexts agree on what is the same for a whole pixel of a frame. -/
structure Context.SameFrame (ctx ctx' : Context) : Prop where
  /-- The time is the same. -/
  time : ctx.time = ctx'.time
  /-- The screen coordinate is the same. -/
  uv : ctx.uv = ctx'.uv
  /-- The mouse position is the same. -/
  mouse : ctx.mouse = ctx'.mouse

namespace Context.SameFrame

variable {ctx ctx' : Context}

/-- What a camera may read is the same. -/
theorem read_eq (h : ctx.SameFrame ctx') {v : Variable} (hv : v ∉ unboundInCamera) :
    ctx.read v = ctx'.read v := by
  cases v with
  | position | normal | direction | cell => exact absurd (by decide) hv
  | time => rw [read, read, h.time]
  | uv => rw [read, read, h.uv]
  | mouse => rw [read, read, h.mouse]

/-- What a shape may read is the same at one point of one cell. -/
theorem read_eq_at (h : ctx.SameFrame ctx') (position cell : Float3) {v : Variable}
    (hv : v ∉ unboundInShapes) :
    ({ ctx with position, cell } : Context).read v = { ctx' with position, cell }.read v := by
  cases v with
  | normal | direction => exact absurd (by decide) hv
  | position | cell => rfl
  | time => exact h.read_eq (v := .time) (by decide)
  | uv => exact h.read_eq (v := .uv) (by decide)
  | mouse => exact h.read_eq (v := .mouse) (by decide)

end Context.SameFrame

/-- An expression that passed the check of its slot has the same value where all other variables
agree. -/
theorem Slot.eval_eq {s : Slot} {unbound : List Variable} (hs : s.checkVariables unbound = .ok ())
    {ctx ctx' : Context} (hframe : ctx.SameFrame ctx')
    (hread : ∀ {v}, v ∉ unbound → ctx.read v = ctx'.read v) :
    s.content.eval ctx = s.content.eval ctx' := by
  refine Expression.eval_congr ⟨fun v hv => hread fun hmem => ?_, fun _ => ?_⟩
  · rw [Slot.reads_eq_false hs hmem] at hv
    cases hv
  · rw [hframe.uv, hframe.time]

/-! ## Distances -/

namespace Arena

/-- The distance to a shape depends on the frame alone.  The normal and the direction of the context
are handed down the shape, and no parameter on the way reads them. -/
theorem WellFormed.distance_sameFrame {arena : Arena} (hw : arena.WellFormed) {ctx ctx' : Context}
    (hframe : ctx.SameFrame ctx') (id : ShapeId) (point cell : Float3) :
    arena.distance ctx id point cell = arena.distance ctx' id point cell := by
  cases hnode : arena.get? id with
  | none => rw [Arena.distance, Arena.distance, hnode]
  | some node =>
      rw [hw.distance_eq hnode, hw.distance_eq hnode]
      refine Kind.distance_congr_eval (fun s hs => ?_) fun c hc p q => ?_
      · have hslot := (hw.slot (mem_of_get? hnode) s hs).2
        exact Slot.eval_eq hslot ⟨hframe.time, hframe.uv, hframe.mouse⟩ (hframe.read_eq_at point cell)
      · have hmem : c ∈ arena.dependencies id := (dependencies_of_get? hnode).symm ▸ hc
        have hlt := (hw.child_of_dependencies hmem).2
        exact hw.distance_sameFrame hframe c p q
termination_by id.number

end Arena

/-! ## Probes -/

namespace Probe

variable {scene : Scene} {epsilon : Float32} {frame frame' : Context}

/-- All variables but those of the frame are set. -/
theorem context_eq (hframe : frame.SameFrame frame') (position normal direction : Float3) :
    (Probe.mk scene epsilon frame).context position normal direction =
      (Probe.mk scene epsilon frame').context position normal direction := by
  simp only [context, hframe.time, hframe.uv, hframe.mouse]

variable (hd : ∀ m position, (Probe.mk scene epsilon frame).distance m position =
  (Probe.mk scene epsilon frame').distance m position)

include hd

/-- Where the distances are the same, the same model is closest. -/
theorem closest_eq_of_distance (position : Float3) :
    (Probe.mk scene epsilon frame).closest position =
      (Probe.mk scene epsilon frame').closest position := by
  have hsearch : ∀ models best, (Probe.mk scene epsilon frame).closestOf position best models =
      (Probe.mk scene epsilon frame').closestOf position best models := by
    intro models
    induction models with
    | nil => exact fun _ => rfl
    | cons m models ih =>
        intro best
        simp only [closestOf_cons, hd, ih]
  exact hsearch scene.models _

/-- Where the distances are the same, so are the normals. -/
theorem normal_eq_of_distance (object : Nat) (position : Float3) :
    (Probe.mk scene epsilon frame).normal object position =
      (Probe.mk scene epsilon frame').normal object position := by
  simp only [normal, slope, hd]

end Probe

/-! ## Only the frame matters -/

/-- The answers about a scene that was built depend on the time, the screen coordinate and the mouse
position alone.  The other variables of the frame that a probe is given play no part in them, and no
part in the camera. -/
theorem Builder.Reachable.answers_of_sameFrame {b : Builder} (hb : b.Reachable) (epsilon : Float32)
    {frame frame' : Context} (hframe : frame.SameFrame frame') :
    let v : Probe := { scene := b.scene, epsilon, frame }
    let v' : Probe := { scene := b.scene, epsilon, frame := frame' }
    let camera := b.scene.camera
    (∀ m position, v.distance m position = v'.distance m position) ∧
    (∀ position, v.closest position = v'.closest position) ∧
    (∀ object position, v.normal object position = v'.normal object position) ∧
    (∀ object position normal direction,
      v.material object position normal direction = v'.material object position normal direction) ∧
    (∀ position direction, v.air position direction = v'.air position direction) ∧
    ∀ e ∈ [camera.eye, camera.target, camera.up, camera.fieldOfView, camera.aperture],
      e.eval frame = e.eval frame' := by
  intro v v' camera
  have hw := hb.wellFormed
  have hd : ∀ m position, v.distance m position = v'.distance m position :=
    fun m position => hw.shapes.distance_sameFrame hframe m.shape position .zero
  refine ⟨hd, Probe.closest_eq_of_distance hd, Probe.normal_eq_of_distance hd, ?_, ?_, ?_⟩
  · intro object position normal direction
    rw [Probe.material, Probe.context_eq hframe]
    rfl
  · intro position direction
    rw [Probe.air, Probe.context_eq hframe]
    rfl
  · intro e he
    have hslots : ∀ s ∈ camera.slots, s.content.eval frame = s.content.eval frame' :=
      fun s hs => Slot.eval_eq (Slot.checkAll_eq_ok.mp hw.camera s hs).2 hframe hframe.read_eq
    have hmem : e ∈ camera.slots.map Parameter.content := he
    obtain ⟨s, hs, rfl⟩ := List.mem_map.mp hmem
    exact hslots s hs

/-- Tiles that move with the time and have a material that reads the normal.  A probe may be given
any point, normal, direction and cell. -/
theorem answers_of_sameFrame_tiles :
    let frame : Context := { time := 2.0 }
    let frame' : Context :=
      { position := .splat 1.0, normal := .splat 2.0, direction := .splat 3.0, cell := .splat 4.0,
        time := 2.0 }
    Builder.tiles.Reachable ∧ frame.SameFrame frame' ∧
      ∀ position, (Probe.mk Builder.tiles.scene 0.5 frame).closest position =
        (Probe.mk Builder.tiles.scene 0.5 frame').closest position :=
  have hframe := ⟨rfl, rfl, rfl⟩
  ⟨Builder.tiles_reachable, hframe, (Builder.tiles_reachable.answers_of_sameFrame 0.5 hframe).2.1⟩

end ImplicitScene
