import ImplicitScene.Proofs.Order
import ImplicitScene.Proofs.Soundness
import ImplicitScene.Tracer.Basic

/-!
# Questions about a scene that was built

A scene that construction made is asked for distances, normals, materials and
pixels.  Only a snippet can keep it from answering.  The shapes that a model is
made from are listed by `Arena.order`.  The distance of the model fails exactly
if one of them has a snippet among its parameters, wherever the point is.

Three facts meet in the proof.  Construction has checked every parameter, so by
soundness a parameter fails only on a snippet.  A shape evaluates all its
parameters and all its children unless one of them fails.  And the list of the
shapes below a shape is made of the lists of its children and the shape itself.

A path of light may end before it comes to a snippet.  So of the tracer it is
said only that it fails on no scene without snippets, and never in another way.
-/

namespace ImplicitScene

/-! ## Where snippets are -/

/-- A parameter of the shape holds a snippet. -/
def Kind.HasSnippet {σ : Type} (kind : Kind Expression σ) : Prop :=
  ∃ s ∈ kind.parameters, s.content.isOpaque = true

/-- A shape in the list below `id` has a parameter that holds a snippet. -/
def Arena.HasSnippetBelow (arena : Arena) (id : ShapeId) : Prop :=
  ∃ x ∈ arena.order id, ∃ node, arena.get? x = some node ∧ node.kind.HasSnippet

/-- A field of the material holds a snippet. -/
def Material.HasSnippet (m : Material) : Prop := ∃ f ∈ m.fields, f.2.isOpaque = true

/-- A field of the camera holds a snippet. -/
def Camera.HasSnippet (c : Camera) : Prop := ∃ s ∈ c.slots, s.content.isOpaque = true

/-- A snippet is in the shapes or the material of a model, in the camera or in the air. -/
def Scene.HasSnippet (scene : Scene) : Prop :=
  (∃ m ∈ scene.models, scene.shapes.HasSnippetBelow m.shape ∨ m.material.HasSnippet) ∨
    scene.camera.HasSnippet ∨ scene.air.HasSnippet

/-- Where no expression holds a snippet, the scene has none. -/
theorem Scene.not_hasSnippet {scene : Scene}
    (hshapes : ∀ node ∈ scene.shapes.nodes.toList, ∀ s ∈ node.kind.parameters,
      s.content.isOpaque = false)
    (hmodels : ∀ m ∈ scene.models, ∀ f ∈ m.material.fields, f.2.isOpaque = false)
    (hcamera : ∀ s ∈ scene.camera.slots, s.content.isOpaque = false)
    (hair : ∀ f ∈ scene.air.fields, f.2.isOpaque = false) : ¬scene.HasSnippet := by
  rintro (⟨m, hm, ⟨x, -, node, hnode, s, hs, hsnippet⟩ | ⟨f, hf, hsnippet⟩⟩ | ⟨s, hs, hsnippet⟩ |
    ⟨f, hf, hsnippet⟩)
  · have hmem := Array.mem_toList_iff.mpr (Arena.mem_of_get? hnode)
    exact Bool.eq_false_iff.mp (hshapes node hmem s hs) hsnippet
  · exact Bool.eq_false_iff.mp (hmodels m hm f hf) hsnippet
  · exact Bool.eq_false_iff.mp (hcamera s hs) hsnippet
  · exact Bool.eq_false_iff.mp (hair f hf) hsnippet

theorem Builder.diamond_not_hasSnippet : ¬Builder.diamond.scene.HasSnippet :=
  Scene.not_hasSnippet (by decide) (by decide) (by decide) (by decide)

/-! ## Results that fail only on snippets -/

/-- A result that is an answer, or fails with the error of a snippet and then only if `B` holds. -/
def FailsOnlyIf {α : Type} (B : Prop) : Except EvalError α → Prop
  | .ok _ => True
  | .error e => B ∧ e = .snippet

namespace FailsOnlyIf

variable {α β : Type} {B C : Prop}

theorem mono (h : B → C) {r : Except EvalError α} (hr : FailsOnlyIf B r) : FailsOnlyIf C r := by
  cases r with
  | ok a => trivial
  | error e => exact ⟨h hr.1, hr.2⟩

theorem bind {x : Except EvalError α} {f : α → Except EvalError β} (hx : FailsOnlyIf B x)
    (hf : ∀ a, FailsOnlyIf B (f a)) : FailsOnlyIf B (x >>= f) := by
  cases x with
  | ok a => exact hf a
  | error e => exact hx

end FailsOnlyIf

namespace Settles

variable {α β : Type} {B : Prop} {P : α → Prop}

theorem failsOnlyIf {r : Except EvalError α} (hr : Settles B P r) : FailsOnlyIf B r := by
  cases r with
  | ok a => trivial
  | error e => exact hr

/-- What comes after an answer, when only that it comes matters. -/
theorem then_answer {x : Except EvalError α} {g : α → β} (hx : Settles B P x) :
    Settles B (fun _ => True) (x >>= fun a => .ok (g a)) :=
  hx.bind_answer fun a _ => ⟨g a, rfl, trivial⟩

theorem fails_iff {r : Except EvalError α} (hr : Settles B P r) : (∃ e, r = .error e) ↔ B := by
  cases r with
  | ok a => simp [hr.1]
  | error e => simp [hr.1]

theorem eq_snippet {r : Except EvalError α} {e : EvalError} (hr : Settles B P r)
    (h : r = .error e) : e = .snippet := by
  subst h
  exact hr.2

end Settles

/-! ## Parameters -/

namespace Expression

theorem evalScalar_settles (ctx : Context) {e : Expression} (h : ∃ t, e.type = .ok t) :
    Settles (e.isOpaque = true) (fun _ => True) (e.evalScalar ctx) := by
  obtain ⟨t, ht⟩ := h
  exact (eval_settles ctx e ht).then_answer

theorem evalVector_settles (ctx : Context) {e : Expression} (h : ∃ t, e.type = .ok t) :
    Settles (e.isOpaque = true) (fun _ => True) (e.evalVector ctx) := by
  obtain ⟨t, ht⟩ := h
  exact (eval_settles ctx e ht).then_answer

end Expression

theorem Slot.typed_of_checkType {s : Slot} (h : s.checkType = .ok ()) :
    ∃ t, s.content.type = .ok t := by
  obtain ⟨t, ht, -⟩ := type_of_checkType h
  exact ⟨t, ht⟩

/-! ## Distances -/

/-- One step of a shape settles when its parameters are typed and its children settle.  It evaluates
every one of them. -/
theorem Kind.distance_settles {σ : Type} {kind : Kind Expression σ}
    {child : σ → (point cell : Float3) → Except EvalError Float32} {B : σ → Prop}
    (ht : ∀ s ∈ kind.parameters, ∃ t, s.content.type = .ok t)
    (hc : ∀ c ∈ kind.children, ∀ p q, Settles (B c) (fun _ => True) (child c p q))
    (ctx : Context) (point cell : Float3) :
    Settles (kind.HasSnippet ∨ ∃ c ∈ kind.children, B c) (fun _ => True)
      (kind.distance child ctx point cell) := by
  cases kind with
  | sphere | cube | skull =>
      exact (Settles.answer trivial).congr (by simp [HasSnippet, parameters, children])
  | plane normal offset | smoothBox size radius =>
      simp only [parameters, List.forall_mem_cons] at ht
      exact ((Expression.evalVector_settles _ ht.1).bind fun _ _ =>
        (Expression.evalScalar_settles _ ht.2.1).then_answer).congr
          (by simp [HasSnippet, parameters, children])
  | cylinder radius height | torus major minor =>
      simp only [parameters, List.forall_mem_cons] at ht
      exact ((Expression.evalScalar_settles _ ht.1).bind fun _ _ =>
        (Expression.evalScalar_settles _ ht.2.1).then_answer).congr
          (by simp [HasSnippet, parameters, children])
  | truchet thickness =>
      simp only [parameters, List.forall_mem_cons] at ht
      exact (Expression.evalScalar_settles _ ht.1).then_answer.congr
        (by simp [HasSnippet, parameters, children])
  | translate offset c =>
      simp only [parameters, List.forall_mem_cons] at ht
      exact ((Expression.evalVector_settles _ ht.1).bind fun _ _ =>
        hc c (by simp [children]) _ _).congr (by simp [HasSnippet, parameters, children])
  | scale factor c =>
      simp only [parameters, List.forall_mem_cons] at ht
      exact ((Expression.evalScalar_settles _ ht.1).bind fun _ _ =>
        (hc c (by simp [children]) _ _).then_answer).congr
          (by simp [HasSnippet, parameters, children])
  | rotate axis angle c =>
      simp only [parameters, List.forall_mem_cons] at ht
      exact ((Expression.evalScalar_settles _ ht.1).bind fun _ _ =>
        hc c (by simp [children]) _ _).congr (by simp [HasSnippet, parameters, children])
  | combine op a b =>
      exact ((hc a (by simp [children]) _ _).bind fun _ _ =>
        (hc b (by simp [children]) _ _).then_answer).congr
          (by simp [HasSnippet, parameters, children])
  | blend op a b radius =>
      simp only [parameters, List.forall_mem_cons] at ht
      exact ((hc a (by simp [children]) _ _).bind fun _ _ =>
        (hc b (by simp [children]) _ _).bind fun _ _ =>
          (Expression.evalScalar_settles _ ht.1).then_answer).congr
            (by simp [HasSnippet, parameters, children]; tauto)
  | tile mode period c =>
      have hperiod : ∃ t, period.type = .ok t := by
        cases mode with
        | perCell | shared =>
            simp only [parameters, List.forall_mem_cons] at ht
            exact ht.1
      refine ((Expression.evalVector_settles _ hperiod).bind fun _ _ =>
        hc c (by simp [children]) _ _).congr ?_
      cases mode <;> simp [HasSnippet, parameters, children]

namespace Arena.WellFormed

variable {arena : Arena}

/-- A snippet below a shape is in the shape itself or below a child. -/
theorem hasSnippetBelow_iff (hw : arena.WellFormed) {id : ShapeId} {node : Node}
    (h : arena.get? id = some node) :
    arena.HasSnippetBelow id ↔
      node.kind.HasSnippet ∨ ∃ c ∈ node.kind.children, arena.HasSnippetBelow c := by
  have hchildren : arena.dependencies id = node.kind.children := dependencies_of_get? h
  have horder : ∀ c ∈ node.kind.children, arena.order c = arena.listing c := by
    intro c hc
    rw [← hchildren] at hc
    exact hw.order_eq (hw.child_of_dependencies hc).1
  unfold HasSnippetBelow
  rw [hw.order_eq (contains_of_get? h)]
  constructor
  · rintro ⟨x, hx, found, hfound, hsnippet⟩
    rcases hw.mem_listing.mp hx with ⟨c, hc, hxc⟩ | rfl
    · rw [hchildren] at hc
      exact Or.inr ⟨c, hc, x, horder c hc ▸ hxc, found, hfound, hsnippet⟩
    · rw [h] at hfound
      exact Or.inl (Option.some.inj hfound ▸ hsnippet)
  · rintro (hsnippet | ⟨c, hc, x, hx, found⟩)
    · exact ⟨id, hw.self_mem_listing id, node, h, hsnippet⟩
    · rw [horder c hc] at hx
      exact ⟨x, hw.mem_listing.mpr (Or.inl ⟨c, hchildren ▸ hc, hx⟩), found⟩

theorem typed (hw : arena.WellFormed) {node : Node} (hnode : node ∈ arena.nodes) :
    ∀ s ∈ node.kind.parameters, ∃ t, s.content.type = .ok t :=
  fun s hs => Slot.typed_of_checkType (hw.slot hnode s hs).1

/-- The distance to a shape is blocked exactly by the snippets below it. -/
theorem distance_settles (hw : arena.WellFormed) (ctx : Context) (id : ShapeId)
    (hid : arena.contains id = true) (point cell : Float3) :
    Settles (arena.HasSnippetBelow id) (fun _ => True) (arena.distance ctx id point cell) := by
  obtain ⟨node, hnode⟩ := exists_get?_of_contains hid
  rw [Arena.distance, hnode]
  refine (Kind.distance_settles (hw.typed (mem_of_get? hnode)) ?_ ctx point cell).congr
    (hw.hasSnippetBelow_iff hnode).symm
  intro c hc p q
  rw [← Node.dependencies, ← dependencies_of_get? hnode] at hc
  obtain ⟨hcontains, hlt⟩ := hw.child_of_dependencies hc
  rw [if_pos hlt]
  exact hw.distance_settles ctx c hcontains p q
termination_by id.number

end Arena.WellFormed

/-! ## Materials and cameras -/

namespace Material

theorem sample_settles {m : Material} (h : m.validate = .ok ()) (ctx : Context) :
    Settles m.HasSnippet (fun _ => True) (m.sample ctx) := by
  have typed : ∀ s ∈ m.slots, ∃ t, s.content.type = .ok t := fun s hs =>
    Slot.typed_of_checkType (Slot.all_eq_ok.mp h s hs)
  simp only [slots, List.forall_mem_cons] at typed
  obtain ⟨hcolor, htransmittance, hsmoothness, hrefraction, hscatter, hemissivity, -⟩ := typed
  exact ((Expression.evalScalar_settles ctx htransmittance).bind fun _ _ =>
    (Expression.evalScalar_settles ctx hsmoothness).bind fun _ _ =>
    (Expression.evalScalar_settles ctx hrefraction).bind fun _ _ =>
    (Expression.evalScalar_settles ctx hscatter).bind fun _ _ =>
    (Expression.evalVector_settles ctx hcolor).bind fun _ _ =>
    (Expression.evalVector_settles ctx hemissivity).then_answer).congr
      (by simp [HasSnippet, fields])

end Material

namespace Tracer

theorem view_settles {t : Tracer} (h : t.scene.camera.validate = .ok ()) (ctx : Context) :
    Settles t.scene.camera.HasSnippet (fun _ => True) (t.view ctx) := by
  have typed : ∀ s ∈ t.scene.camera.slots, ∃ t, s.content.type = .ok t := fun s hs =>
    Slot.typed_of_checkType (Slot.checkAll_eq_ok.mp h s hs).1
  simp only [Camera.slots, List.forall_mem_cons] at typed
  obtain ⟨heye, htarget, hup, hfield, haperture, -⟩ := typed
  exact ((Expression.evalVector_settles ctx heye).bind fun _ _ =>
    (Expression.evalVector_settles ctx htarget).bind fun _ _ =>
    (Expression.evalVector_settles ctx hup).bind fun _ _ =>
    (Expression.evalScalar_settles ctx hfield).bind fun _ _ =>
    (Expression.evalScalar_settles ctx haperture).then_answer).congr
      (by simp [Camera.HasSnippet, Camera.slots])

end Tracer

/-! ## Probes -/

namespace Probe

variable {b : Builder} {v : Probe}

theorem distance_settles (hw : b.WellFormed) (hv : v.scene = b.scene) {m : Model}
    (hm : m ∈ b.models) (position : Float3) :
    Settles (b.shapes.HasSnippetBelow m.shape) (fun _ => True) (v.distance m position) := by
  rw [distance, hv]
  exact hw.shapes.distance_settles v.frame m.shape (hw.model_shape m hm) position .zero

theorem material_settles (hw : b.WellFormed) (hv : v.scene = b.scene) {m : Model}
    (hm : m ∈ b.models) (position normal direction : Float3) :
    Settles m.material.HasSnippet (fun _ => True) (v.material m.id position normal direction) := by
  rw [material, hv, hw.model?_eq hm]
  exact m.material.sample_settles (hw.model_material m hm) _

theorem closestOf_cons (v : Probe) (position : Float3) (best : Closest) (m : Model)
    (models : List Model) :
    v.closestOf position best (m :: models) =
      v.distance m position >>= fun d => v.closestOf position (keepCloser best m d) models := by
  rw [closestOf]
  cases v.distance m position <;> rfl

/-- The search looks at every model. -/
theorem closestOf_settles (hw : b.WellFormed) (hv : v.scene = b.scene) (position : Float3) :
    ∀ (models : List Model) (best : Closest), (∀ m ∈ models, m ∈ b.models) →
      Settles (∃ m ∈ models, b.shapes.HasSnippetBelow m.shape) (fun _ => True)
        (v.closestOf position best models)
  | [], best, _ => (Settles.answer trivial).congr (by simp)
  | m :: models, best, hsub => by
      rw [List.forall_mem_cons] at hsub
      rw [closestOf_cons]
      refine ((distance_settles hw hv hsub.1 position).bind fun d _ =>
        closestOf_settles hw hv position models (keepCloser best m d) hsub.2).congr ?_
      simp

theorem closest_failsOnlyIf (hw : b.WellFormed) (hv : v.scene = b.scene) (position : Float3) :
    FailsOnlyIf b.scene.HasSnippet (v.closest position) := by
  rw [closest, hv]
  refine (closestOf_settles hw hv position _ _ fun m hm => hm).failsOnlyIf.mono ?_
  rintro ⟨m, hm, hbelow⟩
  exact Or.inl ⟨m, hm, Or.inl hbelow⟩

theorem slope_failsOnlyIf (hw : b.WellFormed) (hv : v.scene = b.scene) {m : Model}
    (hm : m ∈ b.models) (position step : Float3) :
    FailsOnlyIf b.scene.HasSnippet (v.slope m position step) := by
  have hd : ∀ p, FailsOnlyIf b.scene.HasSnippet (v.distance m p) := fun p =>
    (distance_settles hw hv hm p).failsOnlyIf.mono fun hbelow => Or.inl ⟨m, hm, Or.inl hbelow⟩
  exact (hd _).bind fun _ => (hd _).bind fun _ => trivial

theorem normal_failsOnlyIf (hw : b.WellFormed) (hv : v.scene = b.scene) (object : Nat)
    (position : Float3) : FailsOnlyIf b.scene.HasSnippet (v.normal object position) := by
  rw [normal, hv]
  cases hmodel : b.scene.model? object with
  | none => trivial
  | some m =>
      have hm : m ∈ b.models := List.mem_of_find?_eq_some hmodel
      have hs := slope_failsOnlyIf hw hv hm position
      exact (hs _).bind fun _ => (hs _).bind fun _ => (hs _).bind fun _ => trivial

theorem material_failsOnlyIf (hw : b.WellFormed) (hv : v.scene = b.scene) (object : Nat)
    (position normal direction : Float3) :
    FailsOnlyIf b.scene.HasSnippet (v.material object position normal direction) := by
  rw [material, hv]
  cases hmodel : b.scene.model? object with
  | none => trivial
  | some m =>
      have hm : m ∈ b.models := List.mem_of_find?_eq_some hmodel
      exact (m.material.sample_settles (hw.model_material m hm) _).failsOnlyIf.mono
        fun hsnippet => Or.inl ⟨m, hm, Or.inr hsnippet⟩

theorem air_failsOnlyIf (hw : b.WellFormed) (hv : v.scene = b.scene) (position direction : Float3) :
    FailsOnlyIf b.scene.HasSnippet (v.air position direction) := by
  rw [air, hv]
  exact (b.air.sample_settles hw.air _).failsOnlyIf.mono fun h => Or.inr (Or.inr h)

end Probe

/-! ## Paths of light -/

theorem Ray.marchFrom_succ (r : Ray) (v : Probe) (steps : Nat) (m : March) :
    r.marchFrom v (steps + 1) m =
      v.closest m.position >>= fun closest =>
        if closest.distance < v.epsilon then
          .ok ⟨closest, r.point (m.travelled + closest.distance), m.travelled + closest.distance⟩
        else if r.limit < m.travelled then .ok ⟨closest, r.point r.limit, r.limit⟩
        else
          r.marchFrom v steps ⟨closest, r.point (m.travelled + closest.distance * 0.5),
            m.travelled + closest.distance * 0.5 - v.epsilon⟩ := by
  rw [marchFrom]
  cases v.closest m.position <;> rfl

theorem Ray.marchFrom_failsOnlyIf {v : Probe} {B : Prop} (hc : ∀ p, FailsOnlyIf B (v.closest p))
    (r : Ray) (steps : Nat) (m : March) : FailsOnlyIf B (r.marchFrom v steps m) := by
  induction steps generalizing m with
  | zero => trivial
  | succ steps ih =>
      rw [marchFrom_succ]
      refine (hc _).bind fun closest => ?_
      split
      · trivial
      · split
        · trivial
        · exact ih _

namespace Tracer

variable {b : Builder} {v : Probe} {t : Tracer}

theorem bounce_failsOnlyIf (hw : b.WellFormed) (hv : v.scene = b.scene) (steps : Nat)
    (air : MaterialSample) (noise : Float2) (path : Path) :
    FailsOnlyIf b.scene.HasSnippet (bounce v steps air noise path) := by
  refine (Ray.marchFrom_failsOnlyIf (Probe.closest_failsOnlyIf hw hv) _ _ _).bind fun m => ?_
  split
  · trivial
  · split
    · trivial
    · exact (Probe.normal_failsOnlyIf hw hv _ _).bind fun _ =>
        (Probe.material_failsOnlyIf hw hv _ _ _ _).bind fun _ => trivial

theorem follow_failsOnlyIf (hw : b.WellFormed) (hv : v.scene = b.scene) (air : MaterialSample)
    (iteration : UInt32) (left number : Nat) (path : Path) :
    FailsOnlyIf b.scene.HasSnippet (t.follow v air iteration left number path) := by
  induction left generalizing number path with
  | zero => trivial
  | succ left ih =>
      refine (bounce_failsOnlyIf hw hv _ _ _ _).bind fun next => ?_
      cases next with
      | stop gathered => trivial
      | go path => exact ih _ _

theorem samples_failsOnlyIf (hw : b.WellFormed) (hv : v.scene = b.scene) (c : View)
    (left number : Nat) (gathered : Float4) :
    FailsOnlyIf b.scene.HasSnippet (t.samples v c left number gathered) := by
  induction left generalizing number gathered with
  | zero => trivial
  | succ left ih =>
      have hsample : FailsOnlyIf b.scene.HasSnippet (t.sample v c number.toUInt32 gathered) :=
        (Probe.air_failsOnlyIf hw hv _ _).bind fun _ => follow_failsOnlyIf hw hv _ _ _ _ _
      exact hsample.bind fun _ => ih _ _

theorem tracePixel_failsOnlyIf (hw : b.WellFormed) (ht : t.scene = b.scene) (uv : Float2)
    (frame : Frame) (previous : Float4) :
    FailsOnlyIf b.scene.HasSnippet (t.tracePixel uv frame previous) := by
  have hview : ∀ ctx, FailsOnlyIf b.scene.HasSnippet (t.view ctx) := fun ctx =>
    (view_settles (t := t) (by rw [ht]; exact hw.camera) ctx).failsOnlyIf.mono fun h =>
      Or.inr (Or.inl (ht ▸ h))
  have hradiance : FailsOnlyIf b.scene.HasSnippet (t.radiance uv frame) :=
    (hview _).bind fun c => samples_failsOnlyIf hw ht c _ _ _
  exact hradiance.bind fun _ => trivial

end Tracer

/-! ## Only snippets are in the way -/

/-- A scene that was built answers every question unless a snippet is in the way.  The distance of a
model fails exactly on the snippets of the shapes it is listed with, and a material exactly on the
snippets of its fields.  No question fails in another way. -/
theorem Builder.Reachable.answers_unless_snippet {b : Builder} (h : b.Reachable)
    (epsilon : Float32) (frame : Context) :
    let v : Probe := { scene := b.scene, epsilon, frame }
    (∀ m ∈ b.scene.models, ∀ position,
      ((∃ e, v.distance m position = .error e) ↔ b.scene.shapes.HasSnippetBelow m.shape) ∧
        ∀ e, v.distance m position = .error e → e = .snippet) ∧
    (∀ m ∈ b.scene.models, ∀ position normal direction,
      ((∃ e, v.material m.id position normal direction = .error e) ↔ m.material.HasSnippet) ∧
        ∀ e, v.material m.id position normal direction = .error e → e = .snippet) ∧
    (∀ position, FailsOnlyIf b.scene.HasSnippet (v.closest position)) ∧
    (∀ object position, FailsOnlyIf b.scene.HasSnippet (v.normal object position)) ∧
    (∀ object position normal direction,
      FailsOnlyIf b.scene.HasSnippet (v.material object position normal direction)) ∧
    (∀ position direction, FailsOnlyIf b.scene.HasSnippet (v.air position direction)) ∧
    ∀ t : Tracer, t.scene = b.scene → ∀ uv frame previous,
      FailsOnlyIf b.scene.HasSnippet (t.tracePixel uv frame previous) := by
  intro v
  have hw := h.wellFormed
  have hv : v.scene = b.scene := rfl
  refine ⟨fun m hm p => ?_, fun m hm p n d => ?_, Probe.closest_failsOnlyIf hw hv,
    Probe.normal_failsOnlyIf hw hv, Probe.material_failsOnlyIf hw hv, Probe.air_failsOnlyIf hw hv,
    fun t ht => Tracer.tracePixel_failsOnlyIf hw ht⟩
  · have hsettles := Probe.distance_settles hw hv hm p
    exact ⟨hsettles.fails_iff, fun e => hsettles.eq_snippet⟩
  · have hsettles := Probe.material_settles hw hv hm p n d
    exact ⟨hsettles.fails_iff, fun e => hsettles.eq_snippet⟩

/-- A ball that a snippet moves. -/
def Builder.drift : Builder :=
  let b := ((Build.push .sphere).runOn (.empty 1)).2
  let b := ((Build.push (.translate (.raw "vec3(time)" [] .vec3) ⟨1, 1⟩)).runOn b).2
  ((Build.model ⟨1, 2⟩ {}).runOn b).2

/-- No point has a distance to the ball that a snippet moves, but its material is known there. -/
theorem answers_unless_snippet_drift :
    let m : Model := ⟨1, ⟨1, 2⟩, {}⟩
    let v : Probe := { scene := Builder.drift.scene, epsilon := 0.5 }
    Builder.drift.Reachable ∧ m ∈ Builder.drift.scene.models ∧
      ∀ position, (∃ e, v.distance m position = .error e) ∧
        ¬∃ e, v.material m.id position .zero .zero = .error e := by
  intro m v
  have hreachable : Builder.drift.Reachable := .model _ _ (.push _ (.push _ (.empty 1)))
  have hm : m ∈ Builder.drift.scene.models := List.mem_singleton.mpr rfl
  obtain ⟨hdistance, hmaterial, -⟩ := hreachable.answers_unless_snippet v.epsilon v.frame
  refine ⟨hreachable, hm, fun position => ⟨(hdistance m hm position).1.mpr ?_, ?_⟩⟩
  · exact ⟨⟨1, 2⟩, by decide, _, rfl, _, List.mem_singleton.mpr rfl, rfl⟩
  · rw [(hmaterial m hm position .zero .zero).1]
    simp [m, Material.HasSnippet, Material.fields, Expression.isOpaque, Expression.vector,
      Expression.scalar]

end ImplicitScene
