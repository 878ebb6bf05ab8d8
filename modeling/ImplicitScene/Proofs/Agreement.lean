import ImplicitScene.Proofs.Probing
import ImplicitScene.Proofs.ShapeText

/-!
# Scenes that agree

Two scenes agree when their models, in order, have the same numbers, distances
and materials, and when camera and air have the same values.  Their shapes may be
stored and written in different ways.

Scenes that agree give the same answers to a probe, so every pixel of them is
traced alike.
-/

namespace ImplicitScene

/-- Models of two scenes that have the same number, the same distance and the same material. -/
structure Model.Agree (scene scene' : Scene) (m m' : Model) : Prop where
  /-- The numbers are the same. -/
  id : m.id = m'.id
  /-- The distances are the same everywhere. -/
  distance : ∀ ctx point cell, scene.shapes.distance ctx m.shape point cell =
    scene'.shapes.distance ctx m'.shape point cell
  /-- The materials are the same everywhere. -/
  material : ∀ ctx, m.material.sample ctx = m'.material.sample ctx

/-- Cameras whose fields have the same values. -/
structure Camera.Agree (c c' : Camera) : Prop where
  /-- The eyes are the same. -/
  eye : SameVector c.eye c'.eye
  /-- The targets are the same. -/
  target : SameVector c.target c'.target
  /-- The same way is up. -/
  up : SameVector c.up c'.up
  /-- The fields of view are the same. -/
  fieldOfView : SameScalar c.fieldOfView c'.fieldOfView
  /-- The lenses are the same. -/
  aperture : SameScalar c.aperture c'.aperture

/-- Scenes whose models, cameras and airs agree. -/
structure Scene.Agree (scene scene' : Scene) : Prop where
  /-- The models agree in order. -/
  models : List.Forall₂ (Model.Agree scene scene') scene.models scene'.models
  /-- The cameras agree. -/
  camera : Camera.Agree scene.camera scene'.camera
  /-- The airs are the same everywhere. -/
  air : ∀ ctx, scene.air.sample ctx = scene'.air.sample ctx

/-! ## Probes -/

/-- Probes that give the same answers. -/
structure Probe.Agree (v w : Probe) : Prop where
  /-- The steps are the same. -/
  epsilon : v.epsilon = w.epsilon
  /-- The frames are the same. -/
  frame : v.frame = w.frame
  /-- The same model is closest. -/
  closest : ∀ position, v.closest position = w.closest position
  /-- The normals are the same. -/
  normal : ∀ object position, v.normal object position = w.normal object position
  /-- The materials are the same. -/
  material : ∀ object position normal direction,
    v.material object position normal direction = w.material object position normal direction
  /-- The airs are the same. -/
  air : ∀ position direction, v.air position direction = w.air position direction

namespace Scene.Agree

variable {scene scene' : Scene} (h : scene.Agree scene') (epsilon : Float32) (frame : Context)

include h

/-- A number denotes a model in both scenes or in neither. -/
theorem model? (object : Nat) :
    Option.Rel (Model.Agree scene scene') (scene.model? object) (scene'.model? object) := by
  have hmodels := h.models
  unfold Scene.model?
  generalize scene.models = ms at hmodels
  generalize scene'.models = ms' at hmodels
  induction hmodels with
  | nil => exact .none
  | cons hm _ ih =>
      rw [List.find?_cons, List.find?_cons, hm.id]
      split
      · exact .some hm
      · exact ih

theorem closest_eq (position : Float3) :
    (Probe.mk scene epsilon frame).closest position =
      (Probe.mk scene' epsilon frame).closest position := by
  have hmodels := h.models
  unfold Probe.closest
  dsimp only
  generalize scene.models = ms at hmodels
  generalize scene'.models = ms' at hmodels
  generalize (⟨0, farAway⟩ : Closest) = best
  induction hmodels generalizing best with
  | nil => rfl
  | cons hm _ ih =>
      simp only [Probe.closestOf_cons, Probe.distance, Probe.keepCloser, hm.distance, hm.id, ih]

theorem normal_eq (object : Nat) (position : Float3) :
    (Probe.mk scene epsilon frame).normal object position =
      (Probe.mk scene' epsilon frame).normal object position := by
  have hmodel := h.model? object
  unfold Probe.normal
  dsimp only
  generalize scene.model? object = found at hmodel
  generalize scene'.model? object = found' at hmodel
  cases hmodel with
  | none => rfl
  | some hm => simp only [Probe.slope, Probe.distance, hm.distance]

theorem material_eq (object : Nat) (position normal direction : Float3) :
    (Probe.mk scene epsilon frame).material object position normal direction =
      (Probe.mk scene' epsilon frame).material object position normal direction := by
  have hmodel := h.model? object
  unfold Probe.material
  dsimp only
  generalize scene.model? object = found at hmodel
  generalize scene'.model? object = found' at hmodel
  cases hmodel with
  | none => rfl
  | some hm => exact hm.material _

theorem probe : (Probe.mk scene epsilon frame).Agree (Probe.mk scene' epsilon frame) where
  epsilon := rfl
  frame := rfl
  closest := h.closest_eq epsilon frame
  normal := h.normal_eq epsilon frame
  material := h.material_eq epsilon frame
  air _ _ := h.air _

end Scene.Agree

/-! ## Paths of light -/

namespace Probe.Agree

variable {v w : Probe} (h : v.Agree w)

include h

theorem marchFrom_eq (r : Ray) (steps : Nat) (m : March) :
    r.marchFrom v steps m = r.marchFrom w steps m := by
  induction steps generalizing m with
  | zero => rfl
  | succ steps ih => simp only [Ray.marchFrom_succ, h.closest, h.epsilon, ih]

theorem bounce_eq (steps : Nat) (air : MaterialSample) (noise : Float2) (path : Tracer.Path) :
    Tracer.bounce v steps air noise path = Tracer.bounce w steps air noise path := by
  simp only [Tracer.bounce, Ray.march, h.marchFrom_eq, h.normal, h.material, h.epsilon]

variable {t t' : Tracer} (ht : t.options = t'.options)

include ht

theorem follow_eq (air : MaterialSample) (iteration : UInt32) (left number : Nat)
    (path : Tracer.Path) :
    t.follow v air iteration left number path = t'.follow w air iteration left number path := by
  induction left generalizing number path with
  | zero => rfl
  | succ left ih => simp only [Tracer.follow, h.frame, ht, h.bounce_eq, ih]

theorem samples_eq (c : Tracer.View) (left number : Nat) (gathered : Float4) :
    t.samples v c left number gathered = t'.samples w c left number gathered := by
  induction left generalizing number gathered with
  | zero => rfl
  | succ left ih =>
      simp only [Tracer.samples, Tracer.sample, Tracer.resolution, h.frame, ht, h.air,
        h.follow_eq ht, ih]

end Probe.Agree

/-! ## Pixels -/

theorem Camera.Agree.view_eq {t t' : Tracer} (h : t.scene.camera.Agree t'.scene.camera)
    (ctx : Context) : t.view ctx = t'.view ctx := by
  simp only [Tracer.view, h.eye ctx, h.target ctx, h.up ctx, h.fieldOfView ctx, h.aperture ctx]

/-- Scenes that agree are traced alike. -/
theorem Scene.Agree.tracePixel_eq {scene scene' : Scene} (h : scene.Agree scene') {o : Options}
    (ho : o.validate = .ok ()) (uv : Float2) (frame : Frame) (previous : Float4) :
    (Tracer.mk scene o ho).tracePixel uv frame previous =
      (Tracer.mk scene' o ho).tracePixel uv frame previous := by
  have hview := @Camera.Agree.view_eq ⟨scene, o, ho⟩ ⟨scene', o, ho⟩ h.camera
  have hsamples := fun ctx => @Probe.Agree.samples_eq _ _ (h.probe o.epsilon ctx)
    ⟨scene, o, ho⟩ ⟨scene', o, ho⟩ rfl
  simp only [Tracer.tracePixel, Tracer.radiance, hview, hsamples]

end ImplicitScene
