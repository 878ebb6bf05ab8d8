import ImplicitScene.Proofs.Acceptance
import ImplicitScene.Proofs.Soundness

/-!
# What shorthands accept

`Orbit` and `Spotlight` stand for a camera and a material whose fields are long
expressions.  The checks look at these expressions and not at the parts they were
made from.  Still they accept exactly the parts that fit: the angles of an orbit are
a vector of two, its target and the colour and direction of a light are vectors of
three, and whatever is read as a number has some type.

Types go through the expressions from the parts up and back again.  A typed
expression read as a number is one, and one without a type stays without.  So the
types of the parts decide the type of the whole.  Variables go through unchanged: the
direction of an orbit reads what its angles read, and the mouse.
-/

namespace ImplicitScene

namespace Expression

variable {e left right : Expression} {t : Ty}

/-! ## Types of compound expressions -/

theorem type_binary_iff {op : BinaryOp} : (binary op left right).type = .ok t ↔
    ∃ a b, left.type = .ok a ∧ right.type = .ok b ∧ Ty.broadcast? a b = some t := by
  refine ⟨type_binary_inv, ?_⟩
  rintro ⟨a, b, ha, hb, hab⟩
  refine bind_eq_ok_iff.mpr ⟨a, ha, bind_eq_ok_iff.mpr ⟨b, hb, ?_⟩⟩
  rw [hab]

theorem types_cons_iff {es : List Expression} {tys : List Ty} : types (e :: es) = .ok tys ↔
    ∃ t ts, tys = t :: ts ∧ e.type = .ok t ∧ types es = .ok ts := by
  refine ⟨types_cons_inv, ?_⟩
  rintro ⟨t, ts, rfl, ht, hts⟩
  exact bind_eq_ok_iff.mpr ⟨t, ht, bind_eq_ok_iff.mpr ⟨ts, hts, rfl⟩⟩

theorem type_call_iff {f : Builtin} {args : List Expression} : (call f args).type = .ok t ↔
    ∃ tys, types args = .ok tys ∧ f.resultType? tys = some t := by
  refine ⟨type_call_inv, ?_⟩
  rintro ⟨tys, htys, hf⟩
  refine bind_eq_ok_iff.mpr ⟨tys, htys, ?_⟩
  rw [Builtin.resultType, hf]

theorem type_construct_iff {ty : Ty} {args : List Expression} :
    (construct ty args).type = .ok t ↔
      t = ty ∧ ∃ tys, types args = .ok tys ∧ (Ty.total tys = ty.components ∨ tys = [.float]) := by
  refine ⟨type_construct_inv, ?_⟩
  rintro ⟨rfl, tys, htys, hfits⟩
  exact bind_eq_ok_iff.mpr ⟨tys, htys, if_pos hfits⟩

theorem type_normalize_iff : e.normalize.type = .ok t ↔ e.type = .ok t := by
  constructor
  · intro h
    obtain ⟨tys, htys, hresult⟩ := type_call_inv h
    obtain ⟨s, ts, rfl, hs, hts⟩ := types_cons_inv htys
    cases hts
    cases hresult
    exact hs
  · intro h
    exact type_call_iff.mpr ⟨[t], types_cons_iff.mpr ⟨t, [], rfl, h, rfl⟩, rfl⟩

theorem type_dot_iff :
    (dot left right).type = .ok t ↔ (∃ s, left.type = .ok s ∧ right.type = .ok s) ∧ t = .float := by
  constructor
  · intro h
    obtain ⟨tys, htys, hresult⟩ := type_call_inv h
    obtain ⟨a, ts, rfl, ha, hts⟩ := types_cons_inv htys
    obtain ⟨b, ts, rfl, hb, hts⟩ := types_cons_inv hts
    cases hts
    obtain ⟨rfl, rfl⟩ : a = b ∧ Ty.float = t := by simpa [Builtin.resultType?] using hresult
    exact ⟨⟨a, ha, hb⟩, rfl⟩
  · rintro ⟨⟨s, hleft, hright⟩, rfl⟩
    refine type_call_iff.mpr ⟨[s, s], types_cons_iff.mpr ⟨s, [s], rfl, hleft, ?_⟩, ?_⟩
    · exact types_cons_iff.mpr ⟨s, [], rfl, hright, rfl⟩
    · simp [Builtin.resultType?]

/-- A smooth step between two bounds, one of which is a number. -/
theorem type_smoothstep_iff (hright : right.type = .ok .float) :
    (e.smoothstep left right).type = .ok t ↔ left.type = .ok .float ∧ e.type = .ok t := by
  constructor
  · intro h
    obtain ⟨tys, htys, hresult⟩ := type_call_inv h
    obtain ⟨a, ts, rfl, ha, hts⟩ := types_cons_inv htys
    obtain ⟨b, ts, rfl, hb, hts⟩ := types_cons_inv hts
    obtain ⟨s, ts, rfl, hs, hts⟩ := types_cons_inv hts
    cases hts
    cases hb.symm.trans hright
    obtain ⟨⟨rfl, -⟩, rfl⟩ : (a = .float ∧ (a = s ∨ a = .float)) ∧ s = t := by
      simpa [Builtin.resultType?] using hresult
    exact ⟨ha, hs⟩
  · rintro ⟨hleft, he⟩
    refine type_call_iff.mpr
      ⟨[.float, .float, t], types_cons_iff.mpr ⟨.float, [.float, t], rfl, hleft, ?_⟩, ?_⟩
    · exact types_cons_iff.mpr
        ⟨.float, [t], rfl, hright, types_cons_iff.mpr ⟨t, [], rfl, he, rfl⟩⟩
    · simp [Builtin.resultType?]

/-- A function of one number. -/
theorem type_call_number {f : Builtin} (hf : f.resultType? [.float] = some .float)
    (he : e.type = .ok .float) : (call f [e]).type = .ok .float :=
  type_call_iff.mpr ⟨[.float], types_cons_iff.mpr ⟨.float, [], rfl, he, rfl⟩, hf⟩

/-- An operation on two numbers. -/
theorem type_binary_number (op : BinaryOp) (hleft : left.type = .ok .float)
    (hright : right.type = .ok .float) : (binary op left right).type = .ok .float :=
  type_binary_iff.mpr ⟨.float, .float, hleft, hright, rfl⟩

/-- An expression read as a number reads what it reads as a vector. -/
theorem reads_asScalar (e : Expression) (v : Variable) : e.asScalar.reads v = e.reads v := by
  unfold asScalar
  split
  · rfl
  · rfl

end Expression

open Expression

/-! ## Cameras that circle a target -/

/-- An orbit whose parts fit. -/
structure Orbit.Legal (o : Orbit) : Prop where
  offset : o.offset.type = .ok .vec2
  target : o.target.type = .ok .vec3
  fieldOfView : ∃ t, o.fieldOfView.type = .ok t
  radius : ∃ t, o.radius.type = .ok t
  aperture : ∃ t, o.aperture.type = .ok t
  /-- None reads what a camera does not have. -/
  unread : ∀ e ∈ [o.fieldOfView, o.radius, o.aperture, o.target, o.offset],
    ∀ v ∈ [Variable.position, .normal, .direction, .cell], e.reads v = false

namespace Orbit

variable {o : Orbit}

/-- Where the camera of an orbit is. -/
def eye (o : Orbit) : Expression := o.target + o.radius.asScalar * o.direction

/-- The camera of an orbit, whether it fits its slots or not. -/
def view (o : Orbit) : Camera :=
  { eye := o.eye, target := o.target
    fieldOfView := o.fieldOfView, aperture := o.aperture }

theorem type_direction (h : o.offset.type = .ok .vec2) : o.direction.type = .ok .vec3 := by
  have hsum : (o.offset + var .mouse).type = .ok .vec2 :=
    type_binary_iff.mpr ⟨.vec2, .vec2, h, rfl, rfl⟩
  have hangles : ((o.offset + var .mouse) * scalar circleRatio).type = .ok .vec2 :=
    type_binary_iff.mpr ⟨.vec2, .float, hsum, rfl, rfl⟩
  have htheta := type_component "x" 0 hangles (by decide)
  have hphi := type_component "y" 1 hangles (by decide)
  have hcos : ∀ {e : Expression}, e.type = .ok .float → e.cos.type = .ok .float :=
    type_call_number rfl
  have hsin : ∀ {e : Expression}, e.type = .ok .float → e.sin.type = .ok .float :=
    type_call_number rfl
  have hfirst := type_binary_number .mul (hsin hphi) (hcos htheta)
  have hthird := type_binary_number .mul (hsin hphi) (hsin htheta)
  refine type_construct_iff.mpr ⟨rfl, [.float, .float, .float], ?_, Or.inl rfl⟩
  exact types_cons_iff.mpr ⟨_, _, rfl, hfirst, types_cons_iff.mpr
    ⟨_, _, rfl, hcos hphi, types_cons_iff.mpr ⟨_, _, rfl, hthird, rfl⟩⟩⟩

/-- The eye has the type of a point exactly if the radius has some type. -/
theorem type_eye_iff (hoffset : o.offset.type = .ok .vec2) (htarget : o.target.type = .ok .vec3) :
    o.eye.type = .ok .vec3 ↔ ∃ t, o.radius.type = .ok t := by
  have hdirection := type_direction hoffset
  constructor
  · intro heye
    obtain ⟨-, b, -, hb, -⟩ := type_binary_inv heye
    obtain ⟨r, -, hr, -, -⟩ := type_binary_inv hb
    exact (type_asScalar_iff.mp hr).1
  · intro hradius
    have hscalar : o.radius.asScalar.type = .ok .float := type_asScalar_iff.mpr ⟨hradius, rfl⟩
    have hproduct : (o.radius.asScalar * o.direction).type = .ok .vec3 :=
      type_binary_iff.mpr ⟨.float, .vec3, hscalar, hdirection, rfl⟩
    exact type_binary_iff.mpr ⟨.vec3, .vec3, htarget, hproduct, rfl⟩

/-- The direction reads what the angles read, and the mouse. -/
theorem reads_direction (o : Orbit) (v : Variable) :
    o.direction.reads v = true ↔ o.offset.reads v = true ∨ v = .mouse := by
  have hdirection : o.direction.reads v =
      ((o.offset + var .mouse) * scalar circleRatio).reads v := by
    simp [direction, reads, anyReads, Expression.sin, Expression.cos, Expression.x, Expression.y]
  have hangles : ((o.offset + var .mouse) * scalar circleRatio).reads v =
      (o.offset.reads v || (var .mouse).reads v || false) := rfl
  rw [hdirection, hangles, Bool.or_false, Bool.or_eq_true, reads, decide_eq_true_iff]
  exact or_congr_right eq_comm

/-- The eye reads what the parts read that it is made from, and the mouse. -/
theorem reads_eye (o : Orbit) (v : Variable) : o.eye.reads v = true ↔
    o.target.reads v = true ∨ o.radius.reads v = true ∨ o.offset.reads v = true ∨ v = .mouse := by
  have heye : o.eye.reads v =
      (o.target.reads v || (o.radius.asScalar.reads v || o.direction.reads v)) := rfl
  rw [heye, Bool.or_eq_true, Bool.or_eq_true, reads_asScalar, reads_direction]

/-- An orbit gives a camera exactly if the angles and that camera fit. -/
theorem camera_eq_ok_iff (o : Orbit) :
    (∃ c, o.camera = .ok c) ↔ o.offset.type = .ok .vec2 ∧ o.view.Legal := by
  have hoffset : Slot.checkType ⟨"orbit.offset", some .vec2, o.offset⟩ = .ok () ↔
      o.offset.type = .ok .vec2 := Slot.checkType_eq_ok
  rw [← hoffset, ← Camera.validate_iff_legal]
  constructor
  · rintro ⟨c, hc⟩
    obtain ⟨⟨⟩, htype, hc⟩ := ok_of_bind_eq_ok hc
    obtain ⟨⟨⟩, hvalid, -⟩ := ok_of_bind_eq_ok hc
    exact ⟨htype, hvalid⟩
  · rintro ⟨htype, hvalid⟩
    exact ⟨o.view, bind_eq_ok_iff.mpr ⟨(), htype, bind_eq_ok_iff.mpr ⟨(), hvalid, rfl⟩⟩⟩

/-- The camera of an orbit does not read a variable exactly if no part does, the mouse aside. -/
theorem unread_view_iff (o : Orbit) {v : Variable} (hv : v ≠ .mouse) :
    (∀ e ∈ [o.view.eye, o.view.target, o.view.up, o.view.fieldOfView, o.view.aperture],
      e.reads v = false) ↔
    ∀ e ∈ [o.fieldOfView, o.radius, o.aperture, o.target, o.offset], e.reads v = false := by
  have heye : o.eye.reads v = false ↔
      o.target.reads v = false ∧ o.radius.reads v = false ∧ o.offset.reads v = false := by
    rw [← Bool.not_eq_true, reads_eye]
    simp [hv]
  have hup : o.view.up.reads v = false := rfl
  simp only [List.forall_mem_cons, List.not_mem_nil, false_implies, implies_true, and_true]
  constructor
  · rintro ⟨he, htarget, -, hfieldOfView, haperture⟩
    obtain ⟨-, hradius, hoffset⟩ := heye.mp he
    exact ⟨hfieldOfView, hradius, haperture, htarget, hoffset⟩
  · rintro ⟨hfieldOfView, hradius, haperture, htarget, hoffset⟩
    exact ⟨heye.mpr ⟨htarget, hradius, hoffset⟩, htarget, hup, hfieldOfView, haperture⟩

theorem legal_iff (o : Orbit) : (∃ c, o.camera = .ok c) ↔ o.Legal := by
  have hunread : ∀ v ∈ [Variable.position, .normal, .direction, .cell],
      (∀ e ∈ [o.view.eye, o.view.target, o.view.up, o.view.fieldOfView, o.view.aperture],
        e.reads v = false) ↔
      ∀ e ∈ [o.fieldOfView, o.radius, o.aperture, o.target, o.offset], e.reads v = false :=
    fun v hv => o.unread_view_iff (by rintro rfl; simp at hv)
  rw [camera_eq_ok_iff]
  constructor
  · rintro ⟨hoffset, heye, htarget, -, hfieldOfView, haperture, hreads⟩
    exact ⟨hoffset, htarget, hfieldOfView, (type_eye_iff hoffset htarget).mp heye, haperture,
      fun e he v hv => (hunread v hv).mp (fun e he => hreads e he v hv) e he⟩
  · rintro ⟨hoffset, htarget, hfieldOfView, hradius, haperture, hreads⟩
    exact ⟨hoffset, (type_eye_iff hoffset htarget).mpr hradius, htarget, rfl, hfieldOfView,
      haperture, fun e he v hv => (hunread v hv).mpr (fun e he => hreads e he v hv) e he⟩

end Orbit

/-! ## Lights from one direction -/

/-- A light whose parts fit. -/
structure Spotlight.Legal (s : Spotlight) : Prop where
  color : s.color.type = .ok .vec3
  direction : s.direction.type = .ok .vec3
  spread : ∃ t, s.spread.type = .ok t
  ambient : ∃ t, s.ambient.type = .ok t

namespace Spotlight

variable {s : Spotlight}

/-- How much a direction faces the light. -/
def facing (s : Spotlight) : Expression := Expression.dot (.var .direction) s.direction.normalize

/-- The light that comes from the direction. -/
def lobe (s : Spotlight) : Expression :=
  s.facing.smoothstep (.scalar 1.0 - s.spread.asScalar) (.scalar 1.0)

theorem emissivity_eq (s : Spotlight) :
    s.material.emissivity = s.color * (s.ambient.asScalar + s.lobe) := rfl

/-- The ray has three components, so the direction must have three. -/
theorem type_facing_iff {t : Ty} :
    s.facing.type = .ok t ↔ s.direction.type = .ok .vec3 ∧ t = .float := by
  rw [facing, type_dot_iff]
  simp only [type_normalize_iff]
  refine and_congr_left fun _ => ⟨?_, fun h => ⟨.vec3, rfl, h⟩⟩
  rintro ⟨u, hu, hdirection⟩
  cases hu
  exact hdirection

theorem type_lobe_iff {t : Ty} : s.lobe.type = .ok t ↔
    (∃ u, s.spread.type = .ok u) ∧ s.direction.type = .ok .vec3 ∧ t = .float := by
  have hbound : (scalar 1.0 - s.spread.asScalar).type = .ok .float ↔
      ∃ u, s.spread.type = .ok u := by
    constructor
    · intro h
      obtain ⟨-, b, -, hb, -⟩ := type_binary_inv h
      exact (type_asScalar_iff.mp hb).1
    · intro h
      exact type_binary_number .sub rfl (type_asScalar_iff.mpr ⟨h, rfl⟩)
  rw [lobe, type_smoothstep_iff rfl, type_facing_iff, hbound]

/-- The light that is emitted is a colour exactly if all parts fit. -/
theorem type_emissivity_iff : s.material.emissivity.type = .ok .vec3 ↔ s.Legal := by
  rw [emissivity_eq]
  constructor
  · intro h
    obtain ⟨a, b, hcolor, hsum, hab⟩ := type_binary_inv h
    obtain ⟨u, v, hu, hlobe, huv⟩ := type_binary_inv hsum
    obtain ⟨hambient, rfl⟩ := type_asScalar_iff.mp hu
    obtain ⟨hspread, hdirection, rfl⟩ := type_lobe_iff.mp hlobe
    cases huv
    -- A product with a number has the type of the other factor.
    have ha : a = .vec3 := by cases a <;> simp_all [Ty.broadcast?]
    exact ⟨ha ▸ hcolor, hdirection, hspread, hambient⟩
  · rintro ⟨hcolor, hdirection, hspread, hambient⟩
    have hlobe := type_lobe_iff.mpr ⟨hspread, hdirection, rfl⟩
    have hsum := type_binary_number .add (type_asScalar_iff.mpr ⟨hambient, rfl⟩) hlobe
    exact type_binary_iff.mpr ⟨.vec3, .float, hcolor, hsum, rfl⟩

theorem legal_iff (s : Spotlight) : s.material.validate = .ok () ↔ s.Legal := by
  rw [Material.validate_iff_legal, ← type_emissivity_iff]
  constructor
  · exact fun h => h.emissivity
  · exact fun h => ⟨rfl, h, ⟨.float, rfl⟩, ⟨.float, rfl⟩, ⟨.float, rfl⟩, ⟨.float, rfl⟩⟩

end Spotlight

/-- The shorthands are accepted exactly if their parts fit: the camera of an orbit if the angles are
a vector of two, the target is a vector of three, the others have some type and none reads what a
camera does not have, and the material of a light if its colour and direction are vectors of three
and the others have some type. -/
theorem shorthands_accepted :
    (∀ o : Orbit, (∃ c, o.camera = .ok c) ↔ o.Legal) ∧
      ∀ s : Spotlight, s.material.validate = .ok () ↔ s.Legal :=
  ⟨Orbit.legal_iff, Spotlight.legal_iff⟩

end ImplicitScene
