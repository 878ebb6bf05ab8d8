import Mathlib.Data.List.Forall2
import ImplicitScene.Image.Basic
import ImplicitScene.Proofs.Probing

/-!
# Pixels are independent

Frames are rendered one after the other, and each of them goes over all pixels.
The result is the same as if every pixel went through all frames alone.

The buffer of a frame is *filled* by what every place of it is to hold.  Two facts
about filling carry the exchange of the two loops.  One frame fills a buffer with
what it traces at each place.  And to fill a buffer by two steps in sequence is to
fill a first buffer by the first steps and, from what it holds, a second one by the
second steps.

A buffer that is empty counts as one full of zeros, so the first frame is like the
others.  Without any frame nothing is rendered, and the buffer stays empty.
-/

namespace ImplicitScene

/-- A list is mapped with success exactly if every element is. -/
theorem mapM_eq_ok_iff {ε α β : Type} {f : α → Except ε β} {xs : List α} {ys : List β} :
    xs.mapM f = .ok ys ↔ List.Forall₂ (fun x y => f x = .ok y) xs ys := by
  induction xs generalizing ys with
  | nil =>
      rw [List.mapM_nil, List.forall₂_nil_left_iff]
      exact ⟨fun h => (Except.ok.inj h).symm, fun h => h ▸ rfl⟩
  | cons x xs ih =>
      rw [List.mapM_cons, bind_eq_ok_iff, List.forall₂_cons_left_iff]
      simp only [bind_eq_ok_iff, ih]
      constructor
      · rintro ⟨y, hy, tail, htail, heq⟩
        exact ⟨y, tail, hy, htail, (Except.ok.inj heq).symm⟩
      · rintro ⟨y, tail, hy, htail, rfl⟩
        exact ⟨y, hy, tail, htail, rfl⟩

namespace Tracer

variable {t : Tracer}

/-! ## Places -/

/-- The place of a pixel in a buffer, row by row from the top. -/
def place (t : Tracer) (x y : UInt32) : Nat := y.toNat * t.options.width.toNat + x.toNat

theorem place_lt {x y : UInt32} (hx : x < t.options.width) (hy : y < t.options.height) :
    t.place x y < t.pixelCount := by
  rw [UInt32.lt_iff_toNat_lt] at hx hy
  calc
    t.place x y < y.toNat * t.options.width.toNat + t.options.width.toNat := by
      unfold place
      omega
    _ = (y.toNat + 1) * t.options.width.toNat := (Nat.succ_mul _ _).symm
    _ ≤ t.options.height.toNat * t.options.width.toNat := Nat.mul_le_mul_right _ hy
    _ = t.pixelCount := Nat.mul_comm _ _

/-- The place of a pixel tells its coordinates. -/
theorem placeUv_place {x : UInt32} (hx : x < t.options.width) (y : UInt32) :
    t.placeUv (t.place x y) = t.pixelUv x y := by
  rw [UInt32.lt_iff_toNat_lt] at hx
  have hmod : t.place x y % t.options.width.toNat = x.toNat := by
    rw [place, Nat.mul_add_mod_self_right, Nat.mod_eq_of_lt hx]
  have hdiv : t.place x y / t.options.width.toNat = y.toNat := by
    rw [place, Nat.mul_comm, Nat.mul_add_div (Nat.zero_lt_of_lt hx), Nat.div_eq_of_lt hx,
      Nat.add_zero]
  rw [placeUv, hmod, hdiv]
  simp

/-- Every place is that of a pixel. -/
theorem exists_eq_place {i : Nat} (h : i < t.pixelCount) :
    ∃ x y, x < t.options.width ∧ y < t.options.height ∧ i = t.place x y := by
  have hwidth : 0 < t.options.width.toNat :=
    Nat.pos_of_mul_pos_right (Nat.zero_lt_of_lt h)
  have hcolumn : i % t.options.width.toNat < t.options.width.toNat := Nat.mod_lt i hwidth
  have hrow : i / t.options.width.toNat < t.options.height.toNat := Nat.div_lt_of_lt_mul h
  -- both coordinates are below numbers of 32 bits
  have hx : (i % t.options.width.toNat).toUInt32.toNat = i % t.options.width.toNat :=
    UInt32.toNat_ofNat_of_lt' (Nat.lt_trans hcolumn t.options.width.toNat_lt)
  have hy : (i / t.options.width.toNat).toUInt32.toNat = i / t.options.width.toNat :=
    UInt32.toNat_ofNat_of_lt' (Nat.lt_trans hrow t.options.height.toNat_lt)
  refine ⟨(i % t.options.width.toNat).toUInt32, (i / t.options.width.toNat).toUInt32, ?_, ?_, ?_⟩
  · rw [UInt32.lt_iff_toNat_lt, hx]
    exact hcolumn
  · rw [UInt32.lt_iff_toNat_lt, hy]
    exact hrow
  · rw [place, hx, hy, Nat.mul_comm, Nat.div_add_mod]

/-! ## Buffers -/

/-- The buffer has a value for every pixel, and it is the one that `value` gives for the place. -/
structure Fills (t : Tracer) (value : Nat → Except EvalError Float4) (pixels : Array Float4) :
    Prop where
  /-- There is a value for every pixel. -/
  size : pixels.size = t.pixelCount
  /-- The value is the given one. -/
  eq_ok : ∀ i < t.pixelCount, value i = .ok (pixels.getD i .zero)

namespace Fills

variable {value : Nat → Except EvalError Float4} {pixels : Array Float4}

theorem getElem? (h : t.Fills value pixels) {i : Nat} (hi : i < t.pixelCount) :
    ∃ v, value i = .ok v ∧ pixels[i]? = some v := by
  have hlt : i < pixels.size := h.size ▸ hi
  refine ⟨pixels.getD i .zero, h.eq_ok i hi, ?_⟩
  rw [Array.getElem?_eq_getElem hlt, Array.getElem_eq_getD]

/-- A buffer can be filled exactly if there is a value for every place. -/
theorem exists_iff :
    (∃ pixels, t.Fills value pixels) ↔ ∀ i < t.pixelCount, ∃ v, value i = .ok v := by
  constructor
  · rintro ⟨pixels, h⟩ i hi
    exact ⟨_, h.eq_ok i hi⟩
  · intro h
    choose v hv using h
    refine ⟨Array.ofFn fun i : Fin t.pixelCount => v i i.isLt, Array.size_ofFn, fun i hi => ?_⟩
    rw [hv i hi, Array.getD_eq_getD_getElem?, Array.getElem?_ofFn, dif_pos hi, Option.getD_some]

/-- A full buffer is filled by what it holds, and no other is. -/
theorem ok_iff {before : Array Float4} (hsize : before.size = t.pixelCount) :
    t.Fills (fun i => .ok (before.getD i .zero)) pixels ↔ before = pixels := by
  constructor
  · intro h
    refine Array.ext (hsize.trans h.size.symm) fun i hi hi' => ?_
    rw [Array.getElem_eq_getD Vec4.zero, Array.getElem_eq_getD Vec4.zero]
    exact Except.ok.inj (h.eq_ok i (hsize ▸ hi))
  · rintro rfl
    exact ⟨hsize, fun _ _ => rfl⟩

/-- To fill a buffer by two steps in sequence is to fill two buffers in sequence. -/
theorem bind_iff {next : Nat → Float4 → Except EvalError Float4} :
    t.Fills (fun i => value i >>= next i) pixels ↔
      ∃ first, t.Fills value first ∧ t.Fills (fun i => next i (first.getD i .zero)) pixels := by
  constructor
  · intro h
    have hfirst : ∀ i < t.pixelCount, ∃ v, value i = .ok v := by
      intro i hi
      obtain ⟨v, hv, -⟩ := ok_of_bind_eq_ok (h.eq_ok i hi)
      exact ⟨v, hv⟩
    obtain ⟨first, hfills⟩ := exists_iff.mpr hfirst
    refine ⟨first, hfills, h.size, fun i hi => ?_⟩
    have hboth := h.eq_ok i hi
    rw [hfills.eq_ok i hi] at hboth
    exact hboth
  · rintro ⟨first, hfills, h⟩
    refine ⟨h.size, fun i hi => ?_⟩
    show (value i >>= next i) = _
    rw [hfills.eq_ok i hi]
    exact h.eq_ok i hi

end Fills

/-! ## Frames -/

/-- One frame fills a buffer with what it traces at each place. -/
theorem renderFrame_eq_ok {previous pixels : Array Float4} (hsize : previous.size = t.pixelCount)
    (frame : Frame) :
    t.renderFrame frame previous = .ok pixels ↔
      t.Fills (fun i => t.tracePixel (t.placeUv i) frame (previous.getD i .zero)) pixels := by
  simp only [renderFrame, if_pos hsize, bind_eq_ok_iff, mapM_eq_ok_iff, List.forall₂_iff_get,
    List.length_range, List.get_eq_getElem, List.getElem_range]
  constructor
  · rintro ⟨values, ⟨hlength, hvalues⟩, heq⟩
    obtain rfl := Except.ok.inj heq
    refine ⟨hlength.symm, fun i hi => ?_⟩
    have hlt : i < values.length := hlength ▸ hi
    rw [hvalues i hi hlt, ← List.getElem_toArray hlt, Array.getElem_eq_getD]
  · intro h
    refine ⟨pixels.toList, ⟨by rw [Array.length_toList, h.size], fun i hi hlt => ?_⟩, rfl⟩
    rw [h.eq_ok i hi, Array.getElem_toList, Array.getElem_eq_getD]

theorem getD_zeros (i : Nat) : (Array.replicate t.pixelCount Vec4.zero).getD i .zero = .zero := by
  rw [Array.getD_eq_getD_getElem?, Array.getElem?_replicate]
  split <;> rfl

/-- A buffer that is empty counts as one full of zeros. -/
theorem renderFrame_empty (frame : Frame) :
    t.renderFrame frame #[] = t.renderFrame frame (Array.replicate t.pixelCount .zero) := by
  have hempty : ∀ i, (#[] : Array Float4).getD i .zero = .zero := fun _ => rfl
  simp only [renderFrame, getD_zeros, hempty, ite_self]

/-- A pixel after frames, one after the other. -/
def traceFrames (t : Tracer) (uv : Float2) (frames : List Nat) (gathered : Float4) :
    Except EvalError Float4 :=
  frames.foldlM (fun gathered k => t.tracePixel uv (.tick k.toUInt32) gathered) gathered

/-- Frames over all pixels fill a buffer with what each pixel gathers in these frames alone. -/
theorem renderFrom_eq_ok {left number : Nat} {before pixels : Array Float4}
    (hsize : before.size = t.pixelCount) :
    t.renderFrom left number before = .ok pixels ↔
      t.Fills (fun i =>
        t.traceFrames (t.placeUv i) (List.range' number left) (before.getD i .zero)) pixels := by
  induction left generalizing number before with
  | zero =>
      rw [renderFrom]
      exact ⟨fun h => (Fills.ok_iff hsize).mpr (Except.ok.inj h),
        fun h => congrArg Except.ok ((Fills.ok_iff hsize).mp h)⟩
  | succ left ih =>
      simp only [renderFrom, bind_eq_ok_iff, renderFrame_eq_ok hsize, List.range'_succ, traceFrames,
        List.foldlM_cons]
      rw [Fills.bind_iff]
      refine exists_congr fun first => and_congr_right fun hfirst => ?_
      exact ih hfirst.size

/-- A pixel after the first frames, from nothing. -/
def pixelAfter (t : Tracer) (x y : UInt32) (frames : UInt32) : Except EvalError Float4 :=
  t.traceFrames (t.pixelUv x y) (List.range frames.toNat) .zero

/-- All frames fill a buffer with what each pixel gathers from nothing. -/
theorem render_eq_ok {n : UInt32} (hn : 0 < n) {pixels : Array Float4} :
    t.render n = .ok pixels ↔
      t.Fills (fun i => t.traceFrames (t.placeUv i) (List.range n.toNat) .zero) pixels := by
  have hstart : t.render n = t.renderFrom n.toNat 0 (Array.replicate t.pixelCount .zero) := by
    obtain ⟨left, hleft⟩ := Nat.exists_eq_add_one.mpr (UInt32.lt_iff_toNat_lt.mp hn)
    rw [render, hleft, renderFrom, renderFrom, renderFrame_empty]
  rw [hstart, renderFrom_eq_ok Array.size_replicate, List.range_eq_range']
  simp only [getD_zeros]

end Tracer

/-! ## Pictures -/

namespace Image

/-- A pixel of a picture shows what was gathered at its place, and nothing else. -/
theorem getElem?_present {gathered : Array Float4} {width height i : Nat} {v : Float4}
    (hi : i < width * height) (hv : gathered[i]? = some v) (gamma : Float32) :
    (present gathered width height gamma).pixels[i]? = some (.ofGathered gamma v) := by
  rw [present, List.getElem?_map, List.getElem?_range hi, Option.map_some,
    Array.getD_eq_getD_getElem?, hv, Option.getD_some]

/-- The bytes of a pixel stand at three times its place. -/
theorem bytes_of_getElem? {image : Image} {i : Nat} {p : Pixel} (h : image.pixels[i]? = some p) :
    (image.bytes.drop (3 * i)).take 3 = [p.red, p.green, p.blue] := by
  obtain ⟨width, height, pixels⟩ := image
  show ((pixels.flatMap fun p => [p.red, p.green, p.blue]).drop (3 * i)).take 3 = _
  induction pixels generalizing i with
  | nil => cases h
  | cons q pixels ih =>
      rw [List.flatMap_cons]
      cases i with
      | zero =>
          cases h
          rfl
      | succ i => exact ih h

end Image

/-! ## Frame by frame and pixel by pixel -/

/-- To render frames is to trace every pixel through these frames alone.  The one succeeds exactly
if the other does for every pixel.  The buffer then holds what each pixel gathered, row by row, and
the picture shows of a pixel the colour of what it gathered. -/
theorem Tracer.render_pixelwise (t : Tracer) {n : UInt32} (hn : 0 < n) :
    ((∃ pixels, t.render n = .ok pixels) ↔
      ∀ x y, x < t.options.width → y < t.options.height → ∃ v, t.pixelAfter x y n = .ok v) ∧
    ∀ pixels, t.render n = .ok pixels →
      pixels.size = t.options.width.toNat * t.options.height.toNat ∧
      ∀ x y, x < t.options.width → y < t.options.height →
        ∃ v, t.pixelAfter x y n = .ok v ∧ pixels[t.place x y]? = some v ∧
          let o := t.options
          let image := Image.present pixels o.width.toNat o.height.toNat o.gamma
          let color := Pixel.ofGathered o.gamma v
          image.pixels[t.place x y]? = some color ∧
            (image.bytes.drop (3 * t.place x y)).take 3 = [color.red, color.green, color.blue] := by
  have hrender : ∀ {pixels : Array Float4}, t.render n = .ok pixels ↔ _ := render_eq_ok hn
  have hpixel : ∀ {x : UInt32} (y : UInt32), x < t.options.width →
      t.traceFrames (t.placeUv (t.place x y)) (List.range n.toNat) .zero = t.pixelAfter x y n := by
    intro x y hx
    rw [placeUv_place hx, pixelAfter]
  refine ⟨?_, fun pixels hpixels => ?_⟩
  · simp only [hrender, Fills.exists_iff]
    constructor
    · intro h x y hx hy
      rw [← hpixel y hx]
      exact h _ (place_lt hx hy)
    · intro h i hi
      obtain ⟨x, y, hx, hy, rfl⟩ := exists_eq_place hi
      rw [hpixel y hx]
      exact h x y hx hy
  · have hfills := hrender.mp hpixels
    refine ⟨hfills.size, fun x y hx hy => ?_⟩
    obtain ⟨v, hv, hstored⟩ := hfills.getElem? (place_lt hx hy)
    have hshown := Image.getElem?_present (place_lt hx hy) hstored t.options.gamma
    exact ⟨v, (hpixel y hx).symm.trans hv, hstored, hshown, Image.bytes_of_getElem? hshown⟩

/-- A scene without snippets, looked at through three columns and two rows. -/
def Tracer.small : Tracer := ⟨Builder.diamond.scene, { width := 3, height := 2 }, by decide⟩

/-- Two frames of a small picture.  The last pixel of the second row is the last of six. -/
theorem Tracer.render_pixelwise_small :
    (0 : UInt32) < 2 ∧ ∃ pixels v, small.render 2 = .ok pixels ∧ pixels.size = 6 ∧
      small.pixelAfter 2 1 2 = .ok v ∧ pixels[5]? = some v := by
  have htwo : (0 : UInt32) < 2 := by decide
  obtain ⟨hiff, hpixels⟩ := small.render_pixelwise htwo
  -- nothing fails where there is no snippet
  have hframes : ∀ uv frames gathered, ∃ v, small.traceFrames uv frames gathered = .ok v := by
    intro uv frames
    induction frames with
    | nil => exact fun gathered => ⟨gathered, rfl⟩
    | cons k frames ih =>
        intro gathered
        have hpixel := tracePixel_failsOnlyIf (t := small) Builder.diamond_reachable.wellFormed rfl
          uv (.tick k.toUInt32) gathered
        rw [traceFrames, List.foldlM_cons]
        cases hstep : small.tracePixel uv (.tick k.toUInt32) gathered with
        | error e =>
            rw [hstep] at hpixel
            exact absurd hpixel.1 Builder.diamond_not_hasSnippet
        | ok next => exact ih next
  obtain ⟨pixels, hrender⟩ := hiff.mpr fun x y _ _ => hframes _ _ _
  obtain ⟨hsize, hat⟩ := hpixels pixels hrender
  obtain ⟨v, hv, hstored, -⟩ := hat 2 1 (by decide) (by decide)
  exact ⟨htwo, pixels, v, hrender, hsize, hv, hstored⟩

end ImplicitScene
