import Mathlib
import ImplicitScene.Proofs.Blending
import ImplicitScene.Shape.Cell
import ImplicitScene.Shape.Kind

/-!
# Folding into cells in exact arithmetic

A repetition acts on each axis alone.  Along an axis that is divided, the cell of a
coordinate and the folded coordinate are the quotient and the remainder of a division
by the period, with remainders from minus half a period up to half a period, the upper
end left out (`cellIndex_eq_toIcoDiv`, `foldCoordinate_eq_toIcoMod`).  What is known of
such divisions then gives the range of the remainder and says what a whole number of
periods changes.
-/

namespace ImplicitScene

/-! ## Axis by axis -/

namespace Vec3

variable {α : Type}

/-- The component along an axis. -/
def along (v : Vec3 α) : Axis → α
  | .x => v.x
  | .y => v.y
  | .z => v.z

/-- The vector moved along an axis. -/
def shift [Add α] (v : Vec3 α) (axis : Axis) (d : α) : Vec3 α :=
  match axis with
  | .x => { v with x := v.x + d }
  | .y => { v with y := v.y + d }
  | .z => { v with z := v.z + d }

theorem ext_along {v w : Vec3 α} (h : ∀ axis, v.along axis = w.along axis) : v = w := by
  obtain ⟨x, y, z⟩ := v
  obtain ⟨x', y', z'⟩ := w
  obtain ⟨rfl, rfl, rfl⟩ : x = x' ∧ y = y' ∧ z = z' := ⟨h .x, h .y, h .z⟩
  rfl

theorem along_shift_self [Add α] (v : Vec3 α) (axis : Axis) (d : α) :
    (v.shift axis d).along axis = v.along axis + d := by
  cases axis <;> rfl

theorem along_shift_of_ne [Add α] (v : Vec3 α) {axis other : Axis} (h : other ≠ axis) (d : α) :
    (v.shift axis d).along other = v.along other := by
  cases axis <;> cases other <;> first | rfl | exact absurd rfl h

end Vec3

theorem along_repetitionCell (point period : Vec3 ℚ) (axis : Axis) :
    (repetitionCell point period).along axis =
      cellIndex (point.along axis) (period.along axis) := by
  cases axis <;> rfl

theorem along_foldIntoCell (point period cell : Vec3 ℚ) (axis : Axis) :
    (foldIntoCell point period cell).along axis =
      foldCoordinate (point.along axis) (period.along axis) (cell.along axis) := by
  cases axis <;> rfl

/-! ## One coordinate -/

section Coordinate

variable {x p : ℚ}

/-- The clamp of the divisor and the switch of the axis go by one threshold, so the clamp never
shows. -/
theorem cellIndex_eq :
    cellIndex x p = if 10 ^ (-6 : ℤ) ≤ |p| then (⌊x / |p| + 1 / 2⌋ : ℚ) else 0 := by
  have hhalf : (0.5 : ℚ) = 1 / 2 := by norm_num
  change (⌊x / max |p| leastRadius + 0.5⌋ : ℚ) *
    (if decide (leastRadius ≤ |p|) = true then 1.0 else 0.0) = _
  rw [leastRadius_eq, hhalf]
  split_ifs with hspan hdivided hdivided
  · rw [max_eq_left hdivided]
    norm_num
  · exact absurd (of_decide_eq_true hspan) hdivided
  · exact absurd (decide_eq_true hdivided) hspan
  · norm_num

theorem foldCoordinate_eq (cell : ℚ) : foldCoordinate x p cell = x - |p| * cell := rfl

theorem cellIndex_of_lt (h : |p| < 10 ^ (-6 : ℤ)) : cellIndex x p = 0 := by
  rw [cellIndex_eq, if_neg (not_le.mpr h)]

variable (h : 10 ^ (-6 : ℤ) ≤ |p|)

include h

theorem span_pos : 0 < |p| := lt_of_lt_of_le (by norm_num) h

theorem cellIndex_eq_toIcoDiv :
    cellIndex x p = toIcoDiv (span_pos h) (-(|p| / 2)) x := by
  have hspan := (span_pos h).ne'
  have hquotient : (x - -(|p| / 2)) / |p| = x / |p| + 1 / 2 := by
    field_simp
    ring
  rw [cellIndex_eq, if_pos h, toIcoDiv_eq_floor, hquotient]

theorem foldCoordinate_eq_toIcoMod :
    foldCoordinate x p (cellIndex x p) = toIcoMod (span_pos h) (-(|p| / 2)) x := by
  rw [foldCoordinate_eq, cellIndex_eq_toIcoDiv h, toIcoMod, zsmul_eq_mul, mul_comm]

theorem foldCoordinate_mem_Ico :
    foldCoordinate x p (cellIndex x p) ∈ Set.Ico (-(|p| / 2)) (|p| / 2) := by
  have hmem := toIcoMod_mem_Ico (span_pos h) (-(|p| / 2)) x
  rw [neg_add_eq_sub, sub_half] at hmem
  rwa [foldCoordinate_eq_toIcoMod h]

theorem cellIndex_add_mul (m : ℤ) : cellIndex (x + m * |p|) p = cellIndex x p + m := by
  rw [cellIndex_eq_toIcoDiv h, cellIndex_eq_toIcoDiv h, ← zsmul_eq_mul, toIcoDiv_add_zsmul,
    Int.cast_add]

theorem foldCoordinate_add_mul (m : ℤ) :
    foldCoordinate (x + m * |p|) p (cellIndex (x + m * |p|) p) =
      foldCoordinate x p (cellIndex x p) := by
  rw [foldCoordinate_eq_toIcoMod h, foldCoordinate_eq_toIcoMod h, ← zsmul_eq_mul,
    toIcoMod_add_zsmul]

end Coordinate

/-! ## Points -/

section Point

variable {period : Vec3 ℚ} {axis : Axis} (h : 10 ^ (-6 : ℤ) ≤ |period.along axis|)

include h

theorem repetitionCell_shift (point : Vec3 ℚ) (m : ℤ) :
    repetitionCell (point.shift axis (m * |period.along axis|)) period =
      (repetitionCell point period).shift axis m := by
  refine Vec3.ext_along fun other => ?_
  by_cases hother : other = axis
  · subst hother
    rw [along_repetitionCell, Vec3.along_shift_self, Vec3.along_shift_self, along_repetitionCell,
      cellIndex_add_mul h]
  · rw [along_repetitionCell, Vec3.along_shift_of_ne _ hother, Vec3.along_shift_of_ne _ hother,
      along_repetitionCell]

theorem foldIntoCell_shift (point : Vec3 ℚ) (m : ℤ) :
    foldIntoCell (point.shift axis (m * |period.along axis|)) period
        (repetitionCell (point.shift axis (m * |period.along axis|)) period) =
      foldIntoCell point period (repetitionCell point period) := by
  refine Vec3.ext_along fun other => ?_
  rw [along_foldIntoCell, along_foldIntoCell, along_repetitionCell, along_repetitionCell]
  by_cases hother : other = axis
  · subst hother
    rw [Vec3.along_shift_self, foldCoordinate_add_mul h]
  · rw [Vec3.along_shift_of_ne _ hother]

end Point

/-- In exact arithmetic a point is its folded image moved by as many periods as its cell says.
Along an axis that is divided, the cell is a whole number and the image is within half a period of
the origin, the upper end left out.  A point moved by a whole number of periods moves by as many
cells and keeps its image.  Along any other axis the cell is zero and the point stays where it
is. -/
theorem folds_periodically (point period : Vec3 ℚ) (axis : Axis) :
    let cell := repetitionCell point period
    let folded := foldIntoCell point period cell
    let span := |period.along axis|
    point.along axis = folded.along axis + cell.along axis * span ∧
    (10 ^ (-6 : ℤ) ≤ span →
      (∃ n : ℤ, cell.along axis = n) ∧
      folded.along axis ∈ Set.Ico (-(span / 2)) (span / 2) ∧
      ∀ m : ℤ,
        let moved := point.shift axis (m * span)
        repetitionCell moved period = cell.shift axis m ∧
        foldIntoCell moved period (repetitionCell moved period) = folded) ∧
    (span < 10 ^ (-6 : ℤ) → cell.along axis = 0 ∧ folded.along axis = point.along axis) := by
  intro cell folded span
  have hcell : cell.along axis = cellIndex (point.along axis) (period.along axis) :=
    along_repetitionCell point period axis
  have hfolded : folded.along axis =
      foldCoordinate (point.along axis) (period.along axis) (cell.along axis) :=
    along_foldIntoCell point period cell axis
  refine ⟨?_, fun h => ⟨?_, ?_, fun m => ?_⟩, fun h => ?_⟩
  · rw [hfolded, foldCoordinate_eq, mul_comm, sub_add_cancel]
  · exact ⟨_, hcell.trans (cellIndex_eq_toIcoDiv h)⟩
  · rw [hfolded, hcell]
    exact foldCoordinate_mem_Ico h
  · exact ⟨repetitionCell_shift h point m, foldIntoCell_shift h point m⟩
  · have hzero : cell.along axis = 0 := hcell.trans (cellIndex_of_lt h)
    exact ⟨hzero, by rw [hfolded, hzero, foldCoordinate_eq, mul_zero, sub_zero]⟩

/-- A coordinate on the edge of its cell under a negative period, and a period that is not zero and
yet too small to count. -/
theorem folds_periodically_edge :
    let point : Vec3 ℚ := ⟨-3 / 2, 5, 0⟩
    let period : Vec3 ℚ := ⟨-1, 10 ^ (-7 : ℤ), 0⟩
    let cell := repetitionCell point period
    let folded := foldIntoCell point period cell
    (∃ n : ℤ, cell.x = n) ∧ -(1 / 2) ≤ folded.x ∧ folded.x < 1 / 2 ∧
      repetitionCell ⟨1 / 2, 5, 0⟩ period = ⟨cell.x + 2, cell.y, cell.z⟩ ∧
      foldIntoCell ⟨1 / 2, 5, 0⟩ period (repetitionCell ⟨1 / 2, 5, 0⟩ period) = folded ∧
      cell.y = 0 ∧ folded.y = 5 := by
  intro point period cell folded
  have hspan : |period.along .x| = 1 := by norm_num [period, Vec3.along]
  have hmoved : point.shift .x ((2 : ℤ) * |period.along .x|) = ⟨1 / 2, 5, 0⟩ := by
    rw [hspan]
    norm_num [point, Vec3.shift]
  obtain ⟨-, hdivided, -⟩ := folds_periodically point period .x
  obtain ⟨hwhole, ⟨hlow, hhigh⟩, hperiodic⟩ := hdivided (hspan ▸ by norm_num)
  have htwo := hperiodic 2
  rw [hmoved] at htwo
  rw [hspan] at hlow hhigh
  obtain ⟨-, -, hsmall⟩ := folds_periodically point period .y
  obtain ⟨hzero, hkept⟩ := hsmall (by norm_num [period, Vec3.along])
  exact ⟨hwhole, hlow, hhigh, htwo.1, htwo.2, hzero, hkept⟩

end ImplicitScene
