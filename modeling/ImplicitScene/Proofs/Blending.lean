import Mathlib
import ImplicitScene.Shape.Blend

/-!
# Smooth blends in exact arithmetic

Over the rational numbers a smooth minimum is the least of the *mixes* of its
operands: a weighted mean of the two, less the radius times the product of the
weights (`isLeast_smoothMin`).  A mix is monotone in the operands, and it moves by no
more than they do.  The least mix inherits both, so nothing has to be said about the
edge of the blend or about equal operands.

How far the smooth minimum stays below the hard one is read off the weight of the
blend.  That weight is one where the operands are equal and zero where they are a
radius apart.  The smooth maximum is the smooth minimum of the negated operands,
negated.
-/

namespace ImplicitScene

/-- Rational numbers, for which every rule is exact. -/
instance : Scalar ℚ where
  min := min
  max := max
  abs := abs
  floor x := ⌊x⌋
  atLeast a b := decide (b ≤ a)

theorem leastRadius_eq : (leastRadius : ℚ) = 10 ^ (-6 : ℤ) := by norm_num [leastRadius]

/-- The radius that a blend goes by. -/
def blendRadius (k : ℚ) : ℚ := max k (10 ^ (-6 : ℤ))

theorem blendRadius_pos (k : ℚ) : 0 < blendRadius k :=
  lt_max_of_lt_right (by norm_num)

/-! ## The weight of a blend -/

section Weight

variable {a b r : ℚ}

theorem blendWeight_comm : blendWeight a b r = blendWeight b a r := by
  change max (r - |a - b|) _ / r = max (r - |b - a|) _ / r
  rw [abs_sub_comm]

theorem blendWeight_neg : blendWeight (-a) (-b) r = blendWeight a b r := by
  change max (r - |-a - -b|) _ / r = max (r - |a - b|) _ / r
  rw [neg_sub_neg, abs_sub_comm]

variable (hr : 0 < r)

include hr

theorem mul_blendWeight : r * blendWeight a b r = max (r - |a - b|) 0 := by
  have hzero : (0.0 : ℚ) = 0 := by norm_num
  change r * (max (r - |a - b|) 0.0 / r) = _
  rw [hzero, mul_div_cancel₀ _ hr.ne']

theorem blendWeight_nonneg : 0 ≤ blendWeight a b r := by
  have h : 0 ≤ r * blendWeight a b r := mul_blendWeight hr ▸ le_max_right _ _
  exact nonneg_of_mul_nonneg_right h hr

theorem blendWeight_le_one : blendWeight a b r ≤ 1 := by
  have h : r * blendWeight a b r ≤ r * 1 := by
    rw [mul_blendWeight hr, mul_one]
    exact max_le (sub_le_self r (abs_nonneg _)) hr.le
  exact le_of_mul_le_mul_left h hr

theorem blendWeight_eq_zero_iff : blendWeight a b r = 0 ↔ r ≤ |a - b| := by
  rw [← mul_eq_zero_iff_left hr.ne', mul_blendWeight hr, max_eq_right_iff, sub_nonpos]

theorem blendWeight_eq_one_iff : blendWeight a b r = 1 ↔ a = b := by
  rw [← mul_right_inj' hr.ne', mul_blendWeight hr, mul_one]
  constructor
  · intro h
    have hinside : r - |a - b| = r := by
      rcases max_choice (r - |a - b|) 0 with hmax | hmax
      · rwa [hmax] at h
      · exact absurd (hmax ▸ h) hr.ne
    exact sub_eq_zero.mp (abs_eq_zero.mp (sub_eq_self.mp hinside))
  · rintro rfl
    rw [sub_self, abs_zero, sub_zero, max_eq_left hr.le]

/-- How far the operands are inside the blend is at most what the weight says. -/
theorem sub_le_mul_blendWeight : r - |a - b| ≤ r * blendWeight a b r :=
  mul_blendWeight hr ▸ le_max_left _ _

/-- The weight is zero, or it says exactly how far the operands are inside. -/
theorem blendWeight_slack : blendWeight a b r * (r * blendWeight a b r - (r - |a - b|)) = 0 := by
  rw [mul_eq_zero, blendWeight_eq_zero_iff hr, mul_blendWeight hr, sub_eq_zero, max_eq_left_iff,
    sub_nonneg]
  exact le_total _ _

end Weight

/-! ## How far a blend departs from the hard operator -/

section Depth

variable {a b k : ℚ}

/-- How far the smooth minimum lies below the lesser operand. -/
def blendDepth (a b k : ℚ) : ℚ := blendRadius k * blendWeight a b (blendRadius k) ^ 2 / 4

theorem mul_quarter_eq_blendDepth : blendWeight a b (max k leastRadius) *
    blendWeight a b (max k leastRadius) * max k leastRadius * 0.25 = blendDepth a b k := by
  have hquarter : (0.25 : ℚ) = 1 / 4 := by norm_num
  rw [hquarter, leastRadius_eq, blendDepth, blendRadius]
  ring

theorem smoothMin_eq : smoothMin a b k = min a b - blendDepth a b k :=
  congrArg (min a b - ·) mul_quarter_eq_blendDepth

theorem smoothMax_eq : smoothMax a b k = max a b + blendDepth a b k :=
  congrArg (max a b + ·) mul_quarter_eq_blendDepth

theorem blendDepth_nonneg : 0 ≤ blendDepth a b k := by
  have hr := blendRadius_pos k
  unfold blendDepth
  positivity

theorem blendDepth_le : blendDepth a b k ≤ blendRadius k / 4 := by
  have hr := blendRadius_pos k
  have hsquare : blendWeight a b (blendRadius k) ^ 2 ≤ 1 :=
    pow_le_one₀ (blendWeight_nonneg hr) (blendWeight_le_one hr)
  have hmul := mul_le_of_le_one_right hr.le hsquare
  unfold blendDepth
  gcongr

theorem blendDepth_eq_zero_iff : blendDepth a b k = 0 ↔ blendRadius k ≤ |a - b| := by
  have hr := blendRadius_pos k
  rw [← blendWeight_eq_zero_iff hr, blendDepth]
  simp [hr.ne']

theorem blendDepth_eq_iff : blendDepth a b k = blendRadius k / 4 ↔ a = b := by
  have hr := blendRadius_pos k
  rw [← blendWeight_eq_one_iff (a := a) (b := b) hr, blendDepth, div_left_inj' four_ne_zero,
    mul_eq_left₀ hr.ne', pow_eq_one_iff_of_nonneg (blendWeight_nonneg hr) two_ne_zero]

theorem smoothMin_comm : smoothMin a b k = smoothMin b a k := by
  rw [smoothMin_eq, smoothMin_eq, min_comm, blendDepth, blendDepth, blendWeight_comm]

theorem smoothMax_eq_neg_smoothMin : smoothMax a b k = -smoothMin (-a) (-b) k := by
  rw [smoothMax_eq, smoothMin_eq, blendDepth, blendDepth, blendWeight_neg, min_neg_neg]
  ring

end Depth

/-! ## The least mix -/

/-- The mean of two numbers with weights `t` and `1 - t`, less the radius times both weights. -/
def blendMix (r a b t : ℚ) : ℚ := t * a + (1 - t) * b - r * (t * (1 - t))

theorem blendMix_comm (r a b t : ℚ) : blendMix r a b t = blendMix r b a (1 - t) := by
  unfold blendMix
  ring

/-- A mix exceeds the smooth minimum by a square, which is zero where the second weight is half the
weight of the blend, and by a product that is zero inside the blend. -/
theorem blendMix_eq_of_le {a b : ℚ} (h : a ≤ b) (k t : ℚ) :
    blendMix (blendRadius k) a b t = smoothMin a b k +
      (blendRadius k * (1 - t - blendWeight a b (blendRadius k) / 2) ^ 2 + (1 - t) *
        (blendRadius k * blendWeight a b (blendRadius k) - (blendRadius k - |a - b|))) := by
  rw [smoothMin_eq, blendDepth, min_eq_left h, abs_sub_comm, abs_of_nonneg (sub_nonneg.mpr h),
    blendMix]
  ring

/-- The smooth minimum is the least of the mixes. -/
theorem isLeast_smoothMin (a b k : ℚ) :
    IsLeast (blendMix (blendRadius k) a b '' Set.Icc 0 1) (smoothMin a b k) := by
  have hr := blendRadius_pos k
  -- Exchanging the operands exchanges the weights, so the first may be taken for the lesser.
  wlog h : a ≤ b generalizing a b
  · have hswap : blendMix (blendRadius k) a b '' Set.Icc 0 1 =
        blendMix (blendRadius k) b a '' Set.Icc 0 1 := by
      rw [funext (blendMix_comm (blendRadius k) a b),
        ← Set.image_image (blendMix (blendRadius k) b a)]
      simp
    rw [hswap, smoothMin_comm]
    exact this b a (le_of_not_ge h)
  constructor
  · -- The least mix gives the greater operand half the weight of the blend.
    have hnonneg := blendWeight_nonneg (a := a) (b := b) hr
    have hone := blendWeight_le_one (a := a) (b := b) hr
    refine ⟨1 - blendWeight a b (blendRadius k) / 2, ⟨by linarith, by linarith⟩, ?_⟩
    have hslack := blendWeight_slack (a := a) (b := b) hr
    rw [blendMix_eq_of_le h]
    linear_combination hslack / 2
  · rintro _ ⟨t, ⟨-, ht⟩, rfl⟩
    have hinside := sub_nonneg.mpr (sub_le_mul_blendWeight (a := a) (b := b) hr)
    have hweight := sub_nonneg.mpr ht
    rw [blendMix_eq_of_le h, le_add_iff_nonneg_right]
    positivity

/-! ## Regularity -/

section Regularity

variable {a b a' b' k : ℚ}

/-- When the operands grow by at most `d`, so does the smooth minimum. -/
theorem smoothMin_le_add {d : ℚ} (ha : a ≤ a' + d) (hb : b ≤ b' + d) :
    smoothMin a b k ≤ smoothMin a' b' k + d := by
  obtain ⟨t, ht, hleast⟩ := (isLeast_smoothMin a' b' k).1
  calc smoothMin a b k
      ≤ blendMix (blendRadius k) a b t := (isLeast_smoothMin a b k).2 ⟨t, ht, rfl⟩
    _ ≤ blendMix (blendRadius k) (a' + d) (b' + d) t := by
        have hweight := sub_nonneg.mpr ht.2
        have ht := ht.1
        unfold blendMix
        gcongr
    _ = blendMix (blendRadius k) a' b' t + d := by
        unfold blendMix
        ring
    _ = smoothMin a' b' k + d := by rw [hleast]

theorem smoothMin_mono (ha : a ≤ a') (hb : b ≤ b') : smoothMin a b k ≤ smoothMin a' b' k := by
  have h := smoothMin_le_add (k := k) (ha.trans_eq (add_zero a').symm)
    (hb.trans_eq (add_zero b').symm)
  rwa [add_zero] at h

theorem abs_smoothMin_sub_le :
    |smoothMin a b k - smoothMin a' b' k| ≤ max |a - a'| |b - b'| := by
  have ha := abs_le.mp (le_max_left |a - a'| |b - b'|)
  have hb := abs_le.mp (le_max_right |a - a'| |b - b'|)
  rw [abs_sub_le_iff, sub_le_iff_le_add', sub_le_iff_le_add']
  exact ⟨smoothMin_le_add (by linarith) (by linarith),
    smoothMin_le_add (by linarith) (by linarith)⟩

end Regularity

/-- In exact arithmetic a smooth minimum is at most the lesser operand and below it by at most a
quarter of the radius.  It is lowest where the operands are equal and meets the lesser operand where
they are a radius apart.  It is symmetric and monotone, and it moves by no more than its operands.
The smooth maximum mirrors it. -/
theorem blends_regular (a b a' b' k : ℚ) :
    (min a b - max k (10 ^ (-6 : ℤ)) / 4 ≤ smoothMin a b k ∧ smoothMin a b k ≤ min a b) ∧
    (smoothMin a b k = min a b - max k (10 ^ (-6 : ℤ)) / 4 ↔ a = b) ∧
    (smoothMin a b k = min a b ↔ max k (10 ^ (-6 : ℤ)) ≤ |a - b|) ∧
    smoothMin a b k = smoothMin b a k ∧
    (a ≤ a' → b ≤ b' → smoothMin a b k ≤ smoothMin a' b' k) ∧
    |smoothMin a b k - smoothMin a' b' k| ≤ max |a - a'| |b - b'| ∧
    smoothMax a b k = -smoothMin (-a) (-b) k := by
  rw [← blendRadius]
  refine ⟨⟨?_, ?_⟩, ?_, ?_, smoothMin_comm, smoothMin_mono, abs_smoothMin_sub_le,
    smoothMax_eq_neg_smoothMin⟩
  · rw [smoothMin_eq]
    exact sub_le_sub_left blendDepth_le _
  · rw [smoothMin_eq]
    exact sub_le_self _ blendDepth_nonneg
  · rw [smoothMin_eq, sub_right_inj, blendDepth_eq_iff]
  · rw [smoothMin_eq, sub_eq_self, blendDepth_eq_zero_iff]

end ImplicitScene
