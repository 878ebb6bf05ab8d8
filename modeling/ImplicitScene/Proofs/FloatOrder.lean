import Mathlib
import ImplicitScene.Decimal

/-!
# How floats compare

A float that is a number has a *rank*: its kind, from negative infinity to positive
infinity, then its exponent and then its significand.  Floats compare as their
ranks do, and a comparison with NaN is false (`lt_iff_rank`).  So the comparison
is transitive, and a float that is not above another lies below it, is equal to it
or is NaN.

The two zeros have one rank.  No absolute value is the negative one, so absolute
values of one rank are equal.
-/

namespace ImplicitScene

open Float.Model (UnpackedFloat)
open Float.Model.UnpackedFloat (packComponents)

/-! ## Ranks -/

/-- The place of an unpacked float among the numbers. -/
def rankOf : UnpackedFloat → ℤ ×ₗ ℤ ×ₗ ℤ
  | .infinity .negative => toLex (-2, toLex (0, 0))
  | .finite .negative significand exponent _ => toLex (-1, toLex (-exponent, -significand))
  | .zero _ | .notANumber => toLex (0, toLex (0, 0))
  | .finite .positive significand exponent _ => toLex (1, toLex (exponent, significand))
  | .infinity .positive => toLex (2, toLex (0, 0))

/-- The place of a float among the numbers.  Both zeros have one place, and NaN has none. -/
def rank (x : Float32) : ℤ ×ₗ ℤ ×ₗ ℤ := rankOf x.toModel.unpack

theorem compare_natCast (m n : ℕ) : compare (m : ℤ) n = compare m n := by
  rw [← cmp_eq_compare, ← cmp_eq_compare, Nat.strictMono_cast.cmp_map_eq]

theorem compare_neg (a b : ℤ) : compare (-a) (-b) = (compare a b).swap := by
  rw [← cmp_eq_compare, ← cmp_eq_compare, cmp_swap]
  exact StrictAnti.cmp_map_eq (fun _ _ h => neg_lt_neg h) a b

/-- In one kind, exponents are compared before significands. -/
theorem compare_toLex (kind e e' m m' : ℤ) :
    compare (toLex (kind, toLex (e, m))) (toLex (kind, toLex (e', m'))) =
      (compare e e').then (compare m m') := by
  simp [Prod.Lex.compare_def, compareLex, compareOn]

/-- Numbers compare as their ranks. -/
theorem compare_eq_rankOf {x y : UnpackedFloat} (hx : x.isNaN = false) (hy : y.isNaN = false) :
    x.compare y = some (compare (rankOf x) (rankOf y)) := by
  cases x with
  | notANumber => cases hx
  | infinity s =>
      cases y with
      | notANumber => cases hy
      | zero t => cases s <;> rfl
      | infinity t | finite t => cases s <;> cases t <;> rfl
  | zero s =>
      cases y with
      | notANumber => cases hy
      | zero t => rfl
      | infinity t | finite t => cases t <;> rfl
  | finite s m e =>
      cases y with
      | notANumber => cases hy
      | zero t => cases s <;> rfl
      | infinity t => cases s <;> cases t <;> rfl
      | finite t n f =>
          cases s with
          | negative =>
              cases t with
              | positive => rfl
              | negative =>
                  rw [rankOf, rankOf, compare_toLex, compare_neg, compare_neg, compare_natCast,
                    ← Ordering.swap_then]
                  rfl
          | positive =>
              cases t with
              | negative => rfl
              | positive =>
                  rw [rankOf, rankOf, compare_toLex, compare_natCast]
                  rfl

/-- NaN does not compare. -/
theorem compare_eq_none {x y : UnpackedFloat} (h : x.isNaN = true ∨ y.isNaN = true) :
    x.compare y = none := by
  rcases h with h | h
  · cases x with
    | notANumber => rfl
    | infinity | zero | finite => cases h
  · cases y with
    | notANumber => cases x <;> rfl
    | infinity | zero | finite => cases h

/-! ## Comparisons -/

theorem lt_iff_compare {x y : Float32} :
    x < y ↔ x.toModel.unpack.compare y.toModel.unpack = some .lt :=
  decide_eq_true_iff.trans beq_iff_eq

/-- A float is less than another if both are numbers and its rank is less. -/
theorem lt_iff_rank {x y : Float32} :
    x < y ↔ x.isNaN = false ∧ y.isNaN = false ∧ rank x < rank y := by
  rw [lt_iff_compare]
  by_cases hnumbers : x.isNaN = false ∧ y.isNaN = false
  · rw [compare_eq_rankOf hnumbers.1 hnumbers.2, Option.some.injEq, compare_lt_iff_lt,
      ← and_assoc, and_iff_right hnumbers]
    rfl
  · have hnan : x.isNaN = true ∨ y.isNaN = true := by
      simpa [or_iff_not_imp_left] using hnumbers
    rw [compare_eq_none hnan]
    exact iff_of_false (by simp) fun h => hnumbers ⟨h.1, h.2.1⟩

theorem float_lt_trans {x y z : Float32} (hxy : x < y) (hyz : y < z) : x < z := by
  rw [lt_iff_rank] at hxy hyz ⊢
  exact ⟨hxy.1, hyz.2.1, hxy.2.2.trans hyz.2.2⟩

theorem float_lt_asymm {x y : Float32} (h : x < y) : ¬y < x := by
  rw [lt_iff_rank] at h ⊢
  exact fun hyx => absurd (h.2.2.trans hyx.2.2) (lt_irrefl _)

/-- What is not less than `y` is above everything that is, unless it is NaN. -/
theorem float_lt_or_isNaN {x y z : Float32} (hxy : x < y) (hzy : ¬z < y) :
    x < z ∨ z.isNaN = true := by
  rw [lt_iff_rank] at hxy hzy ⊢
  cases hz : z.isNaN with
  | true => exact Or.inr rfl
  | false =>
      have hle : rank y ≤ rank z := not_lt.mp fun h => hzy ⟨hz, hxy.2.1, h⟩
      exact Or.inl ⟨hxy.1, rfl, hxy.2.2.trans_le hle⟩

/-! ## Signs and absolute values -/

/-- An infinity is positive if it has no sign. -/
theorem pos_iff_of_isInf {x : Float32} (h : x.isInf = true) : 0.0 < x ↔ signBit x = false := by
  obtain ⟨s, hs⟩ : ∃ s, x.toModel.unpack = .infinity s := by
    change x.toModel.unpack.isInf = true at h
    cases hx : x.toModel.unpack with
    | infinity s => exact ⟨s, rfl⟩
    | notANumber | zero | finite =>
        rw [hx] at h
        cases h
  have hbits : x.toBits = ⟨UnpackedFloat.pack .binary32 (.infinity s)⟩ := by
    rw [← hs]
    exact UInt32.toBitVec_inj.mp (UnpackedFloat.pack_unpack_of_valid x.toModel.valid).symm
  rw [lt_iff_compare, hs, signBit, hbits]
  cases s <;> decide +kernel

theorem toNat_packComponents_positive (exponent : BitVec 8) (significand : BitVec 23) :
    (packComponents .binary32 .positive exponent significand).toNat < 2 ^ 31 := by
  have hbits : packComponents .binary32 .positive exponent significand =
      (0#1 ++ exponent ++ significand : BitVec 32) := rfl
  have hexponent := exponent.isLt
  have hsignificand := significand.isLt
  rw [hbits, BitVec.toNat_append, BitVec.toNat_append]
  refine Nat.or_lt_two_pow ?_ (by omega)
  simp [Nat.shiftLeft_eq]
  omega

/-- An absolute value has no sign. -/
theorem signBit_abs (x : Float32) : signBit x.abs = false := by
  have hpack : ∀ u : UnpackedFloat, (UnpackedFloat.pack .binary32 u.abs).toNat < 2 ^ 31 := by
    intro u
    cases u with
    | notANumber | infinity | zero => exact toNat_packComponents_positive _ _
    | finite s m e =>
        rw [UnpackedFloat.abs, UnpackedFloat.pack]
        split
        · exact toNat_packComponents_positive _ _
        · split <;> exact toNat_packComponents_positive _ _
  rw [signBit, decide_eq_false_iff_not, UInt32.not_le, UInt32.lt_iff_toNat_lt]
  exact hpack x.toModel.unpack

/-- Absolute values that are numbers are equal if neither is less. -/
theorem abs_eq_of_not_lt {x y : Float32} (hx : x.abs.isNaN = false) (hy : y.abs.isNaN = false)
    (hxy : ¬x.abs < y.abs) (hyx : ¬y.abs < x.abs) : x.abs = y.abs := by
  have hnegative : ∀ z : Float32, z.abs ≠ -0 := by
    intro z hz
    have hsign := signBit_abs z
    rw [hz] at hsign
    exact absurd hsign (by decide +kernel)
  have hrank : rank x.abs = rank y.abs := by
    rw [lt_iff_rank] at hxy hyx
    exact le_antisymm (not_lt.mp fun h => hyx ⟨hy, hx, h⟩) (not_lt.mp fun h => hxy ⟨hx, hy, h⟩)
  have hcompare : x.abs.toModel.unpack.compare y.abs.toModel.unpack = some .eq := by
    rw [compare_eq_rankOf hx hy, Option.some.injEq, compare_eq_iff_eq]
    exact hrank
  have hbeq : (x.abs == y.abs) = true := (beq_iff_eq (α := Option Ordering)).mpr hcompare
  obtain ⟨-, -, heq | ⟨-, hzero⟩ | ⟨hzero, -⟩⟩ := Float32.beq_iff_ne_nan_and_eq.mp hbeq
  · exact heq
  · exact absurd hzero (hnegative y)
  · exact absurd hzero (hnegative x)

end ImplicitScene
