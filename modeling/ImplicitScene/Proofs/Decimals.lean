import Mathlib
import ImplicitScene.Proofs.ExpressionText

/-!
# Decimals tell floats apart

Different finite floats have different literals.

The text of a decimal is read as a rational number, by its digits and the place
of the point.  The shortest decimal of a float lies in the interval of numbers
that round to the float, and the intervals of two floats have no number in common
(`Binary.eq_of_rounds`).  Where two intervals touch, the end belongs to the one
with the even significand at most, and neighbours are not both even.  A power of
two touches the float below it at a quarter of a unit, and that float is odd.
-/

namespace ImplicitScene

namespace Decimal

/-! ## Reading positional notation -/

/-- The number that digits and a point denote. -/
def positional (cs : List Char) : ℚ :=
  Nat.ofDigitChars 10 (cs.filter (· ≠ '.')) 0 / 10 ^ (cs.dropWhile (· ≠ '.')).tail.length

theorem positional_whole {cs : List Char} (h : '.' ∉ cs) :
    positional cs = Nat.ofDigitChars 10 cs 0 := by
  have hall : ∀ c ∈ cs, c ≠ '.' := fun c hc hpoint => h (hpoint ▸ hc)
  have hfilter : cs.filter (· ≠ '.') = cs := List.filter_eq_self.mpr (by simpa using hall)
  have hdrop : cs.dropWhile (· ≠ '.') = [] := List.dropWhile_eq_nil_iff.mpr (by simpa using hall)
  rw [positional, hfilter, hdrop]
  simp

theorem positional_point {whole fraction : List Char} (hw : '.' ∉ whole) (hf : '.' ∉ fraction) :
    positional (whole ++ '.' :: fraction) =
      Nat.ofDigitChars 10 (whole ++ fraction) 0 / 10 ^ fraction.length := by
  have hfilter : ∀ {cs : List Char}, '.' ∉ cs → cs.filter (· ≠ '.') = cs := fun h =>
    List.filter_eq_self.mpr (by simpa using fun c hc (hpoint : c = '.') => h (hpoint ▸ hc))
  have hdrop : (whole ++ '.' :: fraction).dropWhile (· ≠ '.') = '.' :: fraction := by
    rw [List.dropWhile_append_of_pos]
    · simp
    · simpa using fun c hc (hpoint : c = '.') => hw (hpoint ▸ hc)
  rw [positional, hdrop, List.filter_append, List.filter_cons_of_neg (by simp), hfilter hw,
    hfilter hf, List.tail_cons]

/-- A zero behind the point changes nothing. -/
theorem positional_append_zero {cs : List Char} (h : '.' ∉ cs) :
    positional (cs ++ ['.', '0']) = positional cs := by
  rw [positional_whole h, positional_point h (by simp), Nat.ofDigitChars_append,
    Nat.ofDigitChars_cons, Nat.ofDigitChars_nil]
  simp

/-- The number that a decimal denotes. -/
def value (d : Decimal) : ℚ := d.digits * 10 ^ d.exponent

theorem not_mem_point_toDigits (n : Nat) : '.' ∉ Nat.toDigits 10 n := fun h =>
  absurd (Nat.isDigit_of_mem_toDigits (by decide) (by decide) h) (by decide)

/-- The text of a decimal denotes its value. -/
theorem positional_text (d : Decimal) : positional d.text.toList = d.value := by
  obtain ⟨digits, exponent⟩ := d
  have hpoint := not_mem_point_toDigits digits
  unfold text value
  dsimp only
  split
  next hzero =>
    obtain ⟨n, rfl⟩ : ∃ n : ℕ, exponent = n := ⟨exponent.toNat, by omega⟩
    rw [String.toList_ofList, positional_whole (by simp [hpoint]), Nat.ofDigitChars_append,
      Nat.ofDigitChars_ten_toDigits, Nat.ofDigitChars_replicate_zero, Int.toNat_natCast,
      zpow_natCast]
    push_cast
    ring
  next hfraction =>
    generalize hn : (-exponent).toNat = n at hfraction
    have hneg : exponent = -(n : ℤ) := by omega
    generalize hp : List.replicate (n + 1 - (Nat.toDigits 10 digits).length) '0' ++
      Nat.toDigits 10 digits = padded
    have hnopoint : '.' ∉ padded := by
      rw [← hp]
      simp [hpoint]
    have hvalue : Nat.ofDigitChars 10 padded 0 = digits := by
      rw [← hp, Nat.ofDigitChars_append, Nat.ofDigitChars_replicate_zero, Nat.mul_zero,
        Nat.ofDigitChars_ten_toDigits]
    have hlength : n ≤ padded.length := by
      rw [← hp]
      simp
      omega
    rw [String.toList_ofList, positional_point (fun h => hnopoint (List.mem_of_mem_take h))
      (fun h => hnopoint (List.mem_of_mem_drop h)), List.take_append_drop, hvalue,
      List.length_drop, Nat.sub_sub_self hlength, hneg, zpow_neg, zpow_natCast, div_eq_mul_inv]

/-! ## Rounding intervals -/

namespace Binary

/-- How far the interval of a float reaches below it, in quarters of a unit. -/
def below (b : Binary) : Nat := if b.significand = leastNormal ∧ -149 < b.exponent then 1 else 2

/-- The lower end of the interval of a float. -/
def low (b : Binary) : ℚ := (4 * b.significand - b.below) * 2 ^ (b.exponent - 2)

/-- The upper end of the interval of a float. -/
def high (b : Binary) : ℚ := (4 * b.significand + 2) * 2 ^ (b.exponent - 2)

/-- The numbers that round to a float.  The ends do if the significand is even. -/
def Rounds (b : Binary) (r : ℚ) : Prop :=
  b.low ≤ r ∧ r ≤ b.high ∧ (b.significand % 2 = 1 → b.low < r ∧ r < b.high)

/-- The significands and exponents that floats have. -/
structure Canonical (b : Binary) : Prop where
  /-- The exponent is not below the least one. -/
  exponent : -149 ≤ b.exponent
  /-- The significand has 24 bits at most. -/
  significand : b.significand < 2 * leastNormal
  /-- Above the least exponent it has all of them. -/
  normal : -149 < b.exponent → leastNormal ≤ b.significand

theorem canonical_binaryOfBits (bits : UInt32) : (binaryOfBits bits).Canonical := by
  have hfraction : bits.toNat % leastNormal < leastNormal := Nat.mod_lt _ (by decide)
  unfold binaryOfBits
  dsimp only
  split
  next => exact ⟨le_refl _, by dsimp only; omega, fun h => absurd h (lt_irrefl _)⟩
  next hexponent =>
    exact ⟨by dsimp only; omega, by dsimp only; omega, fun _ => by dsimp only; omega⟩

/-- There is one way to write zero. -/
theorem Canonical.eq_of_zero {a b : Binary} (ha : a.Canonical) (hb : b.Canonical)
    (hza : a.significand = 0) (hzb : b.significand = 0) : a = b := by
  have hleast : ∀ {c : Binary}, c.Canonical → c.significand = 0 → c.exponent = -149 := by
    intro c hc hz
    have hexponent := hc.exponent
    by_contra hne
    have hnormal := hc.normal (by omega)
    rw [hz] at hnormal
    exact absurd hnormal (by decide)
  cases a
  cases b
  simp only [mk.injEq]
  exact ⟨hza.trans hzb.symm, (hleast ha hza).trans (hleast hb hzb).symm⟩

theorem below_le_two (b : Binary) : b.below ≤ 2 := by
  unfold below
  split <;> decide

/-- Of two floats the lesser ends below the greater.  Where the intervals touch, one of the two is
odd. -/
theorem high_le_low {a b : Binary} (ha : a.Canonical) (hb : b.Canonical)
    (h : a.exponent < b.exponent ∨ a.exponent = b.exponent ∧ a.significand < b.significand) :
    a.high ≤ b.low ∧ (a.high = b.low → a.significand % 2 = 1 ∨ b.significand % 2 = 1) := by
  have hunit : (0 : ℚ) < 2 ^ (a.exponent - 2) := by positivity
  rcases h with hexponent | ⟨hexponent, hsignificand⟩
  · -- the unit of the greater is at least twice that of the lesser
    have hdouble : 2 * (2 : ℚ) ^ (a.exponent - 2) ≤ 2 ^ (b.exponent - 2) := by
      rw [← zpow_one_add₀ (by norm_num)]
      exact zpow_le_zpow_right₀ (by norm_num) (by omega)
    have hlow : 4 * leastNormal + b.below ≤ 4 * b.significand + 1 := by
      have hleast : -149 < b.exponent := lt_of_le_of_lt ha.exponent hexponent
      have hnormal := hb.normal hleast
      unfold below
      split <;> omega
    have hgap : (2 * (4 * leastNormal - 1) : ℚ) * 2 ^ (a.exponent - 2) ≤ b.low := by
      have hcast : (4 * leastNormal - 1 : ℚ) ≤ 4 * b.significand - b.below := by
        have hrational := (Nat.cast_le (α := ℚ)).mpr hlow
        push_cast at hrational
        linarith
      have hleast : (0 : ℚ) ≤ 4 * leastNormal - 1 := by norm_num [leastNormal]
      calc (2 * (4 * leastNormal - 1) : ℚ) * 2 ^ (a.exponent - 2)
          = (4 * leastNormal - 1) * (2 * 2 ^ (a.exponent - 2)) := by ring
        _ ≤ (4 * b.significand - b.below) * 2 ^ (b.exponent - 2) :=
            mul_le_mul hcast hdouble (by positivity) (hleast.trans hcast)
    have hbound : (a.significand : ℚ) + 1 ≤ 2 * leastNormal := by exact_mod_cast ha.significand
    refine ⟨le_trans ?_ hgap, fun heq => Or.inl ?_⟩
    · unfold high
      gcongr
      linarith
    · have hle : (2 * (4 * leastNormal - 1) : ℚ) ≤ 4 * a.significand + 2 :=
        le_of_mul_le_mul_right (hgap.trans heq.ge) hunit
      have hmost : 2 * leastNormal ≤ a.significand + 1 := by
        have hcast : (2 * leastNormal : ℚ) ≤ a.significand + 1 := by linarith
        exact_mod_cast hcast
      have hsmall := ha.significand
      omega
  · have hstep : (a.significand : ℚ) + 1 ≤ b.significand := by exact_mod_cast hsignificand
    have hbelow : (b.below : ℚ) ≤ 2 := by exact_mod_cast b.below_le_two
    unfold high low
    rw [← hexponent]
    refine ⟨?_, fun heq => ?_⟩
    · gcongr
      linarith
    · have hends := mul_right_cancel₀ hunit.ne' heq
      have hnext : b.significand ≤ a.significand + 1 := by
        have hcast : (b.significand : ℚ) ≤ a.significand + 1 := by linarith
        exact_mod_cast hcast
      omega

/-- A number rounds to one float at most. -/
theorem eq_of_rounds {a b : Binary} (ha : a.Canonical) (hb : b.Canonical) {r : ℚ}
    (hra : a.Rounds r) (hrb : b.Rounds r) : a = b := by
  -- two different floats would touch in `r`, and one of the two has no ends
  have apart : ∀ {a b : Binary}, a.Canonical → b.Canonical → a.Rounds r → b.Rounds r →
      ¬(a.exponent < b.exponent ∨ a.exponent = b.exponent ∧ a.significand < b.significand) := by
    intro a b ha hb hra hrb h
    obtain ⟨hle, hodd⟩ := high_le_low ha hb h
    have heq : a.high = b.low := le_antisymm hle (hrb.1.trans hra.2.1)
    rcases hodd heq with hodd | hodd
    · exact absurd (hra.2.2 hodd).2 (not_lt.mpr (heq ▸ hrb.1))
    · exact absurd (hrb.2.2 hodd).1 (not_lt.mpr (heq ▸ hra.2.1))
  have hab := apart ha hb hra hrb
  have hba := apart hb ha hrb hra
  cases a
  cases b
  simp only [mk.injEq]
  dsimp only at hab hba
  omega

/-! ## Shortest decimals -/

/-- A grid is the same comparison of rational numbers, scaled by a common denominator. -/
theorem grid_scaled (b : Binary) (k : ℤ) : ∃ c : ℚ, 0 < c ∧
    (∀ n : ℕ, ((n * (Nat.pow 2 (b.exponent - 2).toNat * Nat.pow 10 (-k).toNat) : ℕ) : ℚ) =
      c * (n * 2 ^ (b.exponent - 2))) ∧
    ∀ d : ℕ, ((d * (b.grid k).step : ℕ) : ℚ) = c * (d * 10 ^ k) := by
  have split : ∀ {x : ℚ}, x ≠ 0 → ∀ n : ℤ, x ^ n * x ^ (-n).toNat = x ^ n.toNat := by
    intro x hx n
    rw [← zpow_natCast, ← zpow_natCast, ← zpow_add₀ hx]
    congr 1
    omega
  refine ⟨2 ^ (-(b.exponent - 2)).toNat * 10 ^ (-k).toNat, by positivity, fun n => ?_, fun d => ?_⟩
  · have htwo := split (x := 2) (by norm_num) (b.exponent - 2)
    simp only [Nat.pow_eq, Nat.cast_mul, Nat.cast_pow, Nat.cast_ofNat, ← htwo]
    ring
  · have hten := split (x := 10) (by norm_num) k
    simp only [grid, Nat.pow_eq, Nat.cast_mul, Nat.cast_pow, Nat.cast_ofNat, ← hten]
    ring

/-- A point of the grid that is held rounds to the float. -/
theorem rounds_of_holds {b : Binary} (hb : 0 < b.significand) {k : ℤ} {d : ℕ}
    (h : (b.grid k).holds d = true) : b.Rounds (d * 10 ^ k) := by
  obtain ⟨c, hc, hscale, hstep⟩ := b.grid_scaled k
  have hlow : ((b.grid k).low : ℚ) = c * b.low := by
    have hbelow := b.below_le_two
    rw [low, ← Nat.cast_ofNat (R := ℚ), ← Nat.cast_mul, ← Nat.cast_sub (by omega), ← hscale]
    rfl
  have hhigh : ((b.grid k).high : ℚ) = c * b.high := by
    have hends := hscale (4 * b.significand + 2)
    push_cast at hends
    rw [high, ← hends]
    simp [grid]
  have hle : ∀ {x y : ℕ} {u v : ℚ}, (x : ℚ) = c * u → (y : ℚ) = c * v → (x ≤ y ↔ u ≤ v) := by
    intro x y u v hx hy
    rw [← Nat.cast_le (α := ℚ), hx, hy, mul_le_mul_iff_right₀ hc]
  have hlt : ∀ {x y : ℕ} {u v : ℚ}, (x : ℚ) = c * u → (y : ℚ) = c * v → (x < y ↔ u < v) := by
    intro x y u v hx hy
    rw [← not_le, hle hy hx, not_le]
  unfold Grid.holds at h
  split at h
  next hclosed =>
    have heven : b.significand % 2 = 0 := by simpa [grid] using hclosed
    rw [Bool.and_eq_true, decide_eq_true_eq, decide_eq_true_eq, hle hlow (hstep d),
      hle (hstep d) hhigh] at h
    exact ⟨h.1, h.2, fun hodd => by omega⟩
  next =>
    rw [Bool.and_eq_true, decide_eq_true_eq, decide_eq_true_eq, hlt hlow (hstep d),
      hlt (hstep d) hhigh] at h
    exact ⟨h.1.le, h.2.le, fun _ => h⟩

/-- The greatest power of two that a step of the finest grid is below. -/
theorem step_le_scale {b : Binary} (hb : b.Canonical) :
    (b.grid (-46)).step ≤ Nat.pow 2 (b.exponent - 2).toNat * Nat.pow 10 46 := by
  have hexponent := hb.exponent
  have hpower : (-(b.exponent - 2)).toNat ≤ 151 := by omega
  calc (b.grid (-46)).step = 2 ^ (-(b.exponent - 2)).toNat := Nat.mul_one _
    _ ≤ 2 ^ 151 := Nat.pow_le_pow_right (by norm_num) hpower
    _ ≤ 10 ^ 46 := by norm_num
    _ ≤ 2 ^ (b.exponent - 2).toNat * 10 ^ 46 := Nat.le_mul_of_pos_left _ (by positivity)

/-- The finest grid has a point in the interval: the one below the float. -/
theorem finest_holds {b : Binary} (hb : b.Canonical) (hpos : 0 < b.significand) :
    (b.grid (-46)).holds ((b.grid (-46)).value / (b.grid (-46)).step) = true := by
  have hstep := step_le_scale hb
  have hpositive : 0 < (b.grid (-46)).step := by
    simp only [grid, Nat.pow_eq]
    positivity
  generalize hg : b.grid (-46) = g at hstep hpositive
  have hvalue : g.value = 4 * b.significand * (Nat.pow 2 (b.exponent - 2).toNat * Nat.pow 10 46) :=
    hg ▸ rfl
  have hlow : g.low = (4 * b.significand - b.below) *
    (Nat.pow 2 (b.exponent - 2).toNat * Nat.pow 10 46) := hg ▸ rfl
  have hhigh : g.high = (4 * b.significand + 2) *
    (Nat.pow 2 (b.exponent - 2).toNat * Nat.pow 10 46) := hg ▸ rfl
  generalize Nat.pow 2 (b.exponent - 2).toNat * Nat.pow 10 46 = scale at *
  have hbelow : 1 ≤ b.below := by
    unfold below
    split <;> decide
  have hgap : g.low + scale ≤ g.value := by
    rw [hlow, hvalue, ← Nat.succ_mul]
    exact Nat.mul_le_mul_right _ (by omega)
  have hroom : g.value + scale ≤ g.high := by
    rw [hvalue, hhigh, ← Nat.succ_mul]
    exact Nat.mul_le_mul_right _ (by omega)
  have hfloor : g.value / g.step * g.step ≤ g.value := Nat.div_mul_le_self _ _
  have hnext : g.value < (g.value / g.step + 1) * g.step :=
    Nat.lt_mul_of_div_lt (Nat.lt_succ_self _) hpositive
  rw [Nat.succ_mul] at hnext
  unfold Grid.holds
  split
  next => simp only [Bool.and_eq_true, decide_eq_true_eq]; omega
  next => simp only [Bool.and_eq_true, decide_eq_true_eq]; omega

end Binary

theorem Grid.holds_of_nearest? {g : Grid} {d : Nat} (h : g.nearest? = some d) :
    g.holds d = true := by
  unfold nearest? at h
  dsimp only at h
  split at h
  next => cases h
  next hl _ => exact Option.some.inj h ▸ hl
  next _ hr => exact Option.some.inj h ▸ hr
  next hl hr =>
    split at h
    · exact Option.some.inj h ▸ hr
    · exact Option.some.inj h ▸ hl

theorem Grid.nearest?_ne_none {g : Grid} (h : g.holds (g.value / g.step) = true) :
    g.nearest? ≠ none := by
  unfold nearest?
  dsimp only
  rw [h]
  cases g.holds (g.value / g.step + 1) with
  | false => simp
  | true =>
      dsimp only
      split <;> simp

/-- The search finds a point that is held, if one of the grids has one. -/
theorem shortestFrom_holds (b : Binary) : ∀ (tries : Nat) (k : Int),
    (∃ j < tries, (b.grid (k - j)).nearest? ≠ none) →
      (b.grid (shortestFrom b tries k).exponent).holds (shortestFrom b tries k).digits = true
  | 0, _, ⟨j, hj, _⟩ => absurd hj (Nat.not_lt_zero j)
  | tries + 1, k, ⟨j, hj, hfound⟩ => by
      rw [shortestFrom]
      cases hnearest : (b.grid k).nearest? with
      | some d => exact Grid.holds_of_nearest? hnearest
      | none =>
          refine shortestFrom_holds b tries (k - 1) ?_
          cases j with
          | zero => exact absurd hnearest (by simpa using hfound)
          | succ j =>
              refine ⟨j, by omega, ?_⟩
              rwa [show k - 1 - (j : Int) = k - ((j + 1 : Nat) : Int) by push_cast; ring]

/-- The shortest decimal of a float rounds to it. -/
theorem rounds_shortest {b : Binary} (hb : b.Canonical) (hpos : 0 < b.significand) :
    b.Rounds (shortest b).value := by
  have hfinest := Grid.nearest?_ne_none (Binary.finest_holds hb hpos)
  exact Binary.rounds_of_holds hpos (shortestFrom_holds b 86 39 ⟨85, by decide, hfinest⟩)

end Decimal

/-! ## Literals of floats -/

open Decimal

/-- The bits of a float are its sign and its magnitude. -/
theorem eq_of_binaryOfBits {x y : Float32} (hsign : signBit x = signBit y)
    (h : binaryOfBits x.toBits = binaryOfBits y.toBits) : x = y := by
  rw [← Float32.toBits_inj, ← UInt32.toNat_inj]
  have hx := x.toBits.toNat_lt
  have hy := y.toBits.toNat_lt
  simp only [signBit, decide_eq_decide, UInt32.le_iff_toNat_le, UInt32.toNat_ofNat] at hsign
  unfold binaryOfBits leastNormal at h
  dsimp only at h
  split at h
  all_goals
    split at h
    all_goals
      rw [Binary.mk.injEq] at h
      omega

/-- The magnitude of a finite float in positional notation. -/
def magnitude (x : Float32) : String :=
  let b := binaryOfBits x.toBits
  if b.significand = 0 then "0" else (shortest b).text

theorem magnitude_forall {p : Char → Prop} (hdigit : ∀ c, c.isDigit = true → p c) (hpoint : p '.')
    (x : Float32) : ∀ c ∈ (magnitude x).toList, p c := by
  unfold magnitude
  dsimp only
  split
  next => simpa using hdigit '0' (by decide)
  next => exact Decimal.text_forall hdigit hpoint _

/-- The magnitude tells the bits below the sign. -/
theorem binaryOfBits_eq_of_positional {x y : Float32}
    (h : positional (magnitude x).toList = positional (magnitude y).toList) :
    binaryOfBits x.toBits = binaryOfBits y.toBits := by
  have hzero : positional "0".toList = 0 := by
    rw [positional_whole (by decide)]
    simp [Nat.ofDigitChars]
  have hpositive : ∀ {b : Binary}, b.Canonical → b.significand ≠ 0 → 0 < (shortest b).value := by
    intro b hb hne
    refine lt_of_lt_of_le ?_ (rounds_shortest hb (Nat.pos_of_ne_zero hne)).1
    have hbelow := b.below_le_two
    have hlow : (b.below : ℚ) < 4 * b.significand := by
      have hnat : b.below < 4 * b.significand := by omega
      exact_mod_cast hnat
    unfold Binary.low
    exact mul_pos (by linarith) (by positivity)
  have hx := Binary.canonical_binaryOfBits x.toBits
  have hy := Binary.canonical_binaryOfBits y.toBits
  unfold magnitude at h
  dsimp only at h
  split at h
  next hxz =>
    split at h
    next hyz => exact hx.eq_of_zero hy hxz hyz
    next hyz =>
      rw [hzero, positional_text] at h
      exact absurd h (hpositive hy hyz).ne
  next hxz =>
    split at h
    next hyz =>
      rw [hzero, positional_text] at h
      exact absurd h (hpositive hx hxz).ne'
    next hyz =>
      rw [positional_text, positional_text] at h
      have hrx := rounds_shortest hx (Nat.pos_of_ne_zero hxz)
      have hry := rounds_shortest hy (Nat.pos_of_ne_zero hyz)
      exact Binary.eq_of_rounds hx hy (h ▸ hrx) hry

theorem not_isNaN_of_isFinite {x : Float32} (h : x.isFinite = true) :
    x.isNaN = false ∧ x.isInf = false := by
  unfold Float32.isFinite Float32.Model.isFinite at h
  unfold Float32.isNaN Float32.isInf Float32.Model.isNaN Float32.Model.isInf
  revert h
  cases x.toModel.unpack <;>
    simp [Float.Model.UnpackedFloat.isFinite, Float.Model.UnpackedFloat.isNaN,
      Float.Model.UnpackedFloat.isInf]

/-- The literal of a finite float: a sign, and digits that denote its magnitude. -/
theorem floatLiteral_toList {x : Float32} (h : x.isFinite = true) :
    ∃ digits, (floatLiteral x).toList = (if signBit x then ['-'] else []) ++ digits ∧
      (∀ c ∈ digits, c.isDigit = true ∨ c = '.') ∧
      positional digits = positional (magnitude x).toList := by
  obtain ⟨hnan, hinf⟩ := not_isNaN_of_isFinite h
  have hdigits : ∀ c ∈ (magnitude x).toList, c.isDigit = true ∨ c = '.' :=
    magnitude_forall (p := fun c => c.isDigit = true ∨ c = '.') (fun _ => Or.inl) (Or.inr rfl) x
  have htext : (decimalText x).toList =
      (if signBit x then ['-'] else []) ++ (magnitude x).toList := by
    simp only [decimalText, hnan, hinf, Bool.false_eq_true, if_false, String.toList_append]
    congr 1
    split <;> rfl
  simp only [floatLiteral, hnan, hinf, Bool.false_eq_true, if_false]
  split
  next => exact ⟨_, htext, hdigits, rfl⟩
  next hpoint =>
    have hwhole : '.' ∉ (magnitude x).toList := by
      rw [String.contains_char_eq, decide_eq_true_eq, htext] at hpoint
      exact fun hmem => hpoint (List.mem_append_right _ hmem)
    refine ⟨(magnitude x).toList ++ ['.', '0'], ?_, ?_, positional_append_zero hwhole⟩
    · rw [String.toList_append, htext, List.append_assoc]
      rfl
    · exact List.forall_mem_append.mpr ⟨hdigits, by simp⟩

/-- Different finite floats have different literals. -/
theorem floatLiteral_inj {x y : Float32} (hx : x.isFinite = true) (hy : y.isFinite = true)
    (h : floatLiteral x = floatLiteral y) : x = y := by
  obtain ⟨dx, hdx, hfx, hpx⟩ := floatLiteral_toList hx
  obtain ⟨dy, hdy, hfy, hpy⟩ := floatLiteral_toList hy
  have hnosign : ∀ {ds : List Char}, (∀ c ∈ ds, c.isDigit = true ∨ c = '.') → '-' ∉ ds :=
    fun hds hmem => absurd (hds _ hmem) (by decide)
  rw [h, hdy] at hdx
  have hparts : signBit x = signBit y ∧ dx = dy := by
    cases hsx : signBit x <;> cases hsy : signBit y <;> simp [hsx, hsy] at hdx ⊢
    · exact hdx.symm
    · exact hnosign hfx (hdx ▸ List.mem_cons_self)
    · exact hnosign hfy (hdx ▸ List.mem_cons_self)
    · exact hdx.symm
  refine eq_of_binaryOfBits hparts.1 (binaryOfBits_eq_of_positional ?_)
  rw [← hpx, ← hpy, hparts.2]

/-- Whether a float is finite and not negative zero. -/
def ordinary (x : Float32) : Bool := x.isFinite && x.toBits != 0x80000000

theorem isFinite_of_ordinary {x : Float32} (h : ordinary x = true) : x.isFinite = true :=
  (Bool.and_eq_true_iff.mp h).1

/-- Among ordinary floats only equal ones compare as equal. -/
theorem eq_of_beq_of_ordinary {x y : Float32} (hx : ordinary x = true) (hy : ordinary y = true)
    (h : (x == y) = true) : x = y := by
  have hzero : ∀ {z : Float32}, ordinary z = true → z ≠ -0 := by
    rintro z hz rfl
    exact absurd hz (by decide +kernel)
  obtain ⟨-, -, heq | ⟨-, heq⟩ | ⟨heq, -⟩⟩ := Float32.beq_iff_ne_nan_and_eq.mp h
  · exact heq
  · exact absurd heq (hzero hy)
  · exact absurd heq (hzero hx)

end ImplicitScene
