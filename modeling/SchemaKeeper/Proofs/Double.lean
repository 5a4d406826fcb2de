import Mathlib.Algebra.Order.Field.Power
import Mathlib.Algebra.Order.Ring.Abs
import Mathlib.Algebra.Ring.Parity
import Mathlib.Data.Rat.Lemmas
import Mathlib.Tactic.FieldSimp
import Mathlib.Tactic.Linarith
import Mathlib.Tactic.NormNum
import Mathlib.Tactic.Positivity
import Mathlib.Tactic.Ring
import SchemaKeeper.Double

/-!
# Rounding

A double stands for a rational number, and a ratio is rounded to the double that
is nearest to it, of two that are equally near to the one with the even mantissa.
All doubles at or above a power of two are multiples of one grid width, so the
nearest whole number of widths is the nearest double; what lies on a finer grid is
smaller than that.  A number that is a double is therefore rounded to itself.
-/

namespace SchemaKeeper.Double

/-! ## Values -/

def signedMantissa (x : Double) : Int :=
  if x.negative then -x.mantissa else x.mantissa

def value (x : Double) : ℚ :=
  x.signedMantissa * 2 ^ x.exponent

/-- A double that there is: its mantissa and its exponent are in range. -/
structure Fits (x : Double) : Prop where
  mantissa_lt : x.mantissa < 2 ^ precision
  least_le : leastExponent ≤ x.exponent
  le_greatest : x.exponent ≤ greatestExponent

/-- The mantissa is as long as it can be, so that no other double has the same value. -/
structure Canonical (x : Double) : Prop extends Fits x where
  normal : 2 ^ (precision - 1) ≤ x.mantissa ∨ x.exponent = leastExponent

/-- The double to round to; where another one is equally near, the mantissa is even. -/
structure Nearest (q : ℚ) (x : Double) : Prop where
  le : ∀ y : Double, y.Fits → |x.value - q| ≤ |y.value - q|
  even : ∀ y : Double, y.Fits → |x.value - q| = |y.value - q| → y.value ≠ x.value →
    Even x.mantissa

theorem value_zero (negative : Bool) : (zero negative).value = 0 := by
  cases negative <;> simp [zero, value, signedMantissa]

theorem canonical_zero (negative : Bool) : (zero negative).Canonical where
  mantissa_lt := by simp [zero, precision]
  least_le := Int.le_refl _
  le_greatest := by simp [zero, leastExponent, greatestExponent]
  normal := .inr rfl

theorem Canonical.withSign {x : Double} (h : x.Canonical) (negative : Bool) :
    Canonical { x with negative } :=
  ⟨⟨h.mantissa_lt, h.least_le, h.le_greatest⟩, h.normal⟩

theorem natAbs_signedMantissa (x : Double) : x.signedMantissa.natAbs = x.mantissa := by
  unfold signedMantissa
  split <;> simp

theorem isZero_iff {x : Double} : x.isZero = true ↔ x.value = 0 := by
  have hpower : (2 : ℚ) ^ x.exponent ≠ 0 := by positivity
  rw [value, mul_eq_zero, or_iff_left hpower, Int.cast_eq_zero, ← Int.natAbs_eq_zero,
    natAbs_signedMantissa, isZero, beq_iff_eq]

/-- Of two canonical doubles with one value none has the lower exponent. -/
theorem exponent_le_of_value_eq {x y : Double} (hx : x.Canonical) (hy : y.Canonical)
    (hvalue : x.value = y.value) : y.exponent ≤ x.exponent := by
  by_contra hlt
  obtain ⟨k, hk⟩ : ∃ k : Nat, y.exponent = x.exponent + (k + 1) :=
    ⟨(y.exponent - x.exponent - 1).toNat, by omega⟩
  have hpower : (2 : ℚ) ^ x.exponent ≠ 0 := by positivity
  have hmantissa : (x.signedMantissa : ℚ) = y.signedMantissa * 2 ^ (k + 1) := by
    refine mul_right_cancel₀ hpower ?_
    calc (x.signedMantissa : ℚ) * 2 ^ x.exponent = y.signedMantissa * 2 ^ y.exponent := hvalue
      _ = y.signedMantissa * 2 ^ (k + 1) * 2 ^ x.exponent := by
        have hcast : (2 : ℚ) ^ ((k : ℤ) + 1) = 2 ^ (k + 1) := by
          exact_mod_cast zpow_natCast (2 : ℚ) (k + 1)
        rw [hk, zpow_add₀ two_ne_zero, hcast]
        ring
  have hnat : x.mantissa = y.mantissa * 2 ^ (k + 1) := by
    rw [← natAbs_signedMantissa x, ← natAbs_signedMantissa y, (by exact_mod_cast hmantissa :
      x.signedMantissa = y.signedMantissa * 2 ^ (k + 1)), Int.natAbs_mul]
    simp [Int.natAbs_pow]
  have hnormal : 2 ^ (precision - 1) ≤ y.mantissa := by
    refine hy.normal.resolve_right fun hleast => ?_
    have := hx.least_le
    omega
  have hlong : 2 ^ (precision - 1) * 2 ^ 1 ≤ y.mantissa * 2 ^ (k + 1) :=
    Nat.mul_le_mul hnormal (Nat.pow_le_pow_right (by decide) (by omega))
  have hbound := hx.mantissa_lt
  rw [hnat] at hbound
  exact absurd (Nat.lt_of_le_of_lt hlong hbound) (by decide)

/-- Canonical doubles are compared by value. -/
theorem sameValue_iff {x y : Double} (hx : x.Canonical) (hy : y.Canonical) :
    x.sameValue y = true ↔ x.value = y.value := by
  by_cases hzero : x.value = 0
  · have hxzero : x.isZero = true := isZero_iff.mpr hzero
    rw [hzero, eq_comm (a := (0 : ℚ)), ← isZero_iff, sameValue, hxzero]
    constructor
    · intro h
      rcases Bool.or_eq_true_iff.mp h with h | h
      · simpa using h
      · rw [← beq_iff_eq.mp h, hxzero]
    · intro h
      simp [h]
  · have hxzero : x.isZero = false := by
      rw [← Bool.not_eq_true, isZero_iff]
      exact hzero
    rw [sameValue, hxzero, Bool.false_and, Bool.false_or, beq_iff_eq]
    refine ⟨fun h => h ▸ rfl, fun h => ?_⟩
    have hexponent : x.exponent = y.exponent :=
      Int.le_antisymm (exponent_le_of_value_eq hy hx h.symm) (exponent_le_of_value_eq hx hy h)
    have hpower : (2 : ℚ) ^ x.exponent ≠ 0 := by positivity
    have hsigned : x.signedMantissa = y.signedMantissa := by
      rw [value, value, ← hexponent] at h
      exact_mod_cast mul_right_cancel₀ hpower h
    have hmantissa : x.mantissa = y.mantissa := by
      rw [← natAbs_signedMantissa x, hsigned, natAbs_signedMantissa]
    have hpositive : x.mantissa ≠ 0 := fun hnone => hzero (by simp [value, signedMantissa, hnone])
    have hnegative : x.negative = y.negative := by
      unfold signedMantissa at hsigned
      cases hxneg : x.negative <;> cases hyneg : y.negative <;> simp_all
    cases x
    cases y
    simp_all

/-! ## Whole numbers of grid widths -/

theorem roundHalfEven_cases (num den : Nat) :
    (roundHalfEven num den = num / den ∧ 2 * (num % den) ≤ den ∨
      roundHalfEven num den = num / den + 1 ∧ den ≤ 2 * (num % den)) ∧
    (2 * (num % den) = den → Even (roundHalfEven num den)) := by
  simp only [roundHalfEven, Bool.or_eq_true, decide_eq_true_eq, Bool.and_eq_true, beq_iff_eq,
    Nat.even_iff]
  split <;> omega

/-- The nearest whole number is half a width off at most, and is even if it is as much. -/
theorem roundHalfEven_near (num : Nat) {den : Nat} (hden : den ≠ 0) :
    |(roundHalfEven num den : ℚ) - num / den| ≤ 1 / 2 ∧
      (|(roundHalfEven num den : ℚ) - num / den| = 1 / 2 → Even (roundHalfEven num den)) := by
  have hpos : (0 : ℚ) < den := by positivity
  obtain ⟨hcases, htie⟩ := roundHalfEven_cases num den
  have hwhole : (num : ℚ) = den * (num / den : Nat) + (num % den : Nat) := by
    exact_mod_cast (Nat.div_add_mod num den).symm
  have hless : ((num % den : Nat) : ℚ) < den := by
    exact_mod_cast Nat.mod_lt num (Nat.pos_of_ne_zero hden)
  have heven (h : 2 * ((num % den : Nat) : ℚ) = den) : Even (roundHalfEven num den) :=
    htie (by exact_mod_cast h)
  rcases hcases with ⟨hstay, hlow⟩ | ⟨hup, hhigh⟩
  · have hoff : (roundHalfEven num den : ℚ) - num / den = -((num % den : Nat) / den) := by
      rw [hstay, hwhole]
      field_simp
      ring
    have hlow : 2 * ((num % den : Nat) : ℚ) ≤ den := by exact_mod_cast hlow
    rw [hoff, abs_neg, abs_of_nonneg (by positivity), div_le_div_iff₀ hpos two_pos,
      div_eq_div_iff hpos.ne' two_ne_zero]
    exact ⟨by linarith, fun h => heven (by linarith)⟩
  · have hoff : (roundHalfEven num den : ℚ) - num / den = (den - (num % den : Nat)) / den := by
      rw [hup, hwhole]
      push_cast
      field_simp
      ring
    have hhigh : (den : ℚ) ≤ 2 * (num % den : Nat) := by exact_mod_cast hhigh
    rw [hoff, abs_of_nonneg (div_nonneg (by linarith) hpos.le), div_le_div_iff₀ hpos two_pos,
      div_eq_div_iff hpos.ne' two_ne_zero]
    exact ⟨by linarith, fun h => heven (by linarith)⟩

/-- What is half a width off at most is nearest among the whole numbers. -/
theorem near_le {t : ℚ} {r : ℤ} (h : |r - t| ≤ 1 / 2) (k : ℤ) :
    |r - t| ≤ |k - t| ∧ (|r - t| = |k - t| → k ≠ r → |r - t| = 1 / 2) := by
  by_cases hk : k = r
  · subst hk
    exact ⟨le_refl _, fun _ hne => absurd rfl hne⟩
  · have hapart : (1 : ℚ) ≤ |(k : ℚ) - r| := by
      exact_mod_cast Int.one_le_abs (sub_ne_zero.mpr hk)
    have htriangle : |(k : ℚ) - r| ≤ |k - t| + |r - t| := by
      rw [abs_sub_comm (r : ℚ) t]
      exact abs_sub_le _ _ _
    exact ⟨by linarith, fun heq _ => by linarith⟩

/-- Doubles on a grid that is finer lie below the power of two at which this one begins. -/
theorem abs_value_lt {y : Double} (hy : y.Fits) {exponent : Int} (h : y.exponent < exponent) :
    |y.value| < 2 ^ (precision - 1) * 2 ^ exponent := by
  have hmantissa : |(y.signedMantissa : ℚ)| < 2 ^ precision := by
    rw [← Int.cast_abs, Int.abs_eq_natAbs, natAbs_signedMantissa]
    exact_mod_cast hy.mantissa_lt
  have hfiner : (2 : ℚ) ^ y.exponent ≤ 2 ^ (exponent - 1) :=
    zpow_le_zpow_right₀ one_le_two (by omega)
  calc |y.value| = |(y.signedMantissa : ℚ)| * 2 ^ y.exponent := by
        rw [value, abs_mul, abs_of_pos (a := (2 : ℚ) ^ y.exponent) (by positivity)]
    _ < 2 ^ precision * 2 ^ y.exponent := by gcongr
    _ ≤ 2 ^ precision * 2 ^ (exponent - 1) := by gcongr
    _ = 2 ^ (precision - 1) * 2 ^ exponent := by
        rw [zpow_sub_one₀ two_ne_zero, precision]
        ring

theorem near_le_sub {t : ℚ} {r : ℤ} (h : |r - t| ≤ 1 / 2) (bound : ℕ) (hbound : bound ≤ |t|) :
    |r - t| ≤ |t| - bound := by
  -- the bound is a whole number itself, so it is no nearer
  rcases abs_cases t with ⟨habs, -⟩ | ⟨habs, -⟩
  · have hnear := (near_le h bound).1
    rw [habs] at hbound ⊢
    push_cast at hnear
    rwa [abs_of_nonpos (a := (bound : ℚ) - t) (by linarith), neg_sub] at hnear
  · have hnear := (near_le h (-bound)).1
    rw [habs] at hbound ⊢
    push_cast at hnear
    rw [abs_of_nonneg (a := -(bound : ℚ) - t) (by linarith)] at hnear
    linarith

/--
A whole number of widths that is half a width off at most is nearest among all
doubles, unless finer doubles reach as far.
-/
theorem nearest_of_near {q : ℚ} {exponent r : ℤ} (hnear : |r - q / 2 ^ exponent| ≤ 1 / 2)
    (hcoarse : exponent = leastExponent ∨ 2 ^ (precision - 1) ≤ |q / 2 ^ exponent|)
    {y : Double} (hy : y.Fits) :
    |r * 2 ^ exponent - q| ≤ |y.value - q| ∧
      (|r * 2 ^ exponent - q| = |y.value - q| → y.value ≠ r * 2 ^ exponent →
        |r - q / 2 ^ exponent| = 1 / 2) := by
  have hwidth : (0 : ℚ) < 2 ^ exponent := by positivity
  obtain ⟨t, rfl⟩ : ∃ t, q = t * 2 ^ exponent := ⟨q / 2 ^ exponent, by field_simp⟩
  rw [mul_div_cancel_right₀ _ hwidth.ne'] at hnear hcoarse ⊢
  have hscale (a : ℚ) : |a * 2 ^ exponent - t * 2 ^ exponent| = |a - t| * 2 ^ exponent := by
    rw [← sub_mul, abs_mul, abs_of_pos hwidth]
  by_cases hcoarser : exponent ≤ y.exponent
  · -- a double on this grid or on a coarser one is a whole number of widths
    obtain ⟨k, hk⟩ : ∃ k : Nat, y.exponent = exponent + k :=
      ⟨(y.exponent - exponent).toNat, by omega⟩
    have hvalue : y.value = (y.signedMantissa * 2 ^ k : ℤ) * 2 ^ exponent := by
      rw [value, hk, zpow_add₀ two_ne_zero, zpow_natCast]
      push_cast
      ring
    obtain ⟨hle, htie⟩ := near_le hnear (y.signedMantissa * 2 ^ k)
    rw [hvalue, hscale, hscale]
    refine ⟨mul_le_mul_of_nonneg_right hle hwidth.le, fun heq hne => htie ?_ fun hsame => ?_⟩
    · exact mul_right_cancel₀ hwidth.ne' heq
    · exact hne (by rw [hsame])
  · -- the others are too small to come as near
    have hlarge : (2 : ℚ) ^ (precision - 1) ≤ |t| := by
      refine hcoarse.resolve_left fun hleast => ?_
      have := hy.least_le
      omega
    have hsmall := abs_value_lt hy (not_le.mp hcoarser)
    have hnear' : |r - t| ≤ |t| - 2 ^ (precision - 1) := by
      exact_mod_cast near_le_sub hnear (2 ^ (precision - 1)) (by exact_mod_cast hlarge)
    have hfar : |r - t| * 2 ^ exponent < |y.value - t * 2 ^ exponent| :=
      calc |r - t| * 2 ^ exponent ≤ (|t| - 2 ^ (precision - 1)) * 2 ^ exponent :=
            mul_le_mul_of_nonneg_right hnear' hwidth.le
        _ = |t * 2 ^ exponent| - 2 ^ (precision - 1) * 2 ^ exponent := by
            rw [abs_mul, abs_of_pos hwidth, sub_mul]
        _ < |t * 2 ^ exponent| - |y.value| := by linarith
        _ ≤ |y.value - t * 2 ^ exponent| := by
            rw [abs_sub_comm]
            exact abs_sub_abs_le_abs_sub _ _
    rw [hscale]
    exact ⟨hfar.le, fun heq => absurd heq hfar.ne⟩

/-! ## Ratios -/

theorem scaled_ratio (num : Nat) {den : Nat} (hden : den ≠ 0) (exponent : Int) :
    (scaled num den exponent).2 ≠ 0 ∧
      ((scaled num den exponent).1 : ℚ) / (scaled num den exponent).2 =
        num / den / 2 ^ exponent := by
  have hpow (k : Nat) : ((Nat.pow 2 k : Nat) : ℚ) = 2 ^ k := Nat.cast_pow 2 k
  unfold scaled
  split
  next h =>
    obtain ⟨k, rfl⟩ := Int.eq_ofNat_of_zero_le h
    refine ⟨Nat.mul_ne_zero hden (Nat.pow_pos two_pos).ne', ?_⟩
    rw [Int.toNat_natCast, zpow_natCast, div_div, Nat.cast_mul, hpow]
  next h =>
    obtain ⟨k, rfl⟩ : ∃ k : Nat, exponent = -k := ⟨exponent.natAbs, by omega⟩
    refine ⟨hden, ?_⟩
    rw [neg_neg, Int.toNat_natCast, zpow_neg, zpow_natCast, div_inv_eq_mul, div_mul_eq_mul_div,
      Nat.cast_mul, hpow]

theorem ratio_bounds {num den : Nat} (hnum : num ≠ 0) (hden : den ≠ 0) :
    (2 : ℚ) ^ ((Nat.log2 num : Int) - Nat.log2 den - 1) < num / den ∧
      (num : ℚ) / den < 2 ^ ((Nat.log2 num : Int) - Nat.log2 den + 1) := by
  have hpos : (0 : ℚ) < den := by positivity
  have hnumLow : (2 : ℚ) ^ Nat.log2 num ≤ num := by exact_mod_cast Nat.log2_self_le hnum
  have hnumHigh : (num : ℚ) < 2 ^ (Nat.log2 num + 1) := by exact_mod_cast Nat.lt_log2_self
  have hdenLow : (2 : ℚ) ^ Nat.log2 den ≤ den := by exact_mod_cast Nat.log2_self_le hden
  have hdenHigh : (den : ℚ) < 2 ^ (Nat.log2 den + 1) := by exact_mod_cast Nat.lt_log2_self
  constructor
  · rw [lt_div_iff₀ hpos]
    calc (2 : ℚ) ^ ((Nat.log2 num : Int) - Nat.log2 den - 1) * den
        < 2 ^ ((Nat.log2 num : Int) - Nat.log2 den - 1) * 2 ^ (Nat.log2 den + 1) := by gcongr
      _ = 2 ^ Nat.log2 num := by
          rw [← zpow_natCast, ← zpow_natCast, ← zpow_add₀ two_ne_zero]
          congr 1
          push_cast
          ring
      _ ≤ num := hnumLow
  · rw [div_lt_iff₀ hpos]
    calc (num : ℚ) < 2 ^ (Nat.log2 num + 1) := hnumHigh
      _ = 2 ^ ((Nat.log2 num : Int) - Nat.log2 den + 1) * 2 ^ Nat.log2 den := by
          rw [← zpow_natCast, ← zpow_natCast, ← zpow_add₀ two_ne_zero]
          congr 1
          push_cast
          ring
      _ ≤ 2 ^ ((Nat.log2 num : Int) - Nat.log2 den + 1) * den := by gcongr

/-- A grid on which a ratio fills the mantissa, or the finest grid there is. -/
structure Suits (q : ℚ) (exponent : Int) : Prop where
  least_le : leastExponent ≤ exponent
  lt : q / 2 ^ exponent < 2 ^ precision
  coarse : exponent = leastExponent ∨ 2 ^ (precision - 1) ≤ q / 2 ^ exponent

theorem suits_exponentFor {num den : Nat} (hnum : num ≠ 0) (hden : den ≠ 0) :
    Suits (num / den) (exponentFor num den) := by
  obtain ⟨hlow, hhigh⟩ := ratio_bounds hnum hden
  obtain ⟨guess, hguess⟩ : ∃ guess, guess =
    max leastExponent ((Nat.log2 num : Int) - Nat.log2 den - precision) := ⟨_, rfl⟩
  have hwidth : (0 : ℚ) < 2 ^ guess := by positivity
  obtain ⟨hne, hratio⟩ := scaled_ratio num hden guess
  have hfits : (scaled num den guess).1 / (scaled num den guess).2 < Nat.pow 2 precision ↔
      (num : ℚ) / den / 2 ^ guess < 2 ^ precision := by
    have hpos : (0 : ℚ) < (scaled num den guess).2 := by positivity
    rw [← hratio, div_lt_iff₀ hpos, Nat.div_lt_iff_lt_mul (Nat.pos_of_ne_zero hne)]
    exact_mod_cast Iff.rfl
  -- the lengths in binary tell the exponent up to one
  have hexponent : exponentFor num den =
      if (num : ℚ) / den / 2 ^ guess < 2 ^ precision then guess else guess + 1 := by
    simp only [exponentFor, ← hguess, hfits]
  have hleast : leastExponent ≤ guess := hguess ▸ le_max_left _ _
  have hpower (k : Nat) : (2 : ℚ) ^ k * 2 ^ guess = 2 ^ (k + guess) := by
    rw [zpow_add₀ two_ne_zero, zpow_natCast]
  rw [hexponent]
  split
  next hfit =>
    refine ⟨hleast, hfit, or_iff_not_imp_left.mpr fun hfine => ?_⟩
    have hexact : guess = (Nat.log2 num : Int) - Nat.log2 den - precision := by omega
    rw [le_div_iff₀ hwidth, hpower, hexact]
    refine le_trans (zpow_le_zpow_right₀ one_le_two ?_) hlow.le
    simp only [precision]
    omega
  next hlong =>
    have hnext : (2 : ℚ) ^ (guess + 1) = 2 ^ guess * 2 := zpow_add_one₀ two_ne_zero guess
    rw [not_lt, le_div_iff₀ hwidth] at hlong
    refine ⟨by omega, ?_, .inr ?_⟩
    · rw [div_lt_iff₀ (by positivity), hnext, ← mul_assoc, hpower, ← zpow_add_one₀ two_ne_zero]
      refine lt_of_lt_of_le hhigh (zpow_le_zpow_right₀ one_le_two ?_)
      omega
    · rw [le_div_iff₀ (by positivity), hnext]
      calc (2 : ℚ) ^ (precision - 1) * (2 ^ guess * 2) = 2 ^ precision * 2 ^ guess := by
            rw [precision]
            ring
        _ ≤ num / den := hlong

def withSign (negative : Bool) (q : ℚ) : ℚ :=
  if negative then -q else q

theorem abs_withSign_sub (negative : Bool) (p q : ℚ) :
    |withSign negative p - withSign negative q| = |p - q| := by
  cases negative
  · rfl
  · simp only [withSign, if_true, neg_sub_neg]
    exact abs_sub_comm q p

@[simp] theorem abs_withSign (negative : Bool) (q : ℚ) : |withSign negative q| = |q| := by
  cases negative
  · rfl
  · exact abs_neg q

theorem withSign_div (negative : Bool) (p q : ℚ) :
    withSign negative (p / q) = withSign negative p / q := by
  cases negative
  · rfl
  · exact (neg_div q p).symm

/-- A mantissa that does not fit is the next power of two, on the next grid. -/
def carried (negative : Bool) (mantissa : Nat) (exponent : Int) : Double :=
  if mantissa = 2 ^ precision then ⟨negative, 2 ^ (precision - 1), exponent + 1⟩
  else ⟨negative, mantissa, exponent⟩

theorem value_carried (negative : Bool) (mantissa : Nat) (exponent : Int) :
    (carried negative mantissa exponent).value = withSign negative mantissa * 2 ^ exponent := by
  have hnext : (2 : ℚ) ^ (exponent + 1) = 2 ^ exponent * 2 := zpow_add_one₀ two_ne_zero exponent
  unfold carried
  split
  next h =>
    subst h
    cases negative <;> simp [value, signedMantissa, withSign, hnext, precision] <;> ring
  next => cases negative <;> simp [value, signedMantissa, withSign]

theorem ofRatio_of_ne_zero (negative : Bool) {num : Nat} (den : Nat) (hnum : num ≠ 0) :
    ofRatio negative num den =
      let exponent := exponentFor num den
      let (n, d) := scaled num den exponent
      let x := carried negative (roundHalfEven n d) exponent
      if x.exponent > greatestExponent then none else some x := by
  simp only [ofRatio, carried, beq_iff_eq, hnum, if_false, Nat.pow_eq]
  split <;> rfl

theorem canonical_carried {negative : Bool} {m : Nat} {q : ℚ} {exponent : Int}
    (h : Suits q exponent) (hnear : |(m : ℚ) - q / 2 ^ exponent| ≤ 1 / 2)
    (hgreatest : (carried negative m exponent).exponent ≤ greatestExponent) :
    (carried negative m exponent).Canonical := by
  obtain ⟨hlow, hhigh⟩ := abs_le.mp hnear
  have hmost : m < 2 ^ precision + 1 := by
    have hlt := h.lt
    have hcast : (m : ℚ) < 2 ^ precision + 1 := by linarith
    exact_mod_cast hcast
  have hnormal : 2 ^ (precision - 1) ≤ m ∨ exponent = leastExponent := by
    refine h.coarse.symm.imp_left fun hcoarse => Nat.le_of_lt_succ ?_
    have hcast : (2 : ℚ) ^ (precision - 1) < m + 1 := by linarith
    exact_mod_cast hcast
  unfold carried at hgreatest ⊢
  split
  next hcarry =>
    rw [if_pos hcarry] at hgreatest
    have hshorter : 2 ^ (precision - 1) < 2 ^ precision := by decide
    exact ⟨⟨hshorter, Int.le_add_one h.least_le, hgreatest⟩, .inl (Nat.le_refl _)⟩
  next hstay =>
    rw [if_neg hstay] at hgreatest
    have hlt : m < 2 ^ precision := Nat.lt_of_le_of_ne (Nat.le_of_lt_succ hmost) hstay
    exact ⟨⟨hlt, h.least_le, hgreatest⟩, hnormal⟩

theorem even_carried {negative : Bool} {m : Nat} {exponent : Int} (h : Even m) :
    Even (carried negative m exponent).mantissa := by
  have htop : Even (2 ^ (precision - 1)) := by decide
  unfold carried
  split
  · exact htop
  · exact h

/-- Rounding gives the canonical double that is nearest, if it is not too large. -/
theorem ofRatio_nearest {negative : Bool} {num den : Nat} (hden : den ≠ 0) {x : Double}
    (h : ofRatio negative num den = some x) :
    x.Canonical ∧ Nearest (withSign negative (num / den)) x := by
  by_cases hnum : num = 0
  · subst hnum
    obtain rfl : zero negative = x := by simpa [ofRatio] using h
    refine ⟨canonical_zero negative, fun y _ => ?_, fun _ _ _ _ => ⟨0, rfl⟩⟩
    have hzero : withSign negative ((0 : Nat) / den) = 0 := by cases negative <;> simp [withSign]
    rw [value_zero, hzero, sub_self, abs_zero]
    exact abs_nonneg _
  · obtain ⟨hleast, hlt, hcoarse⟩ := suits_exponentFor hnum hden
    obtain ⟨hne, hratio⟩ := scaled_ratio num hden (exponentFor num den)
    obtain ⟨hnear, heven⟩ := roundHalfEven_near (scaled num den (exponentFor num den)).1 hne
    rw [ofRatio_of_ne_zero negative den hnum] at h
    simp only [gt_iff_lt, Option.ite_none_left_eq_some, not_lt, Option.some.injEq] at h
    obtain ⟨hgreatest, rfl⟩ := h
    rw [hratio] at hnear heven
    generalize exponentFor num den = exponent at *
    generalize roundHalfEven (scaled num den exponent).1 (scaled num den exponent).2 = m at *
    refine ⟨canonical_carried ⟨hleast, hlt, hcoarse⟩ hnear hgreatest, ?_⟩
    -- the sign is put aside, for distances do not depend on it
    obtain ⟨r, hr⟩ : ∃ r : ℤ, (r : ℚ) = withSign negative m :=
      ⟨if negative then -m else m, by cases negative <;> simp [withSign]⟩
    have hoff : |r - withSign negative (num / den) / 2 ^ exponent| =
        |m - (num : ℚ) / den / 2 ^ exponent| := by
      rw [hr, ← withSign_div, abs_withSign_sub]
    have hcoarse : exponent = leastExponent ∨
        2 ^ (precision - 1) ≤ |withSign negative (num / den) / 2 ^ exponent| := by
      refine hcoarse.imp_right fun h => h.trans ?_
      rw [← withSign_div, abs_withSign]
      exact le_abs_self _
    have hall {y : Double} (hy : y.Fits) := nearest_of_near (hoff ▸ hnear) hcoarse hy
    refine ⟨fun y hy => ?_, fun y hy heq hne => ?_⟩
    · rw [value_carried, ← hr]
      exact (hall hy).1
    · rw [value_carried, ← hr] at heq hne
      exact even_carried (heven (hoff ▸ (hall hy).2 heq hne))

/-- What is a double already is not changed by rounding. -/
theorem Nearest.value_eq {q : ℚ} {x y : Double} (h : Nearest q x) (hy : y.Fits)
    (hvalue : y.value = q) : x.value = q := by
  have hle := h.le y hy
  rw [hvalue, sub_self, abs_zero] at hle
  exact sub_eq_zero.mp (abs_nonpos_iff.mp hle)

/-! ## Whole numbers -/

/-- Whole numbers of 64 bits are never too large. -/
theorem exists_ofRatio (negative : Bool) {num : Nat} (hmost : num ≤ 2 ^ 64) :
    ∃ x, ofRatio negative num 1 = some x := by
  by_cases hnum : num = 0
  · exact ⟨zero negative, by simp [ofRatio, hnum]⟩
  have hsuits := suits_exponentFor hnum one_ne_zero
  have hexponent : exponentFor num 1 ≤ 12 := by
    rcases hsuits.coarse with hleast | hcoarse
    · rw [hleast]
      decide
    · by_contra hlarge
      have hwidth : (0 : ℚ) < 2 ^ exponentFor num 1 := by positivity
      have hpower : (2 : ℚ) ^ (13 : ℤ) ≤ 2 ^ exponentFor num 1 :=
        zpow_le_zpow_right₀ one_le_two (by omega)
      have hbound : (num : ℚ) ≤ 2 ^ 64 := by exact_mod_cast hmost
      rw [Nat.cast_one, div_one, le_div_iff₀ hwidth] at hcoarse
      have hlow : (2 : ℚ) ^ (precision - 1) * 2 ^ (13 : ℤ) ≤ 2 ^ 64 :=
        le_trans (by gcongr) (hcoarse.trans hbound)
      norm_num [precision] at hlow
  rw [ofRatio_of_ne_zero negative 1 hnum]
  dsimp only
  refine ⟨_, if_neg ?_⟩
  unfold carried greatestExponent
  split <;> dsimp only <;> omega

theorem withSign_natAbs (n : Int) : withSign (decide (n < 0)) n.natAbs = n := by
  by_cases hneg : n < 0
  · simp only [withSign, hneg, decide_true, if_true]
    rw [← Int.cast_natCast, Int.ofNat_natAbs_of_nonpos hneg.le]
    simp
  · simp only [withSign, hneg, decide_false, Bool.false_eq_true, if_false]
    rw [← Int.cast_natCast, Int.natAbs_of_nonneg (not_lt.mp hneg)]

theorem ofInt_nearest {n : Int} (h : n.natAbs ≤ 2 ^ 64) :
    (ofInt n).Canonical ∧ Nearest n (ofInt n) := by
  obtain ⟨x, hx⟩ := exists_ofRatio (decide (n < 0)) h
  have hvalue : withSign (decide (n < 0)) ((n.natAbs : ℕ) / (1 : ℕ)) = n := by
    rw [Nat.cast_one, div_one, withSign_natAbs]
  rw [ofInt, hx, ← hvalue]
  exact ofRatio_nearest one_ne_zero hx

theorem value_ofInt {n : Int} (h : n.natAbs ≤ 2 ^ 64) {x : Double} (hx : x.Fits)
    (hvalue : x.value = n) : (ofInt n).value = n :=
  (ofInt_nearest h).2.value_eq hx hvalue

/-- Whole numbers up to the length of a mantissa are doubles. -/
theorem value_ofInt_of_le {n : Int} (h : n.natAbs ≤ 2 ^ precision) : (ofInt n).value = n := by
  have hfits : (carried (decide (n < 0)) n.natAbs 0).Fits := by
    have hshorter : 2 ^ (precision - 1) < 2 ^ precision := by decide
    unfold carried
    split
    next => exact ⟨hshorter, by simp [leastExponent], by simp [greatestExponent]⟩
    next hne =>
      exact ⟨Nat.lt_of_le_of_ne h hne, by simp [leastExponent], by simp [greatestExponent]⟩
  refine value_ofInt (h.trans (Nat.pow_le_pow_right two_pos (by decide))) hfits ?_
  rw [value_carried, zpow_zero, mul_one, withSign_natAbs]

/-! ## Products and quotients -/

theorem ratio_ne_zero (x : Double) : x.ratio.2 ≠ 0 := by
  unfold ratio
  split
  · exact one_ne_zero
  · exact (Nat.pow_pos two_pos).ne'

theorem ratio_eq_zero_iff {x : Double} : x.ratio.1 = 0 ↔ x.isZero = true := by
  unfold ratio isZero
  split <;> simp

theorem canonical_mul {x y z : Double} (h : x.mul y = some z) : z.Canonical :=
  (ofRatio_nearest (Nat.mul_ne_zero x.ratio_ne_zero y.ratio_ne_zero) h).1

theorem canonical_div {x y z : Double} (hy : y.isZero = false) (h : x.div y = some z) :
    z.Canonical := by
  refine (ofRatio_nearest (Nat.mul_ne_zero x.ratio_ne_zero fun hzero => ?_) h).1
  rw [ratio_eq_zero_iff.mp hzero] at hy
  cases hy

theorem powerOfTen_ne_zero {power : Nat} {x : Double} (h : powerOfTen power = some x) :
    x.isZero = false := by
  rw [← Bool.not_eq_true, isZero_iff]
  intro hzero
  -- one would be nearer than zero
  let one : Double := ⟨false, 1, 0⟩
  have hone : one.Fits := ⟨by decide, by decide, by decide⟩
  have hle := (ofRatio_nearest one_ne_zero h).2.le one hone
  have hpower : (1 : ℚ) ≤ Nat.pow 10 power := by
    exact_mod_cast Nat.one_le_pow power 10 (by decide)
  have hvalue : one.value = 1 := by simp [one, value, signedMantissa]
  simp only [withSign, Bool.false_eq_true, if_false, Nat.cast_one, div_one, hzero, hvalue,
    zero_sub, abs_neg] at hle
  rw [abs_of_nonneg (by linarith), abs_of_nonpos (by linarith)] at hle
  linarith

end SchemaKeeper.Double
