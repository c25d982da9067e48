import FilterQuery.Json.Number
import Mathlib.Algebra.Order.Field.Power
import Mathlib.Data.Rat.Cast.Order
import Mathlib.Tactic.Linarith
import Mathlib.Tactic.NormNum
import Mathlib.Tactic.Positivity
import Mathlib.Tactic.Ring

/-!
Doubles as the rational numbers that they denote, and the rounding of a fraction to a double. The
fraction is cut at the exponent where it fills a significand, or at the least one, and rounded to an
integer there. No double lies nearer to it, and only a number beyond the largest double has none.
A decimal is read by three such steps: one for its digits, one for the power of ten, and one for the
product or quotient of the two.
-/
namespace FilterQuery

namespace Double

/-- The number that a double denotes. -/
def value (d : Double) : ℚ :=
  (if d.negative then -1 else 1) * d.significand * 2 ^ d.exponent

theorem value_neg (d : Double) : d.neg.value = -d.value := by
  cases sign : d.negative <;> simp [value, neg, sign]

theorem abs_value (d : Double) : |d.value| = d.significand * 2 ^ d.exponent := by
  have nonneg : (0 : ℚ) ≤ d.significand * 2 ^ d.exponent := by positivity
  cases sign : d.negative <;> simp [value, sign, abs_of_nonneg nonneg]

theorem twoPow_cast (k : Nat) : (twoPow k : ℚ) = 2 ^ (k : Int) := by
  have power : twoPow k = 2 ^ k := rfl
  rw [power, Nat.cast_pow, Nat.cast_ofNat, zpow_natCast]

theorem leastFull_steps (exponent : Int) :
    (leastFull : ℚ) * 2 ^ exponent = 2 ^ (exponent + 52) := by
  rw [leastFull, twoPow_cast, add_comm, zpow_add₀ two_ne_zero]
  rfl

theorem precision_steps (exponent : Int) :
    (twoPow precision : ℚ) * 2 ^ exponent = 2 ^ (exponent + 53) := by
  rw [twoPow_cast, add_comm, zpow_add₀ two_ne_zero]
  rfl

theorem units_value (d : Double) {unit : Int} (fine : unit ≤ d.exponent) :
    (d.units unit : ℚ) * 2 ^ unit = d.value := by
  have shifted : (twoPow (d.exponent - unit).toNat : ℚ) * 2 ^ unit = 2 ^ d.exponent := by
    rw [twoPow_cast, Int.toNat_of_nonneg (by omega), ← zpow_add₀ two_ne_zero, Int.sub_add_cancel]
  cases sign : d.negative <;> simp [units, value, sign, mul_assoc, shifted]

theorem value_lt (d : Double) : d.value < 2 ^ (d.exponent + 53) := by
  have below : (d.significand : ℚ) < twoPow precision := by exact_mod_cast d.fits.1
  have step : (0 : ℚ) < 2 ^ d.exponent := by positivity
  have nonneg : (0 : ℚ) ≤ d.significand * 2 ^ d.exponent := by positivity
  have magnitude : (d.significand : ℚ) * 2 ^ d.exponent < twoPow precision * 2 ^ d.exponent :=
    mul_lt_mul_of_pos_right below step
  rw [← precision_steps, value]
  split <;> linarith

/-- No double is nearer to the number, and none as near unless the significand is even. -/
def Rounds (x : ℚ) (d : Double) : Prop :=
  ∀ g : Double, |d.value - x| ≤ |g.value - x| ∧
    (|g.value - x| = |d.value - x| → g.value = d.value ∨ d.significand % 2 = 0)

section Bounds

variable {x : ℚ} {d g : Double} (rounds : Rounds x d)

include rounds

theorem Rounds.le (below : x ≤ g.value) : d.value ≤ g.value := by
  obtain ⟨near, -⟩ := rounds g
  rw [abs_of_nonneg (sub_nonneg.mpr below)] at near
  linarith [(abs_le.mp near).2]

theorem Rounds.ge (above : g.value ≤ x) : g.value ≤ d.value := by
  obtain ⟨near, -⟩ := rounds g
  rw [abs_of_nonpos (sub_nonpos.mpr above)] at near
  linarith [(abs_le.mp near).1]

theorem Rounds.nonneg (natural : 0 ≤ x) : 0 ≤ d.value := by
  have origin : zero.value = 0 := by simp [zero, value]
  exact origin ▸ rounds.ge (origin.trans_le natural)

end Bounds

/-- The number `num / den * 2 ^ shift`. -/
def ratio (num den : Nat) (shift : Int) : ℚ := num / den * 2 ^ shift

theorem ratio_shift (num den : Nat) (shift unit : Int) :
    ratio num den (shift - unit) * 2 ^ unit = ratio num den shift := by
  rw [ratio, mul_assoc, ← zpow_add₀ two_ne_zero, Int.sub_add_cancel, ratio]

theorem scale_pos {num den : Nat} (pos : 0 < den) (shift : Int) : 0 < (scale num den shift).2 := by
  unfold scale
  split
  · exact pos
  · exact Nat.mul_pos pos (Nat.two_pow_pos _)

theorem scale_ratio (num den : Nat) (shift : Int) :
    ((scale num den shift).1 : ℚ) / (scale num den shift).2 = ratio num den shift := by
  unfold scale ratio
  split
  · rename_i natural
    push_cast
    rw [twoPow_cast, Int.toNat_of_nonneg natural]
    ring
  · rename_i negative
    push_cast
    rw [twoPow_cast, Int.toNat_of_nonneg (by omega), zpow_neg, ← div_div, div_inv_eq_mul]

theorem step_exponent_eq {num den : Nat} {shift guess : Int} (pos : 0 < den)
    (guessed : guess = shift + num.log2 - den.log2 - 52) :
    stepExponent num den shift =
      max (if ratio num den shift < 2 ^ (guess + 52) then guess - 1 else guess) leastExponent := by
  have bottom : (0 : ℚ) < (scale num den (shift - guess)).2 := by
    exact_mod_cast scale_pos pos (shift - guess)
  have step : (0 : ℚ) < 2 ^ guess := by positivity
  have short : (scale num den (shift - guess)).1 / (scale num den (shift - guess)).2 < leastFull ↔
      ratio num den shift < 2 ^ (guess + 52) := by
    rw [Nat.div_lt_iff_lt_mul (scale_pos pos _), ← @Nat.cast_lt ℚ, Nat.cast_mul,
      ← div_lt_iff₀ bottom, scale_ratio, ← ratio_shift num den shift guess, ← leastFull_steps,
      mul_lt_mul_iff_left₀ step]
  rw [stepExponent, ← guessed]
  simp only [short]

section Spans

variable {num den : Nat} (above : 0 < num) (pos : 0 < den) (shift : Int)

include above pos

theorem ratio_between :
    2 ^ (shift + num.log2 - den.log2 - 1) < ratio num den shift ∧
      ratio num den shift < 2 ^ (shift + num.log2 - den.log2 + 1) := by
  have numLow : (2 : ℚ) ^ num.log2 ≤ num := by exact_mod_cast Nat.log2_self_le (Nat.ne_of_gt above)
  have numHigh : (num : ℚ) < 2 ^ (num.log2 + 1) := by exact_mod_cast Nat.lt_log2_self
  have denLow : (2 : ℚ) ^ den.log2 ≤ den := by exact_mod_cast Nat.log2_self_le (Nat.ne_of_gt pos)
  have denHigh : (den : ℚ) < 2 ^ (den.log2 + 1) := by exact_mod_cast Nat.lt_log2_self
  have step : (0 : ℚ) < 2 ^ shift := by positivity
  have denPos : (0 : ℚ) < den := by exact_mod_cast pos
  constructor
  · calc (2 : ℚ) ^ (shift + num.log2 - den.log2 - 1)
        = 2 ^ num.log2 / 2 ^ (den.log2 + 1) * 2 ^ shift := by
          rw [← zpow_natCast, ← zpow_natCast, ← zpow_sub₀ two_ne_zero, ← zpow_add₀ two_ne_zero]
          congr 1
          push_cast
          ring
      _ < num / den * 2 ^ shift := by
          apply mul_lt_mul_of_pos_right _ step
          rw [div_lt_div_iff₀ (by positivity) denPos]
          calc (2 : ℚ) ^ num.log2 * den < 2 ^ num.log2 * 2 ^ (den.log2 + 1) :=
                mul_lt_mul_of_pos_left denHigh (by positivity)
            _ ≤ num * 2 ^ (den.log2 + 1) := mul_le_mul_of_nonneg_right numLow (by positivity)
  · calc (num : ℚ) / den * 2 ^ shift < 2 ^ (num.log2 + 1) / 2 ^ den.log2 * 2 ^ shift := by
          apply mul_lt_mul_of_pos_right _ step
          rw [div_lt_div_iff₀ denPos (by positivity)]
          calc (num : ℚ) * 2 ^ den.log2 < 2 ^ (num.log2 + 1) * 2 ^ den.log2 :=
                mul_lt_mul_of_pos_right numHigh (by positivity)
            _ ≤ 2 ^ (num.log2 + 1) * den := mul_le_mul_of_nonneg_left denLow (by positivity)
      _ = 2 ^ (shift + num.log2 - den.log2 + 1) := by
          rw [← zpow_natCast, ← zpow_natCast, ← zpow_sub₀ two_ne_zero, ← zpow_add₀ two_ne_zero]
          congr 1
          push_cast
          ring

/-- At its exponent a number has no more bits than a significand, and no fewer unless the exponent
is the least one. -/
theorem step_exponent_spans :
    ratio num den shift < 2 ^ (stepExponent num den shift + 53) ∧
      leastExponent ≤ stepExponent num den shift ∧
      (2 ^ (stepExponent num den shift + 52) ≤ ratio num den shift ∨
        stepExponent num den shift = leastExponent) := by
  obtain ⟨low, high⟩ := ratio_between above pos shift
  obtain ⟨guess, guessed⟩ : ∃ guess, guess = shift + num.log2 - den.log2 - 52 := ⟨_, rfl⟩
  -- The guess is right or one too large; the least exponent can only widen the span.
  obtain ⟨exponent, chosen, least, most⟩ : ∃ exponent,
      stepExponent num den shift = max exponent leastExponent ∧
        2 ^ (exponent + 52) ≤ ratio num den shift ∧ ratio num den shift < 2 ^ (exponent + 53) := by
    by_cases short : ratio num den shift < 2 ^ (guess + 52)
    · refine ⟨guess - 1, by rw [step_exponent_eq pos guessed, if_pos short], ?_, ?_⟩
      · rw [show guess - 1 + 52 = shift + num.log2 - den.log2 - 1 by omega]
        exact low.le
      · rwa [show guess - 1 + 53 = guess + 52 by omega]
    · refine ⟨guess, by rw [step_exponent_eq pos guessed, if_neg short], not_lt.mp short, ?_⟩
      rwa [show guess + 53 = shift + num.log2 - den.log2 + 1 by omega]
  rw [chosen]
  rcases le_total leastExponent exponent with normal | small
  · rw [max_eq_left normal]
    exact ⟨most, normal, .inl least⟩
  · rw [max_eq_right small]
    exact ⟨most.trans_le (zpow_le_zpow_right₀ one_le_two (by omega)), le_refl _, .inr rfl⟩

end Spans

theorem div_eq_quotient_add (num : Nat) {den : Nat} (pos : 0 < den) :
    (num : ℚ) / den = (num / den : Nat) + (num % den : Nat) / den := by
  have denPos : (0 : ℚ) < den := by exact_mod_cast pos
  rw [div_eq_iff denPos.ne', add_mul, div_mul_cancel₀ _ denPos.ne', mul_comm]
  exact_mod_cast (Nat.div_add_mod num den).symm

theorem roundDiv_error (num : Nat) {den : Nat} (pos : 0 < den) :
    |(roundDiv num den : ℚ) - num / den| ≤ 1 / 2 ∧
      (|(roundDiv num den : ℚ) - num / den| = 1 / 2 → roundDiv num den % 2 = 0) := by
  have denPos : (0 : ℚ) < den := by exact_mod_cast pos
  have twice : ((2 * (num % den) : Nat) : ℚ) / den = 2 * ((num % den : Nat) / den) := by
    push_cast
    ring
  have nonneg : (0 : ℚ) ≤ (num % den : Nat) / den := by positivity
  have less : ((num % den : Nat) : ℚ) / den < 1 := by
    rw [div_lt_one denPos]
    exact_mod_cast Nat.mod_lt num pos
  rw [div_eq_quotient_add num pos]
  simp only [roundDiv]
  split
  · rename_i below
    have part : ((2 * (num % den) : Nat) : ℚ) / den < 1 := by
      rw [div_lt_one denPos]
      exact_mod_cast below
    rw [sub_add_cancel_left, abs_neg, abs_of_nonneg nonneg]
    exact ⟨by linarith, fun same => by linarith⟩
  · split
    · rename_i above
      have part : 1 < ((2 * (num % den) : Nat) : ℚ) / den := by
        rw [one_lt_div denPos]
        exact_mod_cast above
      push_cast
      rw [add_sub_add_left_eq_sub, abs_of_pos (by linarith)]
      exact ⟨by linarith, fun same => by linarith⟩
    · rename_i above below
      have part : ((2 * (num % den) : Nat) : ℚ) / den = 1 := by
        rw [div_eq_one_iff_eq denPos.ne']
        exact_mod_cast le_antisymm (not_lt.mp below) (not_lt.mp above)
      have middle : ((num % den : Nat) : ℚ) / den = 1 / 2 := by linarith
      rw [middle]
      rcases Nat.mod_two_eq_zero_or_one (num / den) with even | odd
      · rw [even]
        norm_num [even]
      · rw [odd]
        norm_num
        omega

/-- No integer is nearer to a quotient than its rounding, and as near only if that is even. -/
theorem roundDiv_nearest (num : Nat) {den : Nat} (pos : 0 < den) (n : Int) :
    |(roundDiv num den : ℚ) - num / den| ≤ |(n : ℚ) - num / den| ∧
      (|(n : ℚ) - num / den| = |(roundDiv num den : ℚ) - num / den| →
        n = roundDiv num den ∨ roundDiv num den % 2 = 0) := by
  obtain ⟨error, tie⟩ := roundDiv_error num pos
  rcases eq_or_ne n (roundDiv num den) with rfl | other
  · exact ⟨le_refl _, fun _ => .inl rfl⟩
  · have apart : (1 : ℚ) ≤ |(n : ℚ) - roundDiv num den| := by
      exact_mod_cast Int.one_le_abs (sub_ne_zero.mpr other)
    have path := abs_sub_le (n : ℚ) (num / den) (roundDiv num den)
    rw [abs_sub_comm (num / den : ℚ)] at path
    exact ⟨by linarith, fun same => .inr (tie (by linarith))⟩

theorem steps_nearest (num : Nat) {den : Nat} (pos : 0 < den) (shift exponent n : Int) :
    |(steps num den shift exponent : ℚ) * 2 ^ exponent - ratio num den shift| ≤
        |(n : ℚ) * 2 ^ exponent - ratio num den shift| ∧
      (|(n : ℚ) * 2 ^ exponent - ratio num den shift| =
          |(steps num den shift exponent : ℚ) * 2 ^ exponent - ratio num den shift| →
        n = steps num den shift exponent ∨ steps num den shift exponent % 2 = 0) := by
  have step : (0 : ℚ) < 2 ^ exponent := by positivity
  have scaled (q : ℚ) : |q * 2 ^ exponent - ratio num den shift| =
      |q - ratio num den (shift - exponent)| * 2 ^ exponent := by
    rw [← ratio_shift num den shift exponent, ← sub_mul, abs_mul, abs_of_pos step]
  obtain ⟨near, tie⟩ := roundDiv_nearest (scale num den (shift - exponent)).1
    (scale_pos pos (shift - exponent)) n
  rw [scale_ratio] at near tie
  rw [scaled, scaled]
  exact ⟨mul_le_mul_of_nonneg_right near step.le, fun same => tie (mul_right_cancel₀ step.ne' same)⟩

theorem le_steps {num den n : Nat} {shift exponent : Int} (pos : 0 < den)
    (bound : (n : ℚ) * 2 ^ exponent ≤ ratio num den shift) : n ≤ steps num den shift exponent := by
  obtain ⟨near, -⟩ := steps_nearest num pos shift exponent n
  rw [Int.cast_natCast, abs_sub_comm (n * _ : ℚ), abs_of_nonneg (sub_nonneg.mpr bound)] at near
  have scaled : (n : ℚ) * 2 ^ exponent ≤ steps num den shift exponent * 2 ^ exponent := by
    linarith [(abs_le.mp near).1]
  exact_mod_cast le_of_mul_le_mul_right scaled (by positivity)

theorem steps_le {num den n : Nat} {shift exponent : Int} (pos : 0 < den)
    (bound : ratio num den shift ≤ (n : ℚ) * 2 ^ exponent) : steps num den shift exponent ≤ n := by
  obtain ⟨near, -⟩ := steps_nearest num pos shift exponent n
  rw [Int.cast_natCast, abs_of_nonneg (sub_nonneg.mpr bound)] at near
  have scaled : (steps num den shift exponent : ℚ) * 2 ^ exponent ≤ n * 2 ^ exponent := by
    linarith [(abs_le.mp near).2]
  exact_mod_cast le_of_mul_le_mul_right scaled (by positivity)

/-- The rounded number, were there no largest double. -/
def rounding (num den : Nat) (shift : Int) : ℚ :=
  steps num den shift (stepExponent num den shift) * 2 ^ stepExponent num den shift

section Rounded

variable {num den : Nat} (above : 0 < num) (pos : 0 < den) (shift : Int)

include above pos

theorem steps_between :
    (leastFull ≤ steps num den shift (stepExponent num den shift) ∨
        stepExponent num den shift = leastExponent) ∧
      steps num den shift (stepExponent num den shift) ≤ twoPow precision := by
  obtain ⟨less, least, full⟩ := step_exponent_spans above pos shift
  constructor
  · refine full.imp_left fun full => le_steps pos ?_
    rwa [leastFull_steps]
  · refine steps_le pos ?_
    rw [precision_steps]
    exact less.le

-- A double whose steps are finer lies below every number that fills a significand.
theorem rounding_nearest (g : Double) :
    |rounding num den shift - ratio num den shift| ≤ |g.value - ratio num den shift| ∧
      (|g.value - ratio num den shift| = |rounding num den shift - ratio num den shift| →
        g.value = rounding num den shift ∨
          steps num den shift (stepExponent num den shift) % 2 = 0) := by
  obtain ⟨-, least, full⟩ := step_exponent_spans above pos shift
  rcases Int.lt_or_le g.exponent (stepExponent num den shift) with finer | coarser
  · have normal : 2 ^ (stepExponent num den shift + 52) ≤ ratio num den shift :=
      full.resolve_right fun smallest => by have := g.fits.2.1; omega
    have below : g.value < 2 ^ (stepExponent num den shift + 52) :=
      (value_lt g).trans_le (zpow_le_zpow_right₀ one_le_two (by omega))
    have near := (steps_nearest num pos shift (stepExponent num den shift) leastFull).1
    have strict : |rounding num den shift - ratio num den shift| <
        |g.value - ratio num den shift| := by
      refine near.trans_lt ?_
      rw [Int.cast_natCast, leastFull_steps, abs_of_nonpos (sub_nonpos.mpr normal),
        abs_of_nonpos (by linarith)]
      linarith
    exact ⟨strict.le, fun same => absurd same strict.ne'⟩
  · rw [← units_value g coarser]
    obtain ⟨near, tie⟩ := steps_nearest num pos shift (stepExponent num den shift)
      (g.units (stepExponent num den shift))
    refine ⟨near, fun same => (tie same).imp_left fun same => ?_⟩
    rw [same, Int.cast_natCast, rounding]

end Rounded

theorem value_of_parts {significand : Nat} {exponent : Int} {d : Double}
    (stored : ofParts? significand exponent = some d) :
    d.value = significand * 2 ^ exponent ∧ d.significand = significand := by
  unfold ofParts? at stored
  split at stored
  · cases stored
    simp [value]
  · cases stored

theorem value_of_rounded {significand : Nat} {exponent : Int} {d : Double}
    (stored : ofRounded? significand exponent = some d) :
    d.value = significand * 2 ^ exponent ∧ (significand % 2 = 0 → d.significand % 2 = 0) := by
  unfold ofRounded? at stored
  split at stored
  · rename_i carried
    obtain ⟨same, parts⟩ := value_of_parts stored
    rw [same, parts, carried, leastFull_steps, precision_steps]
    exact ⟨by congr 1; omega, fun _ => rfl⟩
  · obtain ⟨same, parts⟩ := value_of_parts stored
    exact ⟨same, fun even => parts ▸ even⟩

theorem not_fits_of_refused {significand : Nat} {exponent : Int}
    (refused : ofParts? significand exponent = none) : ¬ Fits significand exponent := by
  intro fits
  rw [ofParts?, dif_pos fits] at refused
  cases refused

theorem overflow_of_rounded {significand : Nat} {exponent : Int}
    (full : leastFull ≤ significand ∨ exponent = leastExponent)
    (most : significand ≤ twoPow precision) (least : leastExponent ≤ exponent)
    (refused : ofRounded? significand exponent = none) :
    greatest.value < significand * 2 ^ exponent := by
  suffices beyond : (2 : ℚ) ^ (greatestExponent + 53) ≤ significand * 2 ^ exponent from
    (value_lt greatest).trans_le beyond
  unfold ofRounded? at refused
  split at refused
  · rename_i carried
    have large : greatestExponent ≤ exponent := by
      by_contra small
      exact not_fits_of_refused refused ⟨by decide, by omega, by omega, .inl (le_refl _)⟩
    rw [carried, precision_steps]
    exact zpow_le_zpow_right₀ one_le_two (by omega)
  · rename_i uncarried
    have large : greatestExponent < exponent := by
      by_contra small
      exact not_fits_of_refused refused ⟨by omega, least, by omega, full⟩
    have normal : leastFull ≤ significand :=
      full.resolve_right fun smallest => by unfold leastExponent greatestExponent at *; omega
    calc (2 : ℚ) ^ (greatestExponent + 53) ≤ 2 ^ (exponent + 52) :=
          zpow_le_zpow_right₀ one_le_two (by omega)
      _ = leastFull * 2 ^ exponent := (leastFull_steps exponent).symm
      _ ≤ significand * 2 ^ exponent :=
          mul_le_mul_of_nonneg_right (by exact_mod_cast normal) (by positivity)

theorem value_of_nearest {num den : Nat} {shift : Int} {d : Double} (above : 0 < num)
    (stored : nearest? num den shift = some d) :
    d.value = rounding num den shift ∧
      (steps num den shift (stepExponent num den shift) % 2 = 0 → d.significand % 2 = 0) := by
  rw [nearest?, if_neg (Nat.ne_of_gt above)] at stored
  exact value_of_rounded stored

theorem nearest_rounds {num den : Nat} {shift : Int} {d : Double} (pos : 0 < den)
    (stored : nearest? num den shift = some d) : Rounds (ratio num den shift) d := by
  intro g
  rcases Nat.eq_zero_or_pos num with rfl | above
  · cases stored
    have nothing : zero.value = ratio 0 den shift := by simp [zero, value, ratio]
    rw [nothing, sub_self, abs_zero]
    exact ⟨abs_nonneg _, fun same => .inl (sub_eq_zero.mp (abs_eq_zero.mp same))⟩
  · obtain ⟨same, parity⟩ := value_of_nearest above stored
    rw [same]
    obtain ⟨near, tie⟩ := rounding_nearest above pos shift g
    exact ⟨near, fun equal => (tie equal).imp_right parity⟩

/-- Only a number beyond the largest double has no rounding. -/
theorem nearest_overflow {num den : Nat} {shift : Int} (pos : 0 < den)
    (refused : nearest? num den shift = none) : greatest.value < ratio num den shift := by
  rcases Nat.eq_zero_or_pos num with rfl | above
  · cases refused
  rw [nearest?, if_neg (Nat.ne_of_gt above)] at refused
  obtain ⟨full, most⟩ := steps_between above pos shift
  have beyond : greatest.value < rounding num den shift :=
    overflow_of_rounded full most (step_exponent_spans above pos shift).2.1 refused
  obtain ⟨near, -⟩ := rounding_nearest above pos shift greatest
  -- From a number that the largest double reaches, that one would be nearer than the rounding.
  by_contra reached
  rw [abs_of_nonneg (by linarith), abs_of_nonneg (by linarith)] at near
  linarith

theorem mul_ratio (a b : Double) :
    ratio (a.significand * b.significand) 1 (a.exponent + b.exponent) = |a.value| * |b.value| := by
  rw [abs_value, abs_value, ratio, zpow_add₀ two_ne_zero]
  push_cast
  ring

theorem div_ratio (a b : Double) :
    ratio a.significand b.significand (a.exponent - b.exponent) = |a.value| / |b.value| := by
  rw [abs_value, abs_value, ratio, zpow_sub₀ two_ne_zero, div_mul_div_comm]

theorem mul_rounds {a b d : Double} (stored : a.mul? b = some d) :
    Rounds (|a.value| * |b.value|) d :=
  mul_ratio a b ▸ nearest_rounds Nat.one_pos stored

theorem div_rounds {a b d : Double} (nonzero : 0 < b.significand) (stored : a.div? b = some d) :
    Rounds (|a.value| / |b.value|) d :=
  div_ratio a b ▸ nearest_rounds nonzero stored

theorem ratio_natural (n : Nat) : ratio n 1 0 = n := by
  simp [ratio]

theorem greatest_value : greatest.value = (2 ^ 53 - 1) * 2 ^ 971 := by
  norm_num [greatest, value, twoPow, precision, greatestExponent]

theorem nearest_natural {n : Nat} (reached : n ≤ greatest.value) :
    nearest? n 1 0 = some (ofNat n) := by
  cases stored : nearest? n 1 0 with
  | none =>
      have beyond := nearest_overflow Nat.one_pos stored
      rw [ratio_natural] at beyond
      exact absurd reached beyond.not_ge
  | some d => rw [ofNat, stored, Option.getD_some]

theorem word_reached {n : Nat} (word : n < 2 ^ 64) : n ≤ greatest.value := by
  have small : (n : ℚ) < 2 ^ 64 := by exact_mod_cast word
  calc (n : ℚ) ≤ 2 ^ 64 := small.le
    _ ≤ 2 ^ 971 := pow_le_pow_right₀ one_le_two (by omega)
    _ ≤ (2 ^ 53 - 1) * 2 ^ 971 := le_mul_of_one_le_left (by positivity) (by norm_num)
    _ = greatest.value := greatest_value.symm

theorem power_reached {k : Nat} (small : k ≤ 308) : tenPow k ≤ greatest.value := by
  have power : (tenPow k : ℚ) = 10 ^ k := Nat.cast_pow 10 k
  have each : (10 : ℚ) ^ 77 ≤ 2 ^ 256 := by norm_num
  have last : (10 : ℚ) ^ 77 ≤ (2 ^ 53 - 1) * 2 ^ 203 := by norm_num
  calc (tenPow k : ℚ) ≤ 10 ^ 308 := power ▸ pow_le_pow_right₀ (by norm_num) small
    _ = (10 ^ 77) ^ 3 * 10 ^ 77 := by rw [← pow_mul, ← pow_add]
    _ ≤ (2 ^ 256) ^ 3 * ((2 ^ 53 - 1) * 2 ^ 203) := by gcongr
    _ = (2 ^ 53 - 1) * 2 ^ 971 := by rw [mul_left_comm, ← pow_mul, ← pow_add]
    _ = greatest.value := greatest_value.symm

theorem ofNat_rounds {n : Nat} (word : n < 2 ^ 64) : Rounds n (ofNat n) :=
  ratio_natural n ▸ nearest_rounds Nat.one_pos (nearest_natural (word_reached word))

theorem powerOfTen_rounds {k : Nat} (small : k ≤ 308) : Rounds (tenPow k) (powerOfTen k) :=
  ratio_natural (tenPow k) ▸ nearest_rounds Nat.one_pos (nearest_natural (power_reached small))

theorem powerOfTen_positive {k : Nat} (small : k ≤ 308) : 0 < (powerOfTen k).value := by
  have unit : (⟨false, leastFull, -52, by decide⟩ : Double).value = 1 := by
    norm_num [value, leastFull, twoPow, precision]
  have natural : (1 : ℚ) ≤ tenPow k := by exact_mod_cast Nat.pow_pos (by decide)
  exact zero_lt_one.trans_le (unit ▸ (powerOfTen_rounds small).ge (unit.trans_le natural))

end Double

namespace Number

open Double

/-- Digits that were gathered in a word, and the power of ten that scales them. -/
theorem scaled_rounds {word : Nat} {power : Int} {d : Double} (fits : word < 2 ^ 64)
    (small : power.natAbs ≤ 308) (stored : scaled word power = some d) :
    ∃ digits ten, Rounds word digits ∧ Rounds (tenPow power.natAbs) ten ∧
      Rounds (if power < 0 then digits.value / ten.value else digits.value * ten.value) d := by
  refine ⟨ofNat word, powerOfTen power.natAbs, ofNat_rounds fits, powerOfTen_rounds small, ?_⟩
  have natural : 0 ≤ (ofNat word).value := (ofNat_rounds fits).nonneg (Nat.cast_nonneg word)
  have positive := powerOfTen_positive small
  unfold scaled at stored
  split
  · rename_i negative
    rw [if_pos negative, scaleDown, if_pos small] at stored
    have nonzero : 0 < (powerOfTen power.natAbs).significand := by
      refine Nat.pos_of_ne_zero fun vanishes => positive.ne' ?_
      simp [value, vanishes]
    have rounds := div_rounds nonzero stored
    rwa [abs_of_nonneg natural, abs_of_pos positive] at rounds
  · rename_i nonnegative
    rw [if_neg nonnegative, if_neg (by omega)] at stored
    rw [show power.toNat = power.natAbs by omega] at stored
    have rounds := mul_rounds stored
    rwa [abs_of_nonneg natural, abs_of_pos positive] at rounds

end Number

end FilterQuery
