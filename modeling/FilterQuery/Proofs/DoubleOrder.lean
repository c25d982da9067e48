import FilterQuery.Proofs.Rounding
import Mathlib.Order.Compare

/-!
Doubles are ordered as the numbers that they denote, and only zero has two of them. An integer is
rounded to a multiple of a step that grows with its bits, and never past a double; so the words on
the two sides of `2 ^ 63` stay in order, but those next to it on either side become the one double
`2 ^ 63`.
-/
namespace FilterQuery

namespace Double

theorem order_eq_compare (a b : Double) : a.order b = compare a.value b.value := by
  have scaled : StrictMono fun n : Int => (n : ℚ) * 2 ^ min a.exponent b.exponent :=
    fun m n less => mul_lt_mul_of_pos_right (Int.cast_lt.mpr less) (by positivity)
  rw [order, ← units_value a (min_le_left _ _), ← units_value b (min_le_right _ _),
    ← cmp_eq_compare, ← cmp_eq_compare]
  exact (scaled.cmp_map_eq _ _).symm

theorem value_lt_of_finer {a b : Double} (finer : a.exponent < b.exponent) :
    a.significand * 2 ^ a.exponent < (b.significand * 2 ^ b.exponent : ℚ) := by
  have full : leastFull ≤ b.significand :=
    b.fits.2.2.2.resolve_right fun smallest => by have := a.fits.2.1; omega
  calc (a.significand : ℚ) * 2 ^ a.exponent < twoPow precision * 2 ^ a.exponent :=
        mul_lt_mul_of_pos_right (by exact_mod_cast a.fits.1) (by positivity)
    _ = 2 ^ (a.exponent + 53) := precision_steps a.exponent
    _ ≤ 2 ^ (b.exponent + 52) := zpow_le_zpow_right₀ one_le_two (by omega)
    _ = leastFull * 2 ^ b.exponent := (leastFull_steps b.exponent).symm
    _ ≤ b.significand * 2 ^ b.exponent :=
        mul_le_mul_of_nonneg_right (by exact_mod_cast full) (by positivity)

theorem parts_eq_of_magnitude {a b : Double}
    (same : (a.significand : ℚ) * 2 ^ a.exponent = b.significand * 2 ^ b.exponent) :
    a.significand = b.significand ∧ a.exponent = b.exponent := by
  rcases lt_trichotomy a.exponent b.exponent with finer | equal | coarser
  · exact absurd same (value_lt_of_finer finer).ne
  · rw [equal] at same
    exact ⟨by exact_mod_cast mul_right_cancel₀ (by positivity) same, equal⟩
  · exact absurd same (value_lt_of_finer coarser).ne'

/-- A number has one double, but for the two zeros. -/
theorem value_eq_iff (a b : Double) : a.value = b.value ↔ a = b ∨ a.isZero ∧ b.isZero := by
  constructor
  · intro same
    obtain ⟨significand, exponent⟩ := parts_eq_of_magnitude
      ((abs_value a).symm.trans ((congrArg _ same).trans (abs_value b)))
    by_cases sign : a.negative = b.negative
    · left
      obtain ⟨_, _, _, _⟩ := a
      obtain ⟨_, _, _, _⟩ := b
      cases sign
      cases significand
      cases exponent
      rfl
    · right
      have opposite : a.value = -b.value := by
        rw [← value_neg, value, value, Bool.eq_not.mpr sign, significand, exponent]
        rfl
      have nothing : b.value = 0 := by linarith
      have vanishes : b.significand = 0 := by
        have magnitude := abs_value b
        rw [nothing, abs_zero, eq_comm, mul_eq_zero] at magnitude
        exact_mod_cast magnitude.resolve_right (by positivity)
      simp [isZero, significand, vanishes]
  · rintro (rfl | ⟨left, right⟩)
    · rfl
    · simp_all [isZero, value]

theorem order_eq_iff_same (a b : Double) : a.order b = .eq ↔ a = b ∨ a.isZero ∧ b.isZero := by
  rw [order_eq_compare, compare_eq_iff_eq, value_eq_iff]

theorem pos_of_bits {n k : Nat} (bits : n.log2 = 52 + k) : 0 < n := by
  refine Nat.pos_of_ne_zero ?_
  rintro rfl
  rw [Nat.log2_zero] at bits
  omega

theorem step_exponent_natural {n k : Nat} (bits : n.log2 = 52 + k) : stepExponent n 1 0 = k := by
  have full : (2 : ℚ) ^ ((k : Int) + 52) ≤ ratio n 1 0 := by
    rw [ratio_natural]
    exact_mod_cast (show k + 52 = n.log2 by omega) ▸
      Nat.log2_self_le (Nat.ne_of_gt (pos_of_bits bits))
  have guessed : (k : Int) = 0 + n.log2 - Nat.log2 1 - 52 := by
    rw [bits, show Nat.log2 1 = 0 from rfl]
    omega
  rw [step_exponent_eq Nat.one_pos guessed, if_neg full.not_gt]
  exact max_eq_left (by unfold leastExponent; omega)

theorem steps_natural (n k : Nat) : steps n 1 0 k = roundDiv n (2 ^ k) := by
  cases k with
  | zero => simp [steps, scale, twoPow]
  | succ k =>
      have negative : ¬ (0 : Int) ≤ 0 - (k + 1 : Nat) := by omega
      have width : (-(0 - ((k + 1 : Nat) : Int))).toNat = k + 1 := by omega
      rw [steps, scale, if_neg negative, width]
      simp [twoPow]

theorem value_ofNat_steps {n k : Nat} (word : n < 2 ^ 64) (bits : n.log2 = 52 + k) :
    (ofNat n).value = (roundDiv n (2 ^ k) * 2 ^ k : Nat) := by
  have stored := nearest_natural (word_reached word)
  rw [(value_of_nearest (pos_of_bits bits) stored).1, rounding, step_exponent_natural bits,
    steps_natural]
  push_cast
  rw [zpow_natCast]

theorem value_ofInt_nonpos {n : Int} (negative : n < 0) (word : n.natAbs < 2 ^ 64) :
    (ofInt n).value ≤ 0 := by
  have natural := (ofNat_rounds word).nonneg (Nat.cast_nonneg n.natAbs)
  rw [ofInt, if_pos negative, value_neg]
  linarith

theorem value_ofInt_natCast (n : Nat) : (ofInt n).value = (ofNat n).value := by
  rw [ofInt, if_neg (by omega), Int.natAbs_natCast]

end Double

namespace Number

/-- Signed words are equal as integers; of any other pair the doubles have to be equal. -/
def Equal (a b : Number) : Prop :=
  match a.signed?, b.signed? with
  | some i, some j => i = j
  | _, _ => a.toDouble.value = b.toDouble.value

theorem order_eq_iff (a b : Number) : a.order b = .eq ↔ a.Equal b := by
  have doubles : a.toDouble.order b.toDouble = .eq ↔ a.toDouble.value = b.toDouble.value := by
    rw [Double.order_eq_compare, compare_eq_iff_eq]
  unfold order Equal
  cases a.signed? with
  | none => exact doubles
  | some i =>
      cases b.signed? with
      | none => exact doubles
      | some j => exact compare_eq_iff_eq

/-- A word that only fits without a sign, and a signed one, that are rounded to one double. -/
def Merge (x n : Int) : Prop :=
  2 ^ 63 ≤ x ∧ x ≤ 2 ^ 63 + 1024 ∧ 2 ^ 63 - 512 ≤ n

instance (x n : Int) : Decidable (Merge x n) := by
  unfold Merge
  infer_instance

open Double

theorem value_unsigned {x : Nat} (least : 2 ^ 63 ≤ x) (less : x < 2 ^ 64) :
    2 ^ 63 ≤ (ofNat x).value ∧ ((ofNat x).value = 2 ^ 63 ↔ x ≤ 2 ^ 63 + 1024) := by
  have bits : x.log2 = 52 + 11 := (Nat.log2_eq_iff (by omega)).mpr ⟨least, less⟩
  have steps : 2 ^ 63 ≤ roundDiv x 2048 * 2048 ∧
      (roundDiv x 2048 * 2048 = 2 ^ 63 ↔ x ≤ 2 ^ 63 + 1024) := by
    simp only [roundDiv]
    split
    · omega
    · split <;> omega
  rw [value_ofNat_steps less bits]
  exact_mod_cast steps

theorem value_signed {n : Nat} (less : n < 2 ^ 63) :
    (ofNat n).value ≤ 2 ^ 63 ∧ ((ofNat n).value = 2 ^ 63 ↔ 2 ^ 63 - 512 ≤ n) := by
  have word : n < 2 ^ 64 := by omega
  rcases Nat.lt_or_ge n (2 ^ 62) with small | large
  · have half : (⟨false, leastFull, 10, by decide⟩ : Double).value = 2 ^ 62 := by
      norm_num [value, leastFull, twoPow, precision]
    have under : (n : ℚ) ≤ 2 ^ 62 := by exact_mod_cast small.le
    have bound := (ofNat_rounds word).le (under.trans_eq half.symm)
    rw [half] at bound
    have below : (ofNat n).value < 2 ^ 63 := by linarith
    exact ⟨below.le, iff_of_false below.ne (by omega)⟩
  · have bits : n.log2 = 52 + 10 := (Nat.log2_eq_iff (by omega)).mpr ⟨large, less⟩
    have steps : roundDiv n 1024 * 1024 ≤ 2 ^ 63 ∧
        (roundDiv n 1024 * 1024 = 2 ^ 63 ↔ 2 ^ 63 - 512 ≤ n) := by
      simp only [roundDiv]
      split
      · omega
      · split <;> omega
    rw [value_ofNat_steps word bits]
    exact_mod_cast steps

theorem order_across {x n : Int} (least : 2 ^ 63 ≤ x) (word : x < 2 ^ 64)
    (signed : inSignedRange n) :
    (Double.ofInt x).order (Double.ofInt n) = if Merge x n then .eq else .gt := by
  have range : -2 ^ 63 ≤ n ∧ n < 2 ^ 63 := by simpa [inSignedRange] using signed
  obtain ⟨x, rfl⟩ := Int.eq_ofNat_of_zero_le (show 0 ≤ x by omega)
  obtain ⟨above, meets⟩ := value_unsigned (x := x) (by omega) (by omega)
  have below : (Double.ofInt n).value ≤ 2 ^ 63 ∧
      ((Double.ofInt n).value = 2 ^ 63 ↔ 2 ^ 63 - 512 ≤ n) := by
    rcases Int.lt_or_le n 0 with negative | natural
    · have nonpos := value_ofInt_nonpos negative (by omega)
      have less : (Double.ofInt n).value < 2 ^ 63 := by linarith
      exact ⟨less.le, iff_of_false less.ne (by omega)⟩
    · obtain ⟨n, rfl⟩ := Int.eq_ofNat_of_zero_le natural
      rw [value_ofInt_natCast]
      obtain ⟨bound, same⟩ := value_signed (n := n) (by omega)
      exact ⟨bound, same.trans (by omega)⟩
  rw [order_eq_compare, value_ofInt_natCast]
  split
  · rename_i merge
    obtain ⟨_, low, high⟩ := merge
    rw [compare_eq_iff_eq, meets.mpr (by omega), below.2.mpr high]
  · rename_i apart
    rw [compare_gt_iff_gt]
    refine lt_of_le_of_ne (below.1.trans above) fun same => apart ?_
    -- Only `2 ^ 63` itself can be the double of both.
    have left : (ofNat x).value = 2 ^ 63 := le_antisymm (same.ge.trans below.1) above
    have right : (Double.ofInt n).value = 2 ^ 63 := same.trans left
    have high : x ≤ 2 ^ 63 + 1024 := meets.mp left
    exact ⟨least, by omega, below.2.mp right⟩

/-- Against a signed word, every word is ordered as an integer, unless the two merge. -/
theorem order_words {x n : Int} {left : IsWord x} {right : IsWord n} (signed : inSignedRange n) :
    (@Number.int x left).order (@Number.int n right) =
      if Merge x n then .eq else compare x n := by
  have range : -2 ^ 63 ≤ n ∧ n < 2 ^ 63 := by simpa [inSignedRange] using signed
  have width : -2 ^ 63 ≤ x ∧ x < 2 ^ 64 := by simpa [IsWord, wordCount] using left
  by_cases fits : x < 2 ^ 63
  · have both : inSignedRange x := by simp [inSignedRange]; omega
    have apart : ¬ Merge x n := fun merge => absurd merge.1 (by omega)
    simp [order, signed?, both, signed, apart]
  · have unsigned : inSignedRange x = false := by simp [inSignedRange]; omega
    have greater : compare x n = .gt := compare_gt_iff_gt.mpr (by omega)
    simp only [order, signed?, unsigned, greater, toDouble]
    exact order_across (by omega) width.2 signed

end Number

end FilterQuery
