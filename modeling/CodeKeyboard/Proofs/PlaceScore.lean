import CodeKeyboard.Score
import Mathlib.Algebra.Order.Field.Power
import Mathlib.Algebra.Order.Ring.Rat
import Mathlib.Tactic.Linarith
import Mathlib.Tactic.Positivity
import Mathlib.Tactic.Ring

/-!
# The scores of places

The score of a place in a ranked list is computed in numbers of double precision: the place times
the step, and that from 1. Each operation is rounded, so that the score of a place is not exactly a
tenth less than that of the one before. Still the first ten places are worth something, each less
than the one before (`Score.ofPlace_lt_ofPlace`), and no further place is, however far back it lies.

- `Number.Binary64.one_le_nearest`, `nearest_nonpos`: rounding keeps what is 1 or more and what is 0
  or less.
- `Score.ofPlace_eq_zero`: a place after the first ten is worth nothing.
-/

namespace CodeKeyboard

namespace Number

/-! ## Powers of two -/

theorem twoPow_eq_zpow (e : Int) : twoPow e = (2 : Rat) ^ e := by
  obtain ⟨n, rfl | rfl⟩ := e.eq_nat_or_neg
  · simp [twoPow, Rat.mkRat_eq_div]
  · simp [twoPow, Rat.mkRat_eq_div]

theorem twoPow_add_one (e : Int) : twoPow (e + 1) = 2 * twoPow e := by
  rw [twoPow_eq_zpow, twoPow_eq_zpow, zpow_add_one₀ (by norm_num), mul_comm]

theorem twoPow_pos (e : Int) : 0 < twoPow e := by
  rw [twoPow_eq_zpow]
  positivity

namespace Magnitude

theorem value_nonneg (x : Magnitude) : 0 ≤ x.value :=
  mul_nonneg (Nat.cast_nonneg _) (twoPow_pos _).le

/-! ## Rounding to a number of double precision -/

/-- A unit above 1 is no greater than the quotient. -/
theorem mul_two_pow_unitFor_le {num den : Nat} (hnum : num ≠ 0) (h : 0 < unitFor num den) :
    den * 2 ^ (unitFor num den).toNat ≤ num := by
  have hunit : (unitFor num den).toNat ≤ num.log2 - den.log2 - 52 := by
    simp only [unitFor, leastExponent] at h ⊢
    split at h <;> split <;> omega
  have hroom : den.log2 + 1 + (unitFor num den).toNat ≤ num.log2 := by omega
  calc den * 2 ^ (unitFor num den).toNat
    _ ≤ 2 ^ (den.log2 + 1) * 2 ^ (unitFor num den).toNat :=
        Nat.mul_le_mul_right _ (Nat.lt_log2_self).le
    _ = 2 ^ (den.log2 + 1 + (unitFor num den).toNat) := (Nat.pow_add ..).symm
    _ ≤ 2 ^ num.log2 := Nat.pow_le_pow_right (by decide) hroom
    _ ≤ num := Nat.log2_self_le hnum

/-- The number nearest to a quotient is a whole number of units. -/
theorem value_of_nearest? {num den : Nat} {x : Magnitude} (hnum : num ≠ 0)
    (h : nearest? num den = some x) :
    x.value = (roundHalfEven (num * 2 ^ (-unitFor num den).toNat)
      (den * 2 ^ (unitFor num den).toNat) : Nat) * twoPow (unitFor num den) := by
  rw [nearest?, if_neg hnum, Option.ite_none_left_eq_some, Option.some.injEq] at h
  obtain ⟨-, rfl⟩ := h
  split
  · next hfull =>
    -- a full significand is half as many units of twice the size
    have hunits : roundHalfEven (num * 2 ^ (-unitFor num den).toNat)
        (den * 2 ^ (unitFor num den).toNat) = 2 ^ 53 := hfull
    rw [hunits, value, twoPow_add_one, Nat.pow_eq]
    push_cast
    ring
  · rfl

/-- The number nearest to a quotient of 1 or more is 1 or more. -/
theorem one_le_value_of_nearest? {num den : Nat} {x : Magnitude} (hden : 0 < den) (h : den ≤ num)
    (hx : nearest? num den = some x) : 1 ≤ x.value := by
  have hnum : num ≠ 0 := by omega
  rw [value_of_nearest? hnum hx]
  by_cases hunit : 0 < unitFor num den
  · -- one unit is 1 or more
    have hone : 1 ≤ roundHalfEven (num * 2 ^ (-unitFor num den).toNat)
        (den * 2 ^ (unitFor num den).toNat) := by
      refine le_roundHalfEven (by positivity) ?_
      have hzero : (-unitFor num den).toNat = 0 := by omega
      rw [hzero, Nat.one_mul, Nat.pow_zero, Nat.mul_one]
      exact mul_two_pow_unitFor_le hnum hunit
    have hpow : 1 ≤ twoPow (unitFor num den) := by
      rw [twoPow_eq_zpow]
      exact one_le_zpow₀ (by norm_num) hunit.le
    exact one_le_mul_of_one_le_of_one_le (by exact_mod_cast hone) hpow
  · -- 1 is a whole number of units
    have hwhole : 2 ^ (-unitFor num den).toNat ≤ roundHalfEven (num * 2 ^ (-unitFor num den).toNat)
        (den * 2 ^ (unitFor num den).toNat) := by
      refine le_roundHalfEven (by positivity) ?_
      have hzero : (unitFor num den).toNat = 0 := by omega
      rw [hzero, Nat.pow_zero, Nat.mul_one, Nat.mul_comm]
      exact Nat.mul_le_mul_right _ h
    have hone : ((2 ^ (-unitFor num den).toNat : Nat) : Rat) * twoPow (unitFor num den) = 1 := by
      have hneg : ((-unitFor num den).toNat : Int) = -unitFor num den := by omega
      rw [twoPow_eq_zpow, Nat.cast_pow, Nat.cast_ofNat, ← zpow_natCast, hneg,
        ← zpow_add₀ (by norm_num)]
      simp
    calc (1 : Rat) = ((2 ^ (-unitFor num den).toNat : Nat) : Rat) * twoPow (unitFor num den) :=
        hone.symm
      _ ≤ _ := mul_le_mul_of_nonneg_right (by exact_mod_cast hwhole) (twoPow_pos _).le

end Magnitude

namespace Binary64

/-- **Rounding keeps what is 1 or more.** -/
theorem one_le_nearest {q : Rat} (h : 1 ≤ q) : 1 ≤ nearest q := by
  have hpos : 0 < q.num := Rat.num_pos.2 (by linarith)
  have hle : q.den ≤ q.num.natAbs := by
    have hnum : (q.den : Int) ≤ q.num := by simpa using (Rat.le_iff 1 q).1 h
    omega
  have hsign : decide (q.num < 0) = false := decide_eq_false (by omega)
  rw [nearest, hsign, ofQuotient]
  cases hx : Magnitude.nearest? q.num.natAbs q.den with
  | none => exact h
  | some x => exact Magnitude.one_le_value_of_nearest? q.den_pos hle hx

/-- **Rounding keeps what is 0 or less.** -/
theorem nearest_nonpos {q : Rat} (h : q ≤ 0) : nearest q ≤ 0 := by
  by_cases hzero : q = 0
  · subst hzero
    decide +kernel
  · have hsign : decide (q.num < 0) = true :=
      decide_eq_true (Rat.num_neg.2 (lt_of_le_of_ne h hzero))
    rw [nearest, hsign, ofQuotient]
    cases Magnitude.nearest? q.num.natAbs q.den with
    | none => exact h
    | some x => exact neg_nonpos.2 x.value_nonneg

end Binary64

end Number

namespace Score

/-- **A place after the first ten is worth nothing**, however long the list is. -/
theorem ofPlace_eq_zero {place : Nat} (h : 10 ≤ place) : ofPlace place = 0 := by
  have hstep : 1 ≤ step * 10 := by decide +kernel
  have hcost : 1 ≤ step * place := by
    have hnonneg : 0 ≤ step := by decide +kernel
    have hplace : (10 : Rat) ≤ place := by exact_mod_cast h
    exact hstep.trans (mul_le_mul_of_nonneg_left hplace hnonneg)
  have hleft : descending place ≤ 0 :=
    Number.Binary64.nearest_nonpos (sub_nonpos.2 (Number.Binary64.one_le_nearest hcost))
  rw [ofPlace]
  split
  · next hright => exact le_antisymm hleft hright
  · rfl

end Score

end CodeKeyboard
