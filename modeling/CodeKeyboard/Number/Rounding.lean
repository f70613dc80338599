/-!
# Rounding a quotient

`roundHalfEven num den` is the natural number nearest to `num / den`; of two equally near ones it is
the even one. Both the rounding to binary places and the rounding to decimal places go through it.
-/

namespace CodeKeyboard.Number

/-- The whole number nearest to `num / den`, a half going to the even neighbour. -/
def roundHalfEven (num den : Nat) : Nat :=
  let low := num / den
  let rest := num % den
  if den < 2 * rest || (2 * rest == den && low % 2 == 1) then low + 1 else low

/-- What is no greater than the quotient is no greater than the rounded number. -/
theorem le_roundHalfEven {n num den : Nat} (hden : 0 < den) (h : n * den ≤ num) :
    n ≤ roundHalfEven num den := by
  have hlow : n ≤ num / den := (Nat.le_div_iff_mul_le hden).2 h
  simp only [roundHalfEven]
  split
  · exact Nat.le_succ_of_le hlow
  · exact hlow

end CodeKeyboard.Number
