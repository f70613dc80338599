import CodeKeyboard.Number.Shortest
import CodeKeyboard.Text.Basic

/-!
# Scores (specification §4.3)

A score says how well a button fits: 1 is best, a button with a score of 0 is not shown. A score is
the exact value of a number of double precision. Comparing scores is comparing those exact values,
so two scores that are shown alike may still be ordered.

Scores leave the library rounded to four decimal places, a half going to the even neighbour, and
written with the fewest digits.
-/

namespace CodeKeyboard

/-- How well a button fits, as the exact value of a number of double precision. -/
abbrev Score := Rat

namespace Score

/-- The score written as a decimal with two places: `hundredths 85` is 0.85. -/
def hundredths (n : Nat) : Score :=
  Number.Binary64.nearest (mkRat n 100)

/-- How much each further place in a ranked list costs. -/
def step : Score :=
  hundredths 10

/-- One less `step` for every earlier place, each operation rounded. -/
def descending (place : Nat) : Score :=
  Number.Binary64.nearest (1 - Number.Binary64.nearest (step * place))

/-- The score of a place in a ranked list: from the tenth place on it is nothing. -/
def ofPlace (place : Nat) : Score :=
  if 0 ≤ descending place then descending place else 0

/-- A score with `places` decimal places, a half going to the even neighbour, as a whole number of
units of the last place. -/
def inUnits (places : Nat) (s : Score) : Nat :=
  Number.roundHalfEven (s.num.natAbs * Nat.pow 10 places) s.den

/-- The score rounded to four places, as a number of double precision. -/
def rounded (s : Score) : Number.Binary64 :=
  .ofQuotient (s.num < 0) (s.inUnits 4) (Nat.pow 10 4)

/-- The score with two decimal places. -/
def twoPlaces (s : Score) : Text :=
  let n := s.inUnits 2
  let cents := Nat.toDigits 10 (n % 100)
  (if s.num < 0 then ['-'] else []) ++ Nat.toDigits 10 (n / 100) ++
    '.' :: List.replicate (2 - cents.length) '0' ++ cents

/-- The places of a ranked list that are worth something, in strictly descending order. -/
theorem ofPlace_lt_ofPlace :
    ∀ i < 10, ∀ j < 10, i < j → ofPlace j < ofPlace i ∧ 0 < ofPlace j := by
  decide +kernel

end Score

end CodeKeyboard
