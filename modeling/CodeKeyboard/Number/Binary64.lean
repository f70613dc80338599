import CodeKeyboard.Number.Rounding

/-!
# Numbers of double precision

A finite number of double precision is `significand · 2 ^ exponent` with a significand below `2 ^
53` and an exponent between `-1074` and `971`. Scores are computed in this arithmetic, so every
operation is: take the exact result, then the nearest such number, an exact half going to the even
significand. `Binary64.nearest` is that step on exact fractions.
-/

namespace CodeKeyboard.Number

/-- The power of two with a whole exponent of either sign. -/
def twoPow (e : Int) : Rat :=
  mkRat (Nat.pow 2 e.toNat) (Nat.pow 2 (-e).toNat)

/-- The power of ten with a whole exponent of either sign. -/
def tenPow (e : Int) : Rat :=
  mkRat (Nat.pow 10 e.toNat) (Nat.pow 10 (-e).toNat)

/-- A finite, non-negative number of double precision. -/
structure Magnitude where
  /-- The whole number of units. -/
  significand : Nat
  /-- The unit, as a power of two. -/
  exponent : Int
deriving DecidableEq, Repr

namespace Magnitude

/-- The least exponent of a unit. -/
def leastExponent : Int := -1074

/-- The greatest exponent of a unit. -/
def greatestExponent : Int := 971

/-- The exact value. -/
def value (x : Magnitude) : Rat :=
  x.significand * twoPow x.exponent

/-- The exponent of the unit in which `num / den` has 53 significant bits, or the least exponent. -/
def unitFor (num den : Nat) : Int :=
  let top : Int := (num.log2 : Int) - den.log2
  let top := if den * Nat.pow 2 top.toNat ≤ num * Nat.pow 2 (-top).toNat then top else top - 1
  max (top - 52) leastExponent

/-- The number nearest to `num / den`; nothing when it lies beyond the greatest one. -/
def nearest? (num den : Nat) : Option Magnitude :=
  let unit := unitFor num den
  let units := roundHalfEven (num * Nat.pow 2 (-unit).toNat) (den * Nat.pow 2 unit.toNat)
  let rounded : Magnitude :=
    if units = Nat.pow 2 53 then ⟨Nat.pow 2 52, unit + 1⟩ else ⟨units, unit⟩
  if num = 0 then some ⟨0, leastExponent⟩
  else if greatestExponent < rounded.exponent then none
  else some rounded

end Magnitude

/-- A number of double precision, with the two that are infinite and the one that is none. -/
inductive Binary64 where
  /-- A finite number with its sign, which zero has too. -/
  | finite (negative : Bool) (magnitude : Magnitude)
  /-- Beyond every finite number. -/
  | infinite (negative : Bool)
  /-- Not a number. -/
  | nan
deriving DecidableEq, Repr

namespace Binary64

/-- The number nearest to a fraction with the given sign; infinite when it is too great. -/
def ofQuotient (negative : Bool) (num den : Nat) : Binary64 :=
  match Magnitude.nearest? num den with
  | some x => finite negative x
  | none => infinite negative

/-- Whether the number is a zero of either sign. -/
def isZero : Binary64 → Bool
  | finite _ x => x.significand == 0
  | _ => false

/-- The exact value of a finite number; zero for the others. -/
def value : Binary64 → Rat
  | finite false x => x.value
  | finite true x => -x.value
  | _ => 0

/-- The number of double precision nearest to an exact value, as an exact value. A value beyond the
greatest finite number is left as it is. -/
def nearest (q : Rat) : Rat :=
  match ofQuotient (q.num < 0) q.num.natAbs q.den with
  | finite negative x => value (finite negative x)
  | _ => q

end Binary64

end CodeKeyboard.Number
