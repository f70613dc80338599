import CodeKeyboard.Number.Binary64

/-!
# Shortest decimals

A finite number of double precision is written with the fewest digits that read back as the same
number, and of the decimals with that many digits the nearest one. The reals that read back as a
number form an interval around it, ends included when its significand is even; a decimal grid has a
point in the interval only if one of the number's two neighbours on the grid lies in it, so the
grids of one, two, … digits are tried in turn with two candidates each.

`Decimal.text` lays the digits out: without an exponent from `0.0001` to below `10 ^ 16`, always
with a point and a digit after it, and otherwise as one digit before the point and an exponent of at
least two digits with its sign.
-/

namespace CodeKeyboard.Number

/-- A decimal `0.d₁d₂… · 10 ^ point`. -/
structure Decimal where
  /-- The digits read as a whole number. -/
  digits : Nat
  /-- How many digits there are. -/
  width : Nat
  /-- The place of the decimal point, counted from before the first digit. -/
  point : Int
deriving DecidableEq, Repr

namespace Magnitude

/-- The ends of the interval of reals that read back as the number. -/
def ends (x : Magnitude) : Rat × Rat :=
  let half := twoPow (x.exponent - 1)
  let below := if x.significand = Nat.pow 2 52 && leastExponent < x.exponent
    then twoPow (x.exponent - 2) else half
  (x.value - below, x.value + half)

/-- Whether a real reads back as the number. -/
def readsBack (x : Magnitude) (q : Rat) : Bool :=
  if x.significand % 2 == 0 then x.ends.1 ≤ q && q ≤ x.ends.2 else x.ends.1 < q && q < x.ends.2

/-- How many places a value below one moves left until its first digit stands before the point,
counted within `fuel`. -/
def placesToOne (q : Rat) : Nat → Nat
  | 0 => 0
  | fuel + 1 => if 1 ≤ q then 0 else placesToOne (q * 10) fuel + 1

/-- The point of a positive value: the least `k` with the value below `10 ^ k`. -/
def pointOf (q : Rat) : Int :=
  if 1 ≤ q then (Nat.toDigits 10 q.floor.toNat).length else 1 - (placesToOne q 400 : Int)

/-- The nearest of the two neighbours on the grid of `width` digits, if it reads back. -/
def onGrid (x : Magnitude) (point : Int) (width : Nat) : Option Nat :=
  let grid := tenPow (point - width)
  let low := (x.value / grid).floor.toNat
  let lowGap := x.value - low * grid
  let highGap := (low + 1 : Nat) * grid - x.value
  let lowIn := x.readsBack (low * grid)
  let highIn := x.readsBack ((low + 1 : Nat) * grid)
  let takeLow := lowGap < highGap || (lowGap == highGap && low % 2 == 0)
  if lowIn && (takeLow || !highIn) then some low
  else if highIn then some (low + 1)
  else none

/-- The shortest decimal of a positive number: the grids from `width` digits on are tried, within
`fuel`. -/
def shortestFrom (x : Magnitude) (point : Int) (width : Nat) : Nat → Decimal
  | 0 => ⟨0, 1, 1⟩
  | fuel + 1 =>
    match x.onGrid point width with
    | some n => if n = Nat.pow 10 width then ⟨1, 1, point + 1⟩ else ⟨n, width, point⟩
    | none => shortestFrom x point (width + 1) fuel

/-- The shortest decimal that reads back as the number. Seventeen digits always suffice. -/
def shortest (x : Magnitude) : Decimal :=
  if x.significand = 0 then ⟨0, 1, 1⟩ else shortestFrom x (pointOf x.value) 1 17

end Magnitude

namespace Decimal

/-- The digits as characters. -/
def digitChars (d : Decimal) : List Char :=
  let shown := Nat.toDigits 10 d.digits
  List.replicate (d.width - shown.length) '0' ++ shown

/-- The least exponent of ten that is written without one. -/
def leastPlainExponent : Int := -4

/-- The least exponent of ten that is written as one again. -/
def leastHighExponent : Int := 16

/-- The digits around the point, with no exponent. -/
def plainText (d : Decimal) : List Char :=
  let ds := d.digitChars
  if d.point ≤ 0 then '0' :: '.' :: List.replicate (-d.point).toNat '0' ++ ds
  else
    let whole := d.point.toNat
    if ds.length ≤ whole then ds ++ List.replicate (whole - ds.length) '0' ++ ['.', '0']
    else ds.take whole ++ '.' :: ds.drop whole

/-- One digit before the point and an exponent. -/
def exponentText (d : Decimal) : List Char :=
  let e := d.point - 1
  let mantissa := match d.digitChars with
    | [] => []
    | [c] => [c]
    | c :: cs => c :: '.' :: cs
  let size := Nat.toDigits 10 e.natAbs
  mantissa ++ 'e' :: (if e < 0 then '-' else '+') :: List.replicate (2 - size.length) '0' ++ size

/-- The decimal as it is written. -/
def text (d : Decimal) : List Char :=
  if leastPlainExponent ≤ d.point - 1 && d.point - 1 < leastHighExponent then d.plainText
  else d.exponentText

end Decimal

/-- A finite number as it is written. -/
def finiteText (negative : Bool) (x : Magnitude) : List Char :=
  (if negative then ['-'] else []) ++ x.shortest.text

end CodeKeyboard.Number
