import DocFilter.Decimal.Binary64

/-!
# The shortest decimal that reads back

Many decimals read back as the same float: those of an interval around it. Among them one with
the fewest digits is chosen, and of these the one nearest to the float. The search tries one
digit, two digits and so on; on each grid of decimals only the two neighbours of the value can be
the nearest points of the interval.
-/

namespace DocFilter

/-- The number `digits · 10 ^ exponent`. -/
structure Decimal where
  digits : Nat
  exponent : Int
  deriving DecidableEq, Repr

/-- How many digits the decimal form of `n` has. -/
def decimalLength (n : Nat) : Nat :=
  (Nat.toDigits 10 n).length

/-- A positive fraction with the bounds of its interval, all over one denominator. -/
structure Interval where
  low : Nat
  value : Nat
  high : Nat
  denominator : Nat
  /-- Whether the bounds themselves belong to the interval. -/
  closed : Bool
  deriving Repr

namespace Interval

/-- The reals that round to `mantissa · 2 ^ exponent`: half a step to either side, but a quarter
step below a power of two, where the floats are twice as dense. Ties go to even mantissas. -/
def ofScaled (s : Scaled) : Interval :=
  let below := if s.mantissa = Scaled.leastFull ∧ s.exponent ≠ -1074 then 1 else 2
  let value := 4 * s.mantissa
  let scale := Nat.pow 2 (s.exponent - 2).toNat
  ⟨(value - below) * scale, value * scale, (value + 2) * scale, Nat.pow 2 (2 - s.exponent).toNat,
    s.mantissa % 2 == 0⟩

/-- The greatest power of ten that is not above the value. -/
def magnitude (i : Interval) : Int :=
  if i.denominator ≤ i.value then decimalLength (i.value / i.denominator) - 1
  else -(decimalLength ((i.denominator + i.value - 1) / i.value - 1) : Int)

/-- Whether the point `point / unit` of a grid, the value being `scale` times finer, lies in the
interval. -/
def holds (i : Interval) (point unit scale : Nat) : Bool :=
  if i.closed then i.low * scale ≤ point * unit && point * unit ≤ i.high * scale
  else i.low * scale < point * unit && point * unit < i.high * scale

/-- The decimal of `count` digits in the interval that is nearest to the value, if there is one.
A tie goes to the even decimal. -/
def onGrid? (i : Interval) (count : Nat) : Option Decimal :=
  let exponent := i.magnitude - count + 1
  let unit := i.denominator * Nat.pow 10 exponent.toNat
  let scale := Nat.pow 10 (-exponent).toNat
  let lower := i.value * scale / unit
  let upper := lower + 1
  match i.holds lower unit scale, i.holds upper unit scale with
  | false, false => none
  | true, false => some ⟨lower, exponent⟩
  | false, true => some ⟨upper, exponent⟩
  | true, true =>
    let twice := 2 * (i.value * scale)
    let middle := (lower + upper) * unit
    if twice < middle then some ⟨lower, exponent⟩
    else if middle < twice then some ⟨upper, exponent⟩
    else if lower % 2 = 0 then some ⟨lower, exponent⟩
    else some ⟨upper, exponent⟩

/-- The first grid with a decimal in the interval, from `count` digits on; seventeen digits
always suffice. -/
def searchGrids (i : Interval) (count : Nat) : Nat → Decimal
  | 0 => (i.onGrid? count).getD ⟨0, 0⟩
  | more + 1 =>
    match i.onGrid? count with
    | some d => d
    | none => i.searchGrids (count + 1) more

end Interval

/-- The shortest decimal that reads back as the positive number `s`. -/
def shortestDecimal (s : Scaled) : Decimal :=
  (Interval.ofScaled s).searchGrids 1 16

end DocFilter
