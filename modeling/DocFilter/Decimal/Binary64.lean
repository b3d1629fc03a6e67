/-!
# Floats as exact numbers

A finite float is a sign, a mantissa and a power of two. Taking it apart makes its integer
rounding and its remainder questions about integers, which are answered here exactly. Infinities
and NaN have no parts.
-/

namespace DocFilter

/-- The number `± mantissa · 2 ^ exponent`. -/
structure Scaled where
  negative : Bool
  mantissa : Nat
  exponent : Int
  deriving DecidableEq, Repr

namespace Scaled

/-- The least mantissa of 53 binary digits, as many as a float has at most. -/
def leastFull : Nat := 0x10000000000000

/-- The bit that stands for a minus sign. -/
def signBit : Nat := 0x8000000000000000

/-- The parts of a finite float; `none` for infinities and NaN. -/
def ofFloat? (x : Float) : Option Scaled :=
  let bits : Nat := x.toBits.toNat
  let negative := bits / signBit == 1
  let exponent : Nat := bits / leastFull % 2048
  let fraction := bits % leastFull
  if exponent = 2047 then none
  else if exponent = 0 then some ⟨negative, fraction, -1074⟩
  else some ⟨negative, fraction + leastFull, Int.ofNat exponent - 1075⟩

/-- The mantissa with its sign. -/
def signed (s : Scaled) : Int :=
  if s.negative then -(s.mantissa : Int) else s.mantissa

/-- The greatest integer that is not above the number. -/
def floor (s : Scaled) : Int :=
  if 0 ≤ s.exponent then s.signed * Nat.pow 2 s.exponent.toNat
  else Int.fdiv s.signed (Nat.pow 2 (-s.exponent).toNat)

/-- The number with its sign changed. -/
def neg (s : Scaled) : Scaled :=
  { s with negative := !s.negative }

/-- The least integer that is not below the number. -/
def ceil (s : Scaled) : Int :=
  -s.neg.floor

/-- The number as an integer, if it is one. -/
def integer? (s : Scaled) : Option Int :=
  if s.floor = s.ceil then some s.floor else none

/-- The float with these parts, for parts that some finite float has up to a shift of the
mantissa. -/
def toFloat (s : Scaled) : Float :=
  let sign := if s.negative then signBit else 0
  if s.mantissa = 0 then Float.ofBits (UInt64.ofNat sign)
  else
    let top := Nat.log2 s.mantissa
    let (mantissa, exponent) :=
      if 52 < top then (s.mantissa / Nat.pow 2 (top - 52), s.exponent + (top - 52 : Nat))
      else
        let shift := min (52 - top) (s.exponent + 1074).toNat
        (s.mantissa * Nat.pow 2 shift, s.exponent - (shift : Nat))
    if mantissa < leastFull then Float.ofBits (UInt64.ofNat (sign + mantissa))
    else
      Float.ofBits (UInt64.ofNat
        (sign + (exponent + 1075).toNat * leastFull + (mantissa - leastFull)))

/-- What is left of `a` after taking off whole multiples of `b ≠ 0`, with the sign of `a`. -/
def remainder (a b : Scaled) : Scaled :=
  let exponent := min a.exponent b.exponent
  let dividend := a.mantissa * Nat.pow 2 (a.exponent - exponent).toNat
  let divisor := b.mantissa * Nat.pow 2 (b.exponent - exponent).toNat
  ⟨a.negative, dividend % divisor, exponent⟩

end Scaled

/-- The remainder of a division that truncates. There is none of an infinity, nor by zero; an
infinite divisor leaves the dividend as it is. -/
def floatRemainder? (x y : Float) : Option Float :=
  match Scaled.ofFloat? x with
  | none => none
  | some a =>
    match Scaled.ofFloat? y with
    | none => if y.isNaN then none else some x
    | some b => if b.mantissa = 0 then none else some (a.remainder b).toFloat

end DocFilter
