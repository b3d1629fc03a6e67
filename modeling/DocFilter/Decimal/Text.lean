import DocFilter.Decimal.Shortest

/-!
# Floats as text

The text of a float holds the fewest digits that read back. Numbers from `1e-5` up to, but not
including, `1e16` are written in full with at least one decimal; all others with an exponent that
always has a sign.
-/

namespace DocFilter

/-- The decimal exponents of the numbers that are written in full: from `least` on and below
`bound`. -/
structure PlainRange where
  least : Int
  bound : Int

/-- Numbers are written in full from `1e-5` up to `1e16`. -/
def plainRange : PlainRange := ⟨-5, 16⟩

/-- The digits of `n` without the zeros at the end; `0` has none. -/
def significantDigits (n : Nat) : List Char :=
  ((Nat.toDigits 10 n).reverse.dropWhile (· == '0')).reverse

/-- Digits with a decimal point, the first digit having the weight `10 ^ top`. -/
def plainText (digits : List Char) (top : Int) : List Char :=
  if 0 ≤ top then
    let whole := top.toNat + 1
    let fraction := digits.drop whole
    digits.take whole ++ List.replicate (whole - digits.length) '0' ++ '.' ::
      (if fraction.isEmpty then ['0'] else fraction)
  else '0' :: '.' :: List.replicate ((-top).toNat - 1) '0' ++ digits

/-- Digits with an exponent, the first digit having the weight `10 ^ top`. -/
def scientificText (digits : List Char) (top : Int) : List Char :=
  let fraction := digits.drop 1
  digits.take 1 ++ (if fraction.isEmpty then [] else '.' :: fraction) ++ 'e' ::
    (if top < 0 then '-' else '+') :: Nat.toDigits 10 top.natAbs

/-- The text of a positive number. -/
def scaledText (s : Scaled) : List Char :=
  let d := shortestDecimal s
  let top := d.exponent + decimalLength d.digits - 1
  let digits := significantDigits d.digits
  if plainRange.least ≤ top && top < plainRange.bound then plainText digits top
  else scientificText digits top

/-- The text of a float; `null` for infinities and NaN, which JSON cannot write. -/
def floatText (x : Float) : String :=
  match Scaled.ofFloat? x with
  | none => "null"
  | some s =>
    let body := if s.mantissa = 0 then ['0', '.', '0'] else scaledText s
    String.ofList (if s.negative then '-' :: body else body)

end DocFilter
