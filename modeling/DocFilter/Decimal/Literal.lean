import DocFilter.Decimal.Shortest

/-!
# Decimal literals

The float nearest to a decimal, and the scanning of runs of digits that the readers share.
-/

namespace DocFilter

/-- The number that decimal digits write. -/
def digitsValue (digits : List Char) : Nat :=
  digits.foldl (fun n c => 10 * n + (c.toNat - '0'.toNat)) 0

/-- The digits in front of a text, and the rest. -/
def takeDigits (cs : List Char) : List Char × List Char :=
  (cs.takeWhile Char.isDigit, cs.dropWhile Char.isDigit)

/-- The float nearest to `± digits · 10 ^ exponent`. Numbers far outside the range of floats are
settled by their length alone. -/
def decimalFloat (negative : Bool) (digits : Nat) (exponent : Int) : Float :=
  let top := exponent + decimalLength digits
  let size : Float :=
    if digits = 0 ∨ top < -330 then 0
    else if 310 < top then Float.ofBits 0x7FF0000000000000
    else Float.ofScientific digits (exponent < 0) exponent.natAbs
  if negative then -size else size

/-- An unsigned decimal literal: its digits before and after the point, and its exponent. -/
structure DecimalLiteral where
  whole : List Char
  fraction : List Char
  exponent : Int
  deriving Repr

/-- The float nearest to a literal under a sign. -/
def DecimalLiteral.toFloat (l : DecimalLiteral) (negative : Bool) : Float :=
  decimalFloat negative (digitsValue (l.whole ++ l.fraction)) (l.exponent - l.fraction.length)

/-- Reads an exponent: a mark `e` or `E`, an optional sign and at least one digit. Text without
the mark has the exponent zero; a mark without digits is refused. -/
def takeExponent : List Char → Option (Int × List Char)
  | c :: cs =>
    if c = 'e' ∨ c = 'E' then
      let (negative, unsigned) :=
        match cs with
        | '-' :: rest => (true, rest)
        | '+' :: rest => (false, rest)
        | rest => (false, rest)
      match takeDigits unsigned with
      | ([], _) => none
      | (digits, rest) =>
        let size : Int := digitsValue digits
        some (if negative then -size else size, rest)
    else some (0, c :: cs)
  | [] => some (0, [])

/-- The sign in front of a number, and the rest. -/
def takeSign : List Char → Bool × List Char
  | '-' :: rest => (true, rest)
  | '+' :: rest => (false, rest)
  | rest => (false, rest)

/-- An exponent is read part by part. -/
theorem takeExponent_cons (c : Char) (cs : List Char) :
    takeExponent (c :: cs) =
      if c = 'e' ∨ c = 'E' then
        match takeDigits (takeSign cs).2 with
        | ([], _) => none
        | (digits, rest) =>
          some (if (takeSign cs).1 then -(digitsValue digits : Int) else digitsValue digits, rest)
      else some (0, c :: cs) := rfl

end DocFilter
