import DocFilter.Decimal.Literal
import DocFilter.Json.Reader

/-!
# Strict JSON

The JSON of the standard, with two limits of its own: containers nest at most 127 deep, and a
number that is too great for a float is refused. `-0` is the float that is zero with a sign.

A number with a point or an exponent is put together from those of its digits that fit 64 bits, as
one float, and a power of ten, as another. That takes a conversion and a division, each of which
rounds, so that the result need not be the float nearest to what is written.
-/

namespace DocFilter.Json

/-- A blank between tokens. -/
def isSpace (c : Char) : Bool :=
  c == ' ' || c == '\n' || c == '\r' || c == '\t'

/-- The text of a string up to its closing quote; `text` is what came before, last character
first. -/
def takeString (text : List Char) : Nat → List Char → Option (String × List Char)
  | 0, _ => none
  | _ + 1, '"' :: rest => some (String.ofList text.reverse, rest)
  | fuel + 1, '\\' :: c :: cs =>
    match c with
    | '"' => takeString ('"' :: text) fuel cs
    | '\\' => takeString ('\\' :: text) fuel cs
    | '/' => takeString ('/' :: text) fuel cs
    | 'b' => takeString ('\x08' :: text) fuel cs
    | 'f' => takeString ('\x0c' :: text) fuel cs
    | 'n' => takeString ('\n' :: text) fuel cs
    | 'r' => takeString ('\r' :: text) fuel cs
    | 't' => takeString ('\t' :: text) fuel cs
    | 'u' =>
      match takeUnicodeEscape cs with
      | some (c, rest) => takeString (c :: text) fuel rest
      | none => none
    | _ => none
  | fuel + 1, c :: cs =>
    if c.toNat < 0x20 then none else takeString (c :: text) fuel cs
  | _ + 1, [] => none

/-- A key: a string between double quotes. -/
def takeKey : List Char → Option (String × List Char)
  | '"' :: cs => takeString [] (cs.length + 1) cs
  | _ => none

/-- The fraction of a number: a point and at least one digit. Text without the point has none. -/
def takeFraction : List Char → Option (List Char × List Char)
  | '.' :: cs =>
    match takeDigits cs with
    | ([], _) => none
    | (digits, rest) => some (digits, rest)
  | cs => some ([], cs)

/-- A float, unless it is too great to be one. -/
def finite? (x : Float) : Option Json :=
  if x.isFinite then some (.number (.float x)) else none

/-- The first number that does not fit 64 bits. -/
def significandBound : Nat := 0x10000000000000000

/-- Adds the digits of a whole part to a number as long as it fits 64 bits. The digits from the first
one on that does not fit are counted only. -/
def addWhole (significand : Nat) : List Char → Nat × Int
  | [] => (significand, 0)
  | c :: cs =>
    let next := 10 * significand + (c.toNat - '0'.toNat)
    if next < significandBound then addWhole next cs else (significand, (c :: cs).length)

/-- Adds the digits of a fraction to a number that counts powers of ten, as long as it fits 64 bits.
The digits from the first one on that does not fit are dropped. -/
def addFraction (significand : Nat) (exponent : Int) : List Char → Nat × Int
  | [] => (significand, exponent)
  | c :: cs =>
    let next := 10 * significand + (c.toNat - '0'.toNat)
    if next < significandBound then addFraction next (exponent - 1) cs else (significand, exponent)

/-- `x · 10 ^ exponent` for a number `x` of 64 bits, by a multiplication or a division with a power
of ten. When that power is no float, the number is divided by one that is before; two of these
divisions leave nothing of it. -/
def timesPower (x : Float) (exponent : Int) : Float :=
  let power (n : Nat) : Float := Float.ofScientific 1 false n
  if x == 0 then x
  else if 308 < exponent then Float.ofBits 0x7FF0000000000000
  else if 0 ≤ exponent then x * power exponent.toNat
  else if -308 ≤ exponent then x / power (-exponent).toNat
  else if -616 ≤ exponent then x / power 308 / power (-exponent - 308).toNat
  else 0

/-- The float that digits before and after a point and an exponent are put together to. -/
def decimal? (negative : Bool) (whole fraction : List Char) (exponent : Int) : Option Json :=
  let (significand, dropped) := addWhole 0 whole
  let (significand, point) := addFraction significand dropped fraction
  let x := timesPower (Float.ofNat significand) (point + exponent)
  finite? (if negative then -x else x)

/-- An unsigned number: digits without a leading zero, a fraction, an exponent. -/
def takeUnsigned (negative : Bool) (cs : List Char) : Option (Json × List Char) := do
  let (whole, rest) := takeDigits cs
  match whole with
  | [] => none
  | '0' :: _ :: _ => none
  | _ =>
    let (fraction, rest) ← takeFraction rest
    let isInteger := match rest with
      | 'e' :: _ | 'E' :: _ => false
      | _ => fraction.isEmpty
    let (exponent, rest) ← takeExponent rest
    if isInteger then
      let size := digitsValue whole
      if negative && size == 0 then some (.number (.float (-0.0)), rest)
      else
        match integerNumber negative size with
        | .int i => some (.number (.int i), rest)
        | .float _ => do some (← decimal? negative whole fraction exponent, rest)
    else do some (← decimal? negative whole fraction exponent, rest)

/-- A value that is no container. -/
def takeScalar : List Char → Option (Json × List Char)
  | '"' :: cs => (takeString [] (cs.length + 1) cs).map fun (s, rest) => (.string s, rest)
  | '-' :: cs => takeUnsigned true cs
  | 't' :: cs => (takeWord ['r', 'u', 'e'] cs).map (.bool true, ·)
  | 'f' :: cs => (takeWord ['a', 'l', 's', 'e'] cs).map (.bool false, ·)
  | 'n' :: cs => (takeWord ['u', 'l', 'l'] cs).map (.null, ·)
  | cs => takeUnsigned false cs

/-- Strict JSON. -/
def strict : Dialect where
  skip cs := some (cs.dropWhile isSpace)
  scalar := takeScalar
  key := takeKey
  trailingComma := false

/-- How deep the containers of a strict text may nest. -/
def depthLimit : Nat := 127

/-- The value of a strict JSON text. -/
def read? (s : String) : Option Json :=
  strict.read? depthLimit s.toList

end DocFilter.Json
