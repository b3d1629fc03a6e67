import DocFilter.Decimal.Literal
import DocFilter.Json.Printer
import DocFilter.Text.Blank

/-!
# Loose comparison of values

How values of different kinds compare. A value may also be absent. Truth, numbers and emptiness
are read off any value; equality is loose between scalars, which meet as numbers, and between a
container and a scalar, which meet as texts; order is that of texts where both sides have one
and that of numbers otherwise. `deepEq` looks into containers and compares their scalars loosely.
-/

namespace DocFilter

/-- Whether a value counts as true. -/
def truthy : Option Json → Bool
  | none | some .null => false
  | some (.bool b) => b
  | some (.number n) => let x := n.toFloat; x != 0 && !x.isNaN
  | some (.string s) => !s.isEmpty
  | some (.array _) | some (.object _) => true

/-- The float that a decimal number in full writes: an optional sign, digits on at least one side
of the point, an optional exponent. -/
def readDecimal? (cs : List Char) : Option Float :=
  let (negative, unsigned) := match cs with
    | '-' :: rest => (true, rest)
    | '+' :: rest => (false, rest)
    | rest => (false, rest)
  let (whole, rest) := takeDigits unsigned
  let (fraction, rest) := match rest with
    | '.' :: rest => takeDigits rest
    | rest => ([], rest)
  if whole.isEmpty && fraction.isEmpty then none
  else
    match takeExponent rest with
    | some (exponent, []) => some ((⟨whole, fraction, exponent⟩ : DecimalLiteral).toFloat negative)
    | _ => none

/-- Whether `c` is an ASCII letter that does not belong to a decimal number. -/
def isForeignLetter (c : Char) : Bool :=
  c.isAlpha && c != 'e' && c != 'E'

/-- The number that a text stands for: blank text is zero, and the word for infinity is a
number. -/
def textNumber? (s : String) : Option Float :=
  let trimmed := trim s.toList
  if trimmed.isEmpty then some 0
  else if trimmed.any isForeignLetter then
    match String.ofList trimmed with
    | "Infinity" | "+Infinity" => some (Float.ofBits 0x7FF0000000000000)
    | "-Infinity" => some (Float.ofBits 0xFFF0000000000000)
    | _ => none
  else readDecimal? trimmed

namespace Json

mutual

/-- The text of a value when it meets a scalar: a string as it is, nothing for `null`, the texts
of an array with commas between them. -/
def plainText : Json → String
  | null => ""
  | string s => s
  | array xs => String.intercalate "," (plainTexts xs)
  | object _ => "[object Object]"
  | bool b => (Json.bool b).compact
  | number n => n.text
termination_by structural v => v

def plainTexts : List Json → List String
  | [] => []
  | x :: xs => x.plainText :: plainTexts xs
termination_by structural xs => xs

end

/-- The text by which a value is ordered: strings and containers have one. -/
def orderText? : Json → Option String
  | string s => some s
  | array xs => some (array xs).plainText
  | object ms => some (object ms).plainText
  | _ => none

end Json

/-- The number that a value stands for, if it stands for one. -/
def toNumber? : Option Json → Option Float
  | none => none
  | some .null => some 0
  | some (.bool b) => some (if b then 1 else 0)
  | some (.number n) => some n.toFloat
  | some (.string s) => textNumber? s
  | some (.array []) => some 0
  | some (.array [x]) => textNumber? x.plainText
  | some (.array _) => none
  | some (.object _) => none

/-- Loose equality of two scalars other than `null`: within a kind as they are, across kinds as
numbers. -/
def scalarEq (left right : Json) : Bool :=
  match left, right with
  | .string a, .string b => a == b
  | .bool a, .bool b => a == b
  | .number a, .number b => a.toFloat == b.toFloat
  | _, _ =>
    match toNumber? (some left), toNumber? (some right) with
    | some a, some b => a == b
    | _, _ => false

/-- Loose equality. Absent and `null` equal each other and nothing else; two containers are
compared as they are held; a container meets a scalar as its text. -/
def looseEq (left right : Option Json) : Bool :=
  match left, right with
  | none, none | none, some .null | some .null, none | some .null, some .null => true
  | none, some _ | some .null, some _ | some _, none | some _, some .null => false
  | some a, some b =>
    match a.isContainer, b.isContainer with
    | true, true => a.same b
    | true, false => scalarEq (.string a.plainText) b
    | false, true => scalarEq (.string b.plainText) a
    | false, false => scalarEq a b

/-- The order of two texts, by code points. -/
def compareTexts (a b : String) : Ordering :=
  if a < b then .lt else if a = b then .eq else .gt

/-- The order of two floats; NaN has none. -/
def compareFloats? (x y : Float) : Option Ordering :=
  if x < y then some .lt else if x == y then some .eq else if y < x then some .gt else none

/-- The order of two values: by their texts when both have one, by their numbers otherwise. -/
def compareValues? (left right : Option Json) : Option Ordering :=
  match left, right with
  | some a, some b =>
    match a.orderText?, b.orderText? with
    | some s, some t => some (compareTexts s t)
    | _, _ =>
      match toNumber? left, toNumber? right with
      | some x, some y => compareFloats? x y
      | _, _ => none
  | _, _ => none

/-- An integral number as JSON, given both exactly and as a float: an integer as long as its size
is below 2^63. -/
def integralJson (exact : Int) (x : Float) : Json :=
  if exact.natAbs < 0x8000000000000000 then .number (.int exact) else .number (.float x)

/-- A computed number as JSON; there is none for infinities and NaN. -/
def numberJson? (x : Float) : Option Json :=
  match Scaled.ofFloat? x with
  | none => none
  | some s =>
    match s.integer? with
    | some i => some (integralJson i x)
    | none => some (.number (.float x))

/-- The ways of rounding to an integer. -/
inductive Rounding where
  /-- To the nearest integer, and up from halfway between two. -/
  | halfUp
  | down
  | up
  deriving DecidableEq, Repr, Inhabited

/-- A number rounded, as JSON. -/
def Rounding.apply? (r : Rounding) (x : Float) : Option Json :=
  let shifted := match r with
    | halfUp => x + 0.5
    | down | up => x
  match Scaled.ofFloat? shifted with
  | none => none
  | some s =>
    match r with
    | up => some (integralJson s.ceil shifted)
    | halfUp | down => some (integralJson s.floor shifted)

/-- The number that a value stands for, rounded. -/
def Rounding.value? (r : Rounding) (value : Option Json) : Option Json :=
  (toNumber? value).bind r.apply?

/-- Whether a value counts as empty: what is not true, the text `0`, and containers that hold
nothing. -/
def isEmptyValue : Option Json → Bool
  | some (.array xs) => xs.isEmpty
  | some (.object ms) => ms.isEmpty
  | some (.string s) => s == "0" || s.isEmpty
  | value => !truthy value

mutual

/-- Equality of a value, which may be absent, with an expected one: arrays item by item, objects
with the same keys member by member, scalars loosely. -/
def deepEq : Json → Option Json → Bool
  | .array expected, value =>
    match value with
    | some (.array actual) => actual.length == expected.length && deepEqItems expected actual
    | _ => false
  | .object expected, value =>
    match value with
    | some (.object actual) =>
      actual.all (fun (key, _) => (Members.get? expected key).isSome) &&
        deepEqMembers expected actual
    | _ => false
  | .null, value => looseEq value (some .null)
  | .bool b, value => looseEq value (some (.bool b))
  | .number n, value => looseEq value (some (.number n))
  | .string s, value => looseEq value (some (.string s))
termination_by structural expected => expected

def deepEqItems : List Json → List Json → Bool
  | expected :: rest, actual :: others => deepEq expected (some actual) && deepEqItems rest others
  | _, _ => true
termination_by structural expected => expected

def deepEqMembers : List (String × Json) → Members → Bool
  | [], _ => true
  | (key, expected) :: rest, actual =>
    (match Members.get? actual key with
      | some value => deepEq expected (some value)
      | none => false) && deepEqMembers rest actual
termination_by structural expected => expected

end

end DocFilter
