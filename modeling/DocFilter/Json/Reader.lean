import DocFilter.Json.Basic

/-!
# Reading JSON text

Strict and relaxed JSON share their containers and differ in blanks, keys, scalars and the comma
after the last item. A `Dialect` holds what differs; the containers are read here, once for all
dialects. Reading consumes characters from the front of a list and returns what is left.

Between two characters that are consumed at most one reader hands over to another, so twice the
length of the text bounds the number of steps.
-/

namespace DocFilter

/-- What distinguishes one form of JSON from another. -/
structure Dialect where
  /-- Drops blanks and comments; a comment that does not end is refused. -/
  skip : List Char → Option (List Char)
  /-- Reads a value that is no container. -/
  scalar : List Char → Option (Json × List Char)
  /-- Reads the key of a member. -/
  key : List Char → Option (String × List Char)
  /-- Whether a comma may follow the last item or member. -/
  trailingComma : Bool

namespace Dialect

mutual

/-- Reads the value in front of the text, with containers nested at most `room` deep. -/
def readValue (d : Dialect) : Nat → Nat → List Char → Option (Json × List Char)
  | 0, _, _ => none
  | fuel + 1, room, '[' :: cs =>
    match room with
    | 0 => none
    | inner + 1 => do
      match ← d.skip cs with
      | ']' :: rest => some (.array [], rest)
      | start =>
        let (items, rest) ← d.readItems fuel inner start
        some (.array items, rest)
  | fuel + 1, room, '\x7b' :: cs =>
    match room with
    | 0 => none
    | inner + 1 => do
      match ← d.skip cs with
      | '\x7d' :: rest => some (.object [], rest)
      | start =>
        let (members, rest) ← d.readMembers fuel inner [] start
        some (.object members, rest)
  | _ + 1, _, cs => d.scalar cs

/-- Reads the items of an array up to its closing bracket. -/
def readItems (d : Dialect) : Nat → Nat → List Char → Option (List Json × List Char)
  | 0, _, _ => none
  | fuel + 1, room, cs => do
    let (item, rest) ← d.readValue fuel room cs
    match ← d.skip rest with
    | ']' :: rest => some ([item], rest)
    | ',' :: rest =>
      match d.trailingComma, ← d.skip rest with
      | true, ']' :: rest => some ([item], rest)
      | _, start =>
        let (items, rest) ← d.readItems fuel room start
        some (item :: items, rest)
    | _ => none

/-- Reads the members of an object up to its closing brace and adds them to `members`. -/
def readMembers (d : Dialect) :
    Nat → Nat → Members → List Char → Option (Members × List Char)
  | 0, _, _, _ => none
  | fuel + 1, room, members, cs => do
    let (key, rest) ← d.key cs
    match ← d.skip rest with
    | ':' :: rest =>
      let (value, rest) ← d.readValue fuel room (← d.skip rest)
      let members := members.put key value
      match ← d.skip rest with
      | '\x7d' :: rest => some (members, rest)
      | ',' :: rest =>
        match d.trailingComma, ← d.skip rest with
        | true, '\x7d' :: rest => some (members, rest)
        | _, start => d.readMembers fuel room members start
      | _ => none
    | _ => none

end

/-- Reads a text that holds one value and nothing else. -/
def read? (d : Dialect) (room : Nat) (cs : List Char) : Option Json := do
  let (value, rest) ← d.readValue (2 * cs.length + 2) room (← d.skip cs)
  match ← d.skip rest with
  | [] => some value
  | _ => none

end Dialect

/-- The value of a hexadecimal digit. -/
def hexValue? (c : Char) : Option Nat :=
  if c.isDigit then some (c.toNat - '0'.toNat)
  else if 'a' ≤ c ∧ c ≤ 'f' then some (c.toNat - 'a'.toNat + 10)
  else if 'A' ≤ c ∧ c ≤ 'F' then some (c.toNat - 'A'.toNat + 10)
  else none

/-- The number that exactly `count` hexadecimal digits in front of a text write. -/
def takeHex (count : Nat) (cs : List Char) : Option (Nat × List Char) :=
  match count with
  | 0 => some (0, cs)
  | n + 1 =>
    match cs with
    | [] => none
    | c :: cs => do
      let high ← hexValue? c
      let (low, rest) ← takeHex n cs
      some (high * Nat.pow 16 n + low, rest)

/-- The character after an escape that names a unit of 16 bits by four hexadecimal digits. Units
beyond U+FFFF come as a surrogate pair of two escapes; half a pair is refused. -/
def takeUnicodeEscape (cs : List Char) : Option (Char × List Char) := do
  let (unit, rest) ← takeHex 4 cs
  if unit < 0xD800 ∨ 0xDFFF < unit then some (Char.ofNat unit, rest)
  else if 0xDC00 ≤ unit then none
  else
    match rest with
    | '\\' :: 'u' :: rest => do
      let (low, rest) ← takeHex 4 rest
      if 0xDC00 ≤ low ∧ low ≤ 0xDFFF then
        some (Char.ofNat (0x10000 + (unit - 0xD800) * 0x400 + (low - 0xDC00)), rest)
      else none
    | _ => none

/-- Takes the characters of `word` off the front of a text. -/
def takeWord : List Char → List Char → Option (List Char)
  | [], cs => some cs
  | w :: ws, c :: cs => if w = c then takeWord ws cs else none
  | _ :: _, [] => none

/-- An integer under a sign, as a float when it needs more than 64 bits. -/
def integerNumber (negative : Bool) (size : Nat) : JsonNumber :=
  let value : Int := if negative then -(size : Int) else size
  if JsonNumber.leastInt ≤ value ∧ value < JsonNumber.intBound then .int value
  else .float (Float.ofInt value)

end DocFilter
