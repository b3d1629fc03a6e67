import DocFilter.Json.Basic
import DocFilter.Selector.Bracket

/-!
# Selectors

A selector is a text that points into a document: a dotted path whose keys may also stand in
brackets. Resolving it walks down the document, one key at a time.
-/

namespace DocFilter

/-- A path into a document, as it was written. -/
structure Selector where
  raw : String
  deriving DecidableEq, Repr, Inhabited

namespace Selector

/-- The dotted path without brackets. -/
def normalized (raw : String) : String :=
  String.ofList (Bracket.normalize raw.toList)

/-- The keys that the selector follows. -/
def segments (s : Selector) : List String :=
  Path.keys (normalized s.raw)

/-- The position that a key names in an array: decimal digits after an optional plus sign, below
2^64. -/
def position? (key : String) : Option Nat :=
  let digits := match key.toList with
    | '+' :: cs => cs
    | cs => cs
  if digits.isEmpty || !digits.all Char.isDigit then none
  else
    let n := digits.foldl (fun n c => 10 * n + (c.toNat - '0'.toNat)) 0
    if n < 0x10000000000000000 then some n else none

/-- What one key selects: a member of an object, or an item of an array by its position. -/
def child? (value : Json) (key : String) : Option Json :=
  match value with
  | .object members => Members.get? members key
  | .array items => (position? key).bind fun n => items[n]?
  | _ => none

/-- What a list of keys selects. -/
def follow : List String → Json → Option Json
  | [], value => some value
  | key :: keys, value => (child? value key).bind (follow keys)

/-- What the selector points at; nothing when a key is missing, or when it has no keys. -/
def resolve (s : Selector) (document : Json) : Option Json :=
  match s.segments with
  | [] => none
  | keys => follow keys document

end Selector

end DocFilter
