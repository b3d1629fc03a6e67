import DocFilter.Decimal.Text
import DocFilter.Json.Basic

/-!
# JSON text

Compact text has no blanks; pretty text puts every item and member on a line of its own, two
blanks deeper than its container, and writes empty containers as a pair of brackets. In strings
only the quote, the backslash and the control characters below U+0020 are escaped.
-/

namespace DocFilter

/-- A hexadecimal digit, in lower case. -/
def hexDigit (n : Nat) : Char :=
  if n < 10 then Char.ofNat ('0'.toNat + n) else Char.ofNat ('a'.toNat + (n - 10))

namespace Json

/-- A character as it stands in a JSON string. -/
def escapeChar (c : Char) : List Char :=
  match c with
  | '"' => ['\\', '"']
  | '\\' => ['\\', '\\']
  | '\n' => ['\\', 'n']
  | '\r' => ['\\', 'r']
  | '\t' => ['\\', 't']
  | '\x08' => ['\\', 'b']
  | '\x0c' => ['\\', 'f']
  | c =>
    if c.toNat < 0x20 then ['\\', 'u', '0', '0', hexDigit (c.toNat / 16), hexDigit (c.toNat % 16)]
    else [c]

/-- A text between quotes, escaped. -/
def quote (s : String) : String :=
  String.ofList ('"' :: s.toList.flatMap escapeChar ++ ['"'])

end Json

/-- The text of a number. -/
def JsonNumber.text : JsonNumber → String
  | .int i => toString i
  | .float x => floatText x

namespace Json

mutual

/-- Text without blanks. -/
def compact : Json → String
  | null => "null"
  | bool b => if b then "true" else "false"
  | number n => n.text
  | string s => quote s
  | array xs => "[" ++ String.intercalate "," (compactItems xs) ++ "]"
  | object ms => "\x7b" ++ String.intercalate "," (compactMembers ms) ++ "\x7d"
termination_by structural v => v

def compactItems : List Json → List String
  | [] => []
  | x :: xs => x.compact :: compactItems xs
termination_by structural xs => xs

def compactMembers : List (String × Json) → List String
  | [] => []
  | (key, value) :: rest => (quote key ++ ":" ++ value.compact) :: compactMembers rest
termination_by structural ms => ms

end

/-- A new line, indented by `depth` steps. -/
def newLine (depth : Nat) : String :=
  String.ofList ('\n' :: List.replicate (2 * depth) ' ')

/-- Lines between an opening and a closing bracket, at `depth`. -/
def block (opening closing : String) (depth : Nat) (lines : List String) : String :=
  if lines.isEmpty then opening ++ closing
  else
    opening ++ newLine (depth + 1) ++ String.intercalate ("," ++ newLine (depth + 1)) lines ++
      newLine depth ++ closing

mutual

/-- Pretty text of a value that stands at `depth`. -/
def prettyAt : Json → Nat → String
  | array xs, depth => block "[" "]" depth (prettyItems xs (depth + 1))
  | object ms, depth => block "\x7b" "\x7d" depth (prettyMembers ms (depth + 1))
  | null, _ => "null"
  | bool b, _ => if b then "true" else "false"
  | number n, _ => n.text
  | string s, _ => quote s
termination_by structural v => v

def prettyItems : List Json → Nat → List String
  | [], _ => []
  | x :: xs, depth => x.prettyAt depth :: prettyItems xs depth
termination_by structural xs => xs

def prettyMembers : List (String × Json) → Nat → List String
  | [], _ => []
  | (key, value) :: rest, depth =>
    (quote key ++ ": " ++ value.prettyAt depth) :: prettyMembers rest depth
termination_by structural ms => ms

end

/-- Pretty text. -/
def pretty (v : Json) : String :=
  v.prettyAt 0

/-- The text of a value, pretty or compact. -/
def render (v : Json) (pretty : Bool) : String :=
  if pretty then v.pretty else v.compact

end Json

end DocFilter
