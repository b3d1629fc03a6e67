import DocFilter.Decimal.Literal
import DocFilter.Json.Reader
import DocFilter.Text.Character

/-!
# Relaxed JSON

JSON as people write it: comments, names without quotes as keys, single quotes, a comma after the
last item, hexadecimal integers, numbers that begin or end with a point, and a sign in front.
Numbers that no float can hold, and the words for infinity and for no number, read as `null`.
-/

namespace DocFilter.Json.Relaxed

/-- Whether `c` ends a line. -/
def isLineEnd (c : Char) : Bool :=
  c == '\n' || c == '\r' || c.toNat == 0x2028 || c.toNat == 0x2029

/-- A blank between tokens: white space, line ends and the byte order mark, but not U+0085. -/
def isSpace (c : Char) : Bool :=
  (isBlank c && c.toNat != 0x85) || c.toNat == 0xFEFF

/-- What follows a comment between `/*` and `*/`. -/
def afterComment : List Char → Option (List Char)
  | '*' :: '/' :: rest => some rest
  | _ :: rest => afterComment rest
  | [] => none

/-- Drops blanks and comments. Each step takes at least one character. -/
def skipWith : Nat → List Char → Option (List Char)
  | 0, cs => some cs
  | fuel + 1, '/' :: '/' :: cs => skipWith fuel (cs.dropWhile fun c => !isLineEnd c)
  | fuel + 1, '/' :: '*' :: cs => do skipWith fuel (← afterComment cs)
  | fuel + 1, c :: cs => if isSpace c then skipWith fuel cs else some (c :: cs)
  | _ + 1, [] => some []

/-- Drops blanks and comments. -/
def skip (cs : List Char) : Option (List Char) :=
  skipWith cs.length cs

/-- The text of a string up to its closing `quote`; `text` is what came before, last character
first. A backslash in front of a line end continues the string on the next line. -/
def takeString (quote : Char) (text : List Char) : Nat → List Char → Option (String × List Char)
  | 0, _ => none
  | _ + 1, [] => none
  | fuel + 1, c :: cs =>
    if c = quote then some (String.ofList text.reverse, cs)
    else if c = '\\' then
      match cs with
      | 'u' :: cs =>
        match takeUnicodeEscape cs with
        | some (c, rest) => takeString quote (c :: text) fuel rest
        | none => none
      | 'x' :: cs =>
        match takeHex 2 cs with
        | some (n, rest) => takeString quote (Char.ofNat n :: text) fuel rest
        | none => none
      | '\r' :: '\n' :: cs => takeString quote text fuel cs
      | 'b' :: cs => takeString quote ('\x08' :: text) fuel cs
      | 'f' :: cs => takeString quote ('\x0c' :: text) fuel cs
      | 'n' :: cs => takeString quote ('\n' :: text) fuel cs
      | 'r' :: cs => takeString quote ('\r' :: text) fuel cs
      | 't' :: cs => takeString quote ('\t' :: text) fuel cs
      | 'v' :: cs => takeString quote ('\x0b' :: text) fuel cs
      | '0' :: cs =>
        if cs.head?.any Char.isDigit then none else takeString quote ('\x00' :: text) fuel cs
      | c :: cs =>
        if isLineEnd c then takeString quote text fuel cs
        else if c.isDigit then none
        else takeString quote (c :: text) fuel cs
      | [] => none
    else if c = '\n' ∨ c = '\r' then none
    else takeString quote (c :: text) fuel cs

/-- The rest of a name whose characters so far are `text`, last one first. A name goes on as long
as its characters do. -/
def takeName (text : List Char) : Nat → List Char → Option (String × List Char)
  | 0, _ => none
  | fuel + 1, '\\' :: 'u' :: cs =>
    match takeUnicodeEscape cs with
    | some (c, rest) => if isNamePart c then takeName (c :: text) fuel rest else none
    | none => none
  | fuel + 1, c :: cs =>
    if isNamePart c then takeName (c :: text) fuel cs
    else some (String.ofList text.reverse, c :: cs)
  | _ + 1, [] => some (String.ofList text.reverse, [])

/-- A key: a string in either kind of quotes, or a name. -/
def takeKey : List Char → Option (String × List Char)
  | '"' :: cs => takeString '"' [] (cs.length + 1) cs
  | '\'' :: cs => takeString '\'' [] (cs.length + 1) cs
  | '\\' :: 'u' :: cs =>
    match takeUnicodeEscape cs with
    | some (c, rest) => if isNameStart c then takeName [c] (rest.length + 1) rest else none
    | none => none
  | c :: cs => if isNameStart c then takeName [c] (cs.length + 1) cs else none
  | [] => none

/-- A float, or `null` when JSON cannot write it. -/
def floatOrNull (x : Float) : Json :=
  if x.isFinite then .number (.float x) else .null

/-- An integer; one beyond 64 bits as a float, or `null` when no float can hold it. -/
def integerOrNull (negative : Bool) (size : Nat) : Json :=
  match integerNumber negative size with
  | .int i => .number (.int i)
  | .float x => floatOrNull x

/-- The hexadecimal digits in front of a text, and the rest. -/
def takeHexDigits (cs : List Char) : List Char × List Char :=
  (cs.takeWhile fun c => (hexValue? c).isSome, cs.dropWhile fun c => (hexValue? c).isSome)

/-- A hexadecimal integer of at most 128 bits, of which a negative one spends one on its sign. -/
def takeHexadecimal (negative : Bool) (cs : List Char) : Option (Json × List Char) :=
  match takeHexDigits cs with
  | ([], _) => none
  | (digits, rest) =>
    let size := digits.foldl (fun n c => 16 * n + (hexValue? c).getD 0) 0
    let largest := if negative then Nat.pow 2 127 else Nat.pow 2 128 - 1
    if size ≤ largest then some (integerOrNull negative size, rest) else none

/-- A decimal number: digits on at least one side of the point, no zero in front of another
digit. -/
def takeDecimal (negative : Bool) (cs : List Char) : Option (Json × List Char) := do
  let (whole, rest) := takeDigits cs
  let (hasPoint, fraction, rest) := match rest with
    | '.' :: rest => let (fraction, rest) := takeDigits rest; (true, fraction, rest)
    | rest => (false, [], rest)
  let hasExponent := match rest with
    | 'e' :: _ | 'E' :: _ => true
    | _ => false
  let (exponent, rest) ← takeExponent rest
  match whole, fraction with
  | [], [] => none
  | '0' :: _ :: _, _ => none
  | _, _ =>
    if hasPoint || hasExponent then
      some (floatOrNull ((⟨whole, fraction, exponent⟩ : DecimalLiteral).toFloat negative), rest)
    else some (integerOrNull negative (digitsValue whole), rest)

/-- A number after its sign. -/
def takeUnsigned (negative : Bool) : List Char → Option (Json × List Char)
  | '0' :: 'x' :: cs | '0' :: 'X' :: cs => takeHexadecimal negative cs
  | 'I' :: cs => (takeWord "nfinity".toList cs).map (.null, ·)
  | 'N' :: cs => (takeWord "aN".toList cs).map (.null, ·)
  | cs => takeDecimal negative cs

/-- A value that is no container. -/
def takeScalar : List Char → Option (Json × List Char)
  | '"' :: cs => (takeString '"' [] (cs.length + 1) cs).map fun (s, rest) => (.string s, rest)
  | '\'' :: cs => (takeString '\'' [] (cs.length + 1) cs).map fun (s, rest) => (.string s, rest)
  | '-' :: cs => takeUnsigned true cs
  | '+' :: cs => takeUnsigned false cs
  | 't' :: cs => (takeWord "rue".toList cs).map (.bool true, ·)
  | 'f' :: cs => (takeWord "alse".toList cs).map (.bool false, ·)
  | 'n' :: cs => (takeWord "ull".toList cs).map (.null, ·)
  | cs => takeUnsigned false cs

/-- Relaxed JSON. -/
def dialect : Dialect where
  skip := skip
  scalar := takeScalar
  key := takeKey
  trailingComma := true

/-- The value of a relaxed JSON text. Containers nest as deep as the text is long. -/
def read? (s : String) : Option Json :=
  dialect.read? s.length s.toList

end DocFilter.Json.Relaxed
