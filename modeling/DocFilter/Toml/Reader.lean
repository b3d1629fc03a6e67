import DocFilter.Decimal.Literal
import DocFilter.Json.Reader
import DocFilter.Toml.Basic

/-!
# Reading TOML

The text of a TOML document, line by line: headers of tables and pairs of a key and a value. All
readers consume characters from the front of a list and give what is left; where they recurse
freely, the length of the text bounds their steps.
-/

namespace DocFilter.Toml

/-- How deep values nest, and how many parts a dotted key has, at most. -/
def depthLimit : Nat := 79

/-- A blank inside a line. -/
def isSpace (c : Char) : Bool :=
  c == ' ' || c == '\t'

/-- The text without blanks in front. -/
def skipSpaces (cs : List Char) : List Char :=
  cs.dropWhile isSpace

/-- Whether `c` can stand in a comment or, but for quotes, in a string on one line. -/
def isVisible (c : Char) : Bool :=
  c == '\t' || (0x20 ≤ c.toNat && c.toNat != 0x7F)

/-- The text behind a line end, if it starts with one. -/
def afterNewline : List Char → Option (List Char)
  | '\n' :: cs => some cs
  | '\r' :: '\n' :: cs => some cs
  | _ => none

/-- The text without a comment in front. -/
def skipComment : List Char → List Char
  | '#' :: cs => cs.dropWhile isVisible
  | cs => cs

/-- Drops what may stand at the end of a line: blanks, a comment and the line end. -/
def endOfLine (cs : List Char) : Option (List Char) :=
  match skipComment (skipSpaces cs) with
  | [] => some []
  | cs => afterNewline cs

/-- Drops blanks, line ends and comments between the items of an array. -/
def skipLines : Nat → List Char → List Char
  | 0, cs => cs
  | fuel + 1, cs =>
    let cs := skipComment (skipSpaces cs)
    match afterNewline cs with
    | some rest => skipLines fuel rest
    | none => cs

/-! ## Strings -/

/-- The character after an escape by its number. -/
def numberedChar? (count : Nat) (cs : List Char) : Option (Char × List Char) := do
  let (n, rest) ← takeHex count cs
  if n < 0xD800 ∨ (0xDFFF < n ∧ n ≤ 0x10FFFF) then some (Char.ofNat n, rest) else none

/-- The character that the text after a backslash stands for. -/
def takeEscape : List Char → Option (Char × List Char)
  | 'b' :: cs => some ('\x08', cs)
  | 't' :: cs => some ('\t', cs)
  | 'n' :: cs => some ('\n', cs)
  | 'f' :: cs => some ('\x0c', cs)
  | 'r' :: cs => some ('\r', cs)
  | '"' :: cs => some ('"', cs)
  | '\\' :: cs => some ('\\', cs)
  | 'u' :: cs => numberedChar? 4 cs
  | 'U' :: cs => numberedChar? 8 cs
  | _ => none

/-- A string with escapes on one line, up to its closing quote. -/
def takeBasic (text : List Char) : Nat → List Char → Option (String × List Char)
  | 0, _ => none
  | _ + 1, [] => none
  | _ + 1, '"' :: cs => some (String.ofList text.reverse, cs)
  | fuel + 1, '\\' :: cs =>
    match takeEscape cs with
    | some (c, rest) => takeBasic (c :: text) fuel rest
    | none => none
  | fuel + 1, c :: cs => if isVisible c then takeBasic (c :: text) fuel cs else none

/-- A string without escapes on one line, up to its closing quote. -/
def takeLiteral (text : List Char) : List Char → Option (String × List Char)
  | [] => none
  | '\'' :: cs => some (String.ofList text.reverse, cs)
  | c :: cs => if isVisible c then takeLiteral (c :: text) cs else none

/-- Drops blanks and line ends. -/
def skipBlankLines : Nat → List Char → List Char
  | 0, cs => cs
  | fuel + 1, cs =>
    match afterNewline (skipSpaces cs) with
    | some rest => skipBlankLines fuel rest
    | none => skipSpaces cs

/-- What follows the blanks and line ends after a backslash at the end of a line, if the rest of
the line is blank. -/
def skipContinued (fuel : Nat) (cs : List Char) : Option (List Char) :=
  (afterNewline (skipSpaces cs)).map (skipBlankLines fuel)

/-- The end of a string of several lines, at a run of quotes: three of them close the string, and
up to two before them belong to it. -/
def closeLines (quote : Char) (text : List Char) (cs : List Char) :
    Option (String × List Char) :=
  let run := (cs.takeWhile (· == quote)).length
  if run < 3 then none
  else
    let inside := min (run - 3) 2
    some (String.ofList (text.reverse ++ List.replicate inside quote), cs.drop (inside + 3))

/-- A string of several lines, up to its closing quotes; escapes count when `escapes`. -/
def takeLines (quote : Char) (escapes : Bool) (text : List Char) :
    Nat → List Char → Option (String × List Char)
  | 0, _ => none
  | _ + 1, [] => none
  | fuel + 1, c :: cs =>
    match closeLines quote text (c :: cs) with
    | some closed => some closed
    | none =>
      if c = '\\' ∧ escapes then
        match skipContinued fuel cs with
        | some rest => takeLines quote escapes text fuel rest
        | none =>
          match takeEscape cs with
          | some (c, rest) => takeLines quote escapes (c :: text) fuel rest
          | none => none
      else
        match afterNewline (c :: cs) with
        | some rest => takeLines quote escapes ('\n' :: text) fuel rest
        | none => if isVisible c then takeLines quote escapes (c :: text) fuel cs else none

/-- A string of several lines after its opening quotes; a line end right there is dropped. -/
def takeLinesFrom (quote : Char) (escapes : Bool) (cs : List Char) :
    Option (String × List Char) :=
  takeLines quote escapes [] (cs.length + 1) ((afterNewline cs).getD cs)

/-! ## Keys -/

/-- Whether `c` can stand in a key without quotes. -/
def isBareKeyChar (c : Char) : Bool :=
  c.isAlphanum || c == '_' || c == '-'

/-- One part of a key. -/
def takeKeyPart : List Char → Option (String × List Char)
  | '"' :: cs => takeBasic [] (cs.length + 1) cs
  | '\'' :: cs => takeLiteral [] cs
  | cs =>
    match cs.takeWhile isBareKeyChar with
    | [] => none
    | name => some (String.ofList name, cs.dropWhile isBareKeyChar)

/-- The parts of a dotted key. -/
def takeKey : Nat → List Char → Option (List String × List Char)
  | 0, _ => none
  | fuel + 1, cs => do
    let (part, rest) ← takeKeyPart (skipSpaces cs)
    match skipSpaces rest with
    | '.' :: rest =>
      let (parts, rest) ← takeKey fuel rest
      some (part :: parts, rest)
    | rest => some ([part], rest)

/-! ## Numbers, dates and times -/

/-- Digits with single underscores between them, without the underscores. -/
def takeGrouped (isDigit : Char → Bool) : List Char → Option (List Char × List Char)
  | [] => none
  | c :: cs =>
    if isDigit c then
      match cs with
      | '_' :: rest =>
        match takeGrouped isDigit rest with
        | some (digits, rest) => some (c :: digits, rest)
        | none => none
      | d :: rest =>
        if isDigit d then
          match takeGrouped isDigit (d :: rest) with
          | some (digits, rest) => some (c :: digits, rest)
          | none => none
        else some ([c], d :: rest)
      | [] => some ([c], [])
    else none

/-- An integer of 64 bits with a sign. -/
def integer? (value : Int) : Option Toml :=
  if -0x8000000000000000 ≤ value ∧ value < 0x8000000000000000 then some (.integer value) else none

/-- An integer to another base. -/
def takeBased (base : Nat) (isDigit : Char → Bool) (cs : List Char) :
    Option (Toml × List Char) := do
  let (digits, rest) ← takeGrouped isDigit cs
  let value := digits.foldl (fun n c => base * n + (hexValue? c).getD 0) 0
  some (← integer? value, rest)

/-- A fraction: a point and digits. Text without the point has none. -/
def takeFraction : List Char → Option (List Char × List Char)
  | '.' :: cs => takeGrouped Char.isDigit cs
  | cs => some ([], cs)

/-- An exponent: a mark, an optional sign and digits. -/
def takeExponent? : List Char → Option (Option Int × List Char)
  | c :: cs =>
    if c = 'e' ∨ c = 'E' then do
      let (negative, unsigned) := match cs with
        | '-' :: rest => (true, rest)
        | '+' :: rest => (false, rest)
        | rest => (false, rest)
      let (digits, rest) ← takeGrouped Char.isDigit unsigned
      let size : Int := digitsValue digits
      some (some (if negative then -size else size), rest)
    else some (none, c :: cs)
  | [] => some (none, [])

/-- A decimal number after its sign. -/
def takeUnsigned (negative : Bool) (cs : List Char) : Option (Toml × List Char) := do
  match cs with
  | 'i' :: 'n' :: 'f' :: rest =>
    let infinity := Float.ofBits 0x7FF0000000000000
    some (.float (if negative then -infinity else infinity), rest)
  | 'n' :: 'a' :: 'n' :: rest => some (.float (Float.ofBits 0x7FF8000000000000), rest)
  | cs =>
    let (whole, rest) ← takeGrouped Char.isDigit cs
    if whole.length > 1 && whole.head? == some '0' then none
    let (fraction, rest) ← takeFraction rest
    let (exponent, rest) ← takeExponent? rest
    if fraction.isEmpty && exponent.isNone then
      let size : Int := digitsValue whole
      some (← integer? (if negative then -size else size), rest)
    else
      let x := (⟨whole, fraction, exponent.getD 0⟩ : DecimalLiteral).toFloat negative
      if x.isInf && !negative then none else some (.float x, rest)

/-- A number of exactly `count` digits. -/
def takeFixed (count : Nat) (cs : List Char) : Option (Nat × List Char) :=
  let digits := cs.take count
  if digits.length = count ∧ digits.all Char.isDigit then
    some (digitsValue digits, cs.drop count)
  else none

/-- The number of days of a month. -/
def daysIn (year month : Nat) : Nat :=
  if month = 2 then
    if year % 4 = 0 ∧ (year % 100 ≠ 0 ∨ year % 400 = 0) then 29 else 28
  else if month = 4 ∨ month = 6 ∨ month = 9 ∨ month = 11 then 30
  else 31

/-- Drops a date. -/
def afterDate (cs : List Char) : Option (List Char) := do
  let (year, rest) ← takeFixed 4 cs
  let (month, rest) ← takeFixed 2 (← takeWord ['-'] rest)
  let (day, rest) ← takeFixed 2 (← takeWord ['-'] rest)
  if 1 ≤ month ∧ month ≤ 12 ∧ 1 ≤ day ∧ day ≤ daysIn year month then some rest else none

/-- Drops a time of day. -/
def afterTime (cs : List Char) : Option (List Char) := do
  let (hour, rest) ← takeFixed 2 cs
  let (minute, rest) ← takeFixed 2 (← takeWord [':'] rest)
  let (second, rest) ← takeFixed 2 (← takeWord [':'] rest)
  if 23 < hour ∨ 59 < minute ∨ 60 < second then none
  match rest with
  | '.' :: rest =>
    match takeDigits rest with
    | ([], _) => none
    | (_, rest) => some rest
  | rest => some rest

/-- Drops the offset of a time from universal time, if there is one. -/
def afterOffset : List Char → Option (List Char)
  | 'Z' :: cs | 'z' :: cs => some cs
  | '+' :: cs | '-' :: cs => do
    let (hour, rest) ← takeFixed 2 cs
    let (minute, rest) ← takeFixed 2 (← takeWord [':'] rest)
    if 23 < hour ∨ 59 < minute then none else some rest
  | cs => some cs

/-- Drops a date, a time, or both. -/
def afterMoment (cs : List Char) : Option (List Char) :=
  match afterDate cs with
  | none => afterTime cs
  | some rest =>
    match rest with
    | 'T' :: time | 't' :: time => do afterOffset (← afterTime time)
    | ' ' :: time =>
      match afterTime time with
      | some rest => afterOffset rest
      | none => some (' ' :: time)
    | rest => some rest

/-- A number, a date or a time. -/
def takeNumber (cs : List Char) : Option (Toml × List Char) :=
  match afterMoment cs with
  | some rest => some (.moment (String.ofList (cs.take (cs.length - rest.length))), rest)
  | none =>
    match cs with
    | '+' :: cs => takeUnsigned false cs
    | '-' :: cs => takeUnsigned true cs
    | '0' :: 'x' :: cs => takeBased 16 (fun c => (hexValue? c).isSome) cs
    | '0' :: 'o' :: cs => takeBased 8 (fun c => c.isDigit && c != '8' && c != '9') cs
    | '0' :: 'b' :: cs => takeBased 2 (fun c => c == '0' || c == '1') cs
    | cs => takeUnsigned false cs

/-! ## Values -/

/-- Adds a value under a dotted key to an inline table. -/
def addInline (entries : Entries) (key : List String) (v : Toml) : Option Entries :=
  match key.getLast? with
  | some last => Entries.addDotted v key.dropLast last entries
  | none => none

mutual

/-- Reads a value, with containers nested at most `room` deep. -/
def readValue : Nat → Nat → List Char → Option (Toml × List Char)
  | 0, _, _ => none
  | fuel + 1, room, cs =>
    match cs with
    | '"' :: '"' :: '"' :: cs => (takeLinesFrom '"' true cs).map fun (s, rest) => (.string s, rest)
    | '"' :: cs => (takeBasic [] (cs.length + 1) cs).map fun (s, rest) => (.string s, rest)
    | '\'' :: '\'' :: '\'' :: cs =>
      (takeLinesFrom '\'' false cs).map fun (s, rest) => (.string s, rest)
    | '\'' :: cs => (takeLiteral [] cs).map fun (s, rest) => (.string s, rest)
    | 't' :: 'r' :: 'u' :: 'e' :: rest => some (.boolean true, rest)
    | 'f' :: 'a' :: 'l' :: 's' :: 'e' :: rest => some (.boolean false, rest)
    | '[' :: cs =>
      match room with
      | 0 => none
      | room + 1 =>
        (readItems fuel room (skipLines cs.length cs)).map fun (items, rest) =>
          (.array items, rest)
    | '\x7b' :: cs =>
      match room with
      | 0 => none
      | room + 1 =>
        match skipSpaces cs with
        | '\x7d' :: rest => some (.table [], rest)
        | cs =>
          (readPairs fuel room [] cs).map fun (entries, rest) => (.table (valuesOf entries), rest)
    | cs => takeNumber cs

/-- Reads the items of an array up to its closing bracket. -/
def readItems : Nat → Nat → List Char → Option (List Toml × List Char)
  | 0, _, _ => none
  | fuel + 1, room, cs =>
    match cs with
    | ']' :: rest => some ([], rest)
    | cs => do
      let (item, rest) ← readValue fuel room cs
      match skipLines rest.length rest with
      | ',' :: rest =>
        let (items, rest) ← readItems fuel room (skipLines rest.length rest)
        some (item :: items, rest)
      | ']' :: rest => some ([item], rest)
      | _ => none

/-- Reads the pairs of an inline table up to its closing brace. -/
def readPairs : Nat → Nat → Entries → List Char → Option (Entries × List Char)
  | 0, _, _, _ => none
  | fuel + 1, room, entries, cs => do
    let (key, rest) ← takeKey depthLimit cs
    match rest with
    | '=' :: rest =>
      let (v, rest) ← readValue fuel room (skipSpaces rest)
      let entries ← addInline entries key v
      match skipSpaces rest with
      | ',' :: rest => readPairs fuel room entries rest
      | '\x7d' :: rest => some (entries, rest)
      | _ => none
    | _ => none

end

/-! ## Documents -/

/-- A document in the making: its entries, and the path of the table that is open. -/
structure Draft where
  entries : Entries
  path : List String

/-- Reads a header whose first bracket has been read, and opens its table. -/
def readHeader (draft : Draft) (cs : List Char) : Option (Draft × List Char) := do
  let (isRow, cs) := match cs with
    | '[' :: cs => (true, cs)
    | cs => (false, cs)
  let (key, rest) ← takeKey depthLimit cs
  let last ← key.getLast?
  let rest ← takeWord (if isRow then [']', ']'] else [']']) rest
  let change := if isRow then Entries.openRow last else Entries.openTable last
  some (⟨← Entries.atPath change key.dropLast draft.entries, key⟩, rest)

/-- Reads a pair of a key and a value, and adds it to the table that is open. -/
def readPair (draft : Draft) (cs : List Char) : Option (Draft × List Char) := do
  let (key, rest) ← takeKey depthLimit cs
  let last ← key.getLast?
  match rest with
  | '=' :: rest =>
    let (v, rest) ← readValue (2 * rest.length + 2) depthLimit (skipSpaces rest)
    let change := Entries.addDotted v key.dropLast last
    some ({ draft with entries := ← Entries.atPath change draft.path draft.entries }, rest)
  | _ => none

/-- Reads the lines of a document. -/
def readLines : Nat → Draft → List Char → Option Entries
  | 0, _, _ => none
  | fuel + 1, draft, cs =>
    match skipComment (skipSpaces cs) with
    | [] => some draft.entries
    | '[' :: cs => do
      let (draft, rest) ← readHeader draft cs
      readLines fuel draft (← endOfLine rest)
    | cs =>
      match afterNewline cs with
      | some rest => readLines fuel draft rest
      | none => do
        let (draft, rest) ← readPair draft cs
        readLines fuel draft (← endOfLine rest)

/-- The entries of a TOML text. A byte order mark in front is dropped. -/
def read? (s : String) : Option (List (String × Toml)) :=
  let cs := match s.toList with
    | c :: cs => if c.toNat = 0xFEFF then cs else c :: cs
    | [] => []
  (readLines (cs.length + 1) ⟨[], []⟩ cs).map valuesOf

end DocFilter.Toml
