import DocFilter.Json.Reader
import DocFilter.Regex.Form
import DocFilter.Text.Character

/-!
# Reading regular expressions

The text form of regular expressions: literals and escapes, classes in brackets with set
operations, groups with names and flags, choices and repetitions. There is no looking ahead or
behind and no reference back to a group. In verbose mode blanks and comments are dropped.

Every reader takes a character or hands over to one that does, so a multiple of the length of the
text bounds the number of steps. Open groups and brackets are counted, as too many of them make
the expression nest too deep whatever follows.
-/

namespace DocFilter.Regex

/-- What is left to read, whether verbose mode is on, and the groups so far. -/
structure Cursor where
  rest : List Char
  verbose : Bool
  names : List String
  groups : Nat

/-- A reader moves a cursor on; it fails on text that is no expression. -/
abbrev Reader := StateT Cursor Option

namespace Reader

/-- The next character, which stays there. -/
def peek? : Reader (Option Char) := do
  return (← get).rest.head?

/-- Goes on behind the next character. -/
def skip : Reader Unit :=
  modify fun s => { s with rest := s.rest.drop 1 }

/-- Takes the next character. -/
def next : Reader Char := do
  match ← peek? with
  | some c => skip; return c
  | none => failure

/-- The text without blanks and comments in front; `inComment` tells whether it starts inside a
comment. -/
def dropBlanks (inComment : Bool) : List Char → List Char
  | [] => []
  | c :: cs =>
    if inComment then dropBlanks (c != '\n') cs
    else if isBlank c then dropBlanks false cs
    else if c = '#' then dropBlanks true cs
    else c :: cs

/-- Drops blanks and comments in verbose mode. -/
def skipBlanks : Reader Unit :=
  modify fun s => if s.verbose then { s with rest := dropBlanks false s.rest } else s

/-- Goes on behind the next character and the blanks after it. -/
def skipOver : Reader Unit := do
  skip
  skipBlanks

/-- Takes a word off the front of the text, if it stands there. -/
def accept (word : String) : Reader Bool := do
  match takeWord word.toList (← get).rest with
  | some rest => modify fun s => { s with rest }; return true
  | none => return false

theorem length_dropBlanks_le (inComment : Bool) (cs : List Char) :
    (dropBlanks inComment cs).length ≤ cs.length := by
  induction cs generalizing inComment with
  | nil => simp [dropBlanks]
  | cons c cs ih =>
    have hc (b : Bool) : (dropBlanks b cs).length ≤ (c :: cs).length :=
      Nat.le_succ_of_le (ih b)
    unfold dropBlanks
    split
    · exact hc _
    · split
      · exact hc _
      · split
        · exact hc _
        · exact Nat.le_refl _

/-- The characters in front that satisfy `p`, and the rest; in verbose mode the blanks after each
of them are dropped. -/
def spanOver (verbose : Bool) (p : Char → Bool) : List Char → List Char × List Char
  | [] => ([], [])
  | c :: cs =>
    if p c then
      let (taken, rest) := spanOver verbose p (if verbose then dropBlanks false cs else cs)
      (c :: taken, rest)
    else ([], c :: cs)
termination_by cs => cs.length
decreasing_by
  have := length_dropBlanks_le false cs
  split <;> simp only [List.length_cons] <;> omega

/-- Takes the characters in front that satisfy `p`, with the blanks after each of them. -/
def takeWhileOver (p : Char → Bool) : Reader (List Char) := do
  let s ← get
  let (taken, rest) := spanOver s.verbose p s.rest
  set { s with rest }
  return taken

/-! ## Escapes -/

/-- What an escape stands for. -/
inductive Escape where
  | char (c : Literal)
  | named (set : NamedSet)
  | mark (kind : Mark)

/-- A character by its number, if there is one. -/
def charOf? (n : Nat) : Option Char :=
  if n < 0xD800 ∨ (0xDFFF < n ∧ n ≤ CharSet.lastCode) then some (Char.ofNat n) else none

/-- The number that hexadecimal digits write. -/
def hexNumber (digits : List Char) : Option Nat :=
  digits.foldlM (fun n c => (hexValue? c).map (16 * n + ·)) 0

/-- `count` characters, with the blanks between them dropped. -/
def takeCount : Nat → Reader (List Char)
  | 0 => return []
  | n + 1 => do
    let c ← next
    skipBlanks
    return c :: (← takeCount n)

/-- The character of an escape by its number: `count` digits, or any number in braces. -/
def hexEscape (count : Nat) : Reader Literal := do
  if (← peek?) == some '\x7b' then
    skipOver
    let digits ← takeWhileOver (· != '\x7d')
    if digits.isEmpty || (← peek?).isNone then failure
    skipOver
    match (hexNumber digits).bind charOf? with
    | some c => return ⟨c, false⟩
    | none => failure
  else
    match (hexNumber (← takeCount count)).bind charOf? with
    | some c => return ⟨c, count == 2⟩
    | none => failure

/-- The text before and after the first place where `mark` stands. -/
def splitAtWord (mark : List Char) : List Char → Option (List Char × List Char)
  | [] => none
  | c :: cs =>
    match takeWord mark (c :: cs) with
    | some rest => some ([], rest)
    | none => (splitAtWord mark cs).map fun (before, after) => (c :: before, after)

/-- The set that the text of a property escape names, and whether the text asks for the characters
outside it. -/
def propertyOf? (text : List Char) : Option (CharSet × Bool) :=
  let value (before after : List Char) := valueSet? (String.ofList before) (String.ofList after)
  match splitAtWord ['!', '='] text with
  | some (before, after) => (value before after).map (·, true)
  | none =>
    match splitAtWord [':'] text with
    | some (before, after) => (value before after).map (·, false)
    | none =>
      match splitAtWord ['='] text with
      | some (before, after) => (value before after).map (·, false)
      | none => (namedSet? (String.ofList text)).map (·, false)

/-- The set of a property escape: one letter, or a text in braces. -/
def propertyEscape (negated : Bool) : Reader NamedSet := do
  let text ←
    if (← peek?) == some '\x7b' then do
      skipOver
      let text ← takeWhileOver (· != '\x7d')
      let _ ← next
      pure text
    else do
      let c ← next
      if c == '\\' then failure
      skipBlanks
      pure [c]
  match propertyOf? text with
  | some (members, outside) => return .property members (negated != outside)
  | none => failure

/-- The mark of a boundary escape, or one of the marks that are told by a word in braces. Braces
that do not hold a letter or a hyphen first are left for a repetition. -/
def boundaryEscape : Reader Mark := do
  let start ← get
  if (← peek?) == some '\x7b' then
    skipOver
    let isKindChar (c : Char) : Bool := c.isAlpha || c == '-'
    match ← peek? with
    | none => failure
    | some c =>
      if isKindChar c then
        let kind ← takeWhileOver isKindChar
        if (← next) != '\x7d' then failure
        match String.ofList kind with
        | "start" => return .wordStart
        | "end" => return .wordEnd
        | "start-half" => return .wordStartHalf
        | "end-half" => return .wordEndHalf
        | _ => failure
      else
        set start
        return .boundary
  else return .boundary

/-- What the text after a backslash stands for. -/
def escape : Reader Escape := do
  let c ← next
  match c with
  | 'x' => skipBlanks; return .char (← hexEscape 2)
  | 'u' => skipBlanks; return .char (← hexEscape 4)
  | 'U' => skipBlanks; return .char (← hexEscape 8)
  | 'p' => skipBlanks; return .named (← propertyEscape false)
  | 'P' => skipBlanks; return .named (← propertyEscape true)
  | 'd' => return .named (.letter .digit false)
  | 'D' => return .named (.letter .digit true)
  | 's' => return .named (.letter .blank false)
  | 'S' => return .named (.letter .blank true)
  | 'w' => return .named (.letter .word false)
  | 'W' => return .named (.letter .word true)
  | 'a' => return .char ⟨'\x07', false⟩
  | 'f' => return .char ⟨'\x0c', false⟩
  | 't' => return .char ⟨'\t', false⟩
  | 'n' => return .char ⟨'\n', false⟩
  | 'r' => return .char ⟨'\r', false⟩
  | 'v' => return .char ⟨'\x0b', false⟩
  | 'A' => return .mark .textStart
  | 'z' => return .mark .textEnd
  | 'b' => return .mark (← boundaryEscape)
  | 'B' => return .mark .notBoundary
  | '<' => return .mark .wordStart
  | '>' => return .mark .wordEnd
  | c => if c.toNat < 0x80 && !c.isAlphanum then return .char ⟨c, false⟩ else failure

/-! ## Classes -/

/-- An operation that is waiting for its right side. -/
abbrev Pending := Option (SetOp × ClassForm)

/-- What stands between two operations, given by its parts in reverse, with the operation that is
waiting for it. -/
def closePending (pending : Pending) (parts : List ClassForm) : ClassForm :=
  let right := ClassForm.ofParts parts.reverse
  match pending with
  | none => right
  | some (op, left) => .operation op left right

/-- One end of a range: a character, or a set that cannot be an end. -/
def classItem : Reader (Literal ⊕ NamedSet) := do
  match ← next with
  | '\\' =>
    match ← escape with
    | .char c => return .inl c
    | .named set => return .inr set
    | .mark _ => failure
  | c => return .inl ⟨c, false⟩

/-- The text from the next character that counts in verbose mode: neither a blank nor the first
number sign, which begins a comment. -/
def nextCounting? (inComment : Bool) : List Char → Option Char
  | [] => none
  | c :: cs =>
    if isBlank c then nextCounting? inComment cs
    else if c = '#' ∧ !inComment then nextCounting? true cs
    else some c

/-- The next character that counts after the present one, or the very next if none does. -/
def peekOver? : Reader (Option Char) := do
  let s ← get
  let rest := s.rest.drop 1
  return if s.verbose then (nextCounting? false rest).or rest.head? else rest.head?

/-- A character, a range or a named set inside a class. -/
def classRange : Reader ClassForm := do
  let first ← classItem
  skipBlanks
  let after ← peekOver?
  if (← peek?).isNone then failure
  if (← peek?) != some '-' || after == some ']' || after == some '-' then
    match first with
    | .inl c => return .char c
    | .inr set => return .named set
  else
    skipOver
    match first, ← classItem with
    | .inl a, .inl b =>
      if a.char.toNat ≤ b.char.toNat then return .range a b else failure
    | _, _ => failure

/-- The set of an ASCII class such as `[:alpha:]`, if the text has one after its opening
bracket. -/
def namedClass? (cs : List Char) : Option (NamedSet × List Char) := do
  let rest ← takeWord [':'] cs
  let (negated, rest) := match rest with
    | '^' :: rest => (true, rest)
    | rest => (false, rest)
  let name := rest.takeWhile (· != ':')
  let rest ← takeWord [':', ']'] (rest.dropWhile (· != ':'))
  let members ← asciiClass? (String.ofList name)
  return (.ascii members negated, rest)

/-- Hyphens, or else a closing bracket, that stand first in a class for themselves. -/
def leadingItems : Reader (List ClassForm) := do
  let hyphens ← takeWhileOver (· == '-')
  if !hyphens.isEmpty then return hyphens.map fun c => .char ⟨c, false⟩
  if (← peek?) == some ']' then
    skipOver
    return [.char ⟨']', false⟩]
  return []

mutual

/-- A class whose opening bracket has been read; `level` brackets are open around it. -/
def classBody (level : Nat) : Nat → Reader (Bool × ClassForm)
  | 0 => failure
  | fuel + 1 => do
    if nestLimit < level then failure
    skipBlanks
    let negated := (← peek?) == some '^'
    if negated then skipOver
    let first ← leadingItems
    return (negated, ← classItems level none first fuel)

/-- The items of a class up to its closing bracket; `parts` are those since the last operation,
last one first. -/
def classItems (level : Nat) (pending : Pending) (parts : List ClassForm) :
    Nat → Reader ClassForm
  | 0 => failure
  | fuel + 1 => do
    skipBlanks
    if ← accept "&&" then classItems level (some (.inter, closePending pending parts)) [] fuel
    else if ← accept "--" then classItems level (some (.diff, closePending pending parts)) [] fuel
    else if ← accept "~~" then
      classItems level (some (.symmDiff, closePending pending parts)) [] fuel
    else
      match (← get).rest with
      | [] => failure
      | ']' :: _ =>
        skip
        return closePending pending parts
      | '[' :: rest =>
        match namedClass? rest with
        | some (set, rest) =>
          modify fun s => { s with rest }
          classItems level pending (.named set :: parts) fuel
        | none =>
          skip
          let (negated, body) ← classBody (level + 1) fuel
          classItems level pending (.bracketed negated body :: parts) fuel
      | _ => classItems level pending ((← classRange) :: parts) fuel

end

/-! ## Groups and repetitions -/

/-- What a parenthesis begins. -/
inductive GroupStart where
  | flags (settings : List FlagSetting)
  | group (kind : GroupKind)

/-- The flags up to a colon or a closing parenthesis, which stays there; `seen` holds the letters
that have been read, and a hyphen turns the flags after it off. -/
def flagList (on : Bool) (seen : List Char) : List Char → Option (List FlagSetting × List Char)
  | [] => none
  | c :: cs =>
    if c = ':' ∨ c = ')' then
      if seen.head? = some '-' then none else some ([], c :: cs)
    else if seen.contains c then none
    else if c = '-' then flagList false ('-' :: seen) cs
    else do
      let flag ← Flag.ofLetter? c
      let (settings, rest) ← flagList on (c :: seen) cs
      some (⟨flag, on⟩ :: settings, rest)

/-- Whether `c` can stand in the name of a group. -/
def isGroupNameChar (first : Bool) (c : Char) : Bool :=
  if first then c == '_' || isAlphabetic c
  else c == '_' || c == '.' || c == '[' || c == ']' || isAlphanumeric c

/-- The name of a group, up to its closing angle bracket. Names differ from one another. -/
def groupName : Reader Unit := do
  let s ← get
  let name := s.rest.takeWhile (· != '>')
  match name, s.rest.dropWhile (· != '>') with
  | first :: others, _ :: rest =>
    let text := String.ofList name
    if !isGroupNameChar true first || !others.all (isGroupNameChar false) then failure
    if s.names.contains text then failure
    set { s with rest, names := text :: s.names }
  | _, _ => failure

/-- A number for a new group. -/
def newGroup : Reader GroupStart := do
  modify fun s => { s with groups := s.groups + 1 }
  return .group (.numbered (← get).groups)

/-- The start of a group whose opening parenthesis has been read. -/
def groupStart : Reader GroupStart := do
  skipBlanks
  if (← accept "?=") || (← accept "?!") || (← accept "?<=") || (← accept "?<!") then failure
  if (← accept "?P<") || (← accept "?<") then
    groupName
    newGroup
  else if ← accept "?" then
    match flagList true [] (← get).rest with
    | none => failure
    | some (settings, rest) =>
      modify fun s => { s with rest }
      if (← next) == ')' then
        if settings.isEmpty then failure
        return .flags settings
      else return .group (.plain settings)
  else newGroup

/-- A decimal number of at most 32 bits, with blanks around it. -/
def decimalNumber : Reader Nat := do
  modify fun s => { s with rest := s.rest.dropWhile isBlank }
  let digits ← takeWhileOver Char.isDigit
  let _ ← takeWhileOver isBlank
  let n := digits.foldl (fun n c => 10 * n + (c.toNat - '0'.toNat)) 0
  if digits.isEmpty || 0x100000000 ≤ n then failure
  return n

/-- The bounds of a counted repetition whose opening brace has been read. -/
def bounds : Reader (Nat × Option Nat) := do
  skipBlanks
  let least ← decimalNumber
  let most ←
    if (← peek?) == some ',' then do
      skipOver
      if (← peek?) == some '\x7d' then pure none else some <$> decimalNumber
    else pure (some least)
  if (← next) != '\x7d' then failure
  if most.any (· < least) then failure
  return (least, most)

/-- Whether a repetition is greedy: a question mark makes it lazy. -/
def greedy : Reader Bool := do
  return !(← accept "?")

/-- The last of some parts, given in reverse, repeated. There must be one, and it must not be a
setting of flags. -/
def repeatLast (least : Nat) (most : Option Nat) (greedy : Bool) : List Form → Reader (List Form)
  | [] => failure
  | .flags _ :: _ => failure
  | part :: parts => return .repeated part least most greedy :: parts

/-! ## Expressions -/

/-- An expression of one character, escape or mark. -/
def primitive : Reader Form := do
  match ← next with
  | '\\' =>
    match ← escape with
    | .char c => return .char c
    | .named set => return .named set
    | .mark kind => return .mark kind
  | '.' => return .dot
  | '^' => return .mark .caret
  | '$' => return .mark .dollar
  | c => return .char ⟨c, false⟩

mutual

/-- An expression up to the end of its group, or of the text; `level` groups are open around it
and `branches` are those before the last bar, last one first. -/
def choice (level : Nat) (branches : List Form) : Nat → Reader Form
  | 0 => failure
  | fuel + 1 => do
    if nestLimit < level then failure
    let branch ← sequence level [] fuel
    if ← accept "|" then choice level (branch :: branches) fuel
    else return Form.ofBranches (branch :: branches).reverse

/-- One branch of a choice, `parts` being what has been read of it, last part first. -/
def sequence (level : Nat) (parts : List Form) : Nat → Reader Form
  | 0 => failure
  | fuel + 1 => do
    skipBlanks
    match ← peek? with
    | none | some '|' | some ')' => return Form.ofParts parts.reverse
    | some '(' =>
      skip
      let outer := (← get).verbose
      match ← groupStart with
      | .flags settings =>
        modify fun s => { s with verbose := verboseAfter settings outer }
        sequence level (.flags settings :: parts) fuel
      | .group kind =>
        let inner := match kind with
          | .plain settings => verboseAfter settings outer
          | .numbered _ => outer
        modify fun s => { s with verbose := inner }
        let body ← choice (level + 1) [] fuel
        if (← next) != ')' then failure
        modify fun s => { s with verbose := outer }
        sequence level (.group kind body :: parts) fuel
    | some '[' =>
      skip
      let (negated, body) ← classBody 1 fuel
      sequence level (.bracketed negated body :: parts) fuel
    | some '?' => skip; sequence level (← repeatLast 0 (some 1) (← greedy) parts) fuel
    | some '*' => skip; sequence level (← repeatLast 0 none (← greedy) parts) fuel
    | some '+' => skip; sequence level (← repeatLast 1 none (← greedy) parts) fuel
    | some '\x7b' =>
      skip
      if parts.isEmpty then failure
      let (least, most) ← bounds
      skipBlanks
      sequence level (← repeatLast least most (← greedy) parts) fuel
    | some _ => sequence level ((← primitive) :: parts) fuel

end

end Reader

/-- The form of an expression that is read from a text, unless it nests too deep. -/
def Form.read? (text : List Char) : Option Form := do
  let (form, cursor) ← (Reader.choice 0 [] (4 * text.length + 4)).run ⟨text, false, [], 0⟩
  if cursor.rest.isEmpty && form.depth ≤ nestLimit then some form else none

end DocFilter.Regex
