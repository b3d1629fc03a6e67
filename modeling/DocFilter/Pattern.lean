import DocFilter.Regex.Basic

/-!
# Pattern text

A pattern is written as `/body/flags` or as a bare body. The flags `i`, `m` and `s` go in front
of the body as a group of flags; `g`, `y` and `u` make no difference to a yes or no answer and are
dropped; any other flag is refused.
-/

namespace DocFilter

/-- Why a pattern does not compile. -/
inductive PatternError where
  | regex (reason : RegexError)
  | flag (letter : Char)
  deriving DecidableEq, Repr, Inhabited

/-- The wording of the error. -/
def PatternError.message : PatternError → String
  | regex reason => reason.message
  | flag letter => "unsupported flag '" ++ letter.toString ++ "'"

namespace Pattern

/-- Splits `body/flags` at its last slash: the body has no line feed and the flags are word
characters. -/
def splitLast? : List Char → Option (List Char × List Char)
  | [] => none
  | c :: cs =>
    match if c = '\n' then none else splitLast? cs with
    | some (body, flags) => some (c :: body, flags)
    | none => if c = '/' ∧ cs.all isWord then some ([], cs) else none

/-- Body and flags of a pattern. Text that is not of the form `/body/flags` is all body. -/
def splitChars (cs : List Char) : List Char × List Char :=
  match cs with
  | '/' :: rest => (splitLast? rest).getD (cs, [])
  | _ => (cs, [])

/-- Body and flags of a pattern. -/
def split (text : String) : String × String :=
  let (body, flags) := splitChars text.toList
  (String.ofList body, String.ofList flags)

/-- Whether a flag goes into the expression. -/
def isInline (flag : Char) : Bool :=
  flag == 'i' || flag == 'm' || flag == 's'

/-- Whether a flag is accepted and dropped. -/
def isIgnored (flag : Char) : Bool :=
  flag == 'g' || flag == 'y' || flag == 'u'

/-- The flags for the expression, each once, in the order in which they first appear after
those in `chosen`. -/
def inlineFlags (chosen : List Char) : List Char → Except PatternError (List Char)
  | [] => .ok chosen
  | flag :: flags =>
    if isInline flag then
      inlineFlags (if chosen.contains flag then chosen else chosen ++ [flag]) flags
    else if isIgnored flag then inlineFlags chosen flags
    else .error (.flag flag)

/-- The regular expression that a pattern stands for. -/
def source (text : String) : Except PatternError String :=
  let (body, flags) := split text
  match inlineFlags [] flags.toList with
  | .error e => .error e
  | .ok [] => .ok body
  | .ok chosen => .ok ("(?" ++ String.ofList chosen ++ ")" ++ body)

/-- Compiles a pattern. -/
def compile (text : String) : Except PatternError Regex :=
  match source text with
  | .error e => .error e
  | .ok source =>
    match Regex.compile source with
    | .error e => .error (.regex e)
    | .ok r => .ok r

end Pattern

end DocFilter
