import DocFilter.Regex.Expr
import DocFilter.Regex.Form

/-!
# The meaning of written expressions

What a written expression denotes under the flags that hold where it stands. Flags that are set
inside a group hold up to its end. Without Unicode, expressions are about bytes; as texts are not,
everything that could match half a character is then refused: sets that reach beyond ASCII, and
the dot.
-/

namespace DocFilter.Regex

/-- What the flags of a pattern have turned on. -/
structure Flags where
  ignoreCase : Bool
  multiLine : Bool
  dotAll : Bool
  swapGreed : Bool
  unicode : Bool
  crlf : Bool
  deriving DecidableEq, Repr

namespace Flags

/-- The flags that hold at the start of a pattern. -/
def default : Flags := ⟨false, false, false, false, true, false⟩

/-- Turns a flag on or off. Verbose mode makes a difference to reading only. -/
def assign (flags : Flags) (setting : FlagSetting) : Flags :=
  match setting.flag with
  | .ignoreCase => { flags with ignoreCase := setting.on }
  | .multiLine => { flags with multiLine := setting.on }
  | .dotAll => { flags with dotAll := setting.on }
  | .swapGreed => { flags with swapGreed := setting.on }
  | .unicode => { flags with unicode := setting.on }
  | .crlf => { flags with crlf := setting.on }
  | .verbose => flags

/-- Turns flags on and off. -/
def assignAll (flags : Flags) (settings : List FlagSetting) : Flags :=
  settings.foldl assign flags

/-- A set closed under case where the flags ask for it. -/
def fold (flags : Flags) (members : CharSet) : CharSet :=
  if !flags.ignoreCase then members
  else if flags.unicode then members.closeUnderFolding
  else members.closeUnderAsciiCase

/-- A set, if it may stand in an expression: without Unicode it must not reach beyond ASCII. -/
def admit? (flags : Flags) (members : CharSet) : Option CharSet :=
  if flags.unicode || members.isAscii then some members else none

/-- A set, or the characters outside it. -/
def complementIf (negated : Bool) (members : CharSet) : CharSet :=
  if negated then members.complement else members

/-- A set closed under case where the flags ask for it, or what is then outside it. -/
def foldNegate? (flags : Flags) (negated : Bool) (members : CharSet) : Option CharSet :=
  flags.admit? (complementIf negated (flags.fold members))

end Flags

/-- The set that a name stands for. Properties are known with Unicode only. -/
def NamedSet.members? (flags : Flags) : NamedSet → Option CharSet
  | letter kind negated => flags.admit? (Flags.complementIf negated (kind.members flags.unicode))
  | ascii members negated => flags.foldNegate? negated members
  | property members negated => if flags.unicode then flags.foldNegate? negated members else none

/-- What an operation makes of two sets. -/
def SetOp.apply : SetOp → CharSet → CharSet → CharSet
  | inter => CharSet.inter
  | diff => CharSet.diff
  | symmDiff => CharSet.symmDiff

namespace ClassForm

mutual

/-- The set of a class under the flags, with case left to the brackets around it. -/
def members? (flags : Flags) : ClassForm → Option CharSet
  | .empty => some CharSet.none
  | .char c => flags.admit? (CharSet.single c.char)
  | .range first last => flags.admit? (CharSet.between first.char.toNat last.char.toNat)
  | .named set => set.members? flags
  | .bracketed negated body => do flags.foldNegate? negated (← body.members? flags)
  | .union parts => (allMembers? flags parts).map CharSet.unionAll
  | .operation op left right => do
    return op.apply (flags.fold (← left.members? flags)) (flags.fold (← right.members? flags))

/-- The sets of some parts of a class. -/
def allMembers? (flags : Flags) : List ClassForm → Option (List CharSet)
  | [] => some []
  | part :: parts => do return (← part.members? flags) :: (← allMembers? flags parts)

end

end ClassForm

/-- The expression of a character. Without Unicode, two digits cannot write a character beyond
ASCII, and such a character has no other case. -/
def Literal.expr? (flags : Flags) (c : Literal) : Option Expr :=
  if flags.unicode then some (.ofSet true (flags.fold (CharSet.single c.char)))
  else if c.char.toNat < 0x80 then some (.ofSet false (flags.fold (CharSet.single c.char)))
  else if c.isByte then none
  else some (.text [c.char])

/-- The expression of the dot. -/
def dotExpr? (flags : Flags) : Option Expr :=
  if !flags.unicode then none
  else if flags.dotAll then some (.ofSet true CharSet.any)
  else if flags.crlf then some (.ofSet true (CharSet.ofCodes [0xA, 0xD]).complement)
  else some (.ofSet true (CharSet.single '\n').complement)

/-- The condition that a mark stands for. -/
def Mark.condition (flags : Flags) : Mark → Look
  | caret =>
    if !flags.multiLine then .textStart else if flags.crlf then .lineStartCrlf else .lineStart
  | dollar =>
    if !flags.multiLine then .textEnd else if flags.crlf then .lineEndCrlf else .lineEnd
  | textStart => .textStart
  | textEnd => .textEnd
  | boundary => .wordBoundary !flags.unicode
  | notBoundary => .notWordBoundary !flags.unicode
  | wordStart => .wordStart !flags.unicode
  | wordEnd => .wordEnd !flags.unicode
  | wordStartHalf => .wordStartHalf !flags.unicode
  | wordEndHalf => .wordEndHalf !flags.unicode

namespace Form

mutual

/-- The expression that a form denotes under some flags, and the flags that hold after it. -/
def meaning? (flags : Flags) : Form → Option (Expr × Flags)
  | .empty => some (.empty, flags)
  | .char c => (c.expr? flags).map (·, flags)
  | .dot => (dotExpr? flags).map (·, flags)
  | .mark kind => some (.look (kind.condition flags), flags)
  | .named set => (set.members? flags).map fun s => (.ofSet flags.unicode s, flags)
  | .bracketed negated body => do
    let members ← flags.foldNegate? negated (← body.members? flags)
    return (.ofSet flags.unicode members, flags)
  | .flags settings => some (.empty, flags.assignAll settings)
  | .group (.numbered index) body =>
    (body.meaning? flags).map fun (e, _) => (.group index e, flags)
  | .group (.plain settings) body =>
    (body.meaning? (flags.assignAll settings)).map fun (e, _) => (e, flags)
  | .repeated body least most greedy =>
    (body.meaning? flags).map fun (e, flags) =>
      (e.times least most (greedy != flags.swapGreed), flags)
  | .sequence parts => (meanings? flags parts).map fun (es, flags) => (.ofParts es, flags)
  | .choice branches => (meanings? flags branches).map fun (es, flags) => (.ofBranches es, flags)

/-- The expressions of some forms, each under the flags that hold after the one before it. -/
def meanings? (flags : Flags) : List Form → Option (List Expr × Flags)
  | [] => some ([], flags)
  | form :: forms => do
    let (e, flags) ← form.meaning? flags
    let (es, flags) ← meanings? flags forms
    return (e :: es, flags)

end

end Form

end DocFilter.Regex
