import DocFilter.Regex.SetName

/-!
# Written expressions

A regular expression as it is written: a tree of characters, classes, groups, repetitions,
sequences and choices, with the flags where they are set. What the parts mean depends on the flags
that hold where they stand, and is settled later. A form that nests deeper than `nestLimit` is
refused; `Form.depth` counts every part that holds other parts.
-/

namespace DocFilter.Regex

/-- What a pattern can turn on and off. -/
inductive Flag where
  | ignoreCase
  | multiLine
  | dotAll
  | swapGreed
  | unicode
  | crlf
  | verbose
  deriving DecidableEq, Repr

/-- The flag with a letter. -/
def Flag.ofLetter? : Char → Option Flag
  | 'i' => some ignoreCase
  | 'm' => some multiLine
  | 's' => some dotAll
  | 'U' => some swapGreed
  | 'u' => some unicode
  | 'R' => some crlf
  | 'x' => some verbose
  | _ => none

/-- A flag that is turned on or off. -/
structure FlagSetting where
  flag : Flag
  on : Bool
  deriving DecidableEq, Repr

/-- Whether the settings leave verbose mode on, where it was `before`. -/
def verboseAfter (settings : List FlagSetting) (before : Bool) : Bool :=
  settings.foldl (fun on s => if s.flag = .verbose then s.on else on) before

/-- A character as it is written. -/
structure Literal where
  char : Char
  /-- Whether it is written as a number of two hexadecimal digits. -/
  isByte : Bool
  deriving DecidableEq, Repr

/-- A set of characters that has a name. -/
inductive NamedSet where
  | letter (kind : LetterClass) (negated : Bool)
  /-- An ASCII class. -/
  | ascii (members : CharSet) (negated : Bool)
  /-- A Unicode property. -/
  | property (members : CharSet) (negated : Bool)
  deriving Repr

/-- An operation between two parts of a class. -/
inductive SetOp where
  | inter
  | diff
  | symmDiff
  deriving DecidableEq, Repr

/-- What stands in the brackets of a class. -/
inductive ClassForm where
  | empty
  | char (c : Literal)
  | range (first last : Literal)
  | named (set : NamedSet)
  | bracketed (negated : Bool) (body : ClassForm)
  | union (parts : List ClassForm)
  | operation (op : SetOp) (left right : ClassForm)
  deriving Repr, Inhabited

/-- A mark for a condition on the position. -/
inductive Mark where
  | caret
  | dollar
  | textStart
  | textEnd
  | boundary
  | notBoundary
  | wordStart
  | wordEnd
  | wordStartHalf
  | wordEndHalf
  deriving DecidableEq, Repr

/-- What a group is for. -/
inductive GroupKind where
  /-- The group with this number, from one on. -/
  | numbered (index : Nat)
  /-- A group for its flags or for its parentheses only. -/
  | plain (settings : List FlagSetting)
  deriving DecidableEq, Repr

/-- A regular expression as it is written. -/
inductive Form where
  | empty
  | char (c : Literal)
  | dot
  | mark (kind : Mark)
  | named (set : NamedSet)
  | bracketed (negated : Bool) (body : ClassForm)
  /-- Flags for the rest of the enclosing group. -/
  | flags (settings : List FlagSetting)
  | group (kind : GroupKind) (body : Form)
  | repeated (body : Form) (least : Nat) (most : Option Nat) (greedy : Bool)
  | sequence (parts : List Form)
  | choice (branches : List Form)
  deriving Repr, Inhabited

/-- How deep a written expression may nest. -/
def nestLimit : Nat := 250

namespace ClassForm

/-- The union of some parts; one part needs none. -/
def ofParts : List ClassForm → ClassForm
  | [] => .empty
  | [part] => part
  | parts => .union parts

mutual

/-- How deep the brackets, unions and operations of a class nest. -/
def depth : ClassForm → Nat
  | .empty | .char _ | .range _ _ | .named _ => 0
  | .bracketed _ body => body.depth + 1
  | .union parts => greatestDepth parts + 1
  | .operation _ left right => max left.depth right.depth + 1

/-- The depth of the deepest of some parts. -/
def greatestDepth : List ClassForm → Nat
  | [] => 0
  | part :: parts => max part.depth (greatestDepth parts)

end

end ClassForm

namespace Form

/-- A sequence of some parts; one part needs none. -/
def ofParts : List Form → Form
  | [] => .empty
  | [part] => part
  | parts => .sequence parts

/-- A choice among some branches; one branch needs none. -/
def ofBranches : List Form → Form
  | [branch] => branch
  | branches => .choice branches

mutual

/-- How deep the parts of an expression nest. -/
def depth : Form → Nat
  | .empty | .char _ | .dot | .mark _ | .named _ | .flags _ => 0
  | .bracketed _ body => body.depth + 1
  | .group _ body => body.depth + 1
  | .repeated body _ _ _ => body.depth + 1
  | .sequence parts => greatestDepth parts + 1
  | .choice branches => greatestDepth branches + 1

/-- The depth of the deepest of some parts. -/
def greatestDepth : List Form → Nat
  | [] => 0
  | part :: parts => max part.depth (greatestDepth parts)

end

end Form

end DocFilter.Regex
