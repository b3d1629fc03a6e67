import DocFilter.Selector.Path
import DocFilter.Text.Blank

/-!
# Brackets in selectors

A selector may name a key in brackets, `a[b.c].d`, with blanks and a quotation mark on either
side of the key. Such a selector is rewritten into a dotted path, `a.b\.c.d`, one bracket at a
time, the last one first. A text has the bracket form when it is a header without line feeds, an
opening bracket, a key, a closing bracket and a footer; of several readings the one with the
longest header counts, and then the one with the longest key.
-/

namespace DocFilter.Bracket

/-- A text taken apart at a bracket. -/
structure Form where
  header : List Char
  key : List Char
  footer : List Char
  deriving DecidableEq, Repr

/-- Either quotation mark. -/
def isQuote (c : Char) : Bool :=
  c == '\'' || c == '"'

/-- A character that a key in brackets can hold. -/
def isKeyChar (c : Char) : Bool :=
  !isQuote c && !isBlank c

/-- Whether the text can follow a closing bracket: nothing, or a dot and more on the same
line. -/
def isFooter : List Char → Bool
  | [] => true
  | '.' :: c :: cs => (c :: cs).all (· != '\n')
  | _ => false

/-- The text without a quotation mark in front. -/
def dropQuote : List Char → List Char
  | [] => []
  | c :: cs => if isQuote c then cs else c :: cs

/-- The footer, when the text closes a bracket after its key. -/
def closing? (cs : List Char) : Option (List Char) :=
  match (dropQuote cs).dropWhile isBlank with
  | ']' :: footer => if isFooter footer then some footer else none
  | _ => none

/-- The longest key in front of the text that a closing bracket and a footer follow. -/
def key? : List Char → Option (List Char × List Char)
  | [] => none
  | c :: cs =>
    if isKeyChar c then
      match key? cs with
      | some (key, footer) => some (c :: key, footer)
      | none => (closing? cs).map fun footer => ([c], footer)
    else none

/-- Key and footer of a bracket that has just been opened. -/
def afterOpening? (cs : List Char) : Option (List Char × List Char) :=
  key? (dropQuote (cs.dropWhile isBlank))

/-- The bracket form of a text with the longest header. -/
def form? : List Char → Option Form
  | [] => none
  | c :: cs =>
    match if c = '\n' then none else form? cs with
    | some f => some { f with header := c :: f.header }
    | none =>
      if c = '[' then (afterOpening? cs).map fun (key, footer) => ⟨[], key, footer⟩ else none

/-- The same selection without this bracket: the key becomes a part of the path. -/
def Form.flatten (f : Form) : List Char :=
  (if f.header.isEmpty then [] else f.header ++ ['.']) ++ Path.escapeDots f.key ++ f.footer

/-- Rewrites brackets, at most `rounds` of them. -/
def normalizeWith : Nat → List Char → List Char
  | 0, cs => cs
  | rounds + 1, cs =>
    match form? cs with
    | some f => normalizeWith rounds f.flatten
    | none => cs

/-- Rewrites brackets until the text has none of that form. Every round takes one opening bracket
away, so their number bounds the rounds. -/
def normalize (cs : List Char) : List Char :=
  normalizeWith (cs.count '[') cs

end DocFilter.Bracket
