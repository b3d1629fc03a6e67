import DocFilter.Regex.Automaton
import DocFilter.Regex.Footprint.Basic
import DocFilter.Regex.Meaning
import DocFilter.Regex.Reader

/-!
# Compiled regular expressions

A text is compiled once and can then be searched for in any number of texts.
-/

namespace DocFilter

/-- Why a text does not compile. -/
inductive RegexError where
  /-- The text is no regular expression. -/
  | malformed
  /-- The automaton would be too large. -/
  | tooLarge
  deriving DecidableEq, Repr, Inhabited

/-- The wording of the error. -/
def RegexError.message : RegexError → String
  | malformed => "regex parse error: the pattern is not a regular expression"
  | tooLarge => "Compiled regex exceeds size limit of 10485760 bytes."

/-- A compiled regular expression with the text it was compiled from. -/
structure Regex where
  source : String
  automaton : Regex.Automaton
  deriving Repr, Inhabited

namespace Regex

/-- The expression that a text denotes. -/
def read? (source : String) : Option Expr := do
  let form ← Form.read? source.toList
  let (e, _) ← form.meaning? Flags.default
  return e

/-- Compiles a text. -/
def compile (source : String) : Except RegexError Regex :=
  match read? source with
  | none => .error .malformed
  | some e => if e.fits then .ok ⟨source, Automaton.ofExpr e⟩ else .error .tooLarge

/-- Whether a text contains a match. -/
def isMatch (r : Regex) (text : String) : Bool :=
  r.automaton.isMatch text.toList

end Regex

end DocFilter
