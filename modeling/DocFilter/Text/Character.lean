import DocFilter.Text.Blank
import DocFilter.Text.CategoryTable
import DocFilter.Text.PropertyTable
import DocFilter.Text.RecentTable

/-!
# Classes of characters

The general category of a character, and the classes that the query language draws from it:
letters, word characters, printable characters, characters of names. ASCII characters are answered
by rule; the tables serve the rest. Word characters are those that patterns know and so follow
edition 16.0 of the standard; the other classes follow edition 17.0, which only adds characters.
-/

namespace DocFilter

/-- Binary search for the category of `n` among the runs at positions `lo` to `hi - 1`. -/
def categoryBetween (runs : Array CategoryRun) (n lo hi : Nat) : Category :=
  if lo < hi then
    let mid := (lo + hi) / 2
    match runs[mid]? with
    | none => .cn
    | some r =>
      if n < r.first then categoryBetween runs n lo mid
      else if r.last < n then categoryBetween runs n (mid + 1) hi
      else r.category
  else .cn
termination_by hi - lo

/-- The general category of code point `n` in edition 16.0. -/
def categoryOf (n : Nat) : Category :=
  categoryBetween categoryRuns n 0 categoryRuns.size

/-- The general category of code point `n` in edition 17.0. -/
def recentCategoryOf (n : Nat) : Category :=
  match categoryOf n with
  | .cn => categoryBetween recentRuns n 0 recentRuns.size
  | category => category

namespace Category

/-- Letters of any case and kind. -/
def isLetter : Category → Bool
  | .lu | .ll | .lt | .lm | .lo => true
  | _ => false

/-- Combining marks. -/
def isMark : Category → Bool
  | .mn | .mc | .me => true
  | _ => false

/-- Numbers: decimal digits, letter numbers and others. -/
def isNumber : Category → Bool
  | .nd | .nl | .no => true
  | _ => false

/-- Categories whose characters have no visible form of their own. -/
def isHidden : Category → Bool
  | .cc | .cf | .cs | .co | .cn | .zs | .zl | .zp => true
  | _ => false

end Category

/-- Whether code point `n` is alphabetic in edition 16.0. -/
def isAlphabeticCode (n : Nat) : Bool :=
  let category := categoryOf n
  category.isLetter || category == .nl || CodeRange.search otherAlphabetic n

/-- Whether a character outside ASCII belongs to words: alphabetic characters, marks, decimal
digits, connectors and the two joiners. -/
def isWordBeyondAscii (n : Nat) : Bool :=
  let category := categoryOf n
  isAlphabeticCode n || category.isMark || category == .nd || category == .pc ||
    n == 0x200C || n == 0x200D

/-- Whether `c` is a word character: in ASCII a letter, a digit or an underscore. -/
def isWord (c : Char) : Bool :=
  if c.toNat < 0x80 then c.isAlphanum || c == '_' else isWordBeyondAscii c.toNat

/-- Whether `c` is alphabetic. -/
def isAlphabetic (c : Char) : Bool :=
  if c.toNat < 0x80 then c.isAlpha
  else
    let category := recentCategoryOf c.toNat
    category.isLetter || category == .nl || CodeRange.search otherAlphabetic c.toNat ||
      CodeRange.search recentAlphabetic c.toNat

/-- Whether `c` is alphabetic or a number. -/
def isAlphanumeric (c : Char) : Bool :=
  isAlphabetic c ||
    (if c.toNat < 0x80 then c.isDigit else (recentCategoryOf c.toNat).isNumber)

/-- Whether `c` is printed as it stands in quoted text. -/
def isPrintable (c : Char) : Bool :=
  if c.toNat < 0x80 then 0x20 ≤ c.toNat && c.toNat < 0x7F
  else !(recentCategoryOf c.toNat).isHidden

/-- Whether `c` joins the character before it into one grapheme. -/
def extendsGrapheme (c : Char) : Bool :=
  if c.toNat < 0x80 then false
  else
    match recentCategoryOf c.toNat with
    | .mn | .me => true
    | _ => CodeRange.search otherGraphemeExtend c.toNat

/-- Whether `c` can start a name in relaxed JSON: a letter, a letter number, `$` or `_`. -/
def isNameStart (c : Char) : Bool :=
  if c.toNat < 0x80 then c.isAlpha || c == '$' || c == '_'
  else
    let category := recentCategoryOf c.toNat
    category.isLetter || category == .nl

/-- Whether `c` can continue a name in relaxed JSON: a character that starts one, a mark, a
digit, a connector or one of the two joiners. -/
def isNamePart (c : Char) : Bool :=
  if c.toNat < 0x80 then c.isAlphanum || c == '$' || c == '_'
  else
    match recentCategoryOf c.toNat with
    | .mn | .mc | .nd | .pc => true
    | _ => isNameStart c || c.toNat == 0x200C || c.toNat == 0x200D

end DocFilter
