import DocFilter.Regex.Segment
import DocFilter.Text.AgeTable
import DocFilter.Text.SharedTable

/-!
# Names of sets of characters

A pattern names sets of characters in three ways: by a letter behind a backslash, by an ASCII
class such as `[:alpha:]`, and by a Unicode property, either alone or with a value. Names of
properties and values are compared without case, blanks, hyphens and underscores.
-/

namespace DocFilter.Regex

/-! ## Classes of a letter -/

/-- A class that a letter stands for. -/
inductive LetterClass where
  | digit
  | blank
  | word
  deriving DecidableEq, Repr

/-- ASCII digits. -/
def asciiDigitSet : CharSet := CharSet.between 0x30 0x39

/-- ASCII white space. -/
def asciiBlankSet : CharSet := CharSet.ofRanges [⟨0x9, 0xD⟩, ⟨0x20, 0x20⟩]

/-- ASCII letters, digits and the underscore. -/
def asciiWordSet : CharSet :=
  CharSet.ofRanges [⟨0x30, 0x39⟩, ⟨0x41, 0x5A⟩, ⟨0x5F, 0x5F⟩, ⟨0x61, 0x7A⟩]

/-- The set of a class. -/
def LetterClass.members (unicode : Bool) : LetterClass → CharSet
  | digit => if unicode then digitSet else asciiDigitSet
  | blank => if unicode then blankSet else asciiBlankSet
  | word => if unicode then wordSet else asciiWordSet

/-! ## ASCII classes -/

/-- The set of an ASCII class by its name. -/
def asciiClass? (name : String) : Option CharSet :=
  let ranges (list : List CodeRange) : Option CharSet := some (CharSet.ofRanges list)
  match name with
  | "alnum" => ranges [⟨0x30, 0x39⟩, ⟨0x41, 0x5A⟩, ⟨0x61, 0x7A⟩]
  | "alpha" => ranges [⟨0x41, 0x5A⟩, ⟨0x61, 0x7A⟩]
  | "ascii" => ranges [⟨0, 0x7F⟩]
  | "blank" => ranges [⟨0x9, 0x9⟩, ⟨0x20, 0x20⟩]
  | "cntrl" => ranges [⟨0, 0x1F⟩, ⟨0x7F, 0x7F⟩]
  | "digit" => some asciiDigitSet
  | "graph" => ranges [⟨0x21, 0x7E⟩]
  | "lower" => ranges [⟨0x61, 0x7A⟩]
  | "print" => ranges [⟨0x20, 0x7E⟩]
  | "punct" => ranges [⟨0x21, 0x2F⟩, ⟨0x3A, 0x40⟩, ⟨0x5B, 0x60⟩, ⟨0x7B, 0x7E⟩]
  | "space" => some asciiBlankSet
  | "upper" => ranges [⟨0x41, 0x5A⟩]
  | "word" => some asciiWordSet
  | "xdigit" => ranges [⟨0x30, 0x39⟩, ⟨0x41, 0x46⟩, ⟨0x61, 0x66⟩]
  | _ => none

/-! ## Unicode properties -/

/-- The significant characters of a name: ASCII ones other than blanks, hyphens and underscores,
in lower case. -/
def significant (cs : List Char) : List Char :=
  (cs.filter fun c => c.toNat < 0x80 && c != ' ' && c != '-' && c != '_').map Char.toLower

/-- A name as it is compared. A leading `is` does not count, unless that would turn the name `isc`
of one property into the name `c` of another. -/
def plainName (name : String) : String :=
  match name.toList with
  | a :: b :: rest =>
    if a.toLower = 'i' ∧ b.toLower = 's' then
      match significant rest with
      | ['c'] => "isc"
      | plain => String.ofList plain
    else String.ofList (significant (a :: b :: rest))
  | short => String.ofList (significant short)

/-- The categories that a plain name stands for. -/
def categoryTest? (name : String) : Option (Category → Bool) :=
  match name with
  | "l" | "letter" => some Category.isLetter
  | "lc" | "casedletter" => some fun c => c == .lu || c == .ll || c == .lt
  | "lu" | "uppercaseletter" => some (· == .lu)
  | "ll" | "lowercaseletter" => some (· == .ll)
  | "lt" | "titlecaseletter" => some (· == .lt)
  | "lm" | "modifierletter" => some (· == .lm)
  | "lo" | "otherletter" => some (· == .lo)
  | "m" | "mark" | "combiningmark" => some Category.isMark
  | "mn" | "nonspacingmark" => some (· == .mn)
  | "mc" | "spacingmark" => some (· == .mc)
  | "me" | "enclosingmark" => some (· == .me)
  | "n" | "number" => some Category.isNumber
  | "nd" | "decimalnumber" | "digit" => some (· == .nd)
  | "nl" | "letternumber" => some (· == .nl)
  | "no" | "othernumber" => some (· == .no)
  | "p" | "punctuation" | "punct" =>
    some fun c => c == .pc || c == .pd || c == .ps || c == .pe || c == .pi || c == .pf || c == .po
  | "pc" | "connectorpunctuation" => some (· == .pc)
  | "pd" | "dashpunctuation" => some (· == .pd)
  | "ps" | "openpunctuation" => some (· == .ps)
  | "pe" | "closepunctuation" => some (· == .pe)
  | "pi" | "initialpunctuation" => some (· == .pi)
  | "pf" | "finalpunctuation" => some (· == .pf)
  | "po" | "otherpunctuation" => some (· == .po)
  | "s" | "symbol" => some fun c => c == .sm || c == .sc || c == .sk || c == .so
  | "sm" | "mathsymbol" => some (· == .sm)
  | "sc" | "currencysymbol" => some (· == .sc)
  | "sk" | "modifiersymbol" => some (· == .sk)
  | "so" | "othersymbol" => some (· == .so)
  | "z" | "separator" => some fun c => c == .zs || c == .zl || c == .zp
  | "zs" | "spaceseparator" => some (· == .zs)
  | "zl" | "lineseparator" => some (· == .zl)
  | "zp" | "paragraphseparator" => some (· == .zp)
  | "cc" | "control" | "cntrl" => some (· == .cc)
  | "cf" | "format" => some (· == .cf)
  | "co" | "privateuse" => some (· == .co)
  | _ => none

/-- The set of a general category by its plain name. -/
def generalCategory? (name : String) : Option CharSet :=
  match name with
  | "any" => some CharSet.any
  | "ascii" => some (CharSet.between 0 0x7F)
  | "assigned" => some assignedSet
  | "cn" | "unassigned" => some assignedSet.complement
  | "c" | "other" =>
    some <| CharSet.unionAll [assignedSet.complement,
      categorySet fun c => c == .cc || c == .cf || c == .cs || c == .co]
  | _ => (categoryTest? name).map categorySet

/-- The script with a plain name. -/
def scriptNamed? (name : String) : Option ScriptEntry :=
  scripts.find? fun s => s.names.contains name

/-- The set of a script by its plain name. -/
def script? (name : String) : Option CharSet :=
  (scriptNamed? name).map fun s => ⟨s.ranges⟩

/-- Every character that is used by others than its own script. -/
def sharedSet : CharSet :=
  CharSet.ofRanges (sharedCharacters.toList.flatMap fun s => s.ranges.toList)

/-- The characters that a script uses, by its plain name: its own ones, without those of which the
users are listed, and those of which it is a listed user. -/
def scriptUse? (name : String) : Option CharSet :=
  (scriptNamed? name).map fun s =>
    let listed := sharedCharacters.toList.filter fun e => e.scripts.any s.names.contains
    ((CharSet.mk s.ranges).diff sharedSet).union <|
      CharSet.ofRanges (listed.flatMap fun e => e.ranges.toList)

/-- The names of an edition of the standard, as in `6.0` and `V6_0`. -/
def editionNames (e : EditionEntry) : List String :=
  let major := Nat.repr e.major
  let minor := Nat.repr e.minor
  [major ++ "." ++ minor, "v" ++ major ++ minor]

/-- The characters up to an edition of the standard. -/
def charactersUpTo (name : String) : List EditionEntry → List CodeRange → Option (List CodeRange)
  | [], _ => none
  | e :: later, ranges =>
    let ranges := e.ranges.toList ++ ranges
    if (editionNames e).contains name then some ranges else charactersUpTo name later ranges

/-- The characters that have been there since an edition of the standard, by its plain name. -/
def age? (name : String) : Option CharSet :=
  (charactersUpTo name editions.toList []).map CharSet.ofRanges

/-- The set that a name alone stands for: a property, a category or a script. -/
def namedSet? (name : String) : Option CharSet :=
  let name := plainName name
  (trait? name).orElse fun _ => (generalCategory? name).orElse fun _ => script? name

/-- The set of the characters for which a property has a value. -/
def valueSet? (property value : String) : Option CharSet :=
  let value := plainName value
  match plainName property with
  | "generalcategory" | "gc" => generalCategory? value
  | "script" | "sc" => script? value
  | "scriptextensions" | "scx" => scriptUse? value
  | "age" => age? value
  | "graphemeclusterbreak" | "gcb" => segmentClass? graphemeClasses value
  | "wordbreak" | "wb" => segmentClass? wordClasses value
  | "sentencebreak" | "sb" => segmentClass? sentenceClasses value
  | _ => none

end DocFilter.Regex
