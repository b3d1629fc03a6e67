import DocFilter.Regex.Property
import DocFilter.Text.ScriptTable

/-!
# Classes of text segmentation

The rules by which text is split into graphemes, words and sentences sort all characters into
classes: one sorting for graphemes, one for words, one for sentences. Here are the sets of these
classes, most of them by rule from the properties of characters. Characters in none of the classes
are in a rest class, which has no set of its own.
-/

namespace DocFilter.Regex

/-- A class of a sorting: its names, and its characters. -/
structure SegmentClass where
  names : List String
  members : CharSet
  deriving Repr, Inhabited

/-- The characters of some scripts, by their short names. -/
def scriptsSet (names : List String) : CharSet :=
  CharSet.ofRanges <| scripts.toList.flatMap fun s =>
    if s.names.any names.contains then s.ranges.toList else []

/-- The characters of a category. -/
def oneCategory (category : Category) : CharSet := categorySet (· == category)

/-- The character with code point `n`. -/
def code (n : Nat) : CharSet := CharSet.between n n

/-- Carriage return. -/
def returnSet : CharSet := code 0xD

/-- Line feed. -/
def lineFeedSet : CharSet := code 0xA

/-- The zero-width joiner. -/
def joinerSet : CharSet := code 0x200D

/-! ## Graphemes -/

/-- Characters that join the one after them. -/
def prependSet : CharSet :=
  CharSet.ofRanges [⟨0x600, 0x605⟩, ⟨0x6DD, 0x6DD⟩, ⟨0x70F, 0x70F⟩, ⟨0x890, 0x891⟩, ⟨0x8E2, 0x8E2⟩,
    ⟨0xD4E, 0xD4E⟩, ⟨0x110BD, 0x110BD⟩, ⟨0x110CD, 0x110CD⟩, ⟨0x111C2, 0x111C3⟩, ⟨0x113D1, 0x113D1⟩,
    ⟨0x1193F, 0x1193F⟩, ⟨0x11941, 0x11941⟩, ⟨0x11A3A, 0x11A3A⟩, ⟨0x11A84, 0x11A89⟩,
    ⟨0x11D46, 0x11D46⟩, ⟨0x11F02, 0x11F02⟩]

/-- Marks and skin tones that join the character before them. -/
def graphemeExtenders : CharSet :=
  (graphemeExtendSet.union emojiModifiers).diff joinerSet

/-- Characters that stand alone. -/
def controlSet : CharSet :=
  ((categorySet fun c => c == .zl || c == .zp || c == .cc || c == .cf).union
      (assignedSet.complement.inter defaultIgnorables)).diff <|
    CharSet.unionAll [returnSet, lineFeedSet, joinControls, prependedMarks, graphemeExtenders]

/-- Hangul syllables that end in a vowel: one in every 28. -/
def openSyllables : CharSet :=
  CharSet.ofCodes ((List.range 399).map fun i => 0xAC00 + 28 * i)

/-- Vowels that complete a syllable. -/
def vowelSet : CharSet :=
  CharSet.ofRanges [⟨0x1160, 0x11A7⟩, ⟨0xD7B0, 0xD7C6⟩, ⟨0x16D63, 0x16D63⟩, ⟨0x16D67, 0x16D6A⟩]

/-- Spacing marks that do not join the character before them. -/
def freeSpacingMarks : CharSet :=
  CharSet.ofRanges [⟨0x102B, 0x102C⟩, ⟨0x1038, 0x1038⟩, ⟨0x1062, 0x1064⟩, ⟨0x1067, 0x106D⟩,
    ⟨0x1083, 0x1083⟩, ⟨0x1087, 0x108C⟩, ⟨0x108F, 0x108F⟩, ⟨0x109A, 0x109C⟩, ⟨0x1A61, 0x1A61⟩,
    ⟨0x1A63, 0x1A64⟩, ⟨0xAA7B, 0xAA7B⟩, ⟨0xAA7D, 0xAA7D⟩, ⟨0x11720, 0x11721⟩]

/-- The classes of characters in graphemes. -/
def graphemeClasses : List SegmentClass := [
  ⟨["control", "cn"], controlSet⟩,
  ⟨["cr"], returnSet⟩,
  ⟨["extend", "ex"], graphemeExtenders⟩,
  ⟨["l"], CharSet.ofRanges [⟨0x1100, 0x115F⟩, ⟨0xA960, 0xA97C⟩]⟩,
  ⟨["lf"], lineFeedSet⟩,
  ⟨["lv"], openSyllables⟩,
  ⟨["lvt"], (CharSet.between 0xAC00 0xD7A3).diff openSyllables⟩,
  ⟨["prepend", "pp"], prependSet⟩,
  ⟨["regionalindicator", "ri"], regionalIndicators⟩,
  ⟨["spacingmark", "sm"],
    ((oneCategory .mc).union (CharSet.ofCodes [0xE33, 0xEB3])).diff
      (CharSet.unionAll [graphemeExtenders, freeSpacingMarks, prependSet, vowelSet])⟩,
  ⟨["t"], CharSet.ofRanges [⟨0x11A8, 0x11FF⟩, ⟨0xD7CB, 0xD7FB⟩]⟩,
  ⟨["v"], vowelSet⟩,
  ⟨["zwj"], joinerSet⟩]

/-! ## Words -/

/-- Marks and skin tones that stay with the word before them. -/
def wordExtenders : CharSet :=
  (CharSet.unionAll [graphemeExtendSet, oneCategory .mc, emojiModifiers]).diff joinerSet

/-- Digits and the signs that go with them. -/
def wordNumerals : CharSet :=
  digitSet.union <| CharSet.ofRanges [⟨0x600, 0x605⟩, ⟨0x66B, 0x66B⟩, ⟨0x6DD, 0x6DD⟩,
    ⟨0x890, 0x891⟩, ⟨0x8E2, 0x8E2⟩, ⟨0x19DA, 0x19DA⟩, ⟨0x110BD, 0x110BD⟩, ⟨0x110CD, 0x110CD⟩]

/-- Katakana and what is used with it. -/
def wordKatakana : CharSet :=
  ((scriptsSet ["kana"]).union <| CharSet.ofRanges
    [⟨0x3031, 0x3035⟩, ⟨0x309B, 0x309C⟩, ⟨0x30A0, 0x30A0⟩, ⟨0x30FC, 0x30FC⟩, ⟨0xFF70, 0xFF70⟩]).diff
    wordExtenders

/-- Hebrew letters. -/
def hebrewLetters : CharSet := (scriptsSet ["hebr"]).inter (oneCategory .lo)

/-- Signs that count as letters in words. -/
def letterSigns : CharSet :=
  CharSet.ofRanges [⟨0x2C2, 0x2C5⟩, ⟨0x2D2, 0x2D7⟩, ⟨0x2DE, 0x2DF⟩, ⟨0x2E5, 0x2EB⟩, ⟨0x2ED, 0x2ED⟩,
    ⟨0x2EF, 0x2FF⟩, ⟨0x55A, 0x55C⟩, ⟨0x55E, 0x55E⟩, ⟨0x58A, 0x58A⟩, ⟨0x5F3, 0x5F3⟩, ⟨0x70F, 0x70F⟩,
    ⟨0xA708, 0xA716⟩, ⟨0xA720, 0xA721⟩, ⟨0xA789, 0xA78A⟩, ⟨0xAB5B, 0xAB5B⟩]

/-- Letters of scripts that do not part words by blanks. -/
def unpartedScripts : CharSet :=
  scriptsSet ["thai", "laoo", "khmr", "mymr", "tale", "talu", "lana", "tavt", "ahom"]

/-- Letters of scripts that part words by blanks. -/
def wordLetters : CharSet :=
  (alphabeticSet.union letterSigns).diff <|
    CharSet.unionAll [⟨ideographic⟩, wordKatakana, unpartedScripts, scriptsSet ["hira"],
      wordExtenders, hebrewLetters, wordNumerals]

/-- Format characters that stay with the word before them. -/
def wordFormats : CharSet :=
  (oneCategory .cf).diff <|
    CharSet.unionAll [CharSet.between 0x200B 0x200D, wordLetters, wordNumerals, wordExtenders]

/-- Punctuation inside a number. -/
def numberPunctuation : CharSet :=
  CharSet.ofRanges [⟨0x2C, 0x2C⟩, ⟨0x3B, 0x3B⟩, ⟨0x37E, 0x37E⟩, ⟨0x589, 0x589⟩, ⟨0x60C, 0x60D⟩,
    ⟨0x66C, 0x66C⟩, ⟨0x7F8, 0x7F8⟩, ⟨0x2044, 0x2044⟩, ⟨0xFE10, 0xFE10⟩, ⟨0xFE14, 0xFE14⟩,
    ⟨0xFE50, 0xFE50⟩, ⟨0xFE54, 0xFE54⟩, ⟨0xFF0C, 0xFF0C⟩, ⟨0xFF1B, 0xFF1B⟩]

/-- Punctuation inside a word. -/
def wordPunctuation : CharSet :=
  CharSet.ofRanges [⟨0x3A, 0x3A⟩, ⟨0xB7, 0xB7⟩, ⟨0x387, 0x387⟩, ⟨0x55F, 0x55F⟩, ⟨0x5F4, 0x5F4⟩,
    ⟨0x2027, 0x2027⟩, ⟨0xFE13, 0xFE13⟩, ⟨0xFE55, 0xFE55⟩, ⟨0xFF1A, 0xFF1A⟩]

/-- The classes of characters in words. -/
def wordClasses : List SegmentClass := [
  ⟨["aletter", "le"], wordLetters⟩,
  ⟨["cr"], returnSet⟩,
  ⟨["doublequote", "dq"], code 0x22⟩,
  ⟨["extend"], wordExtenders⟩,
  ⟨["extendnumlet", "ex"], (oneCategory .pc).union (code 0x202F)⟩,
  ⟨["format", "fo"], wordFormats⟩,
  ⟨["hebrewletter", "hl"], hebrewLetters⟩,
  ⟨["katakana", "ka"], wordKatakana⟩,
  ⟨["lf"], lineFeedSet⟩,
  ⟨["midletter", "ml"], wordPunctuation⟩,
  ⟨["midnum", "mn"], numberPunctuation⟩,
  ⟨["midnumlet", "mb"], CharSet.ofCodes [0x2E, 0x2018, 0x2019, 0x2024, 0xFE52, 0xFF07, 0xFF0E]⟩,
  ⟨["newline", "nl"], CharSet.ofCodes [0xB, 0xC, 0x85, 0x2028, 0x2029]⟩,
  ⟨["numeric", "nu"], wordNumerals⟩,
  ⟨["regionalindicator", "ri"], regionalIndicators⟩,
  ⟨["singlequote", "sq"], code 0x27⟩,
  ⟨["wsegspace"],
    CharSet.ofRanges [⟨0x20, 0x20⟩, ⟨0x1680, 0x1680⟩, ⟨0x2000, 0x2006⟩, ⟨0x2008, 0x200A⟩,
      ⟨0x205F, 0x205F⟩, ⟨0x3000, 0x3000⟩]⟩,
  ⟨["zwj"], joinerSet⟩]

/-! ## Sentences -/

/-- Marks and joiners that stay with the character before them. -/
def sentenceExtenders : CharSet :=
  CharSet.unionAll [graphemeExtendSet, joinerSet, oneCategory .mc]

/-- Digits in sentences. -/
def sentenceNumerals : CharSet := wordNumerals.union (code 0x66C)

/-- Georgian letters in capital form; sentences see no case in them. -/
def georgianCapitals : CharSet := CharSet.ofRanges [⟨0x1C90, 0x1CBA⟩, ⟨0x1CBD, 0x1CBF⟩]

/-- Georgian letters in plain form; sentences see no case in them. -/
def georgianLetters : CharSet := CharSet.ofRanges [⟨0x10D0, 0x10FA⟩, ⟨0x10FD, 0x10FF⟩]

/-- Lowercase letters in sentences. -/
def sentenceLower : CharSet :=
  lowercaseSet.diff (graphemeExtendSet.union georgianLetters)

/-- Capital letters in sentences. -/
def sentenceUpper : CharSet :=
  ((oneCategory .lt).union uppercaseSet).diff georgianCapitals

/-- Blanks inside a line. -/
def sentenceBlanks : CharSet :=
  blankSet.diff (CharSet.ofCodes [0xA, 0xD, 0x85, 0x2028, 0x2029])

/-- Letters without case in sentences. -/
def sentenceLetters : CharSet :=
  (alphabeticSet.union (code 0x5F3)).diff <|
    CharSet.unionAll
      [sentenceLower, sentenceUpper, sentenceExtenders, sentenceBlanks, sentenceNumerals]

/-- Full stops, which may or may not end a sentence. -/
def stopSet : CharSet := CharSet.ofCodes [0x2E, 0x2024, 0xFE52, 0xFF0E]

/-- Marks that surely end a sentence. -/
def endMarks : CharSet := CharSet.diff ⟨sentenceTerminals⟩ stopSet

/-- Quotation marks, whichever side they stand on. -/
def ambiguousQuotes : CharSet :=
  CharSet.ofRanges [⟨0x22, 0x22⟩, ⟨0x27, 0x27⟩, ⟨0xAB, 0xAB⟩, ⟨0xBB, 0xBB⟩, ⟨0x2018, 0x2019⟩,
    ⟨0x201B, 0x201D⟩, ⟨0x201F, 0x201F⟩, ⟨0x2039, 0x203A⟩, ⟨0x275B, 0x2760⟩, ⟨0x2E00, 0x2E0D⟩,
    ⟨0x2E1C, 0x2E1D⟩, ⟨0x2E20, 0x2E21⟩, ⟨0x1F676, 0x1F678⟩]

/-- Marks after which a sentence goes on. -/
def continuationMarks : CharSet :=
  CharSet.ofRanges [⟨0x2C, 0x2D⟩, ⟨0x3A, 0x3B⟩, ⟨0x37E, 0x37E⟩, ⟨0x55D, 0x55D⟩, ⟨0x60C, 0x60D⟩,
    ⟨0x7F8, 0x7F8⟩, ⟨0x1802, 0x1802⟩, ⟨0x1808, 0x1808⟩, ⟨0x2013, 0x2014⟩, ⟨0x3001, 0x3001⟩,
    ⟨0xFE10, 0xFE11⟩, ⟨0xFE13, 0xFE14⟩, ⟨0xFE31, 0xFE32⟩, ⟨0xFE50, 0xFE51⟩, ⟨0xFE54, 0xFE55⟩,
    ⟨0xFE58, 0xFE58⟩, ⟨0xFE63, 0xFE63⟩, ⟨0xFF0C, 0xFF0D⟩, ⟨0xFF1A, 0xFF1B⟩, ⟨0xFF64, 0xFF64⟩]

/-- The classes of characters in sentences. -/
def sentenceClasses : List SegmentClass := [
  ⟨["aterm", "at"], stopSet⟩,
  ⟨["close", "cl"],
    (CharSet.unionAll [oneCategory .ps, oneCategory .pe, ambiguousQuotes]).diff
      (CharSet.unionAll [code 0x5F3, stopSet, endMarks])⟩,
  ⟨["cr"], returnSet⟩,
  ⟨["extend", "ex"], sentenceExtenders⟩,
  ⟨["format", "fo"], (oneCategory .cf).diff (sentenceExtenders.union sentenceNumerals)⟩,
  ⟨["lf"], lineFeedSet⟩,
  ⟨["lower", "lo"], sentenceLower⟩,
  ⟨["numeric", "nu"], sentenceNumerals⟩,
  ⟨["oletter", "le"], sentenceLetters⟩,
  ⟨["scontinue", "sc"], continuationMarks⟩,
  ⟨["sep", "se"], CharSet.ofCodes [0x85, 0x2028, 0x2029]⟩,
  ⟨["sp"], sentenceBlanks⟩,
  ⟨["sterm", "st"], endMarks⟩,
  ⟨["upper", "up"], sentenceUpper⟩]

/-- The set of a class by its name in lower case and without separators. -/
def segmentClass? (classes : List SegmentClass) (name : String) : Option CharSet :=
  (classes.find? fun c => c.names.contains name).map (·.members)

end DocFilter.Regex
