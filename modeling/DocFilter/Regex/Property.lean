import DocFilter.Regex.CharSet
import DocFilter.Text.Character

/-!
# Properties of characters

The sets of the characters that have a property which others lack. Some properties are tables;
the others follow by rule from general categories, from foldings and from one another. `traits`
lists the properties that a pattern can name, and `trait?` finds one by its name.
-/

namespace DocFilter.Regex

/-- The characters whose category satisfies `p`. -/
def categorySet (p : Category → Bool) : CharSet :=
  CharSet.ofSorted <| categoryRuns.toList.filterMap fun r =>
    if p r.category then some ⟨r.first, r.last⟩ else none

/-- The characters of some category. -/
def assignedSet : CharSet := categorySet (· != .cs)

/-- The alphabetic characters. -/
def alphabeticSet : CharSet :=
  (categorySet fun c => c.isLetter || c == .nl).union ⟨otherAlphabetic⟩

/-- Decimal digits of all scripts. -/
def digitSet : CharSet := categorySet (· == .nd)

/-- The zero-width joiner and its opposite. -/
def joinControls : CharSet := CharSet.between 0x200C 0x200D

/-- Word characters: alphabetic characters, marks, decimal digits, connectors and joiners. -/
def wordSet : CharSet :=
  CharSet.unionAll
    [alphabeticSet, categorySet fun c => c.isMark || c == .nd || c == .pc, joinControls]

/-- White space. -/
def blankSet : CharSet :=
  CharSet.ofRanges [⟨0x9, 0xD⟩, ⟨0x20, 0x20⟩, ⟨0x85, 0x85⟩, ⟨0xA0, 0xA0⟩, ⟨0x1680, 0x1680⟩,
    ⟨0x2000, 0x200A⟩, ⟨0x2028, 0x2029⟩, ⟨0x202F, 0x202F⟩, ⟨0x205F, 0x205F⟩, ⟨0x3000, 0x3000⟩]

/-- The uppercase characters. -/
def uppercaseSet : CharSet := (categorySet (· == .lu)).union ⟨otherUppercase⟩

/-- The lowercase characters. -/
def lowercaseSet : CharSet := (categorySet (· == .ll)).union ⟨otherLowercase⟩

/-- The characters that have a case. -/
def casedSet : CharSet :=
  CharSet.unionAll [uppercaseSet, lowercaseSet, categorySet (· == .lt)]

/-- The characters that extend a grapheme. -/
def graphemeExtendSet : CharSet :=
  (categorySet fun c => c == .mn || c == .me).union ⟨otherGraphemeExtend⟩

/-- The characters that take part in a grapheme and do not extend one. -/
def graphemeBaseSet : CharSet :=
  (categorySet fun c => !(c == .cc || c == .cf || c == .cs || c == .co || c == .zl ||
    c == .zp)).diff graphemeExtendSet

/-- Signs that go before the digits they mark. -/
def prependedMarks : CharSet :=
  CharSet.ofRanges [⟨0x600, 0x605⟩, ⟨0x6DD, 0x6DD⟩, ⟨0x70F, 0x70F⟩, ⟨0x890, 0x891⟩, ⟨0x8E2, 0x8E2⟩,
    ⟨0x110BD, 0x110BD⟩, ⟨0x110CD, 0x110CD⟩]

/-- Marks that stay closest to their letter. -/
def modifierCombiningMarks : CharSet :=
  CharSet.ofRanges [⟨0x654, 0x655⟩, ⟨0x658, 0x658⟩, ⟨0x6DC, 0x6DC⟩, ⟨0x6E3, 0x6E3⟩, ⟨0x6E7, 0x6E8⟩,
    ⟨0x8CA, 0x8CB⟩, ⟨0x8CD, 0x8CF⟩, ⟨0x8D3, 0x8D3⟩, ⟨0x8F3, 0x8F3⟩]

/-- Controls of the writing direction. -/
def bidiControls : CharSet :=
  CharSet.ofRanges [⟨0x61C, 0x61C⟩, ⟨0x200E, 0x200F⟩, ⟨0x202A, 0x202E⟩, ⟨0x2066, 0x2069⟩]

/-- Variation selectors. -/
def variationSelectors : CharSet :=
  CharSet.ofRanges [⟨0x180B, 0x180D⟩, ⟨0x180F, 0x180F⟩, ⟨0xFE00, 0xFE0F⟩, ⟨0xE0100, 0xE01EF⟩]

/-- Code points that are never assigned. -/
def noncharacters : CharSet :=
  CharSet.ofRanges [⟨0xFDD0, 0xFDEF⟩, ⟨0xFFFE, 0xFFFF⟩, ⟨0x1FFFE, 0x1FFFF⟩, ⟨0x2FFFE, 0x2FFFF⟩,
    ⟨0x3FFFE, 0x3FFFF⟩, ⟨0x4FFFE, 0x4FFFF⟩, ⟨0x5FFFE, 0x5FFFF⟩, ⟨0x6FFFE, 0x6FFFF⟩,
    ⟨0x7FFFE, 0x7FFFF⟩, ⟨0x8FFFE, 0x8FFFF⟩, ⟨0x9FFFE, 0x9FFFF⟩, ⟨0xAFFFE, 0xAFFFF⟩,
    ⟨0xBFFFE, 0xBFFFF⟩, ⟨0xCFFFE, 0xCFFFF⟩, ⟨0xDFFFE, 0xDFFFF⟩, ⟨0xEFFFE, 0xEFFFF⟩,
    ⟨0xFFFFE, 0xFFFFF⟩, ⟨0x10FFFE, 0x10FFFF⟩]

/-- Characters without a visible form. -/
def defaultIgnorables : CharSet :=
  (CharSet.unionAll [⟨otherDefaultIgnorable⟩, categorySet (· == .cf), variationSelectors]).diff
    (CharSet.unionAll [blankSet, prependedMarks, CharSet.between 0xFFF9 0xFFFB,
      CharSet.between 0x13430 0x13440])

/-- Punctuation that may stand inside a word. -/
def caseIgnorablePunctuation : CharSet :=
  CharSet.ofRanges [⟨0x27, 0x27⟩, ⟨0x2E, 0x2E⟩, ⟨0x3A, 0x3A⟩, ⟨0xB7, 0xB7⟩, ⟨0x387, 0x387⟩,
    ⟨0x55F, 0x55F⟩, ⟨0x5F4, 0x5F4⟩, ⟨0x2018, 0x2019⟩, ⟨0x2024, 0x2024⟩, ⟨0x2027, 0x2027⟩,
    ⟨0xFE13, 0xFE13⟩, ⟨0xFE52, 0xFE52⟩, ⟨0xFE55, 0xFE55⟩, ⟨0xFF07, 0xFF07⟩, ⟨0xFF0E, 0xFF0E⟩,
    ⟨0xFF1A, 0xFF1A⟩]

/-- Characters that do not part the letters around them. -/
def caseIgnorables : CharSet :=
  (categorySet fun c => c == .mn || c == .me || c == .cf || c == .lm || c == .sk).union
    caseIgnorablePunctuation

/-- Blanks between the parts of a pattern. -/
def patternBlanks : CharSet :=
  CharSet.ofRanges [⟨0x9, 0xD⟩, ⟨0x20, 0x20⟩, ⟨0x85, 0x85⟩, ⟨0x200E, 0x200F⟩, ⟨0x2028, 0x2029⟩]

/-- Characters that start a name though they are neither letters nor letter numbers. -/
def otherIdStart : CharSet :=
  CharSet.ofRanges [⟨0x1885, 0x1886⟩, ⟨0x2118, 0x2118⟩, ⟨0x212E, 0x212E⟩, ⟨0x309B, 0x309C⟩]

/-- Characters that continue a name for a reason other than their category. -/
def otherIdContinue : CharSet :=
  CharSet.ofRanges [⟨0xB7, 0xB7⟩, ⟨0x387, 0x387⟩, ⟨0x1369, 0x1371⟩, ⟨0x19DA, 0x19DA⟩,
    ⟨0x200C, 0x200D⟩, ⟨0x30FB, 0x30FB⟩, ⟨0xFF65, 0xFF65⟩]

/-- Characters that can start a name. -/
def idStart : CharSet :=
  ((categorySet fun c => c.isLetter || c == .nl).union otherIdStart).diff
    (patternBlanks.union ⟨patternSyntax⟩)

/-- Characters that can continue a name. -/
def idContinue : CharSet :=
  (CharSet.unionAll
    [idStart, categorySet fun c => c == .mn || c == .mc || c == .nd || c == .pc,
      otherIdContinue]).diff
    (patternBlanks.union ⟨patternSyntax⟩)

/-- Characters of names whose compatibility form is no part of a name. -/
def unstableIdContinue : CharSet :=
  CharSet.ofRanges [⟨0x37A, 0x37A⟩, ⟨0x309B, 0x309C⟩, ⟨0xFC5E, 0xFC63⟩, ⟨0xFDFA, 0xFDFB⟩,
    ⟨0xFE70, 0xFE70⟩, ⟨0xFE72, 0xFE72⟩, ⟨0xFE74, 0xFE74⟩, ⟨0xFE76, 0xFE76⟩, ⟨0xFE78, 0xFE78⟩,
    ⟨0xFE7A, 0xFE7A⟩, ⟨0xFE7C, 0xFE7C⟩, ⟨0xFE7E, 0xFE7E⟩]

/-- Characters that can start a name in compatibility form too. -/
def xidStart : CharSet :=
  idStart.diff <| unstableIdContinue.union <|
    CharSet.ofRanges [⟨0xE33, 0xE33⟩, ⟨0xEB3, 0xEB3⟩, ⟨0xFF9E, 0xFF9F⟩]

/-- Characters that can continue a name in compatibility form too. -/
def xidContinue : CharSet := idContinue.diff unstableIdContinue

/-- Mathematical signs that can start a name. -/
def mathNameStart : CharSet :=
  CharSet.ofRanges [⟨0x2202, 0x2202⟩, ⟨0x2207, 0x2207⟩, ⟨0x221E, 0x221E⟩, ⟨0x1D6C1, 0x1D6C1⟩,
    ⟨0x1D6DB, 0x1D6DB⟩, ⟨0x1D6FB, 0x1D6FB⟩, ⟨0x1D715, 0x1D715⟩, ⟨0x1D735, 0x1D735⟩,
    ⟨0x1D74F, 0x1D74F⟩, ⟨0x1D76F, 0x1D76F⟩, ⟨0x1D789, 0x1D789⟩, ⟨0x1D7A9, 0x1D7A9⟩,
    ⟨0x1D7C3, 0x1D7C3⟩]

/-- Mathematical signs that can continue a name. -/
def mathNameContinue : CharSet :=
  mathNameStart.union <| CharSet.ofRanges
    [⟨0xB2, 0xB3⟩, ⟨0xB9, 0xB9⟩, ⟨0x2070, 0x2070⟩, ⟨0x2074, 0x207E⟩, ⟨0x2080, 0x208E⟩]

/-- Mathematical characters. -/
def mathSet : CharSet := (categorySet (· == .sm)).union ⟨otherMath⟩

/-- Hyphens. -/
def hyphens : CharSet :=
  CharSet.ofRanges [⟨0x2D, 0x2D⟩, ⟨0xAD, 0xAD⟩, ⟨0x58A, 0x58A⟩, ⟨0x1806, 0x1806⟩, ⟨0x2010, 0x2011⟩,
    ⟨0x2E17, 0x2E17⟩, ⟨0x30FB, 0x30FB⟩, ⟨0xFE63, 0xFE63⟩, ⟨0xFF0D, 0xFF0D⟩, ⟨0xFF65, 0xFF65⟩]

/-- ASCII hexadecimal digits. -/
def asciiHexDigits : CharSet :=
  CharSet.ofRanges [⟨0x30, 0x39⟩, ⟨0x41, 0x46⟩, ⟨0x61, 0x66⟩]

/-- Hexadecimal digits of either width. -/
def hexDigits : CharSet :=
  asciiHexDigits.union <|
    CharSet.ofRanges [⟨0xFF10, 0xFF19⟩, ⟨0xFF21, 0xFF26⟩, ⟨0xFF41, 0xFF46⟩]

/-- Radicals of ideographs. -/
def radicals : CharSet :=
  CharSet.ofRanges [⟨0x2E80, 0x2E99⟩, ⟨0x2E9B, 0x2EF3⟩, ⟨0x2F00, 0x2FD5⟩]

/-- Signs that join the descriptions of two ideographs. -/
def binaryDescriptors : CharSet :=
  CharSet.ofRanges [⟨0x2FF0, 0x2FF1⟩, ⟨0x2FF4, 0x2FFD⟩, ⟨0x31EF, 0x31EF⟩]

/-- Vowels that are written before the consonant they follow. -/
def logicalExceptions : CharSet :=
  CharSet.ofRanges [⟨0xE40, 0xE44⟩, ⟨0xEC0, 0xEC4⟩, ⟨0x19B5, 0x19B7⟩, ⟨0x19BA, 0x19BA⟩,
    ⟨0xAAB5, 0xAAB6⟩, ⟨0xAAB9, 0xAAB9⟩, ⟨0xAABB, 0xAABC⟩]

/-- Letters that pair up to form a flag. -/
def regionalIndicators : CharSet := CharSet.between 0x1F1E6 0x1F1FF

/-- Skin tones. -/
def emojiModifiers : CharSet := CharSet.between 0x1F3FB 0x1F3FF

/-- Characters that emoji are put together from. -/
def emojiComponents : CharSet :=
  CharSet.ofRanges [⟨0x23, 0x23⟩, ⟨0x2A, 0x2A⟩, ⟨0x30, 0x39⟩, ⟨0x200D, 0x200D⟩, ⟨0x20E3, 0x20E3⟩,
    ⟨0xFE0F, 0xFE0F⟩, ⟨0x1F1E6, 0x1F1FF⟩, ⟨0x1F3FB, 0x1F3FF⟩, ⟨0x1F9B0, 0x1F9B3⟩,
    ⟨0xE0020, 0xE007F⟩]

/-! ## Change of case -/

/-- Characters that fold to another one. -/
def foldSourceSet : CharSet := CharSet.ofCodes (CharSet.foldings.map (·.1))

/-- Characters that another one folds to. -/
def foldTargetSet : CharSet := CharSet.ofCodes (CharSet.foldings.map (·.2))

/-- Characters that fold to more than one character. -/
def longFoldings : CharSet :=
  CharSet.ofRanges [⟨0xDF, 0xDF⟩, ⟨0x130, 0x130⟩, ⟨0x149, 0x149⟩, ⟨0x587, 0x587⟩, ⟨0x1E9A, 0x1E9A⟩,
    ⟨0x1F80, 0x1F87⟩, ⟨0x1F90, 0x1F97⟩, ⟨0x1FA0, 0x1FA7⟩, ⟨0x1FB2, 0x1FB4⟩, ⟨0x1FB7, 0x1FB7⟩,
    ⟨0x1FC2, 0x1FC4⟩, ⟨0x1FC7, 0x1FC7⟩, ⟨0x1FF2, 0x1FF4⟩, ⟨0x1FF7, 0x1FF7⟩, ⟨0xFB00, 0xFB04⟩,
    ⟨0xFB06, 0xFB06⟩, ⟨0xFB13, 0xFB17⟩]

/-- Characters that fold only because another one has the same form. -/
def likeFoldings : CharSet :=
  CharSet.ofRanges [⟨0x1FBE, 0x1FBE⟩, ⟨0x1FD3, 0x1FD3⟩, ⟨0x1FE3, 0x1FE3⟩]

/-- Characters that change when they are folded. -/
def changesFolded : CharSet := (foldSourceSet.diff likeFoldings).union longFoldings

/-- Lowercase characters that fold to another one. -/
def lowercaseFoldings : CharSet :=
  CharSet.ofRanges [⟨0xB5, 0xB5⟩, ⟨0x17F, 0x17F⟩, ⟨0x345, 0x345⟩, ⟨0x3C2, 0x3C2⟩, ⟨0x3D0, 0x3D1⟩,
    ⟨0x3D5, 0x3D6⟩, ⟨0x3F0, 0x3F1⟩, ⟨0x3F5, 0x3F5⟩, ⟨0x13F8, 0x13FD⟩, ⟨0x1C80, 0x1C88⟩,
    ⟨0x1E9B, 0x1E9B⟩, ⟨0x1FBE, 0x1FBE⟩, ⟨0x1FD3, 0x1FD3⟩, ⟨0x1FE3, 0x1FE3⟩, ⟨0xAB70, 0xABBF⟩,
    ⟨0xFB05, 0xFB05⟩]

/-- Characters that change when they are lowercased. -/
def changesLowercased : CharSet :=
  (foldSourceSet.diff lowercaseFoldings).union <|
    CharSet.ofRanges [⟨0x130, 0x130⟩, ⟨0x13A0, 0x13F5⟩]

/-- Characters that change when they are uppercased, though nothing folds to them. -/
def otherUppercased : CharSet :=
  CharSet.ofRanges [⟨0xB5, 0xB5⟩, ⟨0x131, 0x131⟩, ⟨0x149, 0x149⟩, ⟨0x17F, 0x17F⟩, ⟨0x1C5, 0x1C5⟩,
    ⟨0x1C8, 0x1C8⟩, ⟨0x1CB, 0x1CB⟩, ⟨0x1F0, 0x1F0⟩, ⟨0x1F2, 0x1F2⟩, ⟨0x345, 0x345⟩, ⟨0x3C2, 0x3C2⟩,
    ⟨0x3D0, 0x3D1⟩, ⟨0x3D5, 0x3D6⟩, ⟨0x3F0, 0x3F1⟩, ⟨0x3F5, 0x3F5⟩, ⟨0x587, 0x587⟩,
    ⟨0x13F8, 0x13FD⟩, ⟨0x1C80, 0x1C88⟩, ⟨0x1E96, 0x1E9B⟩, ⟨0x1F50, 0x1F50⟩, ⟨0x1F52, 0x1F52⟩,
    ⟨0x1F54, 0x1F54⟩, ⟨0x1F56, 0x1F56⟩, ⟨0x1F88, 0x1F8F⟩, ⟨0x1F98, 0x1F9F⟩, ⟨0x1FA8, 0x1FAF⟩,
    ⟨0x1FB2, 0x1FB2⟩, ⟨0x1FB4, 0x1FB4⟩, ⟨0x1FB6, 0x1FB7⟩, ⟨0x1FBC, 0x1FBC⟩, ⟨0x1FBE, 0x1FBE⟩,
    ⟨0x1FC2, 0x1FC2⟩, ⟨0x1FC4, 0x1FC4⟩, ⟨0x1FC6, 0x1FC7⟩, ⟨0x1FCC, 0x1FCC⟩, ⟨0x1FD2, 0x1FD3⟩,
    ⟨0x1FD6, 0x1FD7⟩, ⟨0x1FE2, 0x1FE4⟩, ⟨0x1FE6, 0x1FE7⟩, ⟨0x1FF2, 0x1FF2⟩, ⟨0x1FF4, 0x1FF4⟩,
    ⟨0x1FF6, 0x1FF7⟩, ⟨0x1FFC, 0x1FFC⟩, ⟨0xAB70, 0xABBF⟩, ⟨0xFB00, 0xFB05⟩, ⟨0xFB13, 0xFB17⟩]

/-- Characters that change when they are uppercased. -/
def changesUppercased : CharSet :=
  (foldTargetSet.diff (CharSet.between 0x13A0 0x13F5)).union otherUppercased

/-- Characters that are uppercased further but are in title case. -/
def titlecaseForms : CharSet :=
  CharSet.ofRanges [⟨0x1C5, 0x1C5⟩, ⟨0x1C8, 0x1C8⟩, ⟨0x1CB, 0x1CB⟩, ⟨0x1F2, 0x1F2⟩,
    ⟨0x10D0, 0x10FA⟩, ⟨0x10FD, 0x10FF⟩, ⟨0x1F88, 0x1F8F⟩, ⟨0x1F98, 0x1F9F⟩, ⟨0x1FA8, 0x1FAF⟩,
    ⟨0x1FBC, 0x1FBC⟩, ⟨0x1FCC, 0x1FCC⟩, ⟨0x1FFC, 0x1FFC⟩]

/-- Characters that change when they are put in title case. -/
def changesTitlecased : CharSet :=
  (changesUppercased.diff titlecaseForms).union <|
    CharSet.ofRanges [⟨0x1C4, 0x1C4⟩, ⟨0x1C7, 0x1C7⟩, ⟨0x1CA, 0x1CA⟩, ⟨0x1F1, 0x1F1⟩]

/-- Characters that some change of case changes. -/
def changesCase : CharSet :=
  CharSet.unionAll [changesUppercased, changesLowercased, changesTitlecased]

/-! ## The properties by name -/

/-- A property that characters have or lack: its names, and the characters that have it. -/
structure TraitEntry where
  names : List String
  members : CharSet
  deriving Repr, Inhabited

/-- Every property that can be named, with names in lower case and without separators. -/
def traits : List TraitEntry := [
  ⟨["asciihexdigit", "ahex"], asciiHexDigits⟩,
  ⟨["alphabetic", "alpha"], alphabeticSet⟩,
  ⟨["bidicontrol", "bidic"], bidiControls⟩,
  ⟨["bidimirrored", "bidim"], ⟨bidiMirrored⟩⟩,
  ⟨["caseignorable", "ci"], caseIgnorables⟩,
  ⟨["cased"], casedSet⟩,
  ⟨["changeswhencasefolded", "cwcf"], changesFolded⟩,
  ⟨["changeswhencasemapped", "cwcm"], changesCase⟩,
  ⟨["changeswhenlowercased", "cwl"], changesLowercased⟩,
  ⟨["changeswhentitlecased", "cwt"], changesTitlecased⟩,
  ⟨["changeswhenuppercased", "cwu"], changesUppercased⟩,
  ⟨["dash"], ⟨dashes⟩⟩,
  ⟨["defaultignorablecodepoint", "di"], defaultIgnorables⟩,
  ⟨["deprecated", "dep"], ⟨deprecatedCharacters⟩⟩,
  ⟨["diacritic", "dia"], ⟨diacritics⟩⟩,
  ⟨["emoji"], ⟨emoji⟩⟩,
  ⟨["emojicomponent", "ecomp"], emojiComponents⟩,
  ⟨["emojimodifier", "emod"], emojiModifiers⟩,
  ⟨["emojimodifierbase", "ebase"], ⟨emojiModifierBases⟩⟩,
  ⟨["emojipresentation", "epres"], ⟨emojiPresentation⟩⟩,
  ⟨["extendedpictographic", "extpict"], ⟨extendedPictographic⟩⟩,
  ⟨["extender", "ext"], ⟨extenders⟩⟩,
  ⟨["graphemebase", "grbase"], graphemeBaseSet⟩,
  ⟨["graphemeextend", "grext"], graphemeExtendSet⟩,
  ⟨["graphemelink", "grlink"], ⟨graphemeLinks⟩⟩,
  ⟨["hexdigit", "hex"], hexDigits⟩,
  ⟨["hyphen"], hyphens⟩,
  ⟨["idcompatmathcontinue"], mathNameContinue⟩,
  ⟨["idcompatmathstart"], mathNameStart⟩,
  ⟨["idcontinue", "idc"], idContinue⟩,
  ⟨["idstart", "ids"], idStart⟩,
  ⟨["ideographic", "ideo"], ⟨ideographic⟩⟩,
  ⟨["idsbinaryoperator", "idsb"], binaryDescriptors⟩,
  ⟨["idstrinaryoperator", "idst"], CharSet.between 0x2FF2 0x2FF3⟩,
  ⟨["idsunaryoperator", "idsu"], CharSet.between 0x2FFE 0x2FFF⟩,
  ⟨["joincontrol", "joinc"], joinControls⟩,
  ⟨["logicalorderexception", "loe"], logicalExceptions⟩,
  ⟨["lowercase", "lower"], lowercaseSet⟩,
  ⟨["math"], mathSet⟩,
  ⟨["modifiercombiningmark", "mcm"], modifierCombiningMarks⟩,
  ⟨["noncharactercodepoint", "nchar"], noncharacters⟩,
  ⟨["otheralphabetic", "oalpha"], ⟨otherAlphabetic⟩⟩,
  ⟨["otherdefaultignorablecodepoint", "odi"], ⟨otherDefaultIgnorable⟩⟩,
  ⟨["othergraphemeextend", "ogrext"], ⟨otherGraphemeExtend⟩⟩,
  ⟨["otheridcontinue", "oidc"], otherIdContinue⟩,
  ⟨["otheridstart", "oids"], otherIdStart⟩,
  ⟨["otherlowercase", "olower"], ⟨otherLowercase⟩⟩,
  ⟨["othermath", "omath"], ⟨otherMath⟩⟩,
  ⟨["otheruppercase", "oupper"], ⟨otherUppercase⟩⟩,
  ⟨["patternsyntax", "patsyn"], ⟨patternSyntax⟩⟩,
  ⟨["patternwhitespace", "patws"], patternBlanks⟩,
  ⟨["prependedconcatenationmark", "pcm"], prependedMarks⟩,
  ⟨["quotationmark", "qmark"], ⟨quotationMarks⟩⟩,
  ⟨["radical"], radicals⟩,
  ⟨["regionalindicator", "ri"], regionalIndicators⟩,
  ⟨["sentenceterminal", "sterm"], ⟨sentenceTerminals⟩⟩,
  ⟨["softdotted", "sd"], ⟨softDotted⟩⟩,
  ⟨["terminalpunctuation", "term"], ⟨terminalPunctuation⟩⟩,
  ⟨["unifiedideograph", "uideo"], ⟨unifiedIdeograph⟩⟩,
  ⟨["uppercase", "upper"], uppercaseSet⟩,
  ⟨["variationselector", "vs"], variationSelectors⟩,
  ⟨["whitespace", "wspace", "space"], blankSet⟩,
  ⟨["xidcontinue", "xidc"], xidContinue⟩,
  ⟨["xidstart", "xids"], xidStart⟩]

/-- The characters that have a property, by its name in lower case and without separators. -/
def trait? (name : String) : Option CharSet :=
  (traits.find? fun t => t.names.contains name).map (·.members)

end DocFilter.Regex
