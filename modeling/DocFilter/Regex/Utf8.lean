import DocFilter.Text.CodeRange

/-!
# Ranges of characters as bytes

The bytes of a character in UTF-8, and the characters of a range as a few sequences of ranges of
bytes: a text of one character lies in the range if and only if its bytes lie, one by one, in the
ranges of one of the sequences.
-/

namespace DocFilter.Regex.Utf8

/-- The bytes of the character with code point `n`. -/
def bytes (n : Nat) : List Nat :=
  if n < 0x80 then [n]
  else if n < 0x800 then [0xC0 + n / 64, 0x80 + n % 64]
  else if n < 0x10000 then [0xE0 + n / 4096, 0x80 + n / 64 % 64, 0x80 + n % 64]
  else [0xF0 + n / 262144, 0x80 + n / 4096 % 64, 0x80 + n / 64 % 64, 0x80 + n % 64]

/-- The bytes of some characters. -/
def bytesOf (cs : List Char) : List Nat :=
  cs.flatMap fun c => bytes c.toNat

/-- Where to cut a range so that characters with different numbers of bytes come apart. -/
def lengthCut? (first last : Nat) : Option Nat :=
  [0x7F, 0x7FF, 0xFFFF].find? fun n => first ≤ n && n < last

/-- Where to cut a range of characters with the same number of bytes so that, where their first
bytes differ, the last bytes run through all their values. -/
def alignmentCut? (first last : Nat) : Option Nat :=
  if last ≤ 0x7F then none
  else
    [64, 4096, 262144].findSome? fun block =>
      if first / block = last / block then none
      else if first % block ≠ 0 then some (first / block * block + (block - 1))
      else if last % block ≠ block - 1 then some (last / block * block - 1)
      else none

/-- The byte ranges of a range of code points without surrogates, in order. -/
def plainSequences (first last : Nat) : List (List CodeRange) :=
  match (lengthCut? first last).or (alignmentCut? first last) with
  | none => [(bytes first).zipWith CodeRange.mk (bytes last)]
  | some cut =>
    if first ≤ cut ∧ cut < last then
      plainSequences first cut ++ plainSequences (cut + 1) last
    else []
termination_by last - first

/-- The byte ranges of a range of characters, in order. -/
def sequences (r : CodeRange) : List (List CodeRange) :=
  if r.first < 0xE000 ∧ 0xD7FF < r.last then
    plainSequences r.first 0xD7FF ++ plainSequences 0xE000 r.last
  else plainSequences r.first r.last

end DocFilter.Regex.Utf8
