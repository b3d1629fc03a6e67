import DocFilter.Text.CodeRange
import DocFilter.Text.FoldTable

/-!
# Sets of characters

A set of characters is an array of ranges of code points, in order and with a gap between any
two. No range ends at a surrogate, as surrogates are no characters. `closeUnderFolding` adds to a
set every character that differs from one of its members only in case.
-/

namespace DocFilter

/-- A set of characters. -/
structure CharSet where
  ranges : Array CodeRange
  deriving DecidableEq, Repr, Inhabited

namespace CharSet

/-- The greatest code point. -/
def lastCode : Nat := 0x10FFFF

/-- The code point of the character after code point `n`. -/
def nextCode (n : Nat) : Nat :=
  if n = 0xD7FF then 0xE000 else n + 1

/-- The code point of the character before code point `n`. -/
def previousCode (n : Nat) : Nat :=
  if n = 0xE000 then 0xD7FF else n - 1

/-- Whether code point `n` belongs to the set. -/
def hasCode (s : CharSet) (n : Nat) : Bool :=
  CodeRange.search s.ranges n

/-- Whether `c` belongs to the set. -/
def contains (s : CharSet) (c : Char) : Bool :=
  s.hasCode c.toNat

/-- Whether the set has no members. -/
def isEmpty (s : CharSet) : Bool :=
  s.ranges.isEmpty

/-- Joins ranges that touch or overlap; the ranges come in the order of their first points. -/
def joinRanges (current : CodeRange) : List CodeRange → List CodeRange
  | [] => [current]
  | r :: rest =>
    if r.first ≤ current.last + 1 then joinRanges ⟨current.first, max current.last r.last⟩ rest
    else current :: joinRanges r rest

/-- The set of the points of some ranges, which come in the order of their first points. -/
def ofSorted : List CodeRange → CharSet
  | [] => ⟨#[]⟩
  | r :: rest => ⟨(joinRanges r rest).toArray⟩

/-- Whether `a` begins no later than `b`. -/
def beginsBefore (a b : CodeRange) : Bool :=
  a.first ≤ b.first

/-- The set of the points of some ranges, in any order. -/
def ofRanges (ranges : List CodeRange) : CharSet :=
  ofSorted (ranges.mergeSort beginsBefore)

/-- The set of some code points, in any order. -/
def ofCodes (codes : List Nat) : CharSet :=
  ofRanges (codes.map fun n => ⟨n, n⟩)

/-- No character. -/
def none : CharSet := ⟨#[]⟩

/-- Every character. -/
def any : CharSet := ⟨#[⟨0, lastCode⟩]⟩

/-- The characters from `first` to `last`. -/
def between (first last : Nat) : CharSet := ⟨#[⟨first, last⟩]⟩

/-- One character. -/
def single (c : Char) : CharSet := between c.toNat c.toNat

/-- The only member of a set that has no other. -/
def onlyMember? (s : CharSet) : Option Char :=
  match s.ranges.toList with
  | [r] => if r.first = r.last then some (Char.ofNat r.first) else .none
  | _ => .none

/-- The characters in either set. -/
def union (a b : CharSet) : CharSet :=
  ofSorted (a.ranges.toList.merge b.ranges.toList beginsBefore)

/-- The characters in one of the sets. -/
def unionAll (sets : List CharSet) : CharSet :=
  ofRanges (sets.flatMap fun s => s.ranges.toList)

/-- From the character after code point `last` to the next range, and so on to the end. Between
two ranges that only surrogates part such a gap ends before it begins. -/
def gapsAfter (last : Nat) : List CodeRange → List CodeRange
  | [] => if last < lastCode then [⟨nextCode last, lastCode⟩] else []
  | r :: rest => ⟨nextCode last, previousCode r.first⟩ :: gapsAfter r.last rest

/-- The gaps before, between and after some ranges. -/
def gaps : List CodeRange → List CodeRange
  | [] => [⟨0, lastCode⟩]
  | r :: rest =>
    if 0 < r.first then ⟨0, previousCode r.first⟩ :: gapsAfter r.last rest
    else gapsAfter r.last rest

/-- The characters outside the set. Where only surrogates part two of its ranges, the characters
around them stand for the gap. -/
def complement (s : CharSet) : CharSet :=
  ⟨((gaps s.ranges.toList).map fun g => ⟨min g.first g.last, max g.first g.last⟩).toArray⟩

/-- What two lists of ranges, each in order, have in common. -/
def interRanges : List CodeRange → List CodeRange → List CodeRange
  | a :: as, b :: bs =>
    let common : CodeRange := ⟨max a.first b.first, min a.last b.last⟩
    let rest := if a.last < b.last then interRanges as (b :: bs) else interRanges (a :: as) bs
    if common.first ≤ common.last then common :: rest else rest
  | _, _ => []
termination_by as bs => as.length + bs.length

/-- The characters in both sets. -/
def inter (a b : CharSet) : CharSet :=
  ⟨(interRanges a.ranges.toList b.ranges.toList).toArray⟩

/-- The characters of `a` outside `b`. -/
def diff (a b : CharSet) : CharSet :=
  let outside := (gaps b.ranges.toList).filter fun g => g.first ≤ g.last
  ⟨(interRanges a.ranges.toList outside).toArray⟩

/-- The characters in exactly one of the sets. -/
def symmDiff (a b : CharSet) : CharSet :=
  (a.union b).diff (a.inter b)

/-- The points of a run of foldings. -/
def foldSources (r : FoldRun) : List Nat :=
  (List.range ((r.last - r.first) / r.step + 1)).map fun i => r.first + i * r.step

/-- Every character that folds to another one, with the one it folds to. -/
def foldings : List (Nat × Nat) :=
  foldRuns.toList.flatMap fun r => (foldSources r).map fun n => (n, ((n : Int) + r.shift).toNat)

/-- The set with all characters that fold to the same character as one of its members. -/
def closeUnderFolding (s : CharSet) : CharSet :=
  let targets := foldings.filterMap fun (n, f) => if s.hasCode n then some f else .none
  let folded := s.union (ofCodes targets)
  let sources := foldings.filterMap fun (n, f) => if folded.hasCode f then some n else .none
  folded.union (ofCodes sources)

/-- The set with the other case of each of its ASCII letters. -/
def closeUnderAsciiCase (s : CharSet) : CharSet :=
  let upper := (List.range 26).filterMap fun i =>
    if s.hasCode (0x61 + i) then some (0x41 + i) else .none
  let lower := (List.range 26).filterMap fun i =>
    if s.hasCode (0x41 + i) then some (0x61 + i) else .none
  s.union (ofCodes (upper ++ lower))

/-- Whether all members are ASCII characters. -/
def isAscii (s : CharSet) : Bool :=
  s.ranges.all fun r => r.last < 0x80

end CharSet

end DocFilter
