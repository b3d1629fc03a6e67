import DocFilter.Regex.CharSet
import DocFilter.Text.Character

/-!
# Regular expressions

The expressions that written forms denote: texts, sets of characters, conditions on a position,
groups, sequence, choice and repetition. Expressions are built by functions that keep them in a
simple shape: neighbouring texts are joined, sequences and choices hold no other sequences and
choices, a choice among characters is a set, and what all branches of a choice begin with stands
in front of it.

Only the question whether a text contains a match is asked of an expression, so it makes no
difference which of several matches is preferred.
-/

namespace DocFilter.Regex

/-- A condition on a position in a text. -/
inductive Look where
  | textStart
  | textEnd
  | lineStart
  | lineEnd
  /-- Lines may also end in a carriage return, or in the pair. -/
  | lineStartCrlf
  | lineEndCrlf
  | wordBoundary (ascii : Bool)
  | notWordBoundary (ascii : Bool)
  | wordStart (ascii : Bool)
  | wordEnd (ascii : Bool)
  | wordStartHalf (ascii : Bool)
  | wordEndHalf (ascii : Bool)
  deriving DecidableEq, Repr

/-- Whether a neighbour of a position is a word character. -/
def isWordAt (ascii : Bool) : Option Char → Bool
  | none => false
  | some c => if ascii then c.toNat < 0x80 && isWord c else isWord c

/-- Whether the condition holds between the characters `before` and `after`. -/
def Look.holds (l : Look) (before after : Option Char) : Bool :=
  match l with
  | textStart => before.isNone
  | textEnd => after.isNone
  | lineStart => before.isNone || before == some '\n'
  | lineEnd => after.isNone || after == some '\n'
  | lineStartCrlf =>
    before.isNone || before == some '\n' || (before == some '\r' && after != some '\n')
  | lineEndCrlf =>
    after.isNone || after == some '\r' || (after == some '\n' && before != some '\r')
  | wordBoundary ascii => isWordAt ascii before != isWordAt ascii after
  | notWordBoundary ascii => isWordAt ascii before == isWordAt ascii after
  | wordStart ascii => !isWordAt ascii before && isWordAt ascii after
  | wordEnd ascii => isWordAt ascii before && !isWordAt ascii after
  | wordStartHalf ascii => !isWordAt ascii before
  | wordEndHalf ascii => !isWordAt ascii after

/-- A regular expression. -/
inductive Expr where
  | empty
  /-- These characters one after another. -/
  | text (chars : List Char)
  /-- One character of a set. A set of ASCII characters that was asked for without Unicode is
  told apart from one that was asked for with it. -/
  | set (unicode : Bool) (members : CharSet)
  | look (condition : Look)
  /-- The group with this number. -/
  | group (index : Nat) (body : Expr)
  | repeated (body : Expr) (least : Nat) (most : Option Nat) (greedy : Bool)
  | sequence (parts : List Expr)
  | choice (branches : List Expr)
  deriving Repr, Inhabited

namespace Expr

/-! ## Equality -/

mutual

/-- Whether two expressions are the same. -/
def same : Expr → Expr → Bool
  | .empty, .empty => true
  | .text a, .text b => a == b
  | .set u a, .set v b => u == v && a == b
  | .look a, .look b => a == b
  | .group i a, .group j b => i == j && same a b
  | .repeated a l m g, .repeated b k n h => l == k && m == n && g == h && same a b
  | .sequence as, .sequence bs => sameAll as bs
  | .choice as, .choice bs => sameAll as bs
  | _, _ => false

/-- Whether two lists of expressions are the same. -/
def sameAll : List Expr → List Expr → Bool
  | [], [] => true
  | a :: as, b :: bs => same a b && sameAll as bs
  | _, _ => false

end

/-! ## How long matches are -/

mutual

/-- The number of characters in the shortest match; `none` where nothing matches for certain. -/
def leastLength : Expr → Option Nat
  | .empty | .look _ => some 0
  | .text chars => some chars.length
  | .set _ members => if members.isEmpty then none else some 1
  | .group _ body => body.leastLength
  | .repeated body least _ _ => body.leastLength.map (least * ·)
  | .sequence parts => leastSum parts
  | .choice branches => leastOf branches

/-- The sum of the least lengths of some parts. -/
def leastSum : List Expr → Option Nat
  | [] => some 0
  | e :: es =>
    match e.leastLength, leastSum es with
    | some n, some m => some (n + m)
    | _, _ => none

/-- The smallest of the least lengths of some branches. -/
def leastOf : List Expr → Option Nat
  | [] => none
  | [e] => e.leastLength
  | e :: es =>
    match e.leastLength, leastOf es with
    | some n, some m => some (min n m)
    | _, _ => none

end

mutual

/-- Whether the expression matches nothing but the empty text. -/
def isZeroWidth : Expr → Bool
  | .empty | .look _ => true
  | .text chars => chars.isEmpty
  | .set _ _ => false
  | .group _ body => body.isZeroWidth
  | .repeated body _ most _ => most.isSome && body.isZeroWidth
  | .sequence parts => allZeroWidth parts
  | .choice branches => allZeroWidth branches

/-- Whether all expressions match nothing but the empty text. -/
def allZeroWidth : List Expr → Bool
  | [] => true
  | e :: es => e.isZeroWidth && allZeroWidth es

end

/-! ## Building expressions -/

/-- An expression without matches. -/
def nothing : Expr := .set false CharSet.none

/-- One character of a set. The only member of a set stands for itself. -/
def ofSet (unicode : Bool) (members : CharSet) : Expr :=
  if members.isEmpty then nothing
  else
    match members.onlyMember? with
    | some c => .text [c]
    | none => .set unicode members

/-- An expression repeated. One that takes no character need not be tried twice at a place. -/
def times (body : Expr) (least : Nat) (most : Option Nat) (greedy : Bool) : Expr :=
  let (least, most) :=
    if body.isZeroWidth then (min least 1, some (min (most.getD 1) 1)) else (least, most)
  if most = some 0 then .empty
  else if least = 1 ∧ most = some 1 then body
  else .repeated body least most greedy

/-- Puts an expression in front of the parts of a sequence. -/
def consPart (e : Expr) (parts : List Expr) : List Expr :=
  match e, parts with
  | .empty, parts => parts
  | .text a, .text b :: parts => .text (a ++ b) :: parts
  | e, parts => e :: parts

/-- The parts that an expression contributes to a sequence. -/
def partsOf : Expr → List Expr
  | .sequence parts => parts
  | e => [e]

/-- Expressions one after another. -/
def ofParts (es : List Expr) : Expr :=
  match (es.flatMap partsOf).foldr consPart [] with
  | [] => .empty
  | [e] => e
  | parts => .sequence parts

/-- The branches that an expression contributes to a choice. -/
def branchesOf : Expr → List Expr
  | .choice branches => branches
  | e => [e]

/-- The characters of branches that are a single character each. -/
def singleChars? : List Expr → Option (List Char)
  | [] => some []
  | .text [c] :: es => (singleChars? es).map (c :: ·)
  | _ => none

/-- The sets of branches that are a set each. -/
def sets? : List Expr → Option (List CharSet)
  | [] => some []
  | .set _ members :: es => (sets? es).map (members :: ·)
  | _ => none

/-- The parts of branches that are a sequence each. -/
def sequences? : List Expr → Option (List (List Expr))
  | [] => some []
  | .sequence parts :: es => (sequences? es).map (parts :: ·)
  | _ => none

/-- How many parts two sequences have in common at their beginning. -/
def commonLength : List Expr → List Expr → Nat
  | a :: as, b :: bs => if same a b then commonLength as bs + 1 else 0
  | _, _ => 0

/-- A choice among branches that are no choices: a set if they are characters or sets. -/
def ofPlainBranches (branches : List Expr) : Expr :=
  match branches with
  | [] => nothing
  | [e] => e
  | branches =>
    match singleChars? branches with
    | some chars => ofSet true (CharSet.ofCodes (chars.map Char.toNat))
    | none =>
      match sets? branches with
      | some sets => ofSet true (CharSet.unionAll sets)
      | none => .choice branches

/-- The branches with what they all begin with in front of them, if they are sequences and have a
common beginning. -/
def factored? (branches : List Expr) : Option Expr :=
  match sequences? branches with
  | some (first :: second :: others) =>
    let shared := (second :: others).foldl (fun n parts => min n (commonLength first parts))
      first.length
    if shared = 0 then none
    else
      let rests := (first :: second :: others).map fun parts => ofParts (parts.drop shared)
      some (ofParts (first.take shared ++ [ofPlainBranches (rests.flatMap branchesOf)]))
  | _ => none

/-- A choice among expressions. -/
def ofBranches (es : List Expr) : Expr :=
  let branches := es.flatMap branchesOf
  (factored? branches).getD (ofPlainBranches branches)

end Expr

end DocFilter.Regex
