import DocFilter.Regex.Expr
import DocFilter.Regex.Footprint.Members
import DocFilter.Regex.TextTrie

/-!
# The memory that an expression takes

An expression is refused when its automaton would take more than `memoryLimit` bytes. The automaton
meant here reads bytes, not characters, and there are two of it: one reads forwards and marks where
groups begin and end, the other reads backwards. They are not built; `Expr.fits` only counts what
their states would take.
-/

namespace DocFilter.Regex

namespace Weighing

/-- Counts the states for a node of a trie: one for each group of branches, and one that chooses
among the groups and the ends of texts between them. -/
def trieNode (n : TrieNode) : Weighing Unit := do
  if n.isLeaf then return
  let groups := n.groups.filter (· != 0)
  groups.forM fun k => do let _ ← addState (if k = 1 then 0 else k * rangeSize)
  let _ ← addState ((groups.length + (n.groups.length - 1)) * branchSize)

/-- Counts the states of a choice among texts. -/
def texts (direction : Direction) (choices : List (List Char)) : Weighing Unit := do
  addStates 1
  let bytes := choices.map Utf8.bytesOf
  let bytes := match direction with
    | .forwards => bytes
    | .backwards => bytes.map List.reverse
  (TextTrie.ofTexts bytes).forM trieNode

/-- Counts a branching state with two ways out. -/
def fork : Weighing Unit := do
  addStates 1
  addBranches 2

/-- Counts a branching state with the way into the part that it repeats; the way on is counted
where it leads. -/
def loopBack : Weighing Unit := do
  addStates 1
  addBranches 1

/-- Counts the way from a part to what comes after it; `branching` tells whether the part ends in
a branching state, which gets another way out. -/
def join (branching : Bool) : Weighing Unit :=
  if branching then addBranches 1 else pure ()

/-- Counts a part `n` more times, one after another, behind a part that ends as `branching`
tells; gives how the last one ends. -/
def copies (part : Weighing Bool) (branching : Bool) : Nat → Weighing Bool
  | 0 => return branching
  | n + 1 => do
    let ending ← part
    join branching
    copies part ending n

/-- Counts a part exactly `n` times. -/
def exactly (part : Weighing Bool) : Nat → Weighing Bool
  | 0 => do addStates 1; return false
  | n + 1 => do copies part (← part) n

/-- Counts a part up to `n` times, each of them behind a fork. -/
def upTo (part : Weighing Bool) (branching : Bool) : Nat → Weighing Bool
  | 0 => return branching
  | n + 1 => do
    fork
    let ending ← part
    join branching
    upTo part ending n

/-- Counts a part that is repeated; `takes` tells whether it always takes a character. -/
def repeated (part : Weighing Bool) (takes : Bool) (least : Nat) (most : Option Nat) :
    Weighing Bool := do
  match most with
  | some most =>
    if least = 0 ∧ most = 1 then
      fork
      join (← part)
      addStates 1
      return false
    else
      let ending ← exactly part least
      if least < most then
        addStates 1
        join (← upTo part ending (most - least))
        return false
      else return ending
  | none =>
    match least with
    | 0 =>
      if takes then
        loopBack
        join (← part)
        return true
      else
        join (← part)
        fork
        fork
        addStates 1
        return false
    | 1 =>
      join (← part)
      loopBack
      return true
    | n + 1 =>
      join (← exactly part n)
      join (← part)
      loopBack
      return true

end Weighing

/-- The characters of branches that are a text each. -/
def Expr.texts? : List Expr → Option (List (List Char))
  | [] => some []
  | .text chars :: es => (Expr.texts? es).map (chars :: ·)
  | _ => none

namespace Expr

open Weighing in
mutual

/-- Counts the states of an expression, and tells whether they end in a branching state. -/
def weigh (direction : Direction) : Expr → Weighing Bool
  | .empty | .look _ => do
    addStates 1
    return false
  | .text chars => do
    addStates (Utf8.bytesOf chars).length
    return false
  | .set _ members => do
    charSet direction members
    return false
  | .group _ body => do
    match direction with
    | .forwards =>
      addStates 1
      join (← body.weigh direction)
      addStates 1
      return false
    | .backwards => body.weigh direction
  | .repeated body least most _ =>
    Weighing.repeated (body.weigh direction) (body.leastLength.any (0 < ·)) least most
  | .sequence parts =>
    match direction with
    | .forwards => weighForwards parts
    | .backwards => do return (← weighBackwards parts).getD false
  | .choice branches =>
    match texts? branches with
    | some choices => do
      texts direction choices
      return false
    | none => do
      weighBranches direction 0 branches
      return false

/-- Counts parts from the first to the last. -/
def weighForwards : List Expr → Weighing Bool
  | [] => return false
  | e :: es => do
    let ending ← e.weigh .forwards
    if es.isEmpty then return ending
    join ending
    weighForwards es

/-- Counts parts from the last to the first; gives how the first one ends, if there is one. -/
def weighBackwards : List Expr → Weighing (Option Bool)
  | [] => return none
  | e :: es => do
    let before ← weighBackwards es
    let ending ← e.weigh .backwards
    join (before.getD false)
    return some ending

/-- Counts branches, and the states before and behind them once the first two are there; `seen`
is the number of branches so far. -/
def weighBranches (direction : Direction) (seen : Nat) : List Expr → Weighing Unit
  | [] => return
  | e :: es => do
    let ending ← e.weigh direction
    if seen = 1 then addStates 2
    addBranches 1
    join ending
    weighBranches direction (seen + 1) es

end

mutual

/-- Whether a match can begin at the start of the text only, as the expression begins with a
condition that says so. -/
def isAnchoredAtStart : Expr → Bool
  | .look condition => condition == .textStart
  | .group _ body => body.isAnchoredAtStart
  | .repeated body least _ _ => least != 0 && body.isAnchoredAtStart
  | .sequence parts => someAnchoredAtStart parts
  | .choice branches => allAnchoredAtStart branches
  | _ => false

/-- Whether one of the parts before the first that takes a character is anchored. -/
def someAnchoredAtStart : List Expr → Bool
  | [] => false
  | e :: es => e.isAnchoredAtStart || (e.isZeroWidth && someAnchoredAtStart es)

/-- Whether all branches are anchored. -/
def allAnchoredAtStart : List Expr → Bool
  | [] => true
  | e :: es => e.isAnchoredAtStart && allAnchoredAtStart es

end

mutual

/-- Whether a match can end at the end of the text only, as the expression ends with a condition
that says so. -/
def isAnchoredAtEnd : Expr → Bool
  | .look condition => condition == .textEnd
  | .group _ body => body.isAnchoredAtEnd
  | .repeated body least _ _ => least != 0 && body.isAnchoredAtEnd
  | .sequence parts => someAnchoredAtEnd parts
  | .choice branches => allAnchoredAtEnd branches
  | _ => false

/-- Whether one of the parts behind the last that takes a character is anchored. -/
def someAnchoredAtEnd : List Expr → Bool
  | [] => false
  | e :: es => someAnchoredAtEnd es || (allZeroWidth es && e.isAnchoredAtEnd)

/-- Whether all branches are anchored. -/
def allAnchoredAtEnd : List Expr → Bool
  | [] => true
  | e :: es => e.isAnchoredAtEnd && allAnchoredAtEnd es

end

open Weighing in
/-- Counts the whole automaton of an expression. Unless a match can only begin where the automaton
starts to read, it first skips any number of bytes. -/
def weighAll (direction : Direction) (e : Expr) : Weighing Unit := do
  let anchored := match direction with
    | .forwards => e.isAnchoredAtStart
    | .backwards => e.isAnchoredAtEnd
  if anchored then addStates 1
  else
    fork
    addStates 1
    let _ ← addState rangeSize
  match direction with
  | .forwards =>
    addStates 1
    join (← e.weigh direction)
    addStates 2
  | .backwards =>
    join (← e.weigh direction)
    addStates 1

/-- The number of texts from which on a choice is searched for without an automaton. -/
def manyTexts : Nat := 3000

/-- Whether the expression is a choice among so many texts that it needs no automaton. -/
def isDictionary : Expr → Bool
  | .choice branches => manyTexts ≤ branches.length && (texts? branches).isSome
  | _ => false

/-- Whether the automata of an expression keep to the limit. -/
def fits (e : Expr) : Bool :=
  e.isDictionary ||
    (((e.weighAll .forwards).run ⟨0, 0⟩).isSome && ((e.weighAll .backwards).run ⟨0, 0⟩).isSome)

end Expr

end DocFilter.Regex
