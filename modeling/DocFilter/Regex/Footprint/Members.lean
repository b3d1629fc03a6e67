import DocFilter.Regex.CharSet
import DocFilter.Regex.Footprint.Tally
import DocFilter.Regex.Utf8
import Std.Data.HashMap

/-!
# The states of a set of characters

How many states it takes to read one character of a set byte by byte. Equal states of a set are
built once: those for the ends of characters when reading forwards, those for the beginnings when
reading backwards. The states that have been built are kept in a table with a fixed number of
slots, told by a hash of what the state does; a state that finds its slot taken by another one
takes its place, and the other one is built again when it is needed next.
-/

namespace DocFilter.Regex

/-- Whether an automaton reads from the start of a text to its end, or from the end to the
start. -/
inductive Direction where
  | forwards
  | backwards
  deriving DecidableEq, Repr

namespace Weighing

/-- A way from one state to another on a range of bytes. -/
structure Edge where
  bytes : CodeRange
  target : Nat
  deriving DecidableEq, Repr

/-- Adds numbers to a hash. -/
def hashWith (numbers : List Nat) (hash : UInt64) : UInt64 :=
  numbers.foldl (fun h n => (h ^^^ n.toUInt64) * 1099511628211) hash

/-- The hash of no numbers. -/
def hashStart : UInt64 := 14695981039346656037

/-- The slot of a hash in a table. -/
def slotOf (slots : Nat) (hash : UInt64) : Nat :=
  hash.toNat % slots

/-- The states that have been built for a set, by their slots. -/
abbrev Table (α : Type) := Std.HashMap Nat (α × Nat)

/-- How many slots the table of states has that are told by their edges. -/
def stateSlots : Nat := 10000

/-- How many slots the table of states has that are told by a single edge. -/
def edgeSlots : Nat := 1000

/-- The state with these edges. -/
def stateFor (edges : List Edge) : StateT (Table (List Edge)) Weighing Nat := do
  let hash := edges.foldl (fun h e => hashWith [e.bytes.first, e.bytes.last, e.target] h) hashStart
  let slot := slotOf stateSlots hash
  match (← get)[slot]? with
  | some (known, n) => if known = edges then return n
  | none => pure ()
  let n ← addState (edges.length * rangeSize)
  modify (·.insert slot (edges, n))
  return n

/-- A state that may get more edges: those it has, and the range of the one that is under way. -/
structure Unfinished where
  edges : List Edge
  underWay : Option CodeRange

/-- The edges when the one under way leads to `target`. -/
def Unfinished.finish (u : Unfinished) (target : Nat) : List Edge :=
  match u.underWay with
  | some bytes => u.edges ++ [⟨bytes, target⟩]
  | none => u.edges

/-- Builds the states of a path, deepest first, down to those at depth `keep`. -/
def finishPath (keep target : Nat) :
    List Unfinished → StateT (Table (List Edge)) Weighing (List Unfinished)
  | [] => return []
  | top :: below =>
    if keep < below.length then do
      let n ← stateFor (top.finish target)
      finishPath keep n below
    else return ⟨top.finish target, none⟩ :: below

/-- How many ranges a path, given from the root on, has in common with a sequence. -/
def sharedLength : List Unfinished → List CodeRange → Nat
  | u :: path, r :: ranges => if u.underWay = some r then sharedLength path ranges + 1 else 0
  | _, _ => 0

/-- Adds a sequence of byte ranges to the path of the one before it. -/
def addSequence (target : Nat) (path : List Unfinished) (ranges : List CodeRange) :
    StateT (Table (List Edge)) Weighing (List Unfinished) := do
  let shared := sharedLength path.reverse ranges
  let path ← finishPath shared target path
  match path, ranges.drop shared with
  | top :: below, r :: rest =>
    return (rest.map fun r => ⟨[], some r⟩).reverse ++ { top with underWay := some r } :: below
  | path, _ => return path

/-- Counts the states of a set that is read forwards: those for the ends of characters are
shared. -/
def forwardSet (sequences : List (List CodeRange)) : Weighing Unit := do
  let target ← addState 0
  let build : StateT (Table (List Edge)) Weighing Unit := do
    let path ← sequences.foldlM (addSequence target) [⟨[], none⟩]
    match ← finishPath 0 target path with
    | root :: _ => let _ ← stateFor root.edges
    | [] => pure ()
  let _ ← build.run ∅

/-- The state that goes on to state `target` on a range of bytes. -/
def edgeFor (target : Nat) (r : CodeRange) :
    StateT (Table (Nat × CodeRange)) Weighing Nat := do
  let slot := slotOf edgeSlots (hashWith [target, r.first, r.last] hashStart)
  match (← get)[slot]? with
  | some (known, n) => if known = (target, r) then return n
  | none => pure ()
  let n ← addState 0
  modify (·.insert slot ((target, r), n))
  return n

/-- Counts the states of a set that is read backwards: those for the beginnings of characters are
shared. -/
def backwardSet (sequences : List (List CodeRange)) : Weighing Unit := do
  let _ ← addState 0
  let target ← addState 0
  let build : StateT (Table (Nat × CodeRange)) Weighing Unit :=
    sequences.forM fun ranges => do
      let _ ← ranges.foldlM edgeFor target
      addBranches 1
  let _ ← build.run ∅

/-- Counts the states of a set. A set of ASCII characters needs one, and one to go on to. -/
def charSet (direction : Direction) (members : CharSet) : Weighing Unit := do
  if members.isAscii then
    addStates 1
    let _ ← addState (members.ranges.size * rangeSize)
  else
    let sequences := members.ranges.toList.flatMap Utf8.sequences
    match direction with
    | .forwards => forwardSet sequences
    | .backwards => backwardSet sequences

end Weighing

end DocFilter.Regex
