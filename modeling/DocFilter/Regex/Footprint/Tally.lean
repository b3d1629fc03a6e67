/-!
# Counting states

The states of an automaton and the memory that they take, counted up to a limit. A state takes
`stateSize` bytes, each way out of a branching state another `branchSize`, and each range of bytes
that a state distinguishes another `rangeSize`.
-/

namespace DocFilter.Regex

/-- The number of bytes that an automaton may take. -/
def memoryLimit : Nat := 10 * 1024 * 1024

/-- What a state takes. -/
def stateSize : Nat := 32

/-- What a way out of a branching state takes. -/
def branchSize : Nat := 4

/-- What a range of bytes takes where a state distinguishes several. -/
def rangeSize : Nat := 8

/-- The states so far, and the bytes that they take beyond their own size. -/
structure Tally where
  states : Nat
  extra : Nat

/-- Counting that ends as soon as the limit is passed. -/
abbrev Weighing := StateT Tally Option

namespace Weighing

/-- Sets the tally, unless it passes the limit. -/
def update (t : Tally) : Weighing Unit :=
  if t.states * stateSize + t.extra ≤ memoryLimit then set t else failure

/-- Counts some states. -/
def addStates (n : Nat) : Weighing Unit := do
  let t ← get
  update { t with states := t.states + n }

/-- Counts a state with further bytes, and gives its number. -/
def addState (extra : Nat) : Weighing Nat := do
  let t ← get
  update ⟨t.states + 1, t.extra + extra⟩
  return t.states

/-- Counts `n` ways out of branching states. -/
def addBranches (n : Nat) : Weighing Unit := do
  let t ← get
  update { t with extra := t.extra + n * branchSize }

end Weighing

end DocFilter.Regex
