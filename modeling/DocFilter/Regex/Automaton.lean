import DocFilter.Regex.Expr

/-!
# Matching by an automaton

An expression becomes a program whose steps read a character, test a condition or branch. The
program is run on all its branches at once: after every character the set of steps that can come
next is known, and no step is taken twice at one position. So a search takes a time proportional
to the length of the text times the size of the program, whatever the expression.
-/

namespace DocFilter.Regex

/-- A step of a program; the numbers are those of the steps that come next. -/
inductive Step where
  | read (chars : CharSet) (next : Nat)
  | test (condition : Look) (next : Nat)
  | branch (left right : Nat)
  | accept
  deriving Repr, Inhabited

/-- A program and the step it starts with. -/
structure Automaton where
  steps : Array Step
  start : Nat
  deriving Repr, Inhabited

namespace Automaton

/-- Adds a step at the end and gives its number. -/
def addStep (steps : Array Step) (step : Step) : Nat × Array Step :=
  (steps.size, steps.push step)

/-- Applies `f` to a program `n` times, each time before what is there already. -/
def addTimes (f : Nat → Array Step → Nat × Array Step) :
    Nat → Nat → Array Step → Nat × Array Step
  | 0, next, steps => (next, steps)
  | n + 1, next, steps =>
    let (entry, steps) := f next steps
    addTimes f n entry steps

mutual

/-- Adds the steps that match an expression and go on to step `next`; gives the number of the
first of them. -/
def build : Expr → Nat → Array Step → Nat × Array Step
  | .empty, next, steps => (next, steps)
  | .text chars, next, steps =>
    chars.foldr (fun c (next, steps) => addStep steps (.read (CharSet.single c) next))
      (next, steps)
  | .set _ members, next, steps => addStep steps (.read members next)
  | .look condition, next, steps => addStep steps (.test condition next)
  | .group _ body, next, steps => build body next steps
  | .repeated body least most _, next, steps =>
    let (tail, steps) :=
      match most with
      | none =>
        let loop := steps.size
        let (entry, steps) := build body loop (steps.push .accept)
        (loop, steps.setIfInBounds loop (.branch entry next))
      | some m =>
        addTimes
          (fun rest steps =>
            let (entry, steps) := build body rest steps
            addStep steps (.branch entry next))
          (m - least) next steps
    addTimes (fun rest steps => build body rest steps) least tail steps
  | .sequence parts, next, steps => buildParts parts next steps
  | .choice branches, next, steps => buildBranches branches next steps

/-- Adds the steps that match some expressions one after another. -/
def buildParts : List Expr → Nat → Array Step → Nat × Array Step
  | [], next, steps => (next, steps)
  | e :: es, next, steps =>
    let (entry, steps) := buildParts es next steps
    build e entry steps

/-- Adds the steps that match one of some expressions. -/
def buildBranches : List Expr → Nat → Array Step → Nat × Array Step
  | [], _, steps => addStep steps (.read CharSet.none 0)
  | [e], next, steps => build e next steps
  | e :: es, next, steps =>
    let (left, steps) := build e next steps
    let (right, steps) := buildBranches es next steps
    addStep steps (.branch left right)

end

/-- The automaton of an expression. -/
def ofExpr (e : Expr) : Automaton :=
  let (start, steps) := build e 0 #[.accept]
  ⟨steps, start⟩

/-- The steps that are waiting for a character, and whether the end has been reached. -/
structure Front where
  seen : Array Bool
  waiting : List Nat
  accepted : Bool

/-- Follows tests and branches from the steps in `pending`, visiting each step once. -/
def advance (a : Automaton) (before after : Option Char) : Nat → List Nat → Front → Front
  | 0, _, front => front
  | _ + 1, [], front => front
  | fuel + 1, n :: pending, front =>
    if front.seen[n]?.getD true then a.advance before after fuel pending front
    else
      let front := { front with seen := front.seen.setIfInBounds n true }
      match a.steps[n]? with
      | none => a.advance before after fuel pending front
      | some .accept => { front with accepted := true }
      | some (.read _ _) =>
        a.advance before after fuel pending { front with waiting := n :: front.waiting }
      | some (.test condition next) =>
        if condition.holds before after then
          a.advance before after fuel (next :: pending) front
        else a.advance before after fuel pending front
      | some (.branch left right) =>
        a.advance before after fuel (left :: right :: pending) front

/-- The step after step `n` when the next character is `c`. -/
def stepOver (a : Automaton) (c : Char) (n : Nat) : Option Nat :=
  match a.steps[n]? with
  | some (.read chars next) => if chars.contains c then some next else none
  | _ => none

/-- The front of a position at which a match may also begin. -/
def front (a : Automaton) (before after : Option Char) (active : List Nat) : Front :=
  let pending := active ++ [a.start]
  a.advance before after (2 * a.steps.size + pending.length) pending
    ⟨Array.replicate a.steps.size false, [], false⟩

/-- Whether a match ends at or after this position, which lies behind the character `before`;
`active` are the steps of the matches that have begun. -/
def search (a : Automaton) (before : Option Char) (active : List Nat) : List Char → Bool
  | [] => (a.front before none active).accepted
  | c :: cs =>
    let front := a.front before (some c) active
    front.accepted || a.search (some c) (front.waiting.filterMap (a.stepOver c)) cs

/-- Whether the text contains a match. -/
def isMatch (a : Automaton) (text : List Char) : Bool :=
  a.search none [] text

end Automaton

end DocFilter.Regex
