import DocFilter.Filter.Evaluate
import DocFilter.Proofs.Except
import DocFilter.Proofs.Tree

/-!
# What built-in operations see

A built-in operation is run with an evaluator, of which it sees little: the nodes in its operand,
and the equality of its operand or of the elements of its list. This file says so three times, for
all operations and all evaluators.

> `Builtin.run_congr`: evaluators and documents that agree on what the operation sees give the same
> outcome.

> `Builtin.run_coupled`: outcomes that are related where the operation asks are related in the end.

> `Builtin.run_passes`: an operation fails by itself, or because a node or an equality has failed
> that it has asked.

What is to be shown of two outcomes differs from case to case: that they are the same, that they are
the same but for names in the reports, that they do not contradict each other, that one of the two
has been cut off. A `Coupling` is such a relation. It holds of two computations with the same result
or the same cause of failure, and it is kept by a sequence whose second steps are related wherever
they start from the same value.
-/

namespace DocFilter

variable {κ ρ ρ' : Type}

/-! ## One evaluator -/

/-- Asking a node passes its report on, wrapped. -/
theorem Evaluator.holds_eq_map (ev : Evaluator κ ρ) (n : Node κ) (c : Option Json)
    (document : Json) :
    ev.holds n c document = ((ev.node n c document).map truthy).mapError .nested := by
  rw [holds]
  cases ev.node n c document <;> rfl

theorem Evaluator.equals_eq_map (ev : Evaluator κ ρ) (c : Option Json) (x : Operand κ)
    (document : Json) :
    ev.equals c x document = (ev.call Builtin.equal.name c x document).map truthy := by
  rw [equals]
  cases ev.call Builtin.equal.name c x document <;> rfl

/-- The context in which an operation asks the nodes in its operand whether they hold, if it asks
them at all. -/
def Builtin.asks? (operation : Builtin) (c : Option Json) : Option (Option Json) :=
  match operation with
  | conjunction | disjunction | neither => some none
  | contextAnd | contextOr => some c
  | _ => none

/-- An operation, in a context and with an operand, cannot tell two evaluators apart, the first on
one document and the second on another. -/
structure Evaluator.Agree (ev₁ ev₂ : Evaluator κ ρ) (d₁ d₂ : Json) (operation : Builtin)
    (c : Option Json) (x : Operand κ) : Prop where
  node : ∀ given, operation.asks? c = some given →
    ∀ m, .node m ∈ x.items → ev₁.node m given d₁ = ev₂.node m given d₂
  equal : ∀ y, y = x ∨ y ∈ x.items → ∀ c,
    ev₁.call Builtin.equal.name c y d₁ = ev₂.call Builtin.equal.name c y d₂
  operand : ∀ s, x = .selector s → s.resolve d₁ = s.resolve d₂
  subtrahend : operation = .difference →
    ∀ m, x = .node m → ∀ s, m.selector = some s → s.resolve d₁ = s.resolve d₂

namespace Evaluator.Agree

variable {ev₁ ev₂ : Evaluator κ ρ} {d₁ d₂ : Json} {operation : Builtin} {c : Option Json}
  {x : Operand κ}

theorem equals (h : Agree ev₁ ev₂ d₁ d₂ operation c x) {y : Operand κ}
    (hy : y = x ∨ y ∈ x.items) (v : Option Json) : ev₁.equals v y d₁ = ev₂.equals v y d₂ := by
  rw [Evaluator.equals, Evaluator.equals, h.equal y hy v]

theorem someEqual (h : Agree ev₁ ev₂ d₁ d₂ operation c x) :
    Builtin.someEqual ev₁ c x d₁ = Builtin.someEqual ev₂ c x d₂ := by
  cases x with
  | list items =>
    exact anyM_congr fun y hy => anyM_congr fun value _ => h.equals (.inr hy) value
  | _ => rfl

theorem childHolds (h : Agree ev₁ ev₂ d₁ d₂ operation c x) {given : Option Json}
    (hgiven : operation.asks? c = some given) {y : Operand κ} (hy : y ∈ x.items) :
    operation.childHolds ev₁ given d₁ y = operation.childHolds ev₂ given d₂ y := by
  cases y with
  | node m =>
    show ev₁.holds m given d₁ = ev₂.holds m given d₂
    rw [Evaluator.holds, Evaluator.holds, h.node given hgiven m hy]
  | _ => rfl

theorem allM_childHolds {items : List (Operand κ)}
    (h : Agree ev₁ ev₂ d₁ d₂ operation c (.list items)) {given : Option Json}
    (hgiven : operation.asks? c = some given) :
    items.allM (operation.childHolds ev₁ given d₁) =
      items.allM (operation.childHolds ev₂ given d₂) :=
  allM_congr fun _ hy => h.childHolds hgiven hy

theorem anyM_childHolds {items : List (Operand κ)}
    (h : Agree ev₁ ev₂ d₁ d₂ operation c (.list items)) {given : Option Json}
    (hgiven : operation.asks? c = some given) :
    items.anyM (operation.childHolds ev₁ given d₁) =
      items.anyM (operation.childHolds ev₂ given d₂) :=
  anyM_congr fun _ hy => h.childHolds hgiven hy

theorem selected (h : Agree ev₁ ev₂ d₁ d₂ operation c x) :
    (operation.selected d₁ x : Except (Interruption ρ) (Option Json)) =
      operation.selected d₂ x := by
  cases x with
  | selector s => exact congrArg Except.ok (h.operand s rfl)
  | _ => rfl

end Evaluator.Agree

/-- **A built-in operation sees no more of its evaluator and its document** than what
`Evaluator.Agree` lists. -/
theorem Builtin.run_congr {ev₁ ev₂ : Evaluator κ ρ} {d₁ d₂ : Json} {operation : Builtin}
    {c : Option Json} {x : Operand κ} (h : Evaluator.Agree ev₁ ev₂ d₁ d₂ operation c x) :
    operation.run ev₁ c x d₁ = operation.run ev₂ c x d₂ := by
  cases operation with
  | notEqual => simp only [run, h.equals (.inl rfl) c]
  | anyOf | noneOf => simp only [run, h.someEqual]
  | allOf =>
    cases x with
    | list items =>
      have hall : ((candidates c).allM fun value => items.anyM fun y => ev₁.equals value y d₁) =
          (candidates c).allM fun value => items.anyM fun y => ev₂.equals value y d₂ :=
        allM_congr fun value _ => anyM_congr fun y hy => h.equals (.inr hy) value
      simp only [run, list, ok_bind, hall]
    | _ => rfl
  | field => exact h.selected
  | roundedField rounding => simp only [run, h.selected]
  | conjunction | contextAnd =>
    cases x with
    | list items => simp only [run, list, ok_bind, h.allM_childHolds rfl]
    | _ => rfl
  | disjunction | neither | contextOr =>
    cases x with
    | list items => simp only [run, list, ok_bind, h.anyM_childHolds rfl]
    | _ => rfl
  | difference =>
    cases x with
    | node m =>
      have hsub : (m.selector.bind fun s => s.resolve d₁) =
          m.selector.bind fun s => s.resolve d₂ := by
        cases hs : m.selector with
        | none => rw [Option.bind_none, Option.bind_none]
        | some s =>
          rw [Option.bind_some, Option.bind_some]
          exact h.subtrahend rfl m rfl s hs
      simp only [run, node, ok_bind, hsub]
    | _ => simp only [run, node, unexpected, error_bind]
  -- the others ask nothing, and look at no document
  | _ => rfl

/-! ## Two evaluators -/

/-- A relation between the outcomes of two computations, whose reports may differ in kind. -/
structure Coupling (ρ ρ' : Type) where
  Rel {α : Type} (x : Except (Interruption ρ) α) (y : Except (Interruption ρ') α) : Prop
  ok {α : Type} (a : α) : Rel (.ok a) (.ok a)
  failure (α : Type) (cause : Failure) :
    Rel (.error (.failure cause) : Except _ α) (.error (.failure cause))
  bind {α β : Type} {x : Except (Interruption ρ) α} {y : Except (Interruption ρ') α}
    {f : α → Except (Interruption ρ) β} {g : α → Except (Interruption ρ') β} (h : Rel x y)
    (hfg : ∀ a, Rel (f a) (g a)) : Rel (x >>= f) (y >>= g)

namespace Coupling

variable (C : Coupling ρ ρ') {α β : Type}

theorem map {x : Except (Interruption ρ) α} {y : Except (Interruption ρ') α} (h : C.Rel x y)
    (f : α → β) : C.Rel (x.map f) (y.map f) := by
  rw [← bind_ok_eq_map, ← bind_ok_eq_map]
  exact C.bind h fun a => C.ok _

/-- A loop that asks until something holds. -/
theorem anyM {p : α → Except (Interruption ρ) Bool} {q : α → Except (Interruption ρ') Bool}
    {xs ys : List α} (h : List.Forall₂ (fun x y => C.Rel (p x) (q y)) xs ys) :
    C.Rel (xs.anyM p) (ys.anyM q) := by
  induction h with
  | nil => exact C.ok _
  | cons hxy _ ih =>
    rw [List.anyM_cons, List.anyM_cons]
    refine C.bind hxy fun b => ?_
    cases b with
    | true => exact C.ok _
    | false => exact ih

/-- A loop that asks until something does not hold. -/
theorem allM {p : α → Except (Interruption ρ) Bool} {q : α → Except (Interruption ρ') Bool}
    {xs ys : List α} (h : List.Forall₂ (fun x y => C.Rel (p x) (q y)) xs ys) :
    C.Rel (xs.allM p) (ys.allM q) := by
  induction h with
  | nil => exact C.ok _
  | cons hxy _ ih =>
    rw [List.allM_cons, List.allM_cons]
    refine C.bind hxy fun b => ?_
    cases b with
    | true => exact ih
    | false => exact C.ok _

end Coupling

/-- Two operands in a list of which all that an operation asks has related outcomes. -/
structure Operand.Coupled (C : Coupling ρ ρ') (ev : Evaluator κ ρ) (ev' : Evaluator κ ρ')
    (document : Json) (x y : Operand κ) : Prop where
  literal (operation : Builtin) : C.Rel (operation.literal x) (operation.literal y)
  child (operation : Builtin) (c : Option Json) :
    C.Rel (operation.childHolds ev c document x) (operation.childHolds ev' c document y)
  equals (c : Option Json) : C.Rel (ev.equals c x document) (ev'.equals c y document)

/-- Two operands of one form of which all that an operation asks, besides their own equality, has
related outcomes. Of a node that is its operand it asks the selector only. -/
inductive Operand.Alike (C : Coupling ρ ρ') (ev : Evaluator κ ρ) (ev' : Evaluator κ ρ')
    (document : Json) : Operand κ → Operand κ → Prop
  | leaf {x : Operand κ} (hx : x.isLeaf = true) : Alike C ev ev' document x x
  | node {n m : Node κ} (hselector : n.selector = m.selector) :
      Alike C ev ev' document (.node n) (.node m)
  | list {xs ys : List (Operand κ)} (h : List.Forall₂ (Operand.Coupled C ev ev' document) xs ys) :
      Alike C ev ev' document (.list xs) (.list ys)

namespace Builtin

variable {C : Coupling ρ ρ'} {ev : Evaluator κ ρ} {ev' : Evaluator κ ρ'} {document : Json}
  {x y : Operand κ}

/-- To ask two nodes whether they hold is coupled when their outcomes are. -/
theorem childHolds_coupled {n m : Node κ} {c : Option Json}
    (h : C.Rel ((ev.node n c document).mapError .nested) ((ev'.node m c document).mapError .nested))
    (operation : Builtin) :
    C.Rel (operation.childHolds ev c document (.node n))
      (operation.childHolds ev' c document (.node m)) := by
  have hmap : ∀ {σ : Type} (outcome : Except σ (Option Json)),
      (outcome.map truthy).mapError Interruption.nested =
        (outcome.mapError Interruption.nested).map truthy := by
    intro σ outcome
    cases outcome <;> rfl
  show C.Rel (ev.holds n c document) (ev'.holds m c document)
  rw [Evaluator.holds_eq_map, Evaluator.holds_eq_map, hmap, hmap]
  exact C.map h truthy

/-- What is no node is refused alike. -/
theorem childHolds_coupled_self (hx : x.node? = none) (operation : Builtin) (c : Option Json) :
    C.Rel (operation.childHolds ev c document x) (operation.childHolds ev' c document x) := by
  cases x with
  | node => cases hx
  | _ => exact C.failure _ _

theorem literal_coupled_self (C : Coupling ρ ρ') (operation : Builtin) (x : Operand κ) :
    C.Rel (operation.literal x) (operation.literal x) := by
  cases x with
  | value | absent => exact C.ok _
  | _ => exact C.failure _ _

section
variable (hx : x.Alike C ev ev' document y)
include hx

/-- No operation takes a node or a list for a literal. -/
theorem literal_coupled (operation : Builtin) :
    C.Rel (operation.literal x) (operation.literal y) := by
  cases hx with
  | leaf => exact literal_coupled_self C operation x
  | node | list => exact C.failure _ _

/-- Lists go with lists. -/
theorem bind_list_coupled (operation : Builtin) {α : Type}
    {f : List (Operand κ) → Except (Interruption ρ) α}
    {g : List (Operand κ) → Except (Interruption ρ') α}
    (hfg : ∀ xs ys, List.Forall₂ (Operand.Coupled C ev ev' document) xs ys → C.Rel (f xs) (g ys)) :
    C.Rel (operation.list x >>= f) (operation.list y >>= g) := by
  cases hx with
  | list h => exact hfg _ _ h
  | node => exact C.failure _ _
  | leaf hx =>
    cases x with
    | node | list => cases hx
    | _ => exact C.failure _ _

theorem selected_coupled (operation : Builtin) :
    C.Rel (operation.selected document x) (operation.selected document y) := by
  cases hx with
  | node | list => exact C.failure _ _
  | leaf hx =>
    cases x with
    | selector => exact C.ok _
    | _ => exact C.failure _ _

theorem someEqual_coupled (c : Option Json) :
    C.Rel (someEqual ev c x document) (someEqual ev' c y document) := by
  refine bind_list_coupled hx anyOf fun xs ys h => C.anyM (h.imp fun x y hxy => ?_)
  exact C.anyM (List.forall₂_same.mpr fun value _ => hxy.equals value)

theorem run_regex_coupled (c : Option Json) :
    C.Rel (regex.run ev c x document) (regex.run ev' c y document) := by
  cases c with
  | none => exact C.ok _
  | some v =>
    cases v with
    | string text =>
      cases hx with
      | node | list => exact C.failure _ _
      | leaf hx =>
        cases x with
        | node | list => cases hx
        | pattern | absent => exact C.ok _
        | selector => exact C.failure _ _
        | value w =>
          cases w with
          | string source =>
            simp only [run]
            cases Pattern.compile source with
            | ok compiled => exact C.ok _
            | error reason => exact C.failure _ _
          | _ => exact C.failure _ _
    | _ => exact C.ok _

theorem run_modulo_coupled (c : Option Json) :
    C.Rel (modulo.run ev c x document) (modulo.run ev' c y document) := by
  refine bind_list_coupled hx modulo fun xs ys h => ?_
  cases h with
  | nil => exact C.failure _ _
  | cons hdivisor hrest =>
    cases hrest with
    | nil => exact C.failure _ _
    | cons hremainder hrest =>
      cases hrest with
      | cons => exact C.failure _ _
      | nil =>
        refine C.bind (hdivisor.literal modulo) fun d => ?_
        refine C.bind (hremainder.literal modulo) fun r => ?_
        cases remainder? c d <;> exact C.ok _

theorem run_difference_coupled (c : Option Json) :
    C.Rel (difference.run ev c x document) (difference.run ev' c y document) := by
  cases hx with
  | list => exact C.failure _ _
  | node hselector =>
    simp only [run, node, ok_bind, hselector]
    exact C.ok _
  | leaf hx =>
    cases x with
    | node | list => cases hx
    | _ => exact C.failure _ _

/-- **No built-in operation can tell two operands apart** of which all that it asks has related
outcomes. -/
theorem run_coupled (hequal : ∀ c, C.Rel (ev.equals c x document) (ev'.equals c y document))
    (operation : Builtin) (c : Option Json) :
    C.Rel (operation.run ev c x document) (operation.run ev' c y document) := by
  cases operation with
  | equal =>
    refine C.bind (literal_coupled hx equal) fun expected => ?_
    cases expected <;> exact C.ok _
  | notEqual => exact C.bind (hequal c) fun _ => C.ok _
  | ordered relation => exact C.bind (literal_coupled hx (ordered relation)) fun _ => C.ok _
  | present => exact C.bind (literal_coupled hx present) fun _ => C.ok _
  | empty => exact C.bind (literal_coupled hx empty) fun _ => C.ok _
  | negation => exact C.bind (literal_coupled hx negation) fun _ => C.ok _
  | modulo => exact run_modulo_coupled hx c
  | regex => exact run_regex_coupled hx c
  | anyOf | noneOf => exact C.bind (someEqual_coupled hx c) fun _ => C.ok _
  | allOf =>
    refine bind_list_coupled hx allOf fun xs ys h => C.bind ?_ fun _ => C.ok _
    refine C.allM (List.forall₂_same.mpr fun value _ => ?_)
    exact C.anyM (h.imp fun x y hxy => hxy.equals value)
  | field => exact selected_coupled hx field
  | rounded => exact C.ok _
  | roundedField rounding =>
    exact C.bind (selected_coupled hx (roundedField rounding)) fun _ => C.ok _
  | conjunction | contextAnd =>
    refine bind_list_coupled hx _ fun xs ys h => C.bind ?_ fun _ => C.ok _
    exact C.allM (h.imp fun x y hxy => hxy.child _ _)
  | disjunction | neither | contextOr =>
    refine bind_list_coupled hx _ fun xs ys h => C.bind ?_ fun _ => C.ok _
    exact C.anyM (h.imp fun x y hxy => hxy.child _ _)
  | difference => exact run_difference_coupled hx c

end

end Builtin

/-! ## What an operation fails with -/

/-- An error that a built-in operation may end with: a failure of its own, the report of a node in
its operand, or the error of an equality that it has asked. -/
inductive Builtin.Passes (ev : Evaluator κ ρ) (x : Operand κ) (document : Json) :
    Interruption ρ → Prop
  | failure (cause : Failure) : Passes ev x document (.failure cause)
  | node {m : Node κ} (hm : m ∈ x.children) {c : Option Json} {report : ρ}
      (h : ev.node m c document = .error report) : Passes ev x document (.nested report)
  | equal {y : Operand κ} (hy : y = x ∨ y ∈ x.items) {c : Option Json} {e : Interruption ρ}
      (h : ev.call Builtin.equal.name c y document = .error e) : Passes ev x document e

namespace Builtin

variable {ev : Evaluator κ ρ} {x : Operand κ} {document : Json}

theorem equals_passes {y : Operand κ} (hy : y = x ∨ y ∈ x.items) (c : Option Json) :
    FailsOnly (Passes ev x document) (ev.equals c y document) := by
  rw [Evaluator.equals]
  cases h : ev.call Builtin.equal.name c y document with
  | ok v => trivial
  | error e => exact .equal hy h

theorem unexpected_passes {α : Type} (operation : Builtin) (expected : Expectation) :
    FailsOnly (Passes ev x document) (operation.unexpected expected : Except _ α) :=
  .failure _

theorem literal_passes (operation : Builtin) (y : Operand κ) :
    FailsOnly (Passes ev x document) (operation.literal y) := by
  cases y with
  | value | absent => trivial
  | _ => exact unexpected_passes operation _

theorem node_passes (operation : Builtin) (y : Operand κ) :
    FailsOnly (Passes ev x document) (operation.node y) := by
  cases y with
  | node => trivial
  | _ => exact unexpected_passes operation _

theorem selected_passes (operation : Builtin) (y : Operand κ) :
    FailsOnly (Passes ev x document) (operation.selected document y) := by
  cases y with
  | selector => trivial
  | _ => exact unexpected_passes operation _

/-- An operation goes on with a list when its operand is one. -/
theorem bind_list_passes {α : Type} (operation : Builtin)
    {f : List (Operand κ) → Except (Interruption ρ) α}
    (hf : FailsOnly (Passes ev x document) (f x.items)) :
    FailsOnly (Passes ev x document) (operation.list x >>= f) := by
  cases x with
  | list items => exact hf
  | _ => exact unexpected_passes operation _

theorem childHolds_passes (operation : Builtin) {y : Operand κ} (hy : y ∈ x.items)
    (c : Option Json) :
    FailsOnly (Passes ev x document) (operation.childHolds ev c document y) := by
  cases y with
  | node n =>
    show FailsOnly _ (ev.holds n c document)
    rw [Evaluator.holds]
    cases h : ev.node n c document with
    | ok v => trivial
    | error report => exact .node (Operand.mem_children_of_mem_items hy) h
  | _ => exact unexpected_passes operation _

theorem someEqual_passes (c : Option Json) :
    FailsOnly (Passes ev x document) (someEqual ev c x document) :=
  bind_list_passes anyOf <| FailsOnly.anyM fun _ hy => FailsOnly.anyM fun value _ =>
    equals_passes (.inr hy) value

theorem run_regex_passes (c : Option Json) :
    FailsOnly (Passes ev x document) (regex.run ev c x document) := by
  simp only [run]
  split
  · split
    · trivial
    · split
      · trivial
      · exact .failure _
    · trivial
    · exact unexpected_passes regex _
  · trivial

/-- **A built-in operation makes up no reports.** -/
theorem run_passes (operation : Builtin) (c : Option Json) :
    FailsOnly (Passes ev x document) (operation.run ev c x document) := by
  cases operation with
  | equal =>
    refine (literal_passes equal x).bind fun v _ => ?_
    cases v <;> trivial
  | notEqual => exact (equals_passes (.inl rfl) c).bind fun _ _ => trivial
  | ordered relation => exact (literal_passes (ordered relation) x).bind fun _ _ => trivial
  | present => exact (literal_passes present x).bind fun _ _ => trivial
  | empty => exact (literal_passes empty x).bind fun _ _ => trivial
  | negation => exact (literal_passes negation x).bind fun _ _ => trivial
  | modulo =>
    refine bind_list_passes modulo ?_
    match x.items with
    | [divisor, remainder] =>
      refine (literal_passes modulo divisor).bind fun d _ => ?_
      refine (literal_passes modulo remainder).bind fun e _ => ?_
      cases remainder? c d <;> trivial
    | [] | [_] | _ :: _ :: _ :: _ => exact unexpected_passes modulo _
  | regex => exact run_regex_passes c
  | anyOf | noneOf => exact (someEqual_passes c).bind fun _ _ => trivial
  | allOf =>
    refine bind_list_passes allOf (FailsOnly.bind ?_ fun _ _ => trivial)
    exact FailsOnly.allM fun value _ => FailsOnly.anyM fun y hy => equals_passes (.inr hy) value
  | field => exact selected_passes field x
  | rounded => trivial
  | roundedField rounding =>
    exact (selected_passes (roundedField rounding) x).bind fun _ _ => trivial
  | conjunction | contextAnd =>
    refine bind_list_passes _ (FailsOnly.bind ?_ fun _ _ => trivial)
    exact FailsOnly.allM fun y hy => childHolds_passes _ hy _
  | disjunction | neither | contextOr =>
    refine bind_list_passes _ (FailsOnly.bind ?_ fun _ _ => trivial)
    exact FailsOnly.anyM fun y hy => childHolds_passes _ hy _
  | difference => exact (node_passes difference x).bind fun _ _ => trivial

end Builtin

end DocFilter
