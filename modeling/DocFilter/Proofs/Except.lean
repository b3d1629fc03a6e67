import Mathlib.Data.List.Forall2
import Mathlib.Data.List.Perm.Basic

/-!
# Results and failures

How a sequence of steps that may fail comes out: `Except.bind` at a result, at a failure, and what
it takes for the whole to have a result. Asking a condition of the elements of a list is such a
sequence, which fails only when the condition fails on one of them.

What a computation can fail with is said by `FailsOnly`, and holds of a sequence of steps when it
holds of each of them. Two computations correspond (`Corresponds`) when both have results, which are
related, or both fail, in related ways. Sequences of steps that correspond do so too.
-/

namespace DocFilter

variable {ε α β : Type}

@[simp] theorem ok_bind (a : α) (f : α → Except ε β) : (Except.ok a >>= f) = f a := rfl

@[simp] theorem error_bind (e : ε) (f : α → Except ε β) :
    (Except.error e >>= f) = .error e := rfl

@[simp] theorem pure_eq_ok (a : α) : (pure a : Except ε α) = .ok a := rfl

theorem throw_eq_error (e : ε) : (throw e : Except ε α) = .error e := rfl

/-- A sequence has a result when both its steps have one. -/
theorem bind_eq_ok {x : Except ε α} {f : α → Except ε β} {b : β} :
    (x >>= f) = .ok b ↔ ∃ a, x = .ok a ∧ f a = .ok b := by
  cases x with
  | ok a =>
    refine ⟨fun h => ⟨a, rfl, h⟩, ?_⟩
    rintro ⟨a', h, hf⟩
    cases h
    exact hf
  | error e =>
    refine ⟨fun h => absurd h (by simp), ?_⟩
    rintro ⟨a', h, -⟩
    cases h

/-- A sequence fails when its first step fails, or its second step after a result of the first. -/
theorem bind_eq_error {x : Except ε α} {f : α → Except ε β} {e : ε} :
    (x >>= f) = .error e ↔ x = .error e ∨ ∃ a, x = .ok a ∧ f a = .error e := by
  cases x with
  | ok a => simp
  | error e' => simp

/-- A sequence whose second step cannot fail. -/
theorem bind_ok_eq_map (x : Except ε α) (f : α → β) : (x >>= fun a => .ok (f a)) = x.map f := by
  cases x <;> rfl

theorem map_bind {γ : Type} (x : Except ε α) (f : α → β) (g : β → Except ε γ) :
    (x.map f >>= g) = x >>= fun a => g (f a) := by
  cases x <;> rfl

/-- Failures can be told in other words before or after the next step. -/
theorem mapError_bind {ε' : Type} (x : Except ε α) (f : α → Except ε β) (g : ε → ε') :
    (x >>= f).mapError g = x.mapError g >>= fun a => (f a).mapError g := by
  cases x <;> rfl

theorem map_eq_ok {x : Except ε α} {f : α → β} {b : β} :
    x.map f = .ok b ↔ ∃ a, x = .ok a ∧ f a = b := by
  rw [← bind_ok_eq_map, bind_eq_ok]
  simp only [Except.ok.injEq]

theorem mapError_eq_ok {ε' : Type} {x : Except ε α} {f : ε → ε'} {a : α} :
    x.mapError f = .ok a ↔ x = .ok a := by
  cases x <;> simp [Except.mapError]

/-- Failures that are told in other words can be told apart if the words can. -/
theorem mapError_injective {ε' : Type} {f : ε → ε'} (hf : Function.Injective f) :
    Function.Injective (Except.mapError f : Except ε α → Except ε' α) := by
  intro x y h
  cases x with
  | ok a =>
    cases y with
    | ok b => cases h; rfl
    | error e => cases h
  | error e =>
    cases y with
    | ok b => cases h
    | error e' => exact congrArg Except.error (hf (Except.error.inj h))

/-! ## Lists -/

/-- A list is mapped to results element by element. -/
theorem mapM_eq_ok {f : α → Except ε β} {xs : List α} {ys : List β} :
    xs.mapM f = .ok ys ↔ List.Forall₂ (fun x y => f x = .ok y) xs ys := by
  induction xs generalizing ys with
  | nil =>
    rw [List.forall₂_nil_left_iff, List.mapM_nil, pure_eq_ok, Except.ok.injEq, eq_comm]
  | cons x xs ih =>
    rw [List.mapM_cons, List.forall₂_cons_left_iff]
    simp only [bind_eq_ok, ih, pure_eq_ok, Except.ok.injEq]
    constructor
    · rintro ⟨y, hy, rest, hrest, rfl⟩
      exact ⟨y, rest, hy, hrest, rfl⟩
    · rintro ⟨y, rest, hy, hrest, rfl⟩
      exact ⟨y, hy, rest, hrest, rfl⟩

/-- In two lists that match, each element of the first one has its match. -/
theorem exists_of_forall₂ {R : α → β → Prop} {xs : List α} {ys : List β}
    (h : List.Forall₂ R xs ys) : ∀ x ∈ xs, ∃ y ∈ ys, R x y := by
  induction h with
  | nil =>
    intro x hx
    exact absurd hx List.not_mem_nil
  | cons hxy _ ih =>
    intro z hz
    rcases List.mem_cons.mp hz with rfl | hz
    · exact ⟨_, List.mem_cons_self, hxy⟩
    · obtain ⟨w, hw, hzw⟩ := ih z hz
      exact ⟨w, List.mem_cons_of_mem _ hw, hzw⟩

/-- Lists that match still match when what follows for their elements is asked instead. -/
theorem forall₂_of_mem {R S : α → β → Prop} {xs : List α} {ys : List β}
    (h : List.Forall₂ R xs ys) (himp : ∀ x ∈ xs, ∀ y ∈ ys, R x y → S x y) :
    List.Forall₂ S xs ys := by
  induction h with
  | nil => exact .nil
  | cons hxy _ ih =>
    refine .cons (himp _ List.mem_cons_self _ List.mem_cons_self hxy) (ih fun x hx y hy => ?_)
    exact himp x (List.mem_cons_of_mem _ hx) y (List.mem_cons_of_mem _ hy)

theorem forall₂_trans {γ : Type} {R : α → β → Prop} {S : β → γ → Prop} {T : α → γ → Prop}
    {xs : List α} {ys : List β} {zs : List γ} (h : List.Forall₂ R xs ys)
    (h' : List.Forall₂ S ys zs) (htrans : ∀ a b c, R a b → S b c → T a c) :
    List.Forall₂ T xs zs := by
  induction h generalizing zs with
  | nil =>
    cases h'
    exact .nil
  | cons hxy _ ih =>
    cases h' with
    | cons hyz hrest => exact .cons (htrans _ _ _ hxy hyz) (ih hrest)

/-- When a list is mapped to results, each of its elements has one. -/
theorem exists_of_mapM_eq_ok {f : α → Except ε β} {xs : List α} {ys : List β}
    (h : xs.mapM f = .ok ys) : ∀ x ∈ xs, ∃ y ∈ ys, f x = .ok y :=
  exists_of_forall₂ (mapM_eq_ok.mp h)

/-- When a list is mapped to results, each of them is that of an element. -/
theorem exists_of_mem_mapM_eq_ok {f : α → Except ε β} {xs : List α} {ys : List β}
    (h : xs.mapM f = .ok ys) : ∀ y ∈ ys, ∃ x ∈ xs, f x = .ok y :=
  exists_of_forall₂ (R := fun y x => f x = .ok y) (mapM_eq_ok.mp h).flip

/-- Mapping a list keeps its length. -/
theorem length_of_mapM_eq_ok {f : α → Except ε β} {xs : List α} {ys : List β}
    (h : xs.mapM f = .ok ys) : ys.length = xs.length :=
  (mapM_eq_ok.mp h).length_eq.symm

/-- A list can be mapped to results when each of its elements has one. -/
theorem exists_mapM_eq_ok {f : α → Except ε β} {xs : List α} :
    (∃ ys, xs.mapM f = .ok ys) ↔ ∀ x ∈ xs, ∃ y, f x = .ok y := by
  refine ⟨?_, fun h => ?_⟩
  · rintro ⟨ys, hys⟩ x hx
    obtain ⟨y, -, hy⟩ := exists_of_mapM_eq_ok hys x hx
    exact ⟨y, hy⟩
  · induction xs with
    | nil => exact ⟨[], rfl⟩
    | cons x xs ih =>
      obtain ⟨y, hy⟩ := h x List.mem_cons_self
      obtain ⟨ys, hys⟩ := ih fun z hz => h z (List.mem_cons_of_mem x hz)
      exact ⟨y :: ys, by rw [List.mapM_cons, hy, hys]; rfl⟩

theorem mapM_congr {f g : α → Except ε β} :
    ∀ {xs : List α}, (∀ x ∈ xs, f x = g x) → xs.mapM f = xs.mapM g
  | [], _ => rfl
  | x :: xs, h => by
    rw [List.mapM_cons, List.mapM_cons, h x List.mem_cons_self,
      mapM_congr fun y hy => h y (List.mem_cons_of_mem x hy)]

/-- What is made of each result can be made of all of them in the end. -/
theorem mapM_then_map {γ : Type} (f : α → Except ε β) (g : β → γ) (xs : List α) :
    (xs.mapM fun x => (f x).map g) = (xs.mapM f).map (List.map g) := by
  induction xs with
  | nil => rfl
  | cons x xs ih =>
    rw [List.mapM_cons, List.mapM_cons, ih]
    cases f x with
    | error e => rfl
    | ok y => cases xs.mapM f <;> rfl

/-- A condition that has been asked of all elements holds of each of them, if it holds of all. -/
theorem holds_of_allM_eq_true {p : α → Except ε Bool} :
    ∀ {xs : List α}, xs.allM p = .ok true → ∀ x ∈ xs, p x = .ok true
  | x :: xs, h, y, hy => by
    rw [List.allM_cons] at h
    obtain ⟨b, hx, h⟩ := bind_eq_ok.mp h
    cases b with
    | false => cases h
    | true =>
      rcases List.mem_cons.mp hy with rfl | hy
      · exact hx
      · exact holds_of_allM_eq_true h y hy

/-- If it does not hold of all, some element has been asked and fails it. -/
theorem exists_of_allM_eq_false {p : α → Except ε Bool} :
    ∀ {xs : List α}, xs.allM p = .ok false → ∃ x ∈ xs, p x = .ok false
  | x :: xs, h => by
    rw [List.allM_cons] at h
    obtain ⟨b, hx, h⟩ := bind_eq_ok.mp h
    cases b with
    | false => exact ⟨x, List.mem_cons_self, hx⟩
    | true =>
      obtain ⟨y, hy, hpy⟩ := exists_of_allM_eq_false h
      exact ⟨y, List.mem_cons_of_mem x hy, hpy⟩

/-- When no question fails, asking until the answer is yes finds out whether it ever is. -/
theorem anyM_eq_any {p : α → Except ε Bool} {q : α → Bool} {xs : List α}
    (h : ∀ x ∈ xs, p x = .ok (q x)) : xs.anyM p = .ok (xs.any q) := by
  induction xs with
  | nil => rfl
  | cons x xs ih =>
    obtain ⟨hx, hxs⟩ := List.forall_mem_cons.mp h
    rw [List.anyM_cons, hx, List.any_cons]
    cases q x with
    | true => rfl
    | false => exact ih hxs

/-- When no question fails, asking until the answer is no finds out whether it ever is. -/
theorem allM_eq_all {p : α → Except ε Bool} {q : α → Bool} {xs : List α}
    (h : ∀ x ∈ xs, p x = .ok (q x)) : xs.allM p = .ok (xs.all q) := by
  induction xs with
  | nil => rfl
  | cons x xs ih =>
    obtain ⟨hx, hxs⟩ := List.forall_mem_cons.mp h
    rw [List.allM_cons, hx, List.all_cons]
    cases q x with
    | true => exact ih hxs
    | false => rfl

theorem anyM_congr {α : Type} {m : Type → Type} [Monad m] {p q : α → m Bool} :
    ∀ {xs : List α}, (∀ x ∈ xs, p x = q x) → xs.anyM p = xs.anyM q
  | [], _ => rfl
  | x :: xs, h => by
    rw [List.anyM_cons, List.anyM_cons, h x List.mem_cons_self,
      anyM_congr fun y hy => h y (List.mem_cons_of_mem x hy)]

theorem allM_congr {α : Type} {m : Type → Type} [Monad m] {p q : α → m Bool} :
    ∀ {xs : List α}, (∀ x ∈ xs, p x = q x) → xs.allM p = xs.allM q
  | [], _ => rfl
  | x :: xs, h => by
    rw [List.allM_cons, List.allM_cons, h x List.mem_cons_self,
      allM_congr fun y hy => h y (List.mem_cons_of_mem x hy)]

/-- Asking of the images of elements is asking of the elements. -/
theorem anyM_map {γ : Type} (f : γ → α) (p : α → Except ε Bool) (xs : List γ) :
    (xs.map f).anyM p = xs.anyM fun x => p (f x) := by
  induction xs with
  | nil => rfl
  | cons x xs ih => rw [List.map_cons, List.anyM_cons, List.anyM_cons, ih]

theorem allM_map {γ : Type} (f : γ → α) (p : α → Except ε Bool) (xs : List γ) :
    (xs.map f).allM p = xs.allM fun x => p (f x) := by
  induction xs with
  | nil => rfl
  | cons x xs ih => rw [List.map_cons, List.allM_cons, List.allM_cons, ih]

/-- Failures can be told in other words on the way or in the end. -/
theorem anyM_mapError {ε' : Type} (g : ε → ε') (p : α → Except ε Bool) (xs : List α) :
    (xs.anyM fun x => (p x).mapError g) = (xs.anyM p).mapError g := by
  induction xs with
  | nil => rfl
  | cons x xs ih =>
    rw [List.anyM_cons, List.anyM_cons]
    cases p x with
    | error e => rfl
    | ok b =>
      cases b with
      | true => rfl
      | false => exact ih

theorem allM_mapError {ε' : Type} (g : ε → ε') (p : α → Except ε Bool) (xs : List α) :
    (xs.allM fun x => (p x).mapError g) = (xs.allM p).mapError g := by
  induction xs with
  | nil => rfl
  | cons x xs ih =>
    rw [List.allM_cons, List.allM_cons]
    cases p x with
    | error e => rfl
    | ok b =>
      cases b with
      | true => exact ih
      | false => rfl

theorem exists_of_anyM_eq_error {p : α → Except ε Bool} {e : ε} :
    ∀ {xs : List α}, xs.anyM p = .error e → ∃ x ∈ xs, p x = .error e
  | x :: xs, h => by
    rw [List.anyM_cons] at h
    rcases bind_eq_error.mp h with hx | ⟨b, -, h⟩
    · exact ⟨x, List.mem_cons_self, hx⟩
    · cases b with
      | true => cases h
      | false =>
        obtain ⟨y, hy, hpy⟩ := exists_of_anyM_eq_error h
        exact ⟨y, List.mem_cons_of_mem x hy, hpy⟩

theorem exists_of_allM_eq_error {p : α → Except ε Bool} {e : ε} :
    ∀ {xs : List α}, xs.allM p = .error e → ∃ x ∈ xs, p x = .error e
  | x :: xs, h => by
    rw [List.allM_cons] at h
    rcases bind_eq_error.mp h with hx | ⟨b, -, h⟩
    · exact ⟨x, List.mem_cons_self, hx⟩
    · cases b with
      | false => cases h
      | true =>
        obtain ⟨y, hy, hpy⟩ := exists_of_allM_eq_error h
        exact ⟨y, List.mem_cons_of_mem x hy, hpy⟩

/-! ## What a computation can fail with -/

/-- A computation has a result, or fails with an error of this sort. -/
def FailsOnly (Q : ε → Prop) : Except ε α → Prop
  | .ok _ => True
  | .error e => Q e

namespace FailsOnly

variable {Q : ε → Prop} {x : Except ε α}

theorem of_error (h : FailsOnly Q x) {e : ε} (hx : x = .error e) : Q e := by
  subst hx
  exact h

theorem imp {Q' : ε → Prop} (h : FailsOnly Q x) (himp : ∀ e, Q e → Q' e) : FailsOnly Q' x := by
  cases x with
  | ok a => trivial
  | error e => exact himp e h

theorem bind (h : FailsOnly Q x) {f : α → Except ε β}
    (hf : ∀ a, x = .ok a → FailsOnly Q (f a)) : FailsOnly Q (x >>= f) := by
  cases x with
  | ok a => exact hf a rfl
  | error e => exact h

theorem anyM {p : α → Except ε Bool} {xs : List α} (h : ∀ a ∈ xs, FailsOnly Q (p a)) :
    FailsOnly Q (xs.anyM p) := by
  cases hxs : xs.anyM p with
  | ok b => trivial
  | error e =>
    obtain ⟨a, ha, he⟩ := exists_of_anyM_eq_error hxs
    exact (h a ha).of_error he

theorem allM {p : α → Except ε Bool} {xs : List α} (h : ∀ a ∈ xs, FailsOnly Q (p a)) :
    FailsOnly Q (xs.allM p) := by
  cases hxs : xs.allM p with
  | ok b => trivial
  | error e =>
    obtain ⟨a, ha, he⟩ := exists_of_allM_eq_error hxs
    exact (h a ha).of_error he

end FailsOnly

/-! ## Two computations -/

/-- Two computations both have a result, and the results are related, or both fail, and the failures
are related. -/
inductive Corresponds {ε' β : Type} (E : ε → ε' → Prop) (R : α → β → Prop) :
    Except ε α → Except ε' β → Prop
  | ok {a : α} {b : β} (h : R a b) : Corresponds E R (.ok a) (.ok b)
  | error {e : ε} {e' : ε'} (h : E e e') : Corresponds E R (.error e) (.error e')

namespace Corresponds

variable {ε' γ δ : Type} {E : ε → ε' → Prop} {R : α → β → Prop} {S : γ → δ → Prop}
  {x : Except ε α} {y : Except ε' β}

/-- A computation and itself. -/
theorem refl {E : ε → ε → Prop} {R : α → α → Prop} (hE : ∀ e, E e e) (hR : ∀ a, R a a)
    (x : Except ε α) : Corresponds E R x x := by
  cases x with
  | ok a => exact .ok (hR a)
  | error e => exact .error (hE e)

theorem bind (h : Corresponds E R x y) {f : α → Except ε γ} {g : β → Except ε' δ}
    (hfg : ∀ a b, R a b → Corresponds E S (f a) (g b)) :
    Corresponds E S (x >>= f) (y >>= g) := by
  cases h with
  | ok h => exact hfg _ _ h
  | error h => exact .error h

theorem map (h : Corresponds E R x y) {f : α → γ} {g : β → δ}
    (hfg : ∀ a b, R a b → S (f a) (g b)) : Corresponds E S (x.map f) (y.map g) := by
  cases h with
  | ok h => exact .ok (hfg _ _ h)
  | error h => exact .error h

/-- One has a result when the other has. -/
theorem exists_ok_iff (h : Corresponds E R x y) : (∃ a, x = .ok a) ↔ ∃ b, y = .ok b := by
  cases h with
  | @ok a b => exact ⟨fun _ => ⟨b, rfl⟩, fun _ => ⟨a, rfl⟩⟩
  | error =>
    refine ⟨?_, ?_⟩
    · rintro ⟨a, h⟩
      cases h
    · rintro ⟨b, h⟩
      cases h

/-- The results are related. -/
theorem of_ok (h : Corresponds E R x y) {a : α} {b : β} (hx : x = .ok a) (hy : y = .ok b) :
    R a b := by
  subst hx hy
  cases h with
  | ok h => exact h

/-- What corresponds to what corresponds. -/
theorem trans {ε'' γ : Type} {E' : ε' → ε'' → Prop} {F : ε → ε'' → Prop} {S : β → γ → Prop}
    {T : α → γ → Prop} {z : Except ε'' γ} (h : Corresponds E R x y) (h' : Corresponds E' S y z)
    (hE : ∀ e e' e'', E e e' → E' e' e'' → F e e'') (hR : ∀ a b c, R a b → S b c → T a c) :
    Corresponds F T x z := by
  cases h with
  | ok h =>
    cases h' with
    | ok h' => exact .ok (hR _ _ _ h h')
  | error h =>
    cases h' with
    | error h' => exact .error (hE _ _ _ h h')

theorem mapError {ζ ζ' : Type} {F : ζ → ζ' → Prop} (h : Corresponds E R x y) {f : ε → ζ}
    {g : ε' → ζ'} (hfg : ∀ e e', E e e' → F (f e) (g e')) :
    Corresponds F R (x.mapError f) (y.mapError g) := by
  cases h with
  | ok h => exact .ok h
  | error h => exact .error (hfg _ _ h)

/-- What corresponds when its failures are told in other words has corresponded before. -/
theorem of_mapError {ζ ζ' : Type} {F : ζ → ζ' → Prop} {f : ε → ζ} {g : ε' → ζ'}
    (h : Corresponds F R (x.mapError f) (y.mapError g)) (hfg : ∀ e e', F (f e) (g e') → E e e') :
    Corresponds E R x y := by
  cases x with
  | ok a =>
    cases y with
    | ok b =>
      cases h with
      | ok h => exact .ok h
    | error e => cases h
  | error e =>
    cases y with
    | ok b => cases h
    | error e' =>
      cases h with
      | error h => exact .error (hfg e e' h)

/-- Two lists are mapped alike when their elements are. -/
theorem mapM {f : α → Except ε γ} {g : β → Except ε' δ} {xs : List α} {ys : List β}
    (h : List.Forall₂ (fun x y => Corresponds E S (f x) (g y)) xs ys) :
    Corresponds E (List.Forall₂ S) (xs.mapM f) (ys.mapM g) := by
  induction h with
  | nil => exact .ok .nil
  | cons hxy _ ih =>
    rw [List.mapM_cons, List.mapM_cons]
    exact hxy.bind fun a b hab => ih.bind fun as bs habs => .ok (.cons hab habs)

/-- A list in another order is mapped to the same results in another order, or fails too. -/
theorem mapM_perm {f : α → Except ε γ} {xs ys : List α} (h : xs.Perm ys) :
    Corresponds (fun _ _ => True) List.Perm (xs.mapM f) (ys.mapM f) := by
  have hmapped : ∀ {xs ys : List α} {bs : List γ}, xs.Perm ys → ys.mapM f = .ok bs →
      ∃ as, xs.mapM f = .ok as ∧ as.Perm bs := by
    intro xs ys bs h hbs
    obtain ⟨as, has, hperm⟩ := List.perm_comp_forall₂ h (mapM_eq_ok.mp hbs)
    exact ⟨as, mapM_eq_ok.mpr has, hperm⟩
  cases hys : ys.mapM f with
  | ok bs =>
    obtain ⟨as, has, hperm⟩ := hmapped h hys
    rw [has]
    exact .ok hperm
  | error e =>
    cases hxs : xs.mapM f with
    | error e' => exact .error trivial
    | ok as =>
      obtain ⟨bs, hbs, -⟩ := hmapped h.symm hxs
      rw [hys] at hbs
      cases hbs

/-- Conditions that correspond on the elements of two lists correspond on the lists. -/
theorem anyM {p : α → Except ε Bool} {q : β → Except ε' Bool} {xs : List α} {ys : List β}
    (h : List.Forall₂ (fun x y => Corresponds E Eq (p x) (q y)) xs ys) :
    Corresponds E Eq (xs.anyM p) (ys.anyM q) := by
  induction h with
  | nil => exact .ok rfl
  | cons hxy _ ih =>
    rw [List.anyM_cons, List.anyM_cons]
    refine hxy.bind fun a b hab => ?_
    subst hab
    cases a with
    | true => exact .ok rfl
    | false => exact ih

theorem allM {p : α → Except ε Bool} {q : β → Except ε' Bool} {xs : List α} {ys : List β}
    (h : List.Forall₂ (fun x y => Corresponds E Eq (p x) (q y)) xs ys) :
    Corresponds E Eq (xs.allM p) (ys.allM q) := by
  induction h with
  | nil => exact .ok rfl
  | cons hxy _ ih =>
    rw [List.allM_cons, List.allM_cons]
    refine hxy.bind fun a b hab => ?_
    subst hab
    cases a with
    | true => exact ih
    | false => exact .ok rfl

end Corresponds

end DocFilter
