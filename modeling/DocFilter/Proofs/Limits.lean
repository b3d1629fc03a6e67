import DocFilter.Proofs.Nodes

/-!
# Runs that are not cut off

`Registry.applyWithin` lets calls be nested to a given depth and cuts runs off where they go deeper.
A run that is not cut off would go the same way with any evaluator that does what the one at hand
has done for it (`Evaluator.Within`). This holds of built-in operations and of procedures, of nodes,
and so of all runs:

> `Registry.applyWithin_mono`: what has not been cut off comes out alike when calls may be nested
> one deeper.

So the depths at which a run is not cut off all agree. What they agree on is what evaluation comes
to (`Registry.applyWithin_apply`, `Registry.evaluateWith_evaluate`), and an evaluator with no depth
at all does the same (`Registry.applyWithin_perform`).

Only runs that end can be compared with something. When calls are nested without end, every depth
is too small, and nothing is said about what is then made of that; it is no error, so that errors
always come from a run (`Registry.exists_of_evaluate_eq_error`).
-/

namespace DocFilter

variable {κ ρ : Type}

/-! ## Limits -/

/-- What has been found at some depth is found with more of it. -/
def Stable {α : Type} (found? : Nat → Option α) : Prop :=
  ∀ ⦃depth : Nat⦄ ⦃a : α⦄, found? depth = some a → found? (depth + 1) = some a

section
variable {α : Type} {found? : Nat → Option α}

theorem Stable.of_le (h : Stable found?) {depth more : Nat} (hle : depth ≤ more) {a : α}
    (ha : found? depth = some a) : found? more = some a := by
  induction hle with
  | refl => exact ha
  | step _ ih => exact h ih

/-- Two depths find the same. -/
theorem Stable.unique (h : Stable found?) {depth depth' : Nat} {a b : α}
    (ha : found? depth = some a) (hb : found? depth' = some b) : a = b := by
  have ha' := h.of_le (Nat.le_max_left depth depth') ha
  have hb' := h.of_le (Nat.le_max_right depth depth') hb
  exact Option.some.inj (ha'.symm.trans hb')

/-- The search goes up to the depth at which there is something to be found. -/
theorem Stable.wellFounded (h : Stable found?) {depth : Nat} {a : α} (ha : found? depth = some a) :
    WellFounded fun next depth => found? depth = none ∧ next = depth + 1 := by
  refine ⟨fun start => ?_⟩
  -- the induction is on how many depths are left before the one at which something is found
  induction hleft : depth - start generalizing start with
  | zero =>
    have hstart := h.of_le (Nat.le_of_sub_eq_zero hleft) ha
    refine ⟨start, fun next hnext => ?_⟩
    rw [hstart] at hnext
    cases hnext.1
  | succ left ih =>
    refine ⟨start, fun next hnext => ?_⟩
    obtain ⟨-, rfl⟩ := hnext
    exact ih (start + 1) (by omega)

/-- The search finds what there is to be found, wherever it sets out. -/
theorem found_depthFrom (h : Stable found?) {depth : Nat} {a : α} (ha : found? depth = some a)
    (start : Nat) : found? (depthFrom found? start) = some a := by
  have hsearch := h.wellFounded ha
  induction start using hsearch.induction with
  | h start ih =>
    rw [depthFrom, WellFounded.extrinsicFix_eq_apply hsearch]
    split
    · next b hb => rw [hb, h.unique ha hb]
    · next hnone => exact ih (start + 1) ⟨hnone, rfl⟩

end

section
variable {ε : Type} {run? : Nat → Option (Except ε (Option Json))}

/-- Runs come to what any of them comes to. -/
theorem limit_eq (h : Stable run?) {depth : Nat} {result : Except ε (Option Json)}
    (hresult : run? depth = some result) (start : Nat) : limit run? start = result := by
  rw [limit]
  cases hstart : run? start with
  | some result' => exact h.unique hstart hresult
  | none => simp only [found_depthFrom h hresult, Option.getD_some]

/-- An error always comes from a run. -/
theorem exists_of_limit_eq_error {start : Nat} {e : ε} (h : limit run? start = .error e) :
    ∃ depth, run? depth = some (.error e) := by
  rw [limit] at h
  cases hstart : run? start with
  | some result =>
    simp only [hstart] at h
    exact ⟨start, h ▸ hstart⟩
  | none =>
    simp only [hstart] at h
    cases hmore : run? (depthFrom run? (start + 1)) with
    | some result =>
      rw [hmore, Option.getD_some] at h
      exact ⟨_, h ▸ hmore⟩
    | none =>
      rw [hmore] at h
      cases h

end

/-! ## Errors that show -/

namespace Interruption

section
variable [ReportKind ρ]

theorem error?_map (e : Interruption ρ) : (e.map ReportKind.error?).error? = e.error? := by
  cases e <;> rfl

theorem map_error?_of (e : EvalError) :
    (e.map (ReportKind.of (ρ := ρ))).map ReportKind.error? = e.map ReportKind.of := by
  cases e with
  | failure cause => rfl
  | nested report => exact congrArg nested (ReportKind.error?_of report)

/-- An error that does not show is that of a run that has been cut off. -/
theorem map_of_error?_eq_none {e : Interruption ρ} (h : e.error? = none) :
    e.map ReportKind.error? = .nested none := by
  cases e with
  | failure cause => cases h
  | nested report => exact congrArg nested (Option.map_eq_none_iff.mp h)

end

end Interruption

/-- The errors of runs that can be cut off: `cut`, which does not show, and those of runs that are
not cut off. -/
structure Shows {ε ε' : Type} (error? : ε → Option ε') (of : ε' → ε) (cut : ε) : Prop where
  cut_or_of (e : ε) : e = cut ∨ ∃ e', e = of e'
  error?_cut : error? cut = none
  error?_of (e' : ε') : error? (of e') = some e'

/-- What operations end with. -/
theorem Interruption.shows :
    Shows (error? (ρ := Option MatchError)) (map some) (.nested none) where
  cut_or_of e := by
    cases e with
    | failure cause => exact .inr ⟨.failure cause, rfl⟩
    | nested report =>
      cases report with
      | none => exact .inl rfl
      | some report => exact .inr ⟨.nested report, rfl⟩
  error?_cut := rfl
  error?_of e := by cases e <;> rfl

/-- What nodes report. -/
theorem ReportKind.shows : Shows (error? (ρ := Option MatchError)) some none where
  cut_or_of report := by
    cases report with
    | none => exact .inl rfl
    | some report => exact .inr ⟨report, rfl⟩
  error?_cut := rfl
  error?_of _ := rfl

namespace Shows

variable {ε ε' α : Type} {error? : ε → Option ε'} {of : ε' → ε} {cut : ε}
  (hs : Shows error? of cut)
include hs

theorem seen?_cut : seen? error? (.error cut : Except ε α) = none := by
  rw [seen?, hs.error?_cut, Option.map_none]

theorem seen?_of (y : Except ε' α) : seen? error? (y.mapError of) = some y := by
  cases y with
  | ok a => rfl
  | error e => rw [Except.mapError, seen?, hs.error?_of, Option.map_some]

/-- Runs that are not cut off show how they have ended. -/
theorem injective : Function.Injective (Except.mapError of : Except ε' α → Except ε α) := by
  intro y y' h
  have hseen := congrArg (seen? error?) h
  rw [hs.seen?_of, hs.seen?_of] at hseen
  exact Option.some.inj hseen

theorem cut_or_mapError (x : Except ε α) :
    x = .error cut ∨ ∃ y : Except ε' α, x = y.mapError of := by
  cases x with
  | ok a => exact .inr ⟨.ok a, rfl⟩
  | error e =>
    rcases hs.cut_or_of e with rfl | ⟨e', rfl⟩
    · exact .inl rfl
    · exact .inr ⟨.error e', rfl⟩

/-- What shows of an outcome, with something else where it has been cut off. -/
theorem cut_or_getD (x : Except ε α) (y : Except ε' α) :
    x = .error cut ∨ x = ((seen? error? x).getD y).mapError of := by
  rcases hs.cut_or_mapError x with hcut | ⟨y', rfl⟩
  · exact .inl hcut
  · rw [hs.seen?_of, Option.getD_some]
    exact .inr rfl

/-- When that is no error, errors show as they are. -/
theorem eq_error_of_getD {x : Except ε α} {a : α} {e : ε'}
    (h : (seen? error? x).getD (.ok a) = .error e) : x = .error (of e) := by
  rcases hs.cut_or_getD x (.ok a) with hcut | hx
  · rw [hcut, hs.seen?_cut] at h
    cases h
  · rw [hx, h]
    rfl

section
variable {run : Nat → Except ε (Option Json)}
  (hrun : ∀ depth, run depth = .error cut ∨ run depth = run (depth + 1))
include hrun

theorem stable : Stable fun depth => seen? error? (run depth) := by
  intro depth y h
  show seen? error? (run (depth + 1)) = some y
  replace h : seen? error? (run depth) = some y := h
  rcases hrun depth with hcut | hsame
  · rw [hcut, hs.seen?_cut] at h
    cases h
  · exact hsame ▸ h

/-- Runs come to what one of them comes to that is not cut off. -/
theorem limit_eq_of_run {depth : Nat} {y : Except ε' (Option Json)}
    (h : run depth = y.mapError of) (start : Nat) :
    limit (fun depth => seen? error? (run depth)) start = y := by
  have hseen : seen? error? (run depth) = some y := by rw [h, hs.seen?_of]
  exact limit_eq (hs.stable hrun) hseen start

theorem cut_or_limit (depth start : Nat) :
    run depth = .error cut ∨
      run depth = (limit (fun depth => seen? error? (run depth)) start).mapError of := by
  rcases hs.cut_or_mapError (run depth) with hcut | ⟨y, hy⟩
  · exact .inl hcut
  · rw [hs.limit_eq_of_run hrun hy]
    exact .inr hy

/-- An error is what all runs come to that are deep enough. -/
theorem exists_of_limit_eq_error {start : Nat} {e : ε'}
    (h : limit (fun depth => seen? error? (run depth)) start = .error e) :
    ∃ enough, ∀ depth, enough ≤ depth → run depth = .error (of e) := by
  obtain ⟨enough, henough⟩ := DocFilter.exists_of_limit_eq_error h
  refine ⟨enough, fun depth hdepth => ?_⟩
  have hseen : seen? error? (run depth) = some (.error e) :=
    (hs.stable hrun).of_le hdepth henough
  rcases hs.cut_or_mapError (run depth) with hcut | ⟨y, hy⟩
  · rw [hcut, hs.seen?_cut] at hseen
    cases hseen
  · rw [hy, hs.seen?_of] at hseen
    cases hseen
    exact hy

end

end Shows

/-! ## Runs that may have been cut off -/

namespace Coupling

/-- A run that can be cut off has come to what another one comes to, or it has been cut off. -/
def within (ρ : Type) [ReportKind ρ] : Coupling (Option MatchError) ρ where
  Rel x y := x = .error (.nested none) ∨ x = y.mapError (Interruption.map ReportKind.error?)
  ok _ := .inr rfl
  failure _ _ := .inr rfl
  bind := by
    intro α β x y f g h hfg
    rcases h with rfl | rfl
    · exact .inl rfl
    · cases y with
      | ok a => exact hfg a
      | error e => exact .inr rfl

/-- When both runs can be cut off, they are the same then. -/
theorem within_self {α : Type} {x y : Except (Interruption (Option MatchError)) α} :
    (within (Option MatchError)).Rel x y ↔ x = .error (.nested none) ∨ x = y := by
  have hmap : y.mapError (Interruption.map (ReportKind.error? (ρ := Option MatchError))) = y := by
    cases y with
    | ok a => rfl
    | error e => cases e <;> rfl
  refine or_congr_right ?_
  rw [hmap]

/-- The same about the outcomes of nodes. -/
theorem within_nested [ReportKind ρ] {α : Type} {x : Except (Option MatchError) α}
    {y : Except ρ α} :
    (within ρ).Rel (x.mapError .nested) (y.mapError .nested) ↔
      x = .error none ∨ x = y.mapError ReportKind.error? := by
  have hinjective : Function.Injective (Except.mapError Interruption.nested :
      Except (Option MatchError) α → _) := mapError_injective fun _ _ => Interruption.nested.inj
  have hmap : (y.mapError Interruption.nested).mapError (Interruption.map ReportKind.error?) =
      (y.mapError ReportKind.error?).mapError .nested := by
    cases y <;> rfl
  refine or_congr ?_ ?_
  · exact hinjective.eq_iff (b := .error none)
  · rw [hmap]
    exact hinjective.eq_iff

end Coupling

/-- Whatever the first evaluator has done without being cut off, the second one does. -/
structure Evaluator.Within [ReportKind ρ] (ev : Evaluator κ (Option MatchError))
    (ev' : Evaluator κ ρ) : Prop where
  node (n : Node κ) (c : Option Json) (document : Json) :
    ev.node n c document = .error none ∨
      ev.node n c document = (ev'.node n c document).mapError ReportKind.error?
  call (name : String) (c : Option Json) (x : Operand κ) (document : Json) :
    (Coupling.within ρ).Rel (ev.call name c x document) (ev'.call name c x document)

section
variable [ReportKind ρ] {ev : Evaluator κ (Option MatchError)} {ev' : Evaluator κ ρ}
  (hev : ev.Within ev')
include hev

namespace Evaluator.Within

theorem equals (c : Option Json) (x : Operand κ) (document : Json) :
    (Coupling.within ρ).Rel (ev.equals c x document) (ev'.equals c x document) := by
  rw [Evaluator.equals_eq_map, Evaluator.equals_eq_map]
  exact (Coupling.within ρ).map (hev.call _ c x document) truthy

theorem coupled (x : Operand κ) (document : Json) : x.Coupled (.within ρ) ev ev' document x where
  literal operation := Builtin.literal_coupled_self _ operation x
  child operation c := by
    cases hx : x.node? with
    | none => exact Builtin.childHolds_coupled_self hx operation c
    | some n =>
      obtain rfl := Operand.node?_eq_some.mp hx
      exact Builtin.childHolds_coupled (Coupling.within_nested.mpr (hev.node n c document)) operation
  equals c := hev.equals c x document

theorem alike (x : Operand κ) (document : Json) : x.Alike (.within ρ) ev ev' document x := by
  cases x with
  | list items => exact .list (List.forall₂_same.mpr fun y _ => hev.coupled y document)
  | node n => exact .node rfl
  | _ => exact .leaf rfl

end Evaluator.Within

theorem Builtin.run_within (operation : Builtin) (c : Option Json) (x : Operand κ)
    (document : Json) :
    (Coupling.within ρ).Rel (operation.run ev c x document) (operation.run ev' c x document) :=
  run_coupled (hev.alike x document) (fun c => hev.equals c x document) operation c

/-- A procedure goes on alike, step by step, unless a step is cut off. -/
theorem Procedure.run_within (procedure : Procedure κ) :
    (Coupling.within ρ).Rel (procedure.run ev) (procedure.run ev') := by
  induction procedure with
  | done result =>
    refine .inr ?_
    cases result with
    | ok v => rfl
    | error e => rw [run, run, Except.mapError, Except.mapError, Except.mapError, e.map_error?_of]
  | node n c document next ih =>
    rw [run, run]
    rcases hev.node n c document with h | h
    · rw [h]
      exact .inl rfl
    · rw [h]
      cases ev'.node n c document with
      | ok v => exact ih (.ok v)
      | error report =>
        cases hshown : ReportKind.error? report with
        | none =>
          simp only [Except.mapError, hshown]
          exact .inl rfl
        | some e =>
          simp only [Except.mapError, hshown]
          exact ih (.error e)
  | call name c x document next ih =>
    rw [run, run]
    rcases hev.call name c x document with h | h
    · rw [h]
      exact .inl rfl
    · rw [h]
      cases ev'.call name c x document with
      | ok v => exact ih (.ok v)
      | error interruption =>
        simp only [Except.mapError, interruption.error?_map]
        cases hshown : interruption.error? with
        | none =>
          -- the second run ends with what does not show, and is the first one cut off
          exact .inl (congrArg Except.error (Interruption.map_of_error?_eq_none hshown))
        | some e => exact ih (.error e)

theorem Host.run_within (host : Host κ) (op : Operator κ) (c : Option Json) (x : Operand κ)
    (document : Json) :
    (Coupling.within ρ).Rel (host.run ev op c x document) (host.run ev' op c x document) := by
  rw [Host.run, Host.run]
  cases op.body with
  | builtin operation => exact Builtin.run_within hev operation c x document
  | custom key => exact Procedure.run_within hev (host key c x document)

end

section
variable [ReportKind ρ]
  {A : Operator κ → Option Json → Operand κ → Json →
    Except (Interruption (Option MatchError)) (Option Json)}
  {B : Operator κ → Option Json → Operand κ → Json → Except (Interruption ρ) (Option Json)}
  (h : ∀ op c x document, (Coupling.within ρ).Rel (A op c x document) (B op c x document))
include h

namespace Node

theorem applied_within (n : Node κ) (c : Option Json) (x : Operand κ) (document : Json) :
    (Coupling.within ρ).Rel ((n.applied A c x document).mapError .nested)
      ((n.applied B c x document).mapError .nested) := by
  rw [Coupling.within_nested, applied, applied]
  rcases h n.operator c x document with h | h
  · rw [h]
    exact .inl rfl
  · rw [h]
    refine .inr ?_
    cases B n.operator c x document with
    | ok v => rfl
    | error e =>
      cases e with
      | nested report => rfl
      | failure cause => exact congrArg Except.error (ReportKind.error?_of _).symm

/-- A tree is evaluated alike when its operators are applied alike, by induction on the tree. -/
theorem coupled_within (n : Node κ) (document : Json) :
    Coupled (.within ρ) (evaluateWith A) (evaluateWith B) document n n := by
  induction n using Node.induct with
  | step n ih =>
    refine .of_operand rfl rfl (fun c => applied_within h n c n.operand document)
      (fun c v => applied_within h n c (.ofValue v) document) ?_
    cases hx : n.operand.node? with
    | none => exact .inl ⟨rfl, rfl⟩
    | some inner =>
      have hinner := Operand.node?_eq_some.mp hx
      have hmem : inner ∈ n.operand.children := hinner ▸ List.mem_singleton_self inner
      exact .inr ⟨inner, inner, hinner, hinner, ih inner hmem⟩

theorem evaluateWith_within (n : Node κ) (c : Option Json) (document : Json) :
    n.evaluateWith A c document = .error none ∨
      n.evaluateWith A c document = (n.evaluateWith B c document).mapError ReportKind.error? :=
  Coupling.within_nested.mp ((coupled_within h n document).outcome c)

end Node

theorem Registry.evaluatorWith_within (r : Registry κ) :
    (r.evaluatorWith A).Within (r.evaluatorWith B) where
  node := Node.evaluateWith_within h
  call name c x document := by
    simp only [evaluatorWith]
    cases r.get? name with
    | some op => exact h op c x document
    | none => exact .inr rfl

end

/-! ## Depths -/

namespace Registry

variable {r : Registry κ} {host : Host κ}

/-- The evaluator of bodies below which calls may be nested `depth` deep. -/
def evaluatorAt (r : Registry κ) (host : Host κ) (depth : Nat) :
    Evaluator κ (Option MatchError) :=
  r.evaluatorWith (r.applyWithin host depth)

/-- The induction is on the depth: a body is run with evaluators of which the first lets calls be
nested one less deep. -/
theorem applyWithin_within (depth : Nat) (op : Operator κ) (c : Option Json) (x : Operand κ)
    (document : Json) :
    (Coupling.within (Option MatchError)).Rel (r.applyWithin host depth op c x document)
      (r.applyWithin host (depth + 1) op c x document) := by
  induction depth generalizing op c x document with
  | zero => exact .inl rfl
  | succ depth ih => exact host.run_within (r.evaluatorWith_within ih) op c x document

/-- **What has not been cut off comes out alike with more depth.** -/
theorem applyWithin_mono (depth : Nat) (op : Operator κ) (c : Option Json) (x : Operand κ)
    (document : Json) :
    r.applyWithin host depth op c x document = .error (.nested none) ∨
      r.applyWithin host depth op c x document = r.applyWithin host (depth + 1) op c x document :=
  Coupling.within_self.mp (applyWithin_within depth op c x document)

/-- So does the evaluation of a node. -/
theorem evaluateWith_mono (depth : Nat) (n : Node κ) (c : Option Json) (document : Json) :
    n.evaluateWith (r.applyWithin host depth) c document = .error none ∨
      n.evaluateWith (r.applyWithin host depth) c document =
        n.evaluateWith (r.applyWithin host (depth + 1)) c document := by
  rcases n.evaluateWith_within (applyWithin_within depth) c document with hcut | hsame
  · exact .inl hcut
  · -- both runs can be cut off, so that their reports are of one kind
    cases hmore : n.evaluateWith (r.applyWithin host (depth + 1)) c document with
    | ok v | error report =>
      rw [hmore] at hsame
      exact .inr hsame

/-- **Applying an operator comes to what a run comes to** that is not cut off. -/
theorem applyWithin_apply (depth : Nat) (op : Operator κ) (c : Option Json) (x : Operand κ)
    (document : Json) :
    (Coupling.within MatchError).Rel (r.applyWithin host depth op c x document)
      (r.apply host op c x document) :=
  Interruption.shows.cut_or_limit (fun depth => applyWithin_mono depth op c x document) depth _

/-- **So does evaluating a node.** -/
theorem evaluateWith_evaluate (depth : Nat) (n : Node κ) (c : Option Json) (document : Json) :
    n.evaluateWith (r.applyWithin host depth) c document = .error none ∨
      n.evaluateWith (r.applyWithin host depth) c document =
        (r.evaluate host n c document).mapError some :=
  ReportKind.shows.cut_or_limit (fun depth => evaluateWith_mono depth n c document) depth _

/-- What a run comes to, applying the operator comes to. -/
theorem apply_eq_of_run {depth : Nat} {op : Operator κ} {c : Option Json} {x : Operand κ}
    {document : Json} (result : EvalResult)
    (h : r.applyWithin host depth op c x document = result.mapError (Interruption.map some)) :
    r.apply host op c x document = result :=
  Interruption.shows.limit_eq_of_run (fun depth => applyWithin_mono depth op c x document) h _

/-- An operation that counts the items of its context, one call within the other, is cut off at no
number of them. The depth that is tried first is enough for one item. -/
example :
    let count : Operator Unit := ⟨"$count", .value, 1, none, false, .custom ()⟩
    let host : Host Unit := fun _ context operand document =>
      match context with
      | some (.array (_ :: rest)) =>
        .call "$count" (some (.array rest)) operand document fun
          | .ok (some (.number (.int n))) => .done (.ok (some (.number (.int (n + 1)))))
          | result => .done result
      | _ => .done (.ok (some (.number (.int 0))))
    (Registry.defaults.insert count).apply host count
      (some (.array (List.replicate 20 .null))) .absent .null = .ok (some (.number (.int 20))) :=
  apply_eq_of_run (.ok _) (show applyWithin _ _ 21 _ _ _ _ = _ from rfl)

theorem evaluate_eq_of_run {depth : Nat} {n : Node κ} {c : Option Json} {document : Json}
    (result : Except MatchError (Option Json))
    (h : n.evaluateWith (r.applyWithin host depth) c document = result.mapError some) :
    r.evaluate host n c document = result :=
  ReportKind.shows.limit_eq_of_run (fun depth => evaluateWith_mono depth n c document) h _

/-- **A report comes from a run**, and all runs that are deep enough give it. -/
theorem exists_of_evaluate_eq_error {n : Node κ} {c : Option Json} {document : Json}
    {e : MatchError} (h : r.evaluate host n c document = .error e) :
    ∃ enough, ∀ depth, enough ≤ depth →
      n.evaluateWith (r.applyWithin host depth) c document = .error (some e) :=
  ReportKind.shows.exists_of_limit_eq_error (fun depth => evaluateWith_mono depth n c document) h

/-! ## No depth at all -/

/-- Evaluation, and calls by name, as they are when no depth is counted. -/
def evaluator (r : Registry κ) (host : Host κ) : Evaluator κ MatchError where
  node := r.evaluate host
  call := r.call host

/-- What an operator does when no depth is counted. -/
def perform (r : Registry κ) (host : Host κ) :
    Operator κ → Option Json → Operand κ → Json → EvalResult :=
  host.run (r.evaluator host)

theorem evaluatorAt_within (depth : Nat) :
    (r.evaluatorAt host depth).Within (r.evaluator host) where
  node n c document := evaluateWith_evaluate depth n c document
  call name c x document := by
    have happly : ∀ op c x document, (Coupling.within MatchError).Rel
        (r.applyWithin host depth op c x document) (r.apply host op c x document) :=
      applyWithin_apply depth
    exact (r.evaluatorWith_within happly).call name c x document

/-- **An operator performs what it comes to in a run** that is not cut off. -/
theorem applyWithin_perform (depth : Nat) (op : Operator κ) (c : Option Json) (x : Operand κ)
    (document : Json) :
    (Coupling.within MatchError).Rel (r.applyWithin host depth op c x document)
      (r.perform host op c x document) := by
  cases depth with
  | zero => exact .inl rfl
  | succ depth => exact host.run_within (evaluatorAt_within depth) op c x document

/-- What some depth is enough for is applied with no depth at all. -/
theorem apply_eq_perform {depth : Nat} {op : Operator κ} {c : Option Json} {x : Operand κ}
    {document : Json}
    (h : r.applyWithin host depth op c x document ≠ .error (.nested none)) :
    r.apply host op c x document = r.perform host op c x document := by
  have happly := (applyWithin_apply depth op c x document).resolve_left h
  have hperform := (applyWithin_perform depth op c x document).resolve_left h
  exact Interruption.shows.injective (happly.symm.trans hperform)

/-- What some depth is enough for is evaluated with no depth at all. -/
theorem evaluate_eq_evaluateWith {depth : Nat} {n : Node κ} {c : Option Json} {document : Json}
    (h : n.evaluateWith (r.applyWithin host depth) c document ≠ .error none) :
    r.evaluate host n c document = n.evaluateWith (r.perform host) c document := by
  have hevaluate := (evaluateWith_evaluate depth n c document).resolve_left h
  have hperform := (n.evaluateWith_within (applyWithin_perform depth) c document).resolve_left h
  exact ReportKind.shows.injective (hevaluate.symm.trans hperform)

end Registry

end DocFilter
