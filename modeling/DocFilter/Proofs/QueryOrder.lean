import DocFilter.Proofs.Coupling
import DocFilter.Proofs.Field
import DocFilter.Proofs.Renaming
import DocFilter.Proofs.Reordering
import DocFilter.Proofs.Shape

/-!
# The order of keys in queries

The members of an object are conditions that must all hold, and they are asked in the order in which
they stand in the query. Asking stops at the first one that does not hold, so a failure that one
order runs into another order may never meet. But no order contradicts another:

> `Filter.ofValue_reordered`: a query whose keys are put into another order, at any depth, compiles
> exactly when the query does, and wherever both filters have a result it is the same one.

The two trees differ in the order of conditions that are conjoined about one value
(`Node.Reordered`), as the compiler makes a conjunction of the members of an object and reads
everything else in place.

That results are equal unless one side fails cannot be followed through one tree and then another,
since it is not transitive: between two results there may be a failure. It is a coupling all the
same (`Coupling.consistent`), because an operation goes on with the results that it has, and a
conjunction in another order still keeps it (`Coupling.consistent_allM`): when one order finds that
all conditions hold, the other has not found one that does not.
-/

namespace DocFilter

variable {κ : Type}

/-! ## Compiling -/

/-- The second tree is the first one with the parts of some conjunctions in another order. -/
inductive Node.Reordered : Node κ → Node κ → Prop
  | applied {selector : Option Selector} {op : Operator κ} {x y : Operand κ}
      (h : Operand.Paired Node.Reordered x y) : Reordered ⟨selector, op, x⟩ ⟨selector, op, y⟩
  | conjuncts {selector : Option Selector} {xs zs ys : List (Node κ)}
      (h : List.Forall₂ Node.Reordered xs zs) (hperm : zs.Perm ys) :
      Reordered ⟨selector, Builtin.contextAnd.operator, .list (xs.map .node)⟩
        ⟨selector, Builtin.contextAnd.operator, .list (ys.map .node)⟩

namespace Registry

/-- Nothing but the order of conditions changes; errors may differ, as another key may come first. -/
def reordering (r : Registry κ) : r.Correspondence r where
  keys := Eq
  operators := Eq
  nodes := Node.Reordered
  errors _ _ := True
  shape := @Operator.SameShape.of_eq κ
  lookup := by
    rintro key _ rfl
    exact rel_self _
  implied := r.implied_self
  applied := by
    rintro op _ x x' rfl hx
    exact .applied hx
  selecting := by
    rintro key _ n n' rfl - hn
    cases hn with
    | applied hx => exact .applied hx
    | conjuncts h hperm => exact .conjuncts h hperm
  rightHanded := by
    rintro _ _ (_ | _)
    · rfl
    · rfl
  alike _ := trivial

variable {r : Registry κ}

/-- Conditions that are reordered are conjoined alike. -/
theorem agrees_conjoin_perm (hr : r.HoldsBuiltins) {xs zs ys : List (Node κ)}
    (h : List.Forall₂ Node.Reordered xs zs) (hperm : zs.Perm ys) :
    r.reordering.Agrees Node.Reordered (r.conjoin xs) (r.conjoin ys) := by
  have hlength : xs.length = ys.length := h.length_eq.trans hperm.length_eq
  match xs, ys, hlength with
  | [], [], _ => exact .error trivial
  | [x], [y], _ =>
    obtain rfl := List.perm_singleton.mp hperm
    cases h with
    | cons hxy _ => exact .ok hxy
  | x₁ :: x₂ :: xs, y₁ :: y₂ :: ys, _ =>
    rw [hr.conjoin_several, hr.conjoin_several]
    exact .ok (.conjuncts h hperm)

/-- Whether all keys are operators does not depend on their order. -/
theorem agrees_checkOperators_perm {ms ns : Members} (hperm : ms.Perm ns) :
    r.reordering.Agrees Eq (r.checkOperators ms) (r.checkOperators ns) := by
  have hiff : r.checkOperators ms = .ok () ↔ r.checkOperators ns = .ok () := by
    rw [checkOperators_eq_ok, checkOperators_eq_ok]
    exact ⟨fun h m hm => h m (hperm.mem_iff.mpr hm), fun h m hm => h m (hperm.mem_iff.mp hm)⟩
  cases hms : r.checkOperators ms with
  | ok =>
    rw [hiff.mp hms]
    exact .ok rfl
  | error e =>
    cases hns : r.checkOperators ns with
    | ok =>
      rw [hiff.mpr hns] at hms
      cases hms
    | error e' => exact .error trivial

/-- An object is read alike when its members are and then are put into another order. -/
theorem readAlike_object_perm (hr : r.HoldsBuiltins) {ms zs ns : Members}
    (hmembers : r.reordering.MembersAlike ms zs) (hperm : zs.Perm ns) :
    r.reordering.ReadAlike (.object ms) (.object ns) := by
  have hnodes : ∀ {f : String × Json → Except QueryError (Node κ)},
      r.reordering.Agrees (List.Forall₂ Node.Reordered) (ms.mapM f) (zs.mapM f) →
        r.reordering.Agrees Node.Reordered (ms.mapM f >>= r.conjoin) (ns.mapM f >>= r.conjoin) := by
    intro f hf
    have hboth := hf.trans (Corresponds.mapM_perm (f := f) hperm) (F := fun _ _ => True)
      (T := fun xs ys => ∃ zs, List.Forall₂ Node.Reordered xs zs ∧ zs.Perm ys)
      (fun _ _ _ _ _ => trivial) fun xs zs ys hxs hys => ⟨zs, hxs, hys⟩
    refine hboth.bind ?_
    rintro xs ys ⟨zs, hxs, hys⟩
    exact agrees_conjoin_perm hr hxs hys
  refine r.reordering.readAlike_of_filter (fun disabled => ?_) ?_
  · have hmapped := r.reordering.agrees_membersOf hmembers disabled
    rw [membersOf_eq_mapM, membersOf_eq_mapM] at hmapped
    rw [nodeOf, nodeOf, membersOf_eq_mapM, membersOf_eq_mapM]
    exact hnodes hmapped
  · have hmapped := r.reordering.agrees_conditionsOf hmembers
    rw [conditionsOf_eq_mapM, conditionsOf_eq_mapM] at hmapped
    have hchecked := (r.reordering.agrees_checkOperators hmembers).trans
      (agrees_checkOperators_perm (r := r) hperm) (F := fun _ _ => True) (T := Eq)
      (fun _ _ _ _ _ => trivial) fun _ _ _ => Eq.trans
    rw [boundOf, boundOf, conditionsOf_eq_mapM, conditionsOf_eq_mapM]
    exact hchecked.bind fun _ _ _ => hnodes hmapped

/-- **A query is read as the reordered one.** -/
theorem readAlike_reordered (hr : r.HoldsBuiltins) {raw raw' : Json} (h : raw.Reordered raw') :
    r.reordering.ReadAlike raw raw' := by
  induction raw using Json.induct generalizing raw' with
  | scalar v hv =>
    cases h.rearranged with
    | scalar => exact r.reordering.readAlike_scalar hv
    | array | object => cases hv
  | array items ih =>
    cases h.rearranged with
    | scalar hscalar => cases hscalar
    | array hitems =>
      exact r.reordering.readAlike_array
        (forall₂_of_mem hitems fun item hmem _ _ hitem => ih item hmem hitem)
  | object members ih =>
    cases h.rearranged with
    | scalar hscalar => cases hscalar
    | object hmembers hperm =>
      refine readAlike_object_perm hr (forall₂_of_mem hmembers fun m hmem n _ hm => ?_) hperm
      exact ⟨hm.1, ih m hmem hm.2⟩

end Registry

/-! ## Evaluating -/

/-- The results are the same if there are two. -/
def Coupling.consistent : Coupling MatchError MatchError where
  Rel x y := ∀ a b, x = .ok a → y = .ok b → a = b
  ok v a b hx hy := Except.ok.inj (hx.symm.trans hy)
  failure _ _ a b hx := by cases hx
  bind := by
    intro α β x y f g h hfg a b ha hb
    obtain ⟨v, hx, hf⟩ := bind_eq_ok.mp ha
    obtain ⟨w, hy, hg⟩ := bind_eq_ok.mp hb
    obtain rfl := h v w hx hy
    exact hfg v a b hf hg

namespace Coupling

/-- Failures do not matter, so it does not matter how they are reported. -/
theorem consistent_reports (n m : Node κ) : consistent.Reports n m := by
  intro c x y hxy a b ha hb
  rw [mapError_eq_ok, mapError_eq_ok] at ha hb
  exact hxy a b ha hb

/-- **A conjunction in another order comes to the same, if both come to something**: when the one
side finds that all hold, the other cannot find one that does not. -/
theorem consistent_allM {α : Type} {p q : α → Except EvalError Bool} {xs zs ys : List α}
    (h : List.Forall₂ (fun x z => consistent.Rel (p x) (q z)) xs zs) (hperm : zs.Perm ys) :
    consistent.Rel (xs.allM p) (ys.allM q) := by
  intro a b ha hb
  cases a with
  | true =>
    cases b with
    | true => rfl
    | false =>
      obtain ⟨y, hy, hq⟩ := exists_of_allM_eq_false hb
      obtain ⟨x, hx, hxy⟩ := exists_of_forall₂ h.flip y (hperm.mem_iff.mpr hy)
      exact hxy true false (holds_of_allM_eq_true ha x hx) hq
  | false =>
    cases b with
    | false => rfl
    | true =>
      obtain ⟨x, hx, hp⟩ := exists_of_allM_eq_false ha
      obtain ⟨z, hz, hxz⟩ := exists_of_forall₂ h x hx
      exact hxz false true hp (holds_of_allM_eq_true hb z (hperm.mem_iff.mp hz))

end Coupling

namespace Registry

variable {r r' : Registry κ} {host host' : Host κ} {document : Json}
  (hr : r.HoldsBuiltins) (hr' : r'.HoldsBuiltins)
include hr hr'

/-- Conjunctions of coupled nodes are coupled, in whatever order. -/
theorem coupled_conjuncts {selector : Option Selector} {xs zs ys : List (Node κ)}
    (h : List.Forall₂ (Coupled .consistent r r' host host' document) xs zs) (hperm : zs.Perm ys)
    (hn : Node.BuiltinOnly
      ⟨selector, Builtin.contextAnd.operator, .list (xs.map Operand.node)⟩)
    (hm : Node.BuiltinOnly
      ⟨selector, Builtin.contextAnd.operator, .list (ys.map Operand.node)⟩) :
    Coupled .consistent r r' host host' document
      ⟨selector, Builtin.contextAnd.operator, .list (xs.map .node)⟩
      ⟨selector, Builtin.contextAnd.operator, .list (ys.map .node)⟩ := by
  refine ⟨rfl, rfl, fun given => ?_⟩
  rw [evaluate_direct hr hn _ _ rfl, evaluate_direct hr' hm _ _ rfl]
  refine Coupling.consistent_reports _ _ _ ?_
  have hop : (Builtin.contextAnd.operator : Operator κ).body = .builtin .contextAnd := rfl
  rw [perform_builtin hop, perform_builtin hop]
  have hasked : ∀ c, Coupling.consistent.Rel
      ((xs.map Operand.node).allM (Builtin.contextAnd.childHolds (r.evaluator host) c document))
      ((ys.map Operand.node).allM (Builtin.contextAnd.childHolds (r'.evaluator host') c document)) := by
    intro c
    rw [allM_map, allM_map]
    refine Coupling.consistent_allM (h.imp fun x z hxz => ?_) hperm
    exact Builtin.childHolds_coupled (hxz.outcome c) _
  generalize Node.contextIn selector given document = c
  simp only [Builtin.run, Builtin.list, ok_bind]
  exact Coupling.consistent.bind (hasked c) fun _ => Coupling.consistent.ok _

/-- Reordered trees are coupled, by induction on the first one. -/
theorem coupled_reordered {n m : Node κ} (h : n.Reordered m) (hn : n.BuiltinOnly)
    (hm : m.BuiltinOnly) : Coupled .consistent r r' host host' document n m := by
  induction n using Node.induct generalizing m with
  | step n ih =>
    cases h with
    | applied hx =>
      refine coupled_of_paired hr hr' hn hm rfl rfl rfl (Coupling.consistent_reports _ _) ?_
      refine hx.imp fun k hk l hl hkl => ?_
      exact ih k hk hkl (Node.forall_nodes_child hn hk) (Node.forall_nodes_child hm hl)
    | @conjuncts selector xs zs ys h hperm =>
      refine coupled_conjuncts hr hr' (forall₂_of_mem h fun x hx z hz hxz => ?_) hperm hn hm
      have hx' : x ∈ (Operand.list (xs.map Operand.node)).children :=
        Operand.mem_children_list.mpr (List.mem_map_of_mem hx)
      have hz' : z ∈ (Operand.list (ys.map Operand.node)).children :=
        Operand.mem_children_list.mpr (List.mem_map_of_mem (hperm.mem_iff.mp hz))
      exact ih x hx' hxz (Node.forall_nodes_child hn hx') (Node.forall_nodes_child hm hz')

end Registry

/-- **The order of keys in a query never flips an answer.** When the keys of its objects are put into
another order, at any depth, a query compiles with the default registry exactly when it did; and in
every context and on every document the two filters come to the same result, or one of them fails. -/
theorem Filter.ofValue_reordered {query query' : Json} (h : query.Reordered query') :
    ((∃ f : Filter κ, ofValue Registry.defaults query = .ok f) ↔
        ∃ g : Filter κ, ofValue Registry.defaults query' = .ok g) ∧
      ∀ f g : Filter κ, ofValue Registry.defaults query = .ok f →
        ofValue Registry.defaults query' = .ok g → ∀ host context document,
          f.evaluate host context document = g.evaluate host context document ∨
            (∃ e, f.evaluate host context document = .error e) ∨
            ∃ e, g.evaluate host context document = .error e := by
  have hbuiltins := Registry.defaults_holdsBuiltins (κ := κ)
  have htrees := (Registry.readAlike_reordered hbuiltins h).filter false
  refine ⟨?_, fun f g hf hg host context document => ?_⟩
  · rw [exists_ofValue, exists_ofValue]
    exact htrees.exists_ok_iff
  · rw [ofValue_eq, map_eq_ok] at hf hg
    obtain ⟨n, hn, rfl⟩ := hf
    obtain ⟨m, hm, rfl⟩ := hg
    have hreordered : n.Reordered m := htrees.of_ok hn hm
    have hbuiltin : ∀ {raw : Json} {k : Node κ}, Registry.defaults.nodeOf raw false = .ok k →
        k.BuiltinOnly :=
      fun hk => Registry.builtinOnly_of_formed (Registry.nodeOf_formed hbuiltins hk)
    have hcoupled : Coupled .consistent Registry.defaults Registry.defaults host host document n m :=
      Registry.coupled_reordered hbuiltins hbuiltins hreordered (hbuiltin hn) (hbuiltin hm)
    have houtcome := hcoupled.outcome context
    show Registry.defaults.evaluate host n context document =
        Registry.defaults.evaluate host m context document ∨ _
    cases hleft : Registry.defaults.evaluate host n context document with
    | error e => exact .inr (.inl ⟨e, hleft⟩)
    | ok v =>
      cases hright : Registry.defaults.evaluate host m context document with
      | error e => exact .inr (.inr ⟨e, hright⟩)
      | ok w =>
        rw [hleft, hright] at houtcome
        exact .inl (congrArg Except.ok (houtcome v w rfl rfl))

/-- Two members change places, and two conditions under one of them. The first order stops before
the pattern that the document supplies, and the second one may not. -/
theorem Filter.ofValue_reordered_failing :
    ∃ (query query' document : Json) (f g : Filter Empty),
      query = .object [("b", .object [("$exists", .bool true), ("$eq", .bool true)]),
        ("a", .object [("$regex", .object [("$val", .string "p")])])] ∧
      query' = .object [("a", .object [("$regex", .object [("$val", .string "p")])]),
        ("b", .object [("$eq", .bool true), ("$exists", .bool true)])] ∧
      document = .object [("a", .string "x"), ("p", .string "("), ("b", .bool false)] ∧
      query.Reordered query' ∧
      ofValue Registry.defaults query = .ok f ∧ ofValue Registry.defaults query' = .ok g ∧
      f.evaluate Host.none none document = .ok (some (.bool false)) ∧
      (g.evaluate Host.none none document = .ok (some (.bool false)) ∨
        ∃ e, g.evaluate Host.none none document = .error e) := by
  have hreordered : (Json.object [("b", .object [("$exists", .bool true), ("$eq", .bool true)]),
        ("a", .object [("$regex", .object [("$val", .string "p")])])]).Reordered
      (.object [("a", .object [("$regex", .object [("$val", .string "p")])]),
        ("b", .object [("$eq", .bool true), ("$exists", .bool true)])]) :=
    .tail (.single (.keys (.swap _ _ _))) (.member [_] [] "b" (.keys (.swap _ _ _)))
  obtain ⟨f, g, hf, hg, hanswer⟩ : ∃ f g : Filter Empty,
      ofValue Registry.defaults (.object [("b", .object [("$exists", .bool true),
        ("$eq", .bool true)]), ("a", .object [("$regex", .object [("$val", .string "p")])])]) =
          .ok f ∧
      ofValue Registry.defaults (.object [("a", .object [("$regex", .object [("$val", .string "p")])]),
        ("b", .object [("$eq", .bool true), ("$exists", .bool true)])]) = .ok g ∧
      f.evaluate Host.none none
        (.object [("a", .string "x"), ("p", .string "("), ("b", .bool false)]) =
          .ok (some (.bool false)) := ⟨_, _, rfl, rfl, rfl⟩
  have hsame := (Filter.ofValue_reordered hreordered).2 f g hf hg Host.none none
    (.object [("a", .string "x"), ("p", .string "("), ("b", .bool false)])
  refine ⟨_, _, _, f, g, rfl, rfl, rfl, hreordered, hf, hg, hanswer, ?_⟩
  rcases hsame with hequal | ⟨e, herror⟩ | herror
  · exact .inl (hequal.symm.trans hanswer)
  · rw [hanswer] at herror
    cases herror
  · exact .inr herror

end DocFilter
