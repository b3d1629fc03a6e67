import DocFilter.Filter.Basic
import DocFilter.Proofs.Disabling
import DocFilter.Proofs.Reading
import DocFilter.Proofs.Shape

/-!
# Filters on one field

A filter of one key that names no operator is what stands under the key, told to select
(`Filter.ofValue_field`). Selecting is all that the key does when the filter is evaluated:

> `Registry.evaluate_select`: a node that selects is evaluated as the node without its selector, in
> the context that the selector finds.

So what holds of conditions in every context holds of them under every field. `Json.under` puts a
value under a field, or leaves it as the filter that it is.

Conditions that are no references to other fields can also stand without the field, and then

> `Filter.evaluate_field`: evaluating them under the field is evaluating them on their own, in the
> context that the field finds.

Under the field they are compiled with fields refused, and on their own they are not; that makes no
difference to what compiles under the field (`Registry.nodeOf_of_boundOf`).
-/

namespace DocFilter

variable {κ : Type}

/-! ## Compiling -/

namespace Filter

theorem ofValue_eq (r : Registry κ) (raw : Json) :
    ofValue r raw = (r.nodeOf raw false).map fun n => ⟨n, r⟩ :=
  bind_ok_eq_map _ _

/-- A filter is there when its tree is. -/
theorem exists_ofValue {r : Registry κ} {query : Json} :
    (∃ f, ofValue r query = .ok f) ↔ ∃ n, r.nodeOf query false = .ok n := by
  refine ⟨?_, ?_⟩
  · rintro ⟨f, h⟩
    obtain ⟨n, hn, -⟩ := bind_eq_ok.mp h
    exact ⟨n, hn⟩
  · rintro ⟨n, hn⟩
    exact ⟨⟨n, r⟩, bind_eq_ok.mpr ⟨n, hn, rfl⟩⟩

/-- A filter of one field is what stands under the field, told to select. -/
theorem ofValue_field {r : Registry κ} {key : String} (hkey : r.get? key = none) (raw : Json) :
    ofValue r (.object [(key, raw)]) =
      (r.boundOf raw).map fun n => ⟨{ n with selector := some ⟨key⟩ }, r⟩ := by
  rw [ofValue_eq, Registry.nodeOf_single, Registry.memberOf_field hkey]
  cases r.boundOf raw <;> rfl

end Filter

/-- A value under a field, or as the filter that it is when there is no field. -/
def Json.under : Option String → Json → Json
  | some key, raw => .object [(key, raw)]
  | none, raw => raw

/-- A single operator that is no reference is applied to its operand, and selects the field that it
stands under. -/
theorem Filter.ofValue_under_operator {r : Registry κ} {key : Option String}
    (hkey : ∀ field ∈ key, r.get? field = none) {name : String} {op : Operator κ}
    (hop : r.get? name = some op) (href : op.isReference = false) (raw : Json) :
    ofValue r (.under key (.object [(name, raw)])) =
      (r.operandOf raw op key.isSome).map fun x => ⟨⟨key.map Selector.mk, op, x⟩, r⟩ := by
  cases key with
  | none =>
    rw [Json.under, ofValue_eq, Registry.nodeOf_single, Registry.memberOf_operator hop]
    show _ = (r.operandOf raw op false).map _
    cases r.operandOf raw op false <;> rfl
  | some field =>
    rw [Json.under, ofValue_field (hkey field rfl), Registry.boundOf_single,
      Registry.conditionOf_operator hop href]
    show _ = (r.operandOf raw op true).map _
    cases r.operandOf raw op true <;> rfl

/-- A single operator under a field. -/
theorem Filter.ofValue_field_operator {r : Registry κ} {key : String} (hkey : r.get? key = none)
    {name : String} {op : Operator κ} (hop : r.get? name = some op) (href : op.isReference = false)
    (raw : Json) :
    ofValue r (.object [(key, .object [(name, raw)])]) =
      (r.operandOf raw op true).map fun x => ⟨⟨some ⟨key⟩, op, x⟩, r⟩ := by
  have hunder : ∀ field ∈ some key, r.get? field = none := by
    rintro field ⟨⟩
    exact hkey
  exact ofValue_under_operator hunder hop href raw

/-! ## Evaluating -/

/-- Without a selector the context is the one that is given. -/
theorem Node.contextIn_none (given : Option Json) (document : Json) :
    contextIn none given document = given := by
  cases given <;> rfl

theorem Node.contextIn_plain (op : Operator κ) (x : Operand κ) (given : Option Json)
    (document : Json) : contextIn (plain op x).selector given document = given :=
  contextIn_none given document

/-- **A selector binds the context and does nothing else.** -/
theorem Registry.evaluate_select (r : Registry κ) (host : Host κ) {n : Node κ}
    (hn : n.selector = none) (selector : Option Selector) (given : Option Json) (document : Json) :
    r.evaluate host { n with selector } given document =
      r.evaluate host n (Node.contextIn selector given document) document := by
  obtain ⟨_, operator, operand⟩ := n
  obtain rfl := hn
  -- the two runs are the same at every depth, so their limits are
  cases operand with
  | node inner =>
    simp only [Registry.evaluate, Node.depth, Node.evaluateWith, Node.contextIn_none]
  | _ => simp only [Registry.evaluate, Node.depth, Node.evaluateWith, Node.contextIn_none]

/-- The conditions of a filter, apart from the field that they are on. -/
def Filter.conditions (f : Filter κ) : Filter κ :=
  ⟨{ f.root with selector := none }, f.registry⟩

/-! ## Conditions without their field -/

namespace Registry

/-- Conditions on a field that are operators and no references are the members of a filter as they
stand. -/
theorem membersOf_of_conditionsOf {r : Registry κ} {members : Members}
    (href : ∀ m ∈ members, ∀ op, r.get? m.1 = some op → op.isReference = false)
    {nodes : List (Node κ)} (h : r.conditionsOf members = .ok nodes) :
    r.membersOf members true = .ok nodes := by
  rw [conditionsOf_eq_mapM] at h
  rw [membersOf_eq_mapM, ← h]
  -- the two readings differ on keys that are fields, of which there are none, and on references
  refine mapM_congr fun m hm => ?_
  obtain ⟨n, -, hn⟩ := exists_of_mapM_eq_ok h m hm
  cases hop : r.get? m.1 with
  | none =>
    rw [conditionOf, hop] at hn
    cases hn
  | some op => rw [memberOf_operator hop, conditionOf_operator hop (href m hm op hop)]

/-- What such conditions are compiled to under a field, they are compiled to as a filter. -/
theorem nodeOf_of_boundOf {r : Registry κ} {members : Members}
    (href : ∀ m ∈ members, ∀ op, r.get? m.1 = some op → op.isReference = false) {n : Node κ}
    (h : r.boundOf (.object members) = .ok n) : r.nodeOf (.object members) true = .ok n := by
  obtain ⟨-, -, h⟩ := bind_eq_ok.mp h
  obtain ⟨nodes, hnodes, h⟩ := bind_eq_ok.mp h
  rw [nodeOf, membersOf_of_conditionsOf href hnodes]
  exact h

end Registry

/-- **A field binds the context.** Conditions under a field that are no references compile on their
own to the same tree without the selector at its root; and to evaluate them under the field, with no
context given, is to evaluate them on their own in the context that the field finds. -/
theorem Filter.evaluate_field {r : Registry κ} {key : String} (hkey : r.get? key = none)
    {members : Members}
    (href : ∀ m ∈ members, ∀ op, r.get? m.1 = some op → op.isReference = false) {f : Filter κ}
    (hf : ofValue r (.object [(key, .object members)]) = .ok f) :
    ∃ c, ofValue r (.object members) = .ok c ∧ f.root.selector = some ⟨key⟩ ∧
      c.root = { f.root with selector := none } ∧ ∀ host document,
        f.evaluate host none document =
          c.evaluate host (Selector.resolve ⟨key⟩ document) document := by
  rw [ofValue_field hkey] at hf
  obtain ⟨n, hn, rfl⟩ := map_eq_ok.mp hf
  have hfilter : r.nodeOf (.object members) false = .ok n :=
    Registry.nodeOf_of_disabled (Registry.nodeOf_of_boundOf href hn)
  have hselector : n.selector = none := Registry.boundOf_selector hn
  refine ⟨⟨n, r⟩, ?_, rfl, ?_, fun host document => ?_⟩
  · rw [ofValue_eq, hfilter]
    rfl
  · obtain ⟨_, operator, operand⟩ := n
    cases hselector
    rfl
  · exact r.evaluate_select host hselector (some ⟨key⟩) none document

/-- An operator of the host beside a condition of the query language, on a document without the
field. -/
theorem Filter.evaluate_field_absent :
    ∃ (r : Registry Unit) (f c : Filter Unit),
      r = Registry.defaults.insert ⟨"$take", .operator, 0, none, true, .custom ()⟩ ∧
      ofValue r (.object [("f", .object [("$take", .object [("$exists", .bool true)]),
        ("$in", .array [.bool true, .null])])]) = .ok f ∧
      ofValue r (.object [("$take", .object [("$exists", .bool true)]),
        ("$in", .array [.bool true, .null])]) = .ok c ∧
      f.evaluate (fun _ given _ _ => .done (.ok given)) none (.object [("g", .null)]) =
        c.evaluate (fun _ given _ _ => .done (.ok given)) none (.object [("g", .null)]) := by
  obtain ⟨r, f, hregistry, hkey, htake, hin, hf⟩ : ∃ (r : Registry Unit) (f : Filter Unit),
      r = Registry.defaults.insert ⟨"$take", .operator, 0, none, true, .custom ()⟩ ∧
      r.get? "f" = none ∧
      r.get? "$take" = some ⟨"$take", .operator, 0, none, true, .custom ()⟩ ∧
      r.get? "$in" = some Builtin.anyOf.operator ∧
      ofValue r (.object [("f", .object [("$take", .object [("$exists", .bool true)]),
        ("$in", .array [.bool true, .null])])]) = .ok f := ⟨_, _, rfl, rfl, rfl, rfl, rfl⟩
  have href : ∀ m ∈ [("$take", Json.object [("$exists", .bool true)]),
        ("$in", .array [.bool true, .null])],
      ∀ op, r.get? m.1 = some op → op.isReference = false := by
    intro m hm op hop
    rcases List.mem_cons.mp hm with rfl | hm
    · cases htake.symm.trans hop
      rfl
    · cases List.mem_singleton.mp hm
      cases hin.symm.trans hop
      rfl
  obtain ⟨c, hc, -, -, hevaluate⟩ := Filter.evaluate_field hkey href hf
  exact ⟨r, f, c, hregistry, hf, hc, hevaluate _ _⟩

end DocFilter
