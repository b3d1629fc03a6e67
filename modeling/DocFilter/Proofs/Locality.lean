import DocFilter.Proofs.Footprint

/-!
# What the conditions on a field read

The conditions on a field are about its value, and the filters nested in them take that value for
their context: a node selects only when it has no context. But having no context is all the same
whether none was given or the field is absent. A nested node that is reached with nothing at hand
selects from the document, and so a condition on an absent field can turn on other fields.

`Node.unbound` lists the selectors that are met with nothing at hand. Apart from the operators that
name other fields, they are all that the conditions on a field read besides the field:

> `Filter.matches?_eq_of_field`: two documents that agree on a field get the same answer when the
> field is there and nothing rounds, and otherwise when the nested selectors that are met with
> nothing at hand resolve alike in them.

In the former case there are no such selectors, for something is at hand all the way down
(`Node.unboundBelow_eq_nil`).
-/

namespace DocFilter

variable {κ : Type}

/-! ## Contexts on the way down -/

/-- What an operation produces for the node that it hands its result on to. Rounding can produce
nothing. -/
def Builtin.next (operation : Builtin) (c : Option Json) : Option Json :=
  match operation with
  | rounded rounding => rounding.value? c
  | _ => some (.bool false)

/-- The context in which a node evaluates the nodes in its operand, if it does. -/
def Node.hands? (n : Node κ) (c : Option Json) : Option (Option Json) :=
  match n.operator.body, n.operand with
  | .builtin operation, .node inner =>
    some (if n.operator.rightHanded || inner.operator.rightHanded then c else operation.next c)
  | .builtin operation, .list _ => operation.asks? c
  | _, _ => none

mutual

/-- The selectors of a tree that are met with nothing at hand, when it is evaluated in a context. -/
def Node.unbound : Node κ → Option Json → Json → List Selector
  | ⟨selector, operator, operand⟩, given, document =>
    (if given.isNone then selector.toList else []) ++
      match Node.hands? ⟨selector, operator, operand⟩
          (Node.contextIn selector given document) with
      | some c => operand.unbound c document
      | none => []
termination_by structural n => n

/-- The selectors in an operand that are met with nothing at hand. -/
def Operand.unbound : Operand κ → Option Json → Json → List Selector
  | .node n, c, document => n.unbound c document
  | .list items, c, document => unboundOfItems items c document
  | .value _, _, _ | .absent, _, _ | .pattern _, _, _ | .selector _, _, _ => []
termination_by structural x => x

def unboundOfItems : List (Operand κ) → Option Json → Json → List Selector
  | [], _, _ => []
  | item :: items, c, document => item.unbound c document ++ unboundOfItems items c document
termination_by structural items => items

end

/-- The selectors below a node that are met with nothing at hand, the node having a context. -/
def Node.unboundBelow (n : Node κ) (c : Option Json) (document : Json) : List Selector :=
  match n.hands? c with
  | some c => n.operand.unbound c document
  | none => []

theorem Node.unbound_eq (n : Node κ) (given : Option Json) (document : Json) :
    n.unbound given document = (if given.isNone then n.selector.toList else []) ++
      n.unboundBelow (contextIn n.selector given document) document := by
  obtain ⟨selector, operator, operand⟩ := n
  rfl

theorem mem_unboundOfItems {s : Selector} {c : Option Json} {document : Json} :
    ∀ {items : List (Operand κ)},
      s ∈ unboundOfItems items c document ↔ ∃ x ∈ items, s ∈ x.unbound c document
  | [] => by simp [unboundOfItems]
  | item :: items => by
    rw [unboundOfItems, List.mem_append, mem_unboundOfItems]
    simp only [List.mem_cons, exists_eq_or_imp]

/-- What is met in a child is met in the operand. -/
theorem Operand.mem_unbound_of_mem_children {x : Operand κ} {m : Node κ} (hm : m ∈ x.children)
    {s : Selector} {c : Option Json} {document : Json} (hs : s ∈ m.unbound c document) :
    s ∈ x.unbound c document := by
  cases x with
  | node n =>
    obtain rfl := List.mem_singleton.mp hm
    exact hs
  | list items => exact mem_unboundOfItems.mpr ⟨.node m, mem_children_list.mp hm, hs⟩
  | _ => exact absurd hm (by simp [Operand.children, Operand.node?, Operand.items])

/-! ## Two documents -/

/-- An operation that is handed a node gives it nothing but this, when it does not fail. -/
theorem Builtin.run_node {ev : Evaluator κ MatchError} {operation : Builtin} {c v : Option Json}
    {m : Node κ} {document : Json}
    (hequal : ∀ c y, ev.call equal.name c y document = equal.run ev c y document)
    (hne : operation ≠ difference) (h : operation.run ev c (.node m) document = .ok v) :
    v = operation.next c := by
  cases operation with
  | difference => exact absurd rfl hne
  | notEqual =>
    simp only [run, Evaluator.equals, hequal] at h
    cases h
  | rounded rounding =>
    cases h
    rfl
  | regex =>
    simp only [run] at h
    split at h
    · cases h
    · cases h
      rfl
  | _ => cases h

/-- No node of the tree names another field: none has a selector for its operand, and none
subtracts. -/
def Node.NamesNoField (n : Node κ) : Prop :=
  ∀ m ∈ n.nodes, (∀ s, m.operand ≠ .selector s) ∧ m.operator.body ≠ .builtin .difference

namespace Registry

variable {r : Registry κ} {host : Host κ} {d₁ d₂ : Json}

/-- **A tree that names no other field reads the selectors that it meets with nothing at hand.** -/
theorem evaluate_congr_unbound (hr : r.HoldsBuiltins) {n : Node κ} (hn : n.BuiltinOnly)
    (hnames : n.NamesNoField) {given : Option Json}
    (hs : ∀ s ∈ n.unbound given d₁, s.resolve d₁ = s.resolve d₂) :
    r.evaluate host n given d₁ = r.evaluate host n given d₂ := by
  induction n using Node.induct generalizing given with
  | step n ih =>
    obtain ⟨operation, hop⟩ := hn n n.self_mem_nodes
    obtain ⟨hoperand, hdifference⟩ := hnames n n.self_mem_nodes
    rw [n.unbound_eq] at hs
    have hcontext : Node.contextIn n.selector given d₂ = Node.contextIn n.selector given d₁ := by
      cases given with
      | some c => rfl
      | none =>
        cases hselector : n.selector with
        | none => rfl
        | some s =>
          refine (hs s (List.mem_append_left _ ?_)).symm
          rw [hselector]
          exact List.mem_singleton_self s
    -- a child is evaluated in the context that the node hands down
    have hchild : ∀ m ∈ n.operand.children, ∀ c,
        n.hands? (Node.contextIn n.selector given d₁) = some c →
          r.evaluate host m c d₁ = r.evaluate host m c d₂ := by
      intro m hm c hc
      refine ih m hm (Node.forall_nodes_child hn hm) (Node.forall_nodes_child hnames hm) ?_
      intro s hsm
      refine hs s (List.mem_append_right _ ?_)
      rw [Node.unboundBelow, hc]
      exact Operand.mem_unbound_of_mem_children hm hsm
    have hinner : ∀ m, n.operand = .node m → m ∈ n.operand.children :=
      fun m hm => hm ▸ List.mem_singleton_self m
    have hhands : ∀ m, n.operand = .node m →
        n.hands? (Node.contextIn n.selector given d₁) =
          some (if n.operator.rightHanded || m.operator.rightHanded
            then Node.contextIn n.selector given d₁
            else operation.next (Node.contextIn n.selector given d₁)) := by
      intro m hm
      simp only [Node.hands?, hop, hm]
    -- the nodes that are asked, the one that is subtracted, and the one in the operand
    refine evaluate_congr_node hr hn hop rfl hcontext ?_ (fun s h => absurd h (hoperand s)) ?_ ?_ ?_
    · intro c hc m hm
      refine hchild m (Operand.mem_children_of_mem_items hm) c ?_
      cases hx : n.operand with
      | list items =>
        simp only [Node.hands?, hop, hx]
        exact hc
      | _ =>
        rw [hx] at hm
        exact absurd hm List.not_mem_nil
    · intro h
      rw [h] at hop
      exact absurd hop hdifference
    · intro m hm hside
      refine hchild m (hinner m hm) _ ?_
      rw [hhands m hm, if_pos hside]
    · intro m hm hside v hv
      refine hchild m (hinner m hm) v ?_
      rw [hhands m hm, if_neg (by rw [hside]; exact Bool.false_ne_true)]
      rw [perform_builtin hop, hm] at hv
      have hne : operation ≠ .difference := fun h => hdifference (h ▸ hop)
      exact congrArg some (Builtin.run_node
        (fun c y => evaluator_equal hr (r.evaluator host) c y d₁) hne hv).symm

end Registry

/-! ## Something at hand -/

/-- Whether an operation can leave the nodes in its operand with nothing at hand although it has
something: rounding does when that is no number, and some operations start over. -/
def Builtin.releases : Builtin → Bool
  | rounded _ | conjunction | disjunction | neither => true
  | _ => false

/-- What a node hands down when it has something at hand and does not release it. -/
theorem Node.exists_of_hands? {n : Node κ}
    (hn : ∀ operation, n.operator.body = .builtin operation → operation.releases = false) {v : Json}
    {c : Option Json} (h : n.hands? (some v) = some c) : ∃ w, c = some w := by
  unfold hands? at h
  split at h
  case h_1 operation inner hop _ =>
    cases hside : n.operator.rightHanded || inner.operator.rightHanded with
    | true =>
      rw [if_pos hside] at h
      exact ⟨v, (Option.some.inj h).symm⟩
    | false =>
      rw [if_neg (by rw [hside]; exact Bool.false_ne_true)] at h
      have hreleases := hn operation hop
      cases operation with
      | rounded => cases hreleases
      | _ => exact ⟨.bool false, (Option.some.inj h).symm⟩
  case h_2 operation _ hop _ =>
    have hreleases := hn operation hop
    cases operation with
    | conjunction | disjunction | neither => cases hreleases
    | contextAnd | contextOr => exact ⟨v, (Option.some.inj h).symm⟩
    | _ => cases h
  case h_3 => cases h

/-- None of these nodes releases the value at hand. -/
def NoneReleases (nodes : List (Node κ)) : Prop :=
  ∀ m ∈ nodes, ∀ operation, m.operator.body = .builtin operation → operation.releases = false

mutual

/-- **A value that is never released binds every selector below.** -/
theorem Node.unboundBelow_eq_nil : ∀ n : Node κ, NoneReleases n.nodes →
    ∀ v document : Json, n.unboundBelow (some v) document = []
  | ⟨selector, operator, operand⟩, h, v, document => by
    rw [Node.unboundBelow]
    cases hc : Node.hands? ⟨selector, operator, operand⟩ (some v) with
    | none => rfl
    | some c =>
      obtain ⟨w, rfl⟩ := Node.exists_of_hands? (h _ (Node.self_mem_nodes _)) hc
      have hbelow := fun m hm => h m (Node.mem_nodes.mpr (.inr hm))
      exact Operand.unbound_eq_nil operand hbelow w document

theorem Operand.unbound_eq_nil : ∀ x : Operand κ, NoneReleases x.nodes →
    ∀ v document : Json, x.unbound (some v) document = []
  | .node n, h, v, document => by
    show n.unbound (some v) document = []
    rw [n.unbound_eq]
    exact Node.unboundBelow_eq_nil n h v document
  | .list items, h, v, document => unboundOfItems_eq_nil items h v document
  | .value _, _, _, _ | .absent, _, _, _ | .pattern _, _, _, _ | .selector _, _, _, _ => rfl

theorem unboundOfItems_eq_nil : ∀ items : List (Operand κ), NoneReleases (nodesOfItems items) →
    ∀ v document : Json, unboundOfItems items (some v) document = []
  | [], _, _, _ => rfl
  | item :: items, h, v, document => by
    rw [unboundOfItems,
      Operand.unbound_eq_nil item (fun m hm => h m (List.mem_append_left _ hm)) v document,
      unboundOfItems_eq_nil items (fun m hm => h m (List.mem_append_right _ hm)) v document]
    rfl

end

/-! ## Filters on one field -/

/-- A key that names no operator makes a node that selects by it. -/
theorem Registry.nodeOf_field {r : Registry κ} {key : String} (hkey : r.get? key = none)
    {raw : Json} {n : Node κ} (h : r.nodeOf (.object [(key, raw)]) false = .ok n) :
    n.selector = some ⟨key⟩ := by
  simp only [nodeOf, membersOf_cons, memberOf, hkey] at h
  obtain ⟨nodes, hnodes, h⟩ := bind_eq_ok.mp h
  obtain ⟨m, hm, hnodes⟩ := bind_eq_ok.mp hnodes
  rw [if_neg Bool.false_ne_true, fieldOf_eq] at hm
  obtain ⟨body, -, hm⟩ := bind_eq_ok.mp hm
  cases hm
  cases hnodes
  cases h
  rfl

/-- The operators that read other fields go by these names. -/
theorem Registry.namesNoField_of_formed {n : Node κ} (hn : defaults.AllFormed n.nodes)
    (hnames : ∀ m ∈ n.nodes,
      m.operator.name ∉ ["$val", "$roundRH", "$floorRH", "$ceilRH", "$sub"]) :
    n.NamesNoField := by
  intro m hm
  obtain ⟨operation, hoperator⟩ := builtin_of_formed (hn m hm)
  have hfits : (operation.operator : Operator κ).Fits m.operand := hoperator ▸ (hn m hm).fits
  have hname := hnames m hm
  rw [hoperator] at hname
  change operation.name ∉ _ at hname
  refine ⟨fun s hs => ?_, fun hbody => ?_⟩
  · rw [hs] at hfits
    cases hfits with
    | selector hkind =>
      cases operation with
      | field => exact hname (by decide)
      | roundedField rounding => cases rounding <;> exact hname (by decide)
      | _ => cases hkind
  · rw [hoperator] at hbody
    cases hbody
    exact hname (by decide)

/-- The operators that release the value at hand go by these names. -/
theorem Registry.noneReleases_of_formed {n : Node κ} (hn : defaults.AllFormed n.nodes)
    (hresets : ∀ m ∈ n.nodes, m.operator.name ∉ ["$and", "$or", "$nor"])
    (hrounds : ∀ m ∈ n.nodes, m.operator.name ∉ ["$round", "$floor", "$ceil"]) :
    NoneReleases n.nodes := by
  intro m hm operation hbody
  obtain ⟨other, hoperator⟩ := builtin_of_formed (hn m hm)
  have hreset := hresets m hm
  have hround := hrounds m hm
  rw [hoperator] at hbody hreset hround
  change other.name ∉ _ at hreset hround
  obtain rfl : other = operation := Body.builtin.inj hbody
  cases other with
  | rounded rounding => cases rounding <;> exact absurd (by decide) hround
  | conjunction | disjunction | neither => exact absurd (by decide) hreset
  | _ => rfl

theorem Filter.selector_of_field {key : String} {conditions : Json} {f : Filter κ}
    (hkey : (Registry.defaults : Registry κ).get? key = none)
    (hf : Filter.ofValue Registry.defaults (.object [(key, conditions)]) = .ok f) :
    f.root.selector = some ⟨key⟩ := by
  obtain ⟨n, hn, hf⟩ := bind_eq_ok.mp hf
  cases hf
  exact Registry.nodeOf_field hkey hn

/-- **What the conditions on a field read.** Take conditions that name no other field and do not
start over. Documents that agree on the field get the same answer if it is there and nothing
rounds it away, and otherwise if the selectors that are met with nothing at hand resolve alike. -/
theorem Filter.matches?_eq_of_field {key : String} {conditions : Json} {f : Filter κ}
    (hkey : (Registry.defaults : Registry κ).get? key = none)
    (hf : Filter.ofValue Registry.defaults (.object [(key, conditions)]) = .ok f)
    (hnames : ∀ m ∈ f.root.nodes,
      m.operator.name ∉ ["$val", "$roundRH", "$floorRH", "$ceilRH", "$sub"])
    (hresets : ∀ m ∈ f.root.nodes, m.operator.name ∉ ["$and", "$or", "$nor"])
    (host : Host κ) {d₁ d₂ : Json}
    (hfield : Selector.resolve ⟨key⟩ d₁ = Selector.resolve ⟨key⟩ d₂)
    (hbound : (Selector.resolve ⟨key⟩ d₁ ≠ none ∧
        ∀ m ∈ f.root.nodes, m.operator.name ∉ ["$round", "$floor", "$ceil"]) ∨
      ∀ s ∈ f.root.unboundBelow (Selector.resolve ⟨key⟩ d₁) d₁, s.resolve d₁ = s.resolve d₂) :
    f.matches? host d₁ = f.matches? host d₂ := by
  obtain ⟨hregistry, hformed⟩ := Filter.formed_of_ofValue hf
  have hbelow : ∀ s ∈ f.root.unboundBelow (Selector.resolve ⟨key⟩ d₁) d₁,
      s.resolve d₁ = s.resolve d₂ := by
    rcases hbound with ⟨hpresent, hrounds⟩ | hbelow
    · obtain ⟨v, hv⟩ := Option.ne_none_iff_exists'.mp hpresent
      intro s hs
      rw [hv, Node.unboundBelow_eq_nil _
        (Registry.noneReleases_of_formed hformed hresets hrounds)] at hs
      exact absurd hs List.not_mem_nil
    · exact hbelow
  have hall : ∀ s ∈ f.root.unbound none d₁, s.resolve d₁ = s.resolve d₂ := by
    intro s hs
    rw [Node.unbound_eq, Filter.selector_of_field hkey hf] at hs
    rcases List.mem_append.mp hs with h | h
    · obtain rfl := List.mem_singleton.mp h
      exact hfield
    · exact hbelow s h
  have hevaluate : f.evaluate host none d₁ = f.evaluate host none d₂ := by
    rw [Filter.evaluate, Filter.evaluate, hregistry]
    exact Registry.evaluate_congr_unbound Registry.defaults_holdsBuiltins
      (Registry.builtinOnly_of_formed hformed) (Registry.namesNoField_of_formed hformed hnames) hall
  rw [Filter.matches?, Filter.matches?, Filter.matchesIn, Filter.matchesIn, hevaluate]

/-- An absent field under a list of filters, on documents where the filters find the same. -/
theorem Filter.matches?_eq_of_field_list :
    ∃ f, Filter.ofValue (Registry.defaults : Registry Empty) (.object [("f",
        .array [.object [("g", .bool true)], .object [("h", .bool true)]])]) = .ok f ∧
      f.matches? Host.none (.object [("g", .bool true), ("k", .null)]) =
        f.matches? Host.none (.object [("g", .bool true)]) := by
  obtain ⟨f, hf, hops, hbelow⟩ : ∃ f, Filter.ofValue (Registry.defaults : Registry Empty)
        (.object [("f", .array [.object [("g", .bool true)], .object [("h", .bool true)]])]) =
          .ok f ∧
      f.root.nodes.map (fun m => m.operator.name) = ["$ctxOr", "$eq", "$eq"] ∧
      f.root.unboundBelow none (.object [("g", .bool true), ("k", .null)]) = [⟨"g"⟩, ⟨"h"⟩] :=
    ⟨_, rfl, rfl, rfl⟩
  have hkey : (Registry.defaults : Registry Empty).get? "f" = none := rfl
  have hfield : Selector.resolve ⟨"f"⟩ (.object [("g", .bool true), ("k", .null)]) =
      Selector.resolve ⟨"f"⟩ (.object [("g", .bool true)]) := rfl
  have hnames : ∀ m ∈ f.root.nodes, m.operator.name = "$ctxOr" ∨ m.operator.name = "$eq" := by
    intro m hm
    have hname := List.mem_map_of_mem (f := fun m => m.operator.name) hm
    rw [hops] at hname
    simpa using hname
  refine ⟨f, hf, Filter.matches?_eq_of_field hkey hf ?_ ?_ _ hfield (.inr ?_)⟩
  · intro m hm
    rcases hnames m hm with h | h <;> rw [h] <;> decide
  · intro m hm
    rcases hnames m hm with h | h <;> rw [h] <;> decide
  · intro s hs
    change s ∈ f.root.unboundBelow none _ at hs
    rw [hbelow] at hs
    obtain rfl | rfl : s = ⟨"g"⟩ ∨ s = ⟨"h"⟩ := by simpa using hs
    · rfl
    · rfl

/-- Without the condition on what is unbound it fails: the field is absent in both documents, and a
nested filter tells them apart by another field. -/
theorem Filter.matches?_absent_field :
    ∃ f, Filter.ofValue (Registry.defaults : Registry Empty) (.object [("f",
        .array [.object [("g", .bool true)], .object [("h", .bool true)]])]) = .ok f ∧
      f.root.nodes.map (fun m => m.operator.name) = ["$ctxOr", "$eq", "$eq"] ∧
      Selector.resolve ⟨"f"⟩ (.object [("g", .bool true)]) = none ∧
      Selector.resolve ⟨"f"⟩ (.object [("g", .bool false)]) = none ∧
      f.matches? Host.none (.object [("g", .bool true)]) = .ok true ∧
      f.matches? Host.none (.object [("g", .bool false)]) = .ok false :=
  ⟨_, rfl, rfl, rfl, rfl, rfl, rfl⟩

end DocFilter
