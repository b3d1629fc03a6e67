import DocFilter.Filter.Tree
import DocFilter.Proofs.Except

/-!
# The nodes of a tree

A compiled query is walked in two ways: through all its nodes, at any depth, when something is
said of the whole tree, and from a node to the nodes that stand directly in its operand, when an
induction goes down the tree. `Node.nodes` lists the former, `Operand.children` the latter, and
`Node.induct` is the induction.

The selectors of a tree are those that its nodes carry and those that are operands:

> `Node.mem_selectors`: `s ∈ n.selectors` says that some node of the tree selects by `s` or has
> `s` for its operand.
-/

namespace DocFilter

variable {κ : Type}

/-! ## Operands -/

/-- The node that an operand is, if it is one. -/
def Operand.node? : Operand κ → Option (Node κ)
  | .node n => some n
  | _ => none

/-- The operands in a list; there are none in other operands. -/
def Operand.items : Operand κ → List (Operand κ)
  | .list items => items
  | _ => []

/-- The nodes that stand directly in an operand: the operand itself, or elements of its list. -/
def Operand.children (x : Operand κ) : List (Node κ) :=
  x.node?.toList ++ x.items.filterMap Operand.node?

theorem Operand.node?_eq_some {x : Operand κ} {n : Node κ} : x.node? = some n ↔ x = .node n := by
  cases x <;> simp [Operand.node?]

theorem Operand.mem_children_list {xs : List (Operand κ)} {n : Node κ} :
    n ∈ (Operand.list xs).children ↔ .node n ∈ xs := by
  show n ∈ [] ++ xs.filterMap node? ↔ _
  rw [List.nil_append, List.mem_filterMap]
  simp only [node?_eq_some, exists_eq_right]

theorem Operand.mem_children_of_mem_items {x : Operand κ} {n : Node κ} (h : .node n ∈ x.items) :
    n ∈ x.children :=
  List.mem_append_right _ (List.mem_filterMap.mpr ⟨.node n, h, rfl⟩)

theorem Operand.items_ofValue (v : Option Json) : (Operand.ofValue v : Operand κ).items = [] := by
  cases v <;> rfl

theorem Operand.children_ofValue (v : Option Json) :
    (Operand.ofValue v : Operand κ).children = [] := by
  cases v <;> rfl

/-! ## Depth -/

theorem depth_le_depthOfItems {x : Operand κ} :
    ∀ {items : List (Operand κ)}, x ∈ items → x.depth ≤ depthOfItems items
  | y :: items, h => by
    rw [depthOfItems]
    rcases List.mem_cons.mp h with rfl | h'
    · exact Nat.le_max_left _ _
    · exact Nat.le_trans (depth_le_depthOfItems h') (Nat.le_max_right _ _)

/-- A list is deeper than each of its elements. -/
theorem Operand.depth_lt_of_mem_items {x y : Operand κ} (h : y ∈ x.items) :
    y.depth < x.depth := by
  cases x with
  | list items => exact Nat.lt_succ_of_le (depth_le_depthOfItems h)
  | _ => exact absurd h (by simp [Operand.items])

theorem Operand.depth_le_of_mem_children {x : Operand κ} {n : Node κ} (h : n ∈ x.children) :
    n.depth ≤ x.depth := by
  rcases List.mem_append.mp h with h' | h'
  · obtain rfl := node?_eq_some.mp (Option.mem_toList.mp h')
    exact Nat.le_refl _
  · obtain ⟨y, hy, hn⟩ := List.mem_filterMap.mp h'
    obtain rfl := node?_eq_some.mp hn
    exact Nat.le_of_lt (depth_lt_of_mem_items (y := .node n) hy)

theorem Operand.depth_ofValue (v : Option Json) : (Operand.ofValue v : Operand κ).depth = 0 := by
  cases v <;> rfl

theorem Node.depth_eq (n : Node κ) : n.depth = n.operand.depth + 1 := by
  obtain ⟨selector, operator, operand⟩ := n
  rfl

/-- Induction on a tree: what a node inherits from the nodes in its operand, every node has. -/
theorem Node.induct {P : Node κ → Prop}
    (step : ∀ n : Node κ, (∀ m ∈ n.operand.children, P m) → P n) (n : Node κ) : P n := by
  induction hd : n.depth using Nat.strongRecOn generalizing n with
  | ind d ih =>
    subst hd
    refine step n fun m hm => ih m.depth ?_ m rfl
    have hle := Operand.depth_le_of_mem_children hm
    rw [n.depth_eq]
    omega

/-! ## All nodes -/

mutual

/-- The nodes of a tree, its root first. -/
def Node.nodes : Node κ → List (Node κ)
  | ⟨selector, operator, operand⟩ => ⟨selector, operator, operand⟩ :: operand.nodes
termination_by structural n => n

/-- The nodes in an operand, at any depth. -/
def Operand.nodes : Operand κ → List (Node κ)
  | .node n => n.nodes
  | .list items => nodesOfItems items
  | .value _ | .absent | .pattern _ | .selector _ => []
termination_by structural x => x

def nodesOfItems : List (Operand κ) → List (Node κ)
  | [] => []
  | item :: items => item.nodes ++ nodesOfItems items
termination_by structural items => items

end

theorem Node.nodes_eq (n : Node κ) : n.nodes = n :: n.operand.nodes := by
  obtain ⟨selector, operator, operand⟩ := n
  rfl

theorem Node.mem_nodes {m n : Node κ} : m ∈ n.nodes ↔ m = n ∨ m ∈ n.operand.nodes := by
  rw [n.nodes_eq, List.mem_cons]

theorem Node.self_mem_nodes (n : Node κ) : n ∈ n.nodes :=
  mem_nodes.mpr (.inl rfl)

theorem Node.forall_nodes {P : Node κ → Prop} {n : Node κ} :
    (∀ m ∈ n.nodes, P m) ↔ P n ∧ ∀ m ∈ n.operand.nodes, P m := by
  rw [n.nodes_eq, List.forall_mem_cons]

theorem mem_nodesOfItems {m : Node κ} :
    ∀ {items : List (Operand κ)}, m ∈ nodesOfItems items ↔ ∃ x ∈ items, m ∈ x.nodes
  | [] => by simp [nodesOfItems]
  | item :: items => by
    rw [nodesOfItems, List.mem_append, mem_nodesOfItems]
    simp only [List.mem_cons, exists_eq_or_imp]

theorem Operand.mem_nodes_list {items : List (Operand κ)} {m : Node κ} :
    m ∈ (Operand.list items).nodes ↔ ∃ x ∈ items, m ∈ x.nodes :=
  mem_nodesOfItems

theorem Operand.nodes_ofValue (v : Option Json) :
    (Operand.ofValue v : Operand κ).nodes = [] := by
  cases v <;> rfl

mutual

/-- No node of a tree is deeper than the tree. -/
theorem Node.depth_le_of_mem_nodes {m : Node κ} : ∀ n : Node κ, m ∈ n.nodes → m.depth ≤ n.depth
  | ⟨selector, operator, operand⟩, h => by
    rcases Node.mem_nodes.mp h with rfl | h'
    · exact Nat.le_refl _
    · exact Nat.le_succ_of_le (Operand.depth_le_of_mem_nodes operand h')

theorem Operand.depth_le_of_mem_nodes {m : Node κ} :
    ∀ x : Operand κ, m ∈ x.nodes → m.depth ≤ x.depth
  | .node n, h => Node.depth_le_of_mem_nodes n h
  | .list items, h => Nat.le_succ_of_le (depth_le_of_mem_nodesOfItems items h)
  | .value _, h | .absent, h | .pattern _, h | .selector _, h => absurd h List.not_mem_nil

theorem depth_le_of_mem_nodesOfItems {m : Node κ} :
    ∀ items : List (Operand κ), m ∈ nodesOfItems items → m.depth ≤ depthOfItems items
  | [], h => absurd h List.not_mem_nil
  | item :: items, h => by
    rcases List.mem_append.mp h with h' | h'
    · exact Nat.le_trans (Operand.depth_le_of_mem_nodes item h') (Nat.le_max_left _ _)
    · exact Nat.le_trans (depth_le_of_mem_nodesOfItems items h') (Nat.le_max_right _ _)

end

mutual

/-- A node of a node of a tree is a node of the tree. -/
theorem Node.nodes_trans {k m : Node κ} (hk : k ∈ m.nodes) : ∀ n : Node κ, m ∈ n.nodes → k ∈ n.nodes
  | ⟨selector, operator, operand⟩, h => by
    rcases Node.mem_nodes.mp h with rfl | h'
    · exact hk
    · exact Node.mem_nodes.mpr (.inr (Operand.nodes_trans hk operand h'))

theorem Operand.nodes_trans {k m : Node κ} (hk : k ∈ m.nodes) :
    ∀ x : Operand κ, m ∈ x.nodes → k ∈ x.nodes
  | .node n, h => Node.nodes_trans hk n h
  | .list items, h => nodesOfItems_trans hk items h
  | .value _, h | .absent, h | .pattern _, h | .selector _, h => absurd h List.not_mem_nil

theorem nodesOfItems_trans {k m : Node κ} (hk : k ∈ m.nodes) :
    ∀ items : List (Operand κ), m ∈ nodesOfItems items → k ∈ nodesOfItems items
  | [], h => absurd h List.not_mem_nil
  | item :: items, h => by
    rcases List.mem_append.mp h with h' | h'
    · exact List.mem_append_left _ (Operand.nodes_trans hk item h')
    · exact List.mem_append_right _ (nodesOfItems_trans hk items h')

end

/-- The nodes of a child are nodes of the operand. -/
theorem Operand.mem_nodes_of_mem_items {x y : Operand κ} (hy : y ∈ x.items) {m : Node κ}
    (h : m ∈ y.nodes) : m ∈ x.nodes := by
  cases x with
  | list items => exact mem_nodes_list.mpr ⟨y, hy, h⟩
  | _ => exact absurd hy List.not_mem_nil

theorem Operand.mem_nodes_of_mem_children {x : Operand κ} {n m : Node κ} (hn : n ∈ x.children)
    (hm : m ∈ n.nodes) : m ∈ x.nodes := by
  cases x with
  | node k =>
    obtain rfl := List.mem_singleton.mp hn
    exact hm
  | list items => exact mem_nodes_list.mpr ⟨.node n, mem_children_list.mp hn, hm⟩
  | _ => exact absurd hn (by simp [Operand.children, Operand.node?, Operand.items])

/-- What holds of all nodes of a tree holds of all nodes of each child. -/
theorem Node.forall_nodes_child {P : Node κ → Prop} {n m : Node κ} (h : ∀ k ∈ n.nodes, P k)
    (hm : m ∈ n.operand.children) : ∀ k ∈ m.nodes, P k :=
  fun k hk => h k (mem_nodes.mpr (.inr (Operand.mem_nodes_of_mem_children hm hk)))

/-! ## Selectors -/

/-- The selector that an operand is, if it is one. -/
def Operand.selector? : Operand κ → Option Selector
  | .selector s => some s
  | _ => none

/-- The selectors of a tree: those by which its nodes select, and those that are operands. -/
def Node.selectors (n : Node κ) : List Selector :=
  n.nodes.flatMap fun m => m.selector.toList ++ m.operand.selector?.toList

theorem Operand.selector?_eq_some {x : Operand κ} {s : Selector} :
    x.selector? = some s ↔ x = .selector s := by
  cases x <;> simp [Operand.selector?]

theorem Node.mem_selectors {n : Node κ} {s : Selector} :
    s ∈ n.selectors ↔ ∃ m ∈ n.nodes, m.selector = some s ∨ m.operand = .selector s := by
  simp only [selectors, List.mem_flatMap, List.mem_append, Option.mem_toList,
    Operand.selector?_eq_some]

/-! ## Two operands -/

namespace Operand

/-- Neither a node nor a list. -/
def isLeaf : Operand κ → Bool
  | .node _ | .list _ => false
  | .value _ | .absent | .pattern _ | .selector _ => true

/-- The same leaf twice, or two nodes that are related. -/
inductive ItemPaired (R : Node κ → Node κ → Prop) : Operand κ → Operand κ → Prop
  | leaf {x : Operand κ} (h : x.isLeaf = true) : ItemPaired R x x
  | node {n m : Node κ} (h : R n m) : ItemPaired R (.node n) (.node m)

/-- Two operands of one form in which the nodes are related place by place. Lists hold no lists,
as in all that the compiler makes. -/
inductive Paired (R : Node κ → Node κ → Prop) : Operand κ → Operand κ → Prop
  | item {x y : Operand κ} (h : ItemPaired R x y) : Paired R x y
  | list {xs ys : List (Operand κ)} (h : List.Forall₂ (ItemPaired R) xs ys) :
      Paired R (.list xs) (.list ys)

variable {R S : Node κ → Node κ → Prop} {x y : Operand κ}

theorem ItemPaired.imp (h : ItemPaired R x y)
    (himp : ∀ n m, x = .node n → y = .node m → R n m → S n m) : ItemPaired S x y := by
  cases h with
  | leaf hx => exact .leaf hx
  | node h => exact .node (himp _ _ rfl rfl h)

/-- The relation matters at the children only. -/
theorem Paired.imp (h : Paired R x y)
    (himp : ∀ n ∈ x.children, ∀ m ∈ y.children, R n m → S n m) : Paired S x y := by
  cases h with
  | item h =>
    refine .item (h.imp ?_)
    rintro n m rfl rfl
    exact himp n (.head _) m (.head _)
  | list h =>
    refine .list (forall₂_of_mem h fun x hx y hy hxy => hxy.imp ?_)
    rintro n m rfl rfl
    exact himp n (mem_children_list.mpr hx) m (mem_children_list.mpr hy)

theorem paired_ofValue (v : Option Json) :
    Paired R (.ofValue v : Operand κ) (.ofValue v) := by
  cases v <;> exact .item (.leaf rfl)

/-- Operands that are paired are two nodes or none. -/
theorem Paired.node? (h : Paired R x y) :
    (x.node? = none ∧ y.node? = none) ∨ ∃ n m, x = .node n ∧ y = .node m ∧ R n m := by
  cases h with
  | list => exact .inl ⟨rfl, rfl⟩
  | item h =>
    cases h with
    | node h => exact .inr ⟨_, _, rfl, rfl, h⟩
    | leaf hx =>
      cases x with
      | node | list => cases hx
      | _ => exact .inl ⟨rfl, rfl⟩

/-- When the second node is always the image of the first one, so is the operand. -/
theorem Paired.eq_image {f : Node κ → Node κ} {F : Operand κ → Operand κ}
    (hleaf : ∀ x, x.isLeaf = true → F x = x) (hnode : ∀ n, F (.node n) = .node (f n))
    (hlist : ∀ xs, F (.list xs) = .list (xs.map F)) (h : Paired (fun n m => m = f n) x y) :
    y = F x := by
  have hitem : ∀ {x y : Operand κ}, ItemPaired (fun n m => m = f n) x y → y = F x := by
    intro x y h
    cases h with
    | leaf hx => exact (hleaf _ hx).symm
    | node h => rw [hnode, h]
  cases h with
  | item h => exact hitem h
  | list h =>
    rw [hlist, Operand.list.injEq]
    induction h with
    | nil => rfl
    | cons hxy _ ih => rw [List.map_cons, ← hitem hxy, ← ih]

theorem Paired.eq (h : Paired Eq x y) : x = y := by
  have hsame : Paired (fun n m => m = id n) x y := h.imp fun _ _ _ _ => Eq.symm
  refine (hsame.eq_image (F := id) (fun _ _ => rfl) (fun _ => rfl) fun xs => ?_).symm
  rw [List.map_id]
  rfl

end Operand

end DocFilter
