import DocFilter.Filter.Basic
import DocFilter.Proofs.Correspondence

/-!
# Renaming the keys of a query

`Json.rename` renames the keys of a query. What a key means is its look-up in the registry, and the
compiler sees nothing else of it, so the query and the renamed one are read alike whenever each key
that the query has (`Json.allKeys`) matches the one that it is renamed to:

> `Registry.Correspondence.readAlike_rename`.

When each key is looked up as before, nothing changes but the names of fields, in the tree or in the
error:

> `Registry.nodeOf_rename`: compiling the renamed query is renaming what the query compiles to.
-/

namespace DocFilter

variable {κ : Type}

/-! ## Renaming -/

mutual

/-- Renames the keys of all objects in a value. -/
def Json.rename (ρ : String → String) : Json → Json
  | .array items => .array (renameItems ρ items)
  | .object members => .object (renameMembers ρ members)
  | .null => .null
  | .bool b => .bool b
  | .number n => .number n
  | .string s => .string s
termination_by structural raw => raw

def renameItems (ρ : String → String) : List Json → List Json
  | [] => []
  | item :: items => item.rename ρ :: renameItems ρ items
termination_by structural items => items

def renameMembers (ρ : String → String) : List (String × Json) → List (String × Json)
  | [] => []
  | (key, raw) :: members => (ρ key, raw.rename ρ) :: renameMembers ρ members
termination_by structural members => members

end

mutual

/-- Renames the fields that the nodes of a tree select. -/
def Node.rename (ρ : String → String) : Node κ → Node κ
  | ⟨selector, operator, operand⟩ =>
    ⟨selector.map fun s => ⟨ρ s.raw⟩, operator, operand.rename ρ⟩
termination_by structural n => n

/-- Renames the fields that the nodes in an operand select. Selectors that are operands stay. -/
def Operand.rename (ρ : String → String) : Operand κ → Operand κ
  | .node n => .node (n.rename ρ)
  | .list items => .list (renameOperands ρ items)
  | .value v => .value v
  | .absent => .absent
  | .pattern regex => .pattern regex
  | .selector s => .selector s
termination_by structural x => x

def renameOperands (ρ : String → String) : List (Operand κ) → List (Operand κ)
  | [] => []
  | item :: items => item.rename ρ :: renameOperands ρ items
termination_by structural items => items

end

/-- Renames the key that an error is about. -/
def QueryError.rename (ρ : String → String) : QueryError → QueryError
  | .unknownOperator key => .unknownOperator (ρ key)
  | .contextDisabled key => .contextDisabled (ρ key)
  | e => e

/-- Renames what a compilation comes to. -/
def renamed {α β : Type} (ρ : String → String) (f : α → β) :
    Except QueryError α → Except QueryError β
  | .ok a => .ok (f a)
  | .error e => .error (e.rename ρ)

variable {ρ : String → String}

@[simp] theorem Node.rename_operator (n : Node κ) : (n.rename ρ).operator = n.operator := by
  obtain ⟨selector, operator, operand⟩ := n
  rfl

theorem renameOperands_eq_map (items : List (Operand κ)) :
    renameOperands ρ items = items.map (·.rename ρ) := by
  induction items with
  | nil => rfl
  | cons item items ih => rw [renameOperands, ih, List.map_cons]

theorem renameItems_eq_map (items : List Json) : renameItems ρ items = items.map (·.rename ρ) := by
  induction items with
  | nil => rfl
  | cons item items ih => rw [renameItems, ih, List.map_cons]

theorem renameMembers_eq_map (members : Members) :
    renameMembers ρ members = members.map fun m => (ρ m.1, m.2.rename ρ) := by
  induction members with
  | nil => rfl
  | cons m members ih =>
    obtain ⟨key, raw⟩ := m
    rw [renameMembers, ih, List.map_cons]

theorem Json.rename_scalar {raw : Json} (h : raw.isContainer = false) : raw.rename ρ = raw := by
  cases raw with
  | array | object => exact absurd h (by simp [isContainer])
  | _ => simp only [rename]

/-- To rename each key to itself changes nothing. -/
theorem Json.rename_id (raw : Json) : raw.rename id = raw := by
  induction raw using Json.induct with
  | scalar v hv => exact rename_scalar hv
  | array items ih =>
    rw [rename, renameItems_eq_map, List.map_congr_left ih, List.map_id']
  | object members ih =>
    have hmembers : ∀ m ∈ members, (id m.1, m.2.rename id) = m := by
      intro m hm
      rw [ih m hm]
      rfl
    rw [rename, renameMembers_eq_map, List.map_congr_left hmembers, List.map_id']

theorem exists_renamed_eq_ok {α β : Type} {f : α → β} {x : Except QueryError α} :
    (∃ b, renamed ρ f x = .ok b) ↔ ∃ a, x = .ok a := by
  cases x with
  | ok a => exact ⟨fun _ => ⟨a, rfl⟩, fun _ => ⟨f a, rfl⟩⟩
  | error e =>
    refine ⟨?_, ?_⟩
    · rintro ⟨b, h⟩
      cases h
    · rintro ⟨a, h⟩
      cases h

/-- What corresponds to a compilation up to renaming is the renamed compilation. -/
theorem renamed_eq {α β : Type} {f : α → β} {x : Except QueryError α} {y : Except QueryError β}
    (h : Corresponds (fun e e' => e' = e.rename ρ) (fun a b => b = f a) x y) :
    y = renamed ρ f x := by
  cases h with
  | ok h => rw [h, renamed]
  | error h => rw [h, renamed]

/-! ## The keys of a query -/

mutual

/-- The keys of all objects in a value. -/
def Json.allKeys : Json → List String
  | .array items => allKeysOfItems items
  | .object members => allKeysOfMembers members
  | .null | .bool _ | .number _ | .string _ => []
termination_by structural raw => raw

def allKeysOfItems : List Json → List String
  | [] => []
  | item :: items => item.allKeys ++ allKeysOfItems items
termination_by structural items => items

def allKeysOfMembers : List (String × Json) → List String
  | [] => []
  | (key, raw) :: members => key :: raw.allKeys ++ allKeysOfMembers members
termination_by structural members => members

end

theorem allKeys_of_mem_items {item : Json} {key : String} (hkey : key ∈ item.allKeys) :
    ∀ {items : List Json}, item ∈ items → key ∈ (Json.array items).allKeys
  | other :: items, h => by
    refine List.mem_append.mpr ?_
    rcases List.mem_cons.mp h with rfl | h
    · exact .inl hkey
    · exact .inr (allKeys_of_mem_items hkey h)

theorem allKeys_of_mem_members {m : String × Json} {key : String}
    (hkey : key = m.1 ∨ key ∈ m.2.allKeys) :
    ∀ {members : Members}, m ∈ members → key ∈ (Json.object members).allKeys
  | (other, raw) :: members, h => by
    refine List.mem_append.mpr ?_
    rcases List.mem_cons.mp h with rfl | h
    · exact .inl (List.mem_cons.mpr hkey)
    · exact .inr (allKeys_of_mem_members hkey h)

namespace Registry

/-- **A query is read as the renamed one** when its keys match those that they are renamed to. -/
theorem Correspondence.readAlike_rename {r r' : Registry κ} (C : r.Correspondence r') {raw : Json}
    (hkeys : ∀ key ∈ raw.allKeys, C.keys key (ρ key)) : C.ReadAlike raw (raw.rename ρ) := by
  induction raw using Json.induct with
  | scalar v hv =>
    rw [Json.rename_scalar hv]
    exact C.readAlike_scalar hv
  | array items ih =>
    have hitems : List.Forall₂ C.ReadAlike items (items.map (·.rename ρ)) := by
      refine List.forall₂_map_right_iff.mpr (List.forall₂_same.mpr fun item hmem => ?_)
      exact ih item hmem fun key hkey => hkeys key (allKeys_of_mem_items hkey hmem)
    rw [Json.rename, renameItems_eq_map]
    exact C.readAlike_array hitems
  | object members ih =>
    have hmembers : C.MembersAlike members (members.map fun m => (ρ m.1, m.2.rename ρ)) := by
      refine List.forall₂_map_right_iff.mpr (List.forall₂_same.mpr fun m hmem => ?_)
      refine ⟨hkeys m.1 (allKeys_of_mem_members (.inl rfl) hmem), ih m hmem fun key hkey => ?_⟩
      exact hkeys key (allKeys_of_mem_members (.inr hkey) hmem)
    rw [Json.rename, renameMembers_eq_map]
    exact C.readAlike_object hmembers

/-- A query is read as itself when its keys match themselves. -/
theorem Correspondence.readAlike_self {r r' : Registry κ} (C : r.Correspondence r') {raw : Json}
    (hkeys : ∀ key ∈ raw.allKeys, C.keys key key) : C.ReadAlike raw raw := by
  have h := C.readAlike_rename (ρ := id) hkeys
  rwa [raw.rename_id] at h

/-! ## Renaming fields -/

/-- Every key is looked up as the key that it is renamed to. -/
def Unmoved (r : Registry κ) (ρ : String → String) : Prop :=
  ∀ key, r.get? (ρ key) = r.get? key

/-- Operands in which the nodes are renamed place by place are renamed. -/
theorem eq_rename_of_paired {x y : Operand κ} (h : x.Paired (fun n m => m = n.rename ρ) y) :
    y = x.rename ρ := by
  refine h.eq_image (fun x hx => ?_) (fun _ => rfl) fun xs => ?_
  · cases x with
    | node | list => cases hx
    | _ => rfl
  · rw [Operand.rename, renameOperands_eq_map]

/-- A query matches its renaming, and what it compiles to is renamed. -/
def Unmoved.correspondence {r : Registry κ} (hρ : r.Unmoved ρ) : r.Correspondence r where
  keys key key' := key' = ρ key
  operators := Eq
  nodes n n' := n' = n.rename ρ
  errors e e' := e' = e.rename ρ
  shape := @Operator.SameShape.of_eq κ
  lookup := by
    rintro key _ rfl
    rw [hρ key]
    exact rel_self _
  implied := r.implied_self
  applied := by
    rintro op _ x x' rfl hx
    rw [eq_rename_of_paired hx]
    rfl
  selecting := by
    rintro key _ ⟨selector, operator, operand⟩ _ rfl - rfl
    rfl
  rightHanded := by
    rintro n _ rfl
    rw [Node.rename_operator]
  alike h := by
    cases h with
    | unknownOperator h | contextDisabled h => rw [h]; rfl
    | expectedArray h | expectedSelector h | tooFewOperands h | tooManyOperands h
    | invalidPattern h => rw [h]; rfl
    | _ => rfl

/-- **Renaming keys renames fields.** -/
theorem nodeOf_rename {r : Registry κ} (hρ : r.Unmoved ρ) (raw : Json) (disabled : Bool) :
    r.nodeOf (raw.rename ρ) disabled = renamed ρ (·.rename ρ) (r.nodeOf raw disabled) :=
  renamed_eq ((hρ.correspondence.readAlike_rename fun _ _ => rfl).filter disabled)

end Registry

end DocFilter
