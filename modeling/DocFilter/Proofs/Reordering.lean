import DocFilter.Json.Basic
import DocFilter.Proofs.Except
import Mathlib.Logic.Relation

/-!
# Values up to the order of keys

`Json.Swaps` puts the members of one object into another order, anywhere in a value; a value is
`Json.Reordered` by any number of such steps. Two values are `Json.Similar` when the second one is
the first one reordered and no key is there twice, for an object is a map from keys to values.

A chain of steps, each of which can be anywhere in a value, is no good to follow a function along.
What functions look at is one layer of a value, and of similar values that is the same:

> `Json.Similar.layer`: similar values are the same scalar, arrays of similar items, or objects
> with the same keys and similar values under them.

Where keys may be there twice, one layer of a reordered value is another list of members
(`Json.Reordered.rearranged`). These two are all that is used of the relations from here on.
-/

namespace DocFilter

/-! ## Members -/

namespace Members

theorem get?_append (before after : Members) (key : String) :
    (before ++ after : Members).get? key = (before.get? key).or (after.get? key) := by
  induction before with
  | nil => rfl
  | cons m rest ih =>
    obtain ⟨k, v⟩ := m
    rw [List.cons_append, get?, get?]
    by_cases hk : k = key
    · rw [if_pos hk, if_pos hk, Option.some_or]
    · rw [if_neg hk, if_neg hk, ih]

/-- Among distinct keys each member is found under its key. -/
theorem get?_eq_some {members : Members} (h : members.keys.Nodup) {key : String} {value : Json} :
    members.get? key = some value ↔ (key, value) ∈ members := by
  induction members with
  | nil => simp [get?]
  | cons m rest ih =>
    obtain ⟨k, v⟩ := m
    rw [keys_cons, List.nodup_cons] at h
    rw [get?, List.mem_cons, Prod.mk.injEq]
    by_cases hk : k = key
    · subst hk
      have hrest : (k, value) ∉ rest := fun hmem => h.1 (List.mem_map_of_mem hmem)
      rw [if_pos rfl, Option.some.injEq]
      simp [hrest, eq_comm]
    · rw [if_neg hk, ih h.2]
      simp [Ne.symm hk]

/-- The order of distinct keys does not matter for what is found. -/
theorem get?_perm {ms ns : Members} (h : ms.keys.Nodup) (hperm : ms.Perm ns) (key : String) :
    ms.get? key = ns.get? key := by
  have hn : ns.keys.Nodup := (hperm.map Prod.fst).nodup_iff.mp h
  refine Option.ext fun value => ?_
  rw [get?_eq_some h, get?_eq_some hn, hperm.mem_iff]

/-- Two objects have the same keys, in whatever order, with related values under them. -/
structure Related (R : Json → Json → Prop) (ms ns : Members) : Prop where
  keys : ms.keys.Perm ns.keys
  get? : ∀ key, Option.Rel R (ms.get? key) (ns.get? key)

end Members

namespace Json

/-! ## Reordering -/

/-- Puts the members of one object into another order, anywhere in a value. -/
inductive Swaps : Json → Json → Prop
  | keys {ms ns : Members} (h : ms.Perm ns) : Swaps (.object ms) (.object ns)
  | item {v w : Json} (before after : List Json) (h : Swaps v w) :
      Swaps (.array (before ++ v :: after)) (.array (before ++ w :: after))
  | member {v w : Json} (before after : Members) (key : String) (h : Swaps v w) :
      Swaps (.object (before ++ (key, v) :: after)) (.object (before ++ (key, w) :: after))

/-- The second value is the first one with the keys of its objects, at any depth, in another
order. -/
def Reordered : Json → Json → Prop :=
  Relation.ReflTransGen Swaps

/-- In no object of the value a key is there twice. -/
inductive Distinct : Json → Prop
  | scalar {v : Json} (h : v.isContainer = false) : Distinct v
  | array {items : List Json} (hitems : ∀ item ∈ items, Distinct item) : Distinct (.array items)
  | object {members : Members} (hkeys : members.keys.Nodup)
      (hvalues : ∀ m ∈ members, Distinct m.2) : Distinct (.object members)

/-- The two values differ in the order of keys only. -/
structure Similar (v w : Json) : Prop where
  distinct : v.Distinct
  reordered : v.Reordered w

namespace Distinct

theorem items {items : List Json} (h : (Json.array items).Distinct) :
    ∀ item ∈ items, item.Distinct := by
  cases h with
  | scalar h => cases h
  | array h => exact h

theorem keys {members : Members} (h : (Json.object members).Distinct) : members.keys.Nodup := by
  cases h with
  | scalar h => cases h
  | object hkeys => exact hkeys

theorem values {members : Members} (h : (Json.object members).Distinct) :
    ∀ m ∈ members, m.2.Distinct := by
  cases h with
  | scalar h => cases h
  | object _ hvalues => exact hvalues

theorem get? {members : Members} (h : (Json.object members).Distinct) {key : String}
    {value : Json} (hget : members.get? key = some value) : value.Distinct :=
  h.values _ ((Members.get?_eq_some h.keys).mp hget)

/-- Keys that are put into another order stay distinct. -/
theorem swap {v w : Json} (h : v.Distinct) (hswap : v.Swaps w) : w.Distinct := by
  induction hswap with
  | keys hperm =>
    refine .object ((hperm.map Prod.fst).nodup_iff.mp h.keys) fun m hm => ?_
    exact h.values m (hperm.mem_iff.mpr hm)
  | item before after _ ih =>
    have hitems := h.items
    simp only [List.forall_mem_append, List.forall_mem_cons] at hitems
    refine .array ?_
    simp only [List.forall_mem_append, List.forall_mem_cons]
    exact ⟨hitems.1, ih hitems.2.1, hitems.2.2⟩
  | member before after key _ ih =>
    have hvalues := h.values
    simp only [List.forall_mem_append, List.forall_mem_cons] at hvalues
    refine .object (by simpa [Members.keys] using h.keys) ?_
    simp only [List.forall_mem_append, List.forall_mem_cons]
    exact ⟨hvalues.1, ih hvalues.2.1, hvalues.2.2⟩

end Distinct

namespace Similar

theorem refl {v : Json} (h : v.Distinct) : v.Similar v :=
  ⟨h, .refl⟩

theorem of_scalar {v : Json} (h : v.isContainer = false) : v.Similar v :=
  .refl (.scalar h)

theorem of_swap {v w : Json} (h : v.Distinct) (hswap : v.Swaps w) : v.Similar w :=
  ⟨h, .single hswap⟩

theorem trans {u v w : Json} (h : u.Similar v) (h' : v.Similar w) : u.Similar w :=
  ⟨h.distinct, Relation.ReflTransGen.trans h.reordered h'.reordered⟩

theorem distinct_right {v w : Json} (h : v.Similar w) : w.Distinct := by
  obtain ⟨hdistinct, hreordered⟩ := h
  induction hreordered with
  | refl => exact hdistinct
  | tail _ hswap ih => exact ih.swap hswap

theorem rel_refl {o : Option Json} (h : ∀ v, o = some v → v.Distinct) :
    Option.Rel Similar o o := by
  cases o with
  | none => exact .none
  | some v => exact .some (.refl (h v rfl))

theorem rel_trans {o p q : Option Json} (h : Option.Rel Similar o p)
    (h' : Option.Rel Similar p q) : Option.Rel Similar o q := by
  cases h with
  | none => exact h'
  | some h =>
    cases h' with
    | some h' => exact .some (h.trans h')

theorem forall₂_refl {xs : List Json} (h : ∀ x ∈ xs, x.Distinct) : List.Forall₂ Similar xs xs :=
  List.forall₂_same.mpr fun x hx => .refl (h x hx)

end Similar

/-! ## Layers -/

/-- Two values are the same as far as one sees without looking into containers, and what is in them
is related. -/
inductive Layer (R : Json → Json → Prop) : Json → Json → Prop
  | scalar {v : Json} (h : v.isContainer = false) : Layer R v v
  | array {xs ys : List Json} (h : List.Forall₂ R xs ys) : Layer R (.array xs) (.array ys)
  | object {ms ns : Members} (h : Members.Related R ms ns) : Layer R (.object ms) (.object ns)

namespace Layer

theorem refl {v : Json} (h : v.Distinct) : Layer Similar v v := by
  cases v with
  | array items => exact .array (Similar.forall₂_refl h.items)
  | object members => exact .object ⟨.refl _, fun key => Similar.rel_refl fun v hv => h.get? hv⟩
  | _ => exact .scalar rfl

theorem trans {u v w : Json} (h : Layer Similar u v) (h' : Layer Similar v w) :
    Layer Similar u w := by
  cases h with
  | scalar => exact h'
  | array h =>
    cases h' with
    | scalar => exact .array h
    | array h' => exact .array (forall₂_trans h h' fun _ _ _ => Similar.trans)
  | object h =>
    cases h' with
    | scalar => exact .object h
    | object h' =>
      refine .object ⟨h.keys.trans h'.keys, fun key => ?_⟩
      exact Similar.rel_trans (h.get? key) (h'.get? key)

end Layer

/-- One step changes a layer in one place at most. -/
theorem Swaps.layer {v w : Json} (hswap : v.Swaps w) (h : v.Distinct) : Layer Similar v w := by
  cases hswap with
  | keys hperm =>
    refine .object ⟨hperm.map _, fun key => ?_⟩
    rw [← Members.get?_perm h.keys hperm key]
    exact Similar.rel_refl fun v hv => h.get? hv
  | item before after hswap =>
    have hitems := h.items
    simp only [List.forall_mem_append, List.forall_mem_cons] at hitems
    have hbefore := Similar.forall₂_refl hitems.1
    have hafter := Similar.forall₂_refl hitems.2.2
    exact .array (List.rel_append hbefore (.cons (.of_swap hitems.2.1 hswap) hafter))
  | member before after key hswap =>
    refine .object ⟨by simp [Members.keys], fun other => ?_⟩
    have hv := h.values (key, _) (List.mem_append_right _ List.mem_cons_self)
    have hfound : ∀ u, Members.get? (before ++ (key, _) :: after) other = some u → u.Distinct :=
      fun u hu => h.get? hu
    rw [Members.get?_append] at hfound ⊢
    rw [Members.get?_append]
    cases hbefore : Members.get? before other with
    | some u =>
      rw [hbefore] at hfound
      exact Similar.rel_refl hfound
    | none =>
      rw [hbefore, Option.none_or, Members.get?] at hfound
      rw [Option.none_or, Option.none_or, Members.get?, Members.get?]
      by_cases hother : key = other
      · rw [if_pos hother, if_pos hother]
        exact .some (.of_swap hv hswap)
      · rw [if_neg hother] at hfound ⊢
        rw [if_neg hother]
        exact Similar.rel_refl hfound

namespace Similar

/-- **Similar values are the same layer by layer.** -/
theorem layer {v w : Json} (h : v.Similar w) : Layer Similar v w := by
  obtain ⟨hdistinct, hreordered⟩ := h
  induction hreordered with
  | refl => exact .refl hdistinct
  | tail hvb hswap ih => exact ih.trans (hswap.layer (distinct_right ⟨hdistinct, hvb⟩))

theorem eq_of_scalar {v w : Json} (h : v.Similar w) (hv : v.isContainer = false) : w = v := by
  cases h.layer with
  | scalar => rfl
  | array | object => cases hv

end Similar

/-! ## Layers of values with repeated keys -/

/-- Two values are the same scalar, arrays of related items, or objects with related values under
the same keys, once the members are put into order. -/
inductive Rearranged (R : Json → Json → Prop) : Json → Json → Prop
  | scalar {v : Json} (h : v.isContainer = false) : Rearranged R v v
  | array {xs ys : List Json} (h : List.Forall₂ R xs ys) : Rearranged R (.array xs) (.array ys)
  | object {ms zs ns : Members} (h : List.Forall₂ (fun m n => m.1 = n.1 ∧ R m.2 n.2) ms zs)
      (hperm : zs.Perm ns) : Rearranged R (.object ms) (.object ns)

namespace Reordered

theorem refl (v : Json) : v.Reordered v :=
  Relation.ReflTransGen.refl

theorem of_swap {v w : Json} (h : v.Swaps w) : v.Reordered w :=
  .single h

theorem trans {u v w : Json} (h : u.Reordered v) (h' : v.Reordered w) : u.Reordered w :=
  Relation.ReflTransGen.trans h h'

theorem forall₂_refl (xs : List Json) : List.Forall₂ Reordered xs xs :=
  List.forall₂_same.mpr fun x _ => refl x

theorem members_refl (ms : Members) :
    List.Forall₂ (fun m n => m.1 = n.1 ∧ Reordered m.2 n.2) ms ms :=
  List.forall₂_same.mpr fun m _ => ⟨rfl, refl m.2⟩

end Reordered

namespace Rearranged

theorem refl (v : Json) : Rearranged Reordered v v := by
  cases v with
  | array items => exact .array (Reordered.forall₂_refl items)
  | object members => exact .object (Reordered.members_refl members) (.refl members)
  | _ => exact .scalar rfl

theorem of_swap {v w : Json} (h : v.Swaps w) : Rearranged Reordered v w := by
  cases h with
  | @keys ms ns hperm => exact .object (Reordered.members_refl ms) hperm
  | item before after h =>
    have hafter := Reordered.forall₂_refl after
    exact .array (List.rel_append (Reordered.forall₂_refl before) (.cons (.of_swap h) hafter))
  | member before after key h =>
    have hafter := Reordered.members_refl after
    refine .object (List.rel_append (Reordered.members_refl before) (.cons ?_ hafter)) (.refl _)
    exact ⟨rfl, .of_swap h⟩

theorem trans {u v w : Json} (h : Rearranged Reordered u v) (h' : Rearranged Reordered v w) :
    Rearranged Reordered u w := by
  cases h with
  | scalar => exact h'
  | array h =>
    cases h' with
    | scalar => exact .array h
    | array h' => exact .array (forall₂_trans h h' fun _ _ _ => Reordered.trans)
  | @object ms zs ns h hperm =>
    cases h' with
    | scalar => exact .object h hperm
    | @object _ ys ls h' hperm' =>
      -- the second step can as well be taken before the members are put into order
      obtain ⟨xs, hxs, hperm⟩ := List.perm_comp_forall₂ hperm h'
      refine .object (forall₂_trans h hxs ?_) (hperm.trans hperm')
      rintro a b c ⟨hkey, hab⟩ ⟨hkey', hbc⟩
      exact ⟨hkey.trans hkey', hab.trans hbc⟩

end Rearranged

/-- **Reordered values are the same layer by layer**, once their members are put into order. -/
theorem Reordered.rearranged {v w : Json} (h : v.Reordered w) : Rearranged Reordered v w := by
  induction h with
  | refl => exact .refl v
  | tail _ hswap ih => exact ih.trans (.of_swap hswap)

end Json

end DocFilter
