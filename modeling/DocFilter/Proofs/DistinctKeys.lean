import DocFilter.Document
import DocFilter.Filter.Basic
import DocFilter.Proofs.Except
import DocFilter.Proofs.Reordering

/-!
# Values that are read

An object is held as a list of members, in which nothing keeps a key from being there twice. The
readers see to it: a key that comes again replaces the value it had (`Members.nodup_put`). Apart
from that they put values into containers as they are. So what all scalars have, and containers
have with their parts (`Json.Inherited`), every value has that is read (`Dialect.inherited_of_read?`).
In both dialects the scalars are those that JSON can write (`Json.Plain`):

> `inherited_of_decodeQuery`, `Document.inherited_of_ofText`: what such scalars have, query texts and
> documents have.

One such property is that no object has a key twice (`distinct_of_decodeQuery`,
`Document.distinct_of_ofText`).

The three readers of containers call each other, each time with one step less. The proof is by
induction on the steps, for all three of them at once (`Dialect.Reads`).
-/

namespace DocFilter

/-! ## Members -/

namespace Members

variable {members : Members} (hkeys : members.keys.Nodup) (key : String) (value : Json)
include hkeys

/-- Setting a key keeps the keys distinct. -/
theorem nodup_put : (members.put key value).keys.Nodup := by
  rw [keys_put]
  by_cases hmem : key ∈ members.keys
  · rw [if_pos hmem]
    exact hkeys
  · rw [if_neg hmem]
    refine List.nodup_append.mpr ⟨hkeys, List.pairwise_singleton _ _, ?_⟩
    rintro k hk other hother rfl
    exact hmem (List.mem_singleton.mp hother ▸ hk)

/-- What all values of an object have, and the one that is set, they have afterwards. -/
theorem forall_put {P : Json → Prop} (hvalues : ∀ m ∈ members, P m.2) (hvalue : P value) :
    ∀ m ∈ members.put key value, P m.2 := by
  intro m hm
  -- a member is found under its key, and there stands the new value or the old one
  have hget := (get?_eq_some (nodup_put hkeys key value)).mpr hm
  rw [get?_put] at hget
  by_cases hkey : key = m.1
  · rw [if_pos hkey] at hget
    cases hget
    exact hvalue
  · rw [if_neg hkey] at hget
    exact hvalues _ ((get?_eq_some hkeys).mp hget)

end Members

/-! ## Reading containers -/

/-- A property that an array has when its items have it, and an object when its values have it and
no key is there twice. -/
structure Json.Inherited (P : Json → Prop) : Prop where
  array : ∀ {items}, P (.array items) ↔ ∀ item ∈ items, P item
  object : ∀ {members : Members}, members.keys.Nodup → (∀ m ∈ members, P m.2) → P (.object members)

namespace Dialect

variable {d : Dialect} {P : Json → Prop}

/-- What is read in so many steps has the property. Members are added to others. -/
structure Reads (d : Dialect) (P : Json → Prop) (fuel : Nat) : Prop where
  value : ∀ {room cs v rest}, d.readValue fuel room cs = some (v, rest) → P v
  items : ∀ {room cs items rest}, d.readItems fuel room cs = some (items, rest) →
    ∀ item ∈ items, P item
  members : ∀ {room members cs all rest}, members.keys.Nodup → (∀ m ∈ members, P m.2) →
    d.readMembers fuel room members cs = some (all, rest) → all.keys.Nodup ∧ ∀ m ∈ all, P m.2

section
variable {fuel : Nat} (ih : d.Reads P fuel)
include ih

theorem readItems_inherited {room : Nat} {cs : List Char} {items : List Json} {rest : List Char}
    (h : d.readItems (fuel + 1) room cs = some (items, rest)) : ∀ item ∈ items, P item := by
  rw [readItems] at h
  simp only [Option.bind_eq_bind, Option.bind_eq_some_iff] at h
  obtain ⟨⟨item, _⟩, hitem, start, -, h⟩ := h
  have hsingle : ∀ x ∈ [item], P x := List.forall_mem_singleton.mpr (ih.value hitem)
  split at h
  · cases h
    exact hsingle
  · simp only [Option.bind_eq_some_iff] at h
    obtain ⟨next, -, h⟩ := h
    split at h
    · cases h
      exact hsingle
    · simp only [Option.bind_eq_some_iff] at h
      obtain ⟨⟨others, _⟩, hothers, h⟩ := h
      cases h
      exact List.forall_mem_cons.mpr ⟨ih.value hitem, ih.items hothers⟩
  · cases h

theorem readMembers_inherited {room : Nat} {members : Members} {cs : List Char} {all : Members}
    {rest : List Char} (hkeys : members.keys.Nodup) (hvalues : ∀ m ∈ members, P m.2)
    (h : d.readMembers (fuel + 1) room members cs = some (all, rest)) :
    all.keys.Nodup ∧ ∀ m ∈ all, P m.2 := by
  rw [readMembers] at h
  simp only [Option.bind_eq_bind, Option.bind_eq_some_iff] at h
  obtain ⟨⟨key, _⟩, -, start, -, h⟩ := h
  split at h
  · simp only [Option.bind_eq_some_iff] at h
    obtain ⟨_, -, ⟨value, _⟩, hvalue, after, -, h⟩ := h
    have hput := Members.nodup_put hkeys key value
    have hall := Members.forall_put hkeys key value hvalues (ih.value hvalue)
    split at h
    · cases h
      exact ⟨hput, hall⟩
    · simp only [Option.bind_eq_some_iff] at h
      obtain ⟨next, -, h⟩ := h
      split at h
      · cases h
        exact ⟨hput, hall⟩
      · exact ih.members hput hall h
    · cases h
  · cases h

end

section
variable (hP : Json.Inherited P)
  (hd : ∀ {cs v rest}, d.scalar cs = some (v, rest) → P v)
include hP hd

theorem readValue_inherited {fuel : Nat} (ih : d.Reads P fuel) {room : Nat}
    {cs : List Char} {v : Json} {rest : List Char}
    (h : d.readValue (fuel + 1) room cs = some (v, rest)) : P v := by
  unfold readValue at h
  split at h
  · cases h
  · next hfuel =>
    cases hfuel
    split at h
    · cases h
    · simp only [Option.bind_eq_bind, Option.bind_eq_some_iff] at h
      obtain ⟨start, -, h⟩ := h
      split at h
      · cases h
        exact hP.array.mpr (List.forall_mem_nil _)
      · simp only [Option.bind_eq_some_iff] at h
        obtain ⟨⟨items, _⟩, hitems, h⟩ := h
        cases h
        exact hP.array.mpr (ih.items hitems)
  · next hfuel =>
    cases hfuel
    split at h
    · cases h
    · simp only [Option.bind_eq_bind, Option.bind_eq_some_iff] at h
      obtain ⟨start, -, h⟩ := h
      have hkeys : (Members.keys []).Nodup := List.nodup_nil
      split at h
      · cases h
        exact hP.object hkeys (List.forall_mem_nil _)
      · simp only [Option.bind_eq_some_iff] at h
        obtain ⟨⟨members, _⟩, hmembers, h⟩ := h
        cases h
        obtain ⟨hall, hvalues⟩ := ih.members hkeys (List.forall_mem_nil _) hmembers
        exact hP.object hall hvalues
  · exact hd h

theorem reads (fuel : Nat) : d.Reads P fuel := by
  induction fuel with
  | zero =>
    refine ⟨fun h => ?_, fun h => ?_, fun _ _ h => ?_⟩
    · rw [readValue] at h; cases h
    · rw [readItems] at h; cases h
    · rw [readMembers] at h; cases h
  | succ fuel ih =>
    exact ⟨readValue_inherited hP hd ih, readItems_inherited ih, readMembers_inherited ih⟩

/-- **What scalars have and containers inherit, values have that are read.** -/
theorem inherited_of_read? {room : Nat} {cs : List Char} {v : Json}
    (h : d.read? room cs = some v) : P v := by
  rw [read?] at h
  simp only [Option.bind_eq_bind, Option.bind_eq_some_iff] at h
  obtain ⟨_, -, ⟨value, _⟩, hvalue, after, -, h⟩ := h
  split at h
  · cases h
    exact (reads hP hd _).value hvalue
  · cases h

end

end Dialect

/-! ## Reading scalars -/

namespace Json

/-- The scalars that JSON can write: of integers those that are kept, of floats the finite ones. -/
inductive Plain : Json → Prop
  | null : Plain .null
  | bool (b : Bool) : Plain (.bool b)
  | string (s : String) : Plain (.string s)
  | int {i : Int} (least : JsonNumber.leastInt ≤ i) (bound : i < JsonNumber.intBound) :
      Plain (.number (.int i))
  | float {x : Float} (finite : x.isFinite = true) : Plain (.number (.float x))

theorem Plain.isContainer {v : Json} (h : v.Plain) : v.isContainer = false := by
  cases h <;> rfl

theorem plain_of_map {α : Type} {f : α → Json × List Char} (hf : ∀ a, (f a).1.Plain)
    {o : Option α} {v : Json} {rest : List Char} (h : o.map f = some (v, rest)) : v.Plain := by
  obtain ⟨a, -, ha⟩ := Option.map_eq_some_iff.mp h
  have hv := hf a
  rwa [ha] at hv

theorem plain_of_finite? {x : Float} {v : Json} (h : finite? x = some v) : v.Plain := by
  unfold finite? at h
  split at h
  · next hfinite =>
    cases h
    exact .float hfinite
  · cases h

/-- A number that is read as an integer is kept as one. -/
theorem plain_of_integerNumber {negative : Bool} {size : Nat} {i : Int}
    (h : integerNumber negative size = .int i) : (Json.number (.int i)).Plain := by
  obtain ⟨value, hvalue⟩ : ∃ value : Int, value = if negative then -(size : Int) else size :=
    ⟨_, rfl⟩
  unfold integerNumber at h
  rw [← hvalue] at h
  by_cases hkept : JsonNumber.leastInt ≤ value ∧ value < JsonNumber.intBound
  · cases (if_pos hkept).symm.trans h
    exact .int hkept.1 hkept.2
  · cases (if_neg hkept).symm.trans h

theorem plain_of_decimal? {negative : Bool} {whole fraction : List Char} {exponent : Int} {v : Json}
    (h : decimal? negative whole fraction exponent = some v) : v.Plain :=
  plain_of_finite? h

theorem plain_of_takeUnsigned {negative : Bool} {cs : List Char} {v : Json}
    {rest : List Char} (h : takeUnsigned negative cs = some (v, rest)) : v.Plain := by
  unfold takeUnsigned at h
  dsimp only at h
  split at h
  · cases h
  · cases h
  · simp only [Option.bind_eq_bind, Option.bind_eq_some_iff] at h
    obtain ⟨fraction, -, exponent, -, h⟩ := h
    split_ifs at h
    · cases h
      exact .float rfl
    · split at h
      · next hinteger =>
        cases h
        exact plain_of_integerNumber hinteger
      · obtain ⟨number, hnumber, h⟩ := Option.bind_eq_some_iff.mp h
        cases h
        exact plain_of_decimal? hnumber
    · obtain ⟨number, hnumber, h⟩ := Option.bind_eq_some_iff.mp h
      cases h
      exact plain_of_decimal? hnumber

theorem plain_of_takeScalar {cs : List Char} {v : Json} {rest : List Char}
    (h : takeScalar cs = some (v, rest)) : v.Plain := by
  unfold takeScalar at h
  split at h
  · exact plain_of_map (fun _ => .string _) h
  · exact plain_of_takeUnsigned h
  · exact plain_of_map (fun _ => .bool true) h
  · exact plain_of_map (fun _ => .bool false) h
  · exact plain_of_map (fun _ => .null) h
  · exact plain_of_takeUnsigned h

namespace Relaxed

theorem plain_floatOrNull (x : Float) : (floatOrNull x).Plain := by
  unfold floatOrNull
  split
  · next hfinite => exact .float hfinite
  · exact .null

theorem plain_integerOrNull (negative : Bool) (size : Nat) :
    (integerOrNull negative size).Plain := by
  unfold integerOrNull
  split
  · next hinteger => exact plain_of_integerNumber hinteger
  · exact plain_floatOrNull _

theorem plain_of_takeHexadecimal {negative : Bool} {cs : List Char} {v : Json}
    {rest : List Char} (h : takeHexadecimal negative cs = some (v, rest)) : v.Plain := by
  unfold takeHexadecimal at h
  split at h
  · cases h
  · dsimp only at h
    split_ifs at h
    all_goals
      cases h
      exact plain_integerOrNull _ _

theorem plain_of_takeDecimal {negative : Bool} {cs : List Char} {v : Json}
    {rest : List Char} (h : takeDecimal negative cs = some (v, rest)) : v.Plain := by
  unfold takeDecimal at h
  simp only [Option.bind_eq_bind, Option.bind_eq_some_iff] at h
  obtain ⟨exponent, -, h⟩ := h
  split at h
  · cases h
  · cases h
  · split_ifs at h
    · cases h
      exact plain_floatOrNull _
    · cases h
      exact plain_integerOrNull _ _

theorem plain_of_takeUnsigned {negative : Bool} {cs : List Char} {v : Json}
    {rest : List Char} (h : takeUnsigned negative cs = some (v, rest)) : v.Plain := by
  unfold takeUnsigned at h
  split at h
  · exact plain_of_takeHexadecimal h
  · exact plain_of_takeHexadecimal h
  · exact plain_of_map (fun _ => .null) h
  · exact plain_of_map (fun _ => .null) h
  · exact plain_of_takeDecimal h

theorem plain_of_takeScalar {cs : List Char} {v : Json} {rest : List Char}
    (h : takeScalar cs = some (v, rest)) : v.Plain := by
  unfold takeScalar at h
  split at h
  · exact plain_of_map (fun _ => .string _) h
  · exact plain_of_map (fun _ => .string _) h
  · exact plain_of_takeUnsigned h
  · exact plain_of_takeUnsigned h
  · exact plain_of_map (fun _ => .bool true) h
  · exact plain_of_map (fun _ => .bool false) h
  · exact plain_of_map (fun _ => .null) h
  · exact plain_of_takeUnsigned h

end Relaxed

end Json

/-! ## Queries and documents -/

section
variable {P : Json → Prop} (hP : Json.Inherited P) (hplain : ∀ {v : Json}, v.Plain → P v)
include hP hplain

theorem Json.inherited_of_read? {text : String} {v : Json} (h : Json.read? text = some v) : P v :=
  Dialect.inherited_of_read? (d := strict) hP (fun h => hplain (plain_of_takeScalar h)) h

theorem Json.Relaxed.inherited_of_read? {text : String} {v : Json}
    (h : Json.Relaxed.read? text = some v) : P v :=
  Dialect.inherited_of_read? (d := dialect) hP (fun h => hplain (plain_of_takeScalar h)) h

/-- **A query text that can be read has what its scalars have.** -/
theorem inherited_of_decodeQuery {text : String} {v : Json} (h : decodeQuery text = .ok v) :
    P v := by
  unfold decodeQuery at h
  split at h
  · cases h
  · dsimp only at h
    split at h
    · next hread =>
      cases h
      rw [Option.orElse_eq_or, Option.or_eq_some_iff] at hread
      rcases hread with hstrict | ⟨-, hrelaxed⟩
      · exact Json.inherited_of_read? hP hplain hstrict
      · exact Json.Relaxed.inherited_of_read? hP hplain hrelaxed
    · cases h

namespace Document

theorem inherited_of_linesFrom {source : String} {number : Nat} {lines : List (List Char)}
    {values : List Json} (h : linesFrom source number lines = .ok values) :
    ∀ v ∈ values, P v := by
  induction lines generalizing number values with
  | nil =>
    cases h
    exact List.forall_mem_nil _
  | cons line lines ih =>
    rw [linesFrom] at h
    split at h
    · exact ih h
    · split at h
      · cases h
      · next hread =>
        obtain ⟨rest, hrest, h⟩ := bind_eq_ok.mp h
        cases h
        exact List.forall_mem_cons.mpr ⟨Json.inherited_of_read? hP hplain hread, ih hrest⟩

theorem inherited_of_valuesOf {source text : String} {values : List Json}
    (h : valuesOf source text = .ok values) : ∀ v ∈ values, P v := by
  unfold valuesOf at h
  split at h
  · next hread =>
    cases h
    exact hP.array.mp (Json.inherited_of_read? hP hplain hread)
  · next hread =>
    cases h
    exact List.forall_mem_singleton.mpr (Json.inherited_of_read? hP hplain hread)
  · exact inherited_of_linesFrom hP hplain h

/-- **Documents that can be read have what their scalars have.** -/
theorem inherited_of_ofText {source text : String} {documents : List Document}
    (h : ofText source text = .ok documents) : ∀ document ∈ documents, P document.value := by
  obtain ⟨values, hvalues, h⟩ := map_eq_ok.mp h
  subst h
  intro document hdocument
  obtain ⟨⟨v, index⟩, hmem, rfl⟩ := List.mem_map.mp hdocument
  exact inherited_of_valuesOf hP hplain hvalues v (List.fst_mem_of_mem_zipIdx hmem)

end Document

end

/-! ## Distinct keys -/

theorem Json.Distinct.inherited : Json.Inherited Distinct :=
  ⟨⟨Distinct.items, .array⟩, .object⟩

/-- **No query text has a key twice in an object.** -/
theorem distinct_of_decodeQuery {text : String} {v : Json} (h : decodeQuery text = .ok v) :
    v.Distinct :=
  inherited_of_decodeQuery Json.Distinct.inherited (fun h => .scalar h.isContainer) h

/-- **No document has a key twice in an object.** -/
theorem Document.distinct_of_ofText {source text : String} {documents : List Document}
    (h : ofText source text = .ok documents) : ∀ document ∈ documents, document.value.Distinct :=
  inherited_of_ofText Json.Distinct.inherited (fun h => .scalar h.isContainer) h

end DocFilter
