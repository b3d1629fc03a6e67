import DocFilter.Selector.Basic
import Mathlib.Data.List.Basic

/-!
# Paths for lists of keys

Every list of keys can be written as a dotted path: dots inside keys are escaped, dots between keys
are not, and an empty key at the end takes one more dot, since a path drops what is empty behind its
last dot (`Path.encode`). What a path cannot say is where a key ends that has a backslash at its end,
because the dot that follows would count as escaped. The last key has no dot behind it, so

> `Path.split_encode`: a list in which no key but the last ends in a backslash is read back from its
> path, and `Path.separable_split`: no path has other keys.

A selector resolves to what its keys lead to. With the first statement,

> `Selector.resolve_text`: the selector that is written for a list of keys without brackets resolves
> to what these keys lead to, one after the other (`Json.Leads`).
-/

namespace DocFilter

namespace Path

/-! ## Writing keys -/

/-- The path of a list of keys: escaped, with dots between them, and with a dot at the end when the
last key is empty. -/
def encode (keys : List (List Char)) : List Char :=
  ['.'].intercalate (keys.map escapeDots) ++ if keys.getLast? = some [] then ['.'] else []

/-- The path of a list of keys, as a text. -/
def text (keys : List String) : String :=
  String.ofList (encode (keys.map String.toList))

/-- No key but the last ends in a backslash. -/
def Separable (keys : List String) : Prop :=
  ∀ key ∈ keys.dropLast, key.toList.getLast? ≠ some '\\'

instance (keys : List String) : Decidable (Separable keys) :=
  inferInstanceAs (Decidable (∀ key ∈ keys.dropLast, key.toList.getLast? ≠ some '\\'))

theorem encode_singleton (key : List Char) :
    encode [key] = escapeDots key ++ if key = [] then ['.'] else [] := by
  simp [encode, List.intercalate]

theorem encode_cons_cons (key next : List Char) (keys : List (List Char)) :
    encode (key :: next :: keys) = escapeDots key ++ '.' :: encode (next :: keys) := by
  simp [encode, List.intercalate]

theorem escapeDots_dot (key : List Char) :
    escapeDots ('.' :: key) = '\\' :: '.' :: escapeDots key := rfl

theorem escapeDots_cons {c : Char} (hc : c ≠ '.') (key : List Char) :
    escapeDots (c :: key) = c :: escapeDots key := by
  rw [escapeDots, List.flatMap_cons, if_neg hc]
  rfl

/-- Other characters are as many in a key that is escaped. -/
theorem count_escapeDots {c : Char} (hdot : c ≠ '.') (hbackslash : c ≠ '\\') (key : List Char) :
    (escapeDots key).count c = key.count c := by
  induction key with
  | nil => rfl
  | cons d key ih =>
    by_cases hd : d = '.'
    · subst hd
      rw [escapeDots_dot, List.count_cons_of_ne hbackslash.symm, List.count_cons_of_ne hdot.symm,
        List.count_cons_of_ne hdot.symm, ih]
    · rw [escapeDots_cons hd, List.count_cons, List.count_cons, ih]

theorem mem_escapeDots {c : Char} (hdot : c ≠ '.') (hbackslash : c ≠ '\\') {key : List Char} :
    c ∈ escapeDots key ↔ c ∈ key := by
  rw [← List.count_pos_iff, count_escapeDots hdot hbackslash, List.count_pos_iff]

/-- Apart from dots and backslashes, a path has the characters of its keys. -/
theorem mem_of_mem_encode {c : Char} (hdot : c ≠ '.') (hbackslash : c ≠ '\\')
    {keys : List (List Char)} (h : c ∈ encode keys) : ∃ key ∈ keys, c ∈ key := by
  induction keys with
  | nil => cases h
  | cons key keys ih =>
    cases keys with
    | nil =>
      rw [encode_singleton, List.mem_append, mem_escapeDots hdot hbackslash] at h
      rcases h with h | h
      · exact ⟨key, List.mem_singleton_self key, h⟩
      · by_cases hkey : key = [] <;> simp [hkey, hdot] at h
    | cons next keys =>
      rw [encode_cons_cons, List.mem_append, mem_escapeDots hdot hbackslash, List.mem_cons] at h
      rcases h with h | h | h
      · exact ⟨key, List.mem_cons_self, h⟩
      · exact absurd h hdot
      · obtain ⟨other, hother, hc⟩ := ih h
        exact ⟨other, List.mem_cons_of_mem key hother, hc⟩

/-! ## Reading them back -/

/-- An escaped key begins with no dot. -/
theorem head?_escapeDots_append {key : List Char} (hkey : key ≠ []) (rest : List Char) :
    (escapeDots key ++ rest).head? ≠ some '.' := by
  cases key with
  | nil => exact absurd rfl hkey
  | cons c key =>
    by_cases hc : c = '.'
    · subst hc
      simp [escapeDots_dot]
    · simp [escapeDots_cons hc, hc]

/-- A character is read as it is, unless it is a dot or a backslash that escapes one. -/
theorem splitFrom_cons {c : Char} {cs : List Char} (current : List Char) (hdot : c ≠ '.')
    (hescape : c = '\\' → cs.head? ≠ some '.') :
    splitFrom current (c :: cs) = splitFrom (current ++ [c]) cs := by
  rw [splitFrom]
  · rintro rest rfl rfl
    exact hescape rfl rfl
  · exact fun h => hdot h

/-- An escaped key is read up to the end of the path. -/
theorem splitFrom_escapeDots (current key : List Char) :
    splitFrom current (escapeDots key) =
      if (current ++ key).isEmpty then [] else [current ++ key] := by
  induction key generalizing current with
  | nil => simp [escapeDots, splitFrom]
  | cons c key ih =>
    by_cases hc : c = '.'
    · subst hc
      rw [escapeDots_dot, splitFrom, ih, List.append_assoc, List.singleton_append]
    · have hhead : c = '\\' → (escapeDots key).head? ≠ some '.' := by
        intro _
        by_cases hkey : key = []
        · simp [hkey, escapeDots]
        · simpa using head?_escapeDots_append hkey []
      rw [escapeDots_cons hc, splitFrom_cons current hc hhead, ih, List.append_assoc,
        List.singleton_append]

/-- An escaped key is read up to the next dot, unless it ends in a backslash. -/
theorem splitFrom_escapeDots_dot (current rest : List Char) {key : List Char}
    (hend : key.getLast? ≠ some '\\') :
    splitFrom current (escapeDots key ++ '.' :: rest) = (current ++ key) :: splitFrom [] rest := by
  induction key generalizing current with
  | nil => simp [escapeDots, splitFrom]
  | cons c key ih =>
    have hrest : key.getLast? ≠ some '\\' := fun h => hend (by simp [List.getLast?_cons, h])
    by_cases hc : c = '.'
    · subst hc
      rw [escapeDots_dot, List.cons_append, List.cons_append, splitFrom, ih _ hrest,
        List.append_assoc, List.singleton_append]
    · -- a backslash right before the dot between two keys would be the end of its key
      have hhead : c = '\\' → (escapeDots key ++ '.' :: rest).head? ≠ some '.' := by
        rintro rfl
        refine head?_escapeDots_append ?_ _
        rintro rfl
        exact hend rfl
      rw [escapeDots_cons hc, List.cons_append, splitFrom_cons current hc hhead, ih _ hrest,
        List.append_assoc, List.singleton_append]

/-- **The keys of a path are those that it was written for**, when no key but the last ends in a
backslash. -/
theorem split_encode {keys : List (List Char)}
    (hkeys : ∀ key ∈ keys.dropLast, key.getLast? ≠ some '\\') : split (encode keys) = keys := by
  induction keys with
  | nil => rfl
  | cons key keys ih =>
    cases keys with
    | nil =>
      rw [encode_singleton, split]
      by_cases hkey : key = []
      · subst hkey
        rfl
      · rw [if_neg hkey, List.append_nil, splitFrom_escapeDots, List.nil_append, if_neg]
        simpa using hkey
    | cons next keys =>
      rw [List.dropLast_cons_cons, List.forall_mem_cons] at hkeys
      rw [encode_cons_cons, split, splitFrom_escapeDots_dot [] _ hkeys.1, List.nil_append]
      exact congrArg (key :: ·) (ih hkeys.2)

/-- No key of a path but the last ends in a backslash. By induction on the path, of which `current`
has been read: a backslash that was read as such had no dot behind it, which it would have
escaped. -/
theorem getLast?_of_mem_splitFrom {current path : List Char}
    (hcurrent : current.getLast? = some '\\' → path.head? ≠ some '.') :
    ∀ key ∈ (splitFrom current path).dropLast, key.getLast? ≠ some '\\' := by
  fun_induction splitFrom current path with
  | case1 current => simp
  | case2 current h => simp
  | case3 current path ih => exact ih (by simp)
  | case4 current path ih =>
    intro key hkey
    cases hrest : splitFrom [] path with
    | nil => simp [hrest] at hkey
    | cons next keys =>
      rw [hrest, List.dropLast_cons_cons, ← hrest] at hkey
      rcases List.mem_cons.mp hkey with rfl | hkey
      · exact fun hend => hcurrent hend rfl
      · exact ih (by simp) key hkey
  | case5 current c path hescape hdot ih =>
    refine ih fun hend hhead => ?_
    obtain ⟨rest, rfl⟩ := List.head?_eq_some_iff.mp hhead
    rw [List.getLast?_concat, Option.some.injEq] at hend
    exact hescape rest hend rfl

/-! ## Texts -/

theorem keys_text {keys : List String} (hkeys : Separable keys) : Path.keys (text keys) = keys := by
  have hsplit : split (encode (keys.map String.toList)) = keys.map String.toList := by
    refine split_encode fun key hkey => ?_
    rw [← List.map_dropLast] at hkey
    obtain ⟨k, hk, rfl⟩ := List.mem_map.mp hkey
    exact hkeys k hk
  simp [Path.keys, text, hsplit]

theorem separable_keys (path : String) : Separable (Path.keys path) := by
  intro key hkey
  rw [Path.keys, ← List.map_dropLast] at hkey
  obtain ⟨cs, hcs, rfl⟩ := List.mem_map.mp hkey
  rw [String.toList_ofList]
  exact getLast?_of_mem_splitFrom (by simp) cs hcs

end Path

/-! ## What keys lead to -/

/-- Keys lead from a value to a part of it: each to a member of an object, or to the item of an
array at the position that it names. -/
inductive Json.Leads : List String → Json → Json → Prop
  | here (value : Json) : Leads [] value value
  | member {key : String} {keys : List String} {members : Members} {value part : Json}
      (h : members.get? key = some value) (rest : Leads keys value part) :
      Leads (key :: keys) (.object members) part
  | item {key : String} {keys : List String} {items : List Json} {n : Nat} {value part : Json}
      (hn : Selector.position? key = some n) (h : items[n]? = some value)
      (rest : Leads keys value part) : Leads (key :: keys) (.array items) part

namespace Selector

theorem follow_eq_some {keys : List String} {value part : Json} :
    follow keys value = some part ↔ Json.Leads keys value part := by
  constructor
  · intro h
    induction keys generalizing value with
    | nil =>
      obtain rfl := Option.some.inj h
      exact .here value
    | cons key keys ih =>
      obtain ⟨next, hnext, hrest⟩ := Option.bind_eq_some_iff.mp h
      unfold child? at hnext
      split at hnext
      · exact .member hnext (ih hrest)
      · obtain ⟨n, hn, hitem⟩ := Option.bind_eq_some_iff.mp hnext
        exact .item hn hitem (ih hrest)
      · cases hnext
  · intro h
    induction h with
    | here value => rfl
    | member h rest ih => rw [follow, child?, h, Option.bind_some, ih]
    | item hn h rest ih => rw [follow, child?, hn, Option.bind_some, h, Option.bind_some, ih]

/-- Nothing is rewritten in a text without brackets. -/
theorem normalize_of_notMem {cs : List Char} (h : '[' ∉ cs) : Bracket.normalize cs = cs := by
  rw [Bracket.normalize, List.count_eq_zero.mpr h]
  rfl

/-- **The selector for a list of keys has these keys.** -/
theorem segments_text {keys : List String} (hkeys : Path.Separable keys)
    (hbracket : ∀ key ∈ keys, '[' ∉ key.toList) : segments ⟨Path.text keys⟩ = keys := by
  have hpath : '[' ∉ (Path.text keys).toList := by
    rw [Path.text, String.toList_ofList]
    intro h
    obtain ⟨cs, hcs, hmem⟩ := Path.mem_of_mem_encode (by decide) (by decide) h
    obtain ⟨key, hkey, rfl⟩ := List.mem_map.mp hcs
    exact hbracket key hkey hmem
  rw [segments, normalized, normalize_of_notMem hpath, String.ofList_toList, Path.keys_text hkeys]

theorem resolve_of_segments {s : Selector} (h : s.segments ≠ []) (document : Json) :
    s.resolve document = follow s.segments document := by
  unfold resolve
  split
  · contradiction
  · rfl

/-- **Dotted paths encode lists of keys.** The keys of the path for a list of keys are this list, if
no key but the last ends in a backslash. The keys of a path are always such a list, so a path that
is written for the keys of a path has the same keys. If the list is not empty, and no key holds an
opening bracket, the selector that is written for it resolves to what the keys lead to, and to
nothing when they lead nowhere. -/
theorem resolve_text :
    (∀ keys, Path.Separable keys → Path.keys (Path.text keys) = keys) ∧
      (∀ path, Path.Separable (Path.keys path) ∧
        Path.keys (Path.text (Path.keys path)) = Path.keys path) ∧
      ∀ keys, Path.Separable keys → keys ≠ [] → (∀ key ∈ keys, '[' ∉ key.toList) →
        ∀ document,
          (∀ part, resolve ⟨Path.text keys⟩ document = some part ↔
            Json.Leads keys document part) ∧
          (resolve ⟨Path.text keys⟩ document = none ↔
            ¬ ∃ part, Json.Leads keys document part) := by
  refine ⟨fun keys => Path.keys_text, fun path => ⟨Path.separable_keys path, ?_⟩,
    fun keys hkeys hne hbracket document => ?_⟩
  · exact Path.keys_text (Path.separable_keys path)
  · have hsegments := segments_text hkeys hbracket
    have hresolve : resolve ⟨Path.text keys⟩ document = follow keys document := by
      rw [resolve_of_segments (by rwa [hsegments]), hsegments]
    simp only [← follow_eq_some, hresolve, true_and, Option.eq_none_iff_forall_ne_some,
      not_exists, implies_true, ne_eq]

/-- A dot and a backslash in keys, an empty key, and a position. -/
theorem resolve_text_escaped :
    Path.text ["a.b", "", "0", "x\\"] = "a\\.b..0.x\\" ∧
      Path.Separable ["a.b", "", "0", "x\\"] ∧ ["a.b", "", "0", "x\\"] ≠ [] ∧
      (∀ key ∈ ["a.b", "", "0", "x\\"], '[' ∉ key.toList) ∧
      Path.keys (Path.text ["a.b", "", "0", "x\\"]) = ["a.b", "", "0", "x\\"] ∧
      resolve ⟨Path.text ["a.b", "", "0", "x\\"]⟩
          (.object [("a.b", .object [("", .array [.object [("x\\", .bool true)]])])]) =
        some (.bool true) := by
  have hkeys : Path.Separable ["a.b", "", "0", "x\\"] := by decide
  have hbracket : ∀ key ∈ ["a.b", "", "0", "x\\"], '[' ∉ key.toList := by decide
  have hleads : Json.Leads ["a.b", "", "0", "x\\"]
      (.object [("a.b", .object [("", .array [.object [("x\\", .bool true)]])])]) (.bool true) :=
    .member rfl (.member rfl (.item (n := 0) rfl rfl (.member rfl (.here _))))
  obtain ⟨hread, -, hresolve⟩ := resolve_text
  exact ⟨rfl, hkeys, by decide, hbracket, hread _ hkeys,
    ((hresolve _ hkeys (by decide) hbracket _).1 _).mpr hleads⟩

end Selector

end DocFilter
