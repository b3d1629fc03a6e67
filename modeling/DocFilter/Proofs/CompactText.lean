import DocFilter.Json.Printer
import DocFilter.Proofs.Lookahead

/-!
# Compact text

Compact text stands on one line: numbers and words hold no blanks at all, and a line feed in a string
is escaped. It neither begins nor ends with a blank, so a line can hold it between blanks of its own.

> `Json.oneLine_compact`: compact text that reads back as its value is a text of the value on one line.
-/

namespace DocFilter

/-! ## Blanks -/

/-- Text without blanks. -/
def Dense (cs : List Char) : Prop :=
  ∀ c ∈ cs, isBlank c = false

instance (cs : List Char) : Decidable (Dense cs) :=
  decidable_of_iff (cs.all (fun c => !isBlank c) = true) (by simp [Dense])

theorem dense_nil : Dense [] :=
  List.forall_mem_nil _

theorem dense_cons {c : Char} {cs : List Char} :
    Dense (c :: cs) ↔ isBlank c = false ∧ Dense cs :=
  List.forall_mem_cons

theorem dense_append {cs ds : List Char} : Dense (cs ++ ds) ↔ Dense cs ∧ Dense ds :=
  List.forall_mem_append

/-- Text with no blank at either end. -/
def Flush (cs : List Char) : Prop :=
  (∀ c ∈ cs.head?, isBlank c = false) ∧ ∀ c ∈ cs.getLast?, isBlank c = false

theorem flush_of_dense {cs : List Char} (h : Dense cs) : Flush cs :=
  ⟨fun c hc => h c (List.mem_of_mem_head? hc), fun c hc => h c (List.mem_of_mem_getLast? hc)⟩

theorem flush_between {c d : Char} (hc : isBlank c = false) (hd : isBlank d = false)
    (cs : List Char) : Flush (c :: (cs ++ [d])) := by
  refine ⟨fun e he => ?_, fun e he => ?_⟩
  · cases he
    exact hc
  · rw [← List.cons_append, List.getLast?_concat] at he
    cases he
    exact hd

/-! ## Numbers -/

theorem dense_toDigits (n : Nat) : Dense (Nat.toDigits 10 n) := by
  intro c hc
  have hdigit : c.isDigit = true := Nat.isDigit_of_mem_toDigits (by decide) (by decide) hc
  rw [← Bool.not_eq_true]
  intro hblank
  rw [isDigit_of_isBlank hblank] at hdigit
  cases hdigit

theorem dense_significantDigits (n : Nat) : Dense (significantDigits n) := by
  intro c hc
  have hc' := List.dropWhile_subset _ (List.mem_reverse.mp hc)
  exact dense_toDigits n c (List.mem_reverse.mp hc')

theorem dense_replicate (n : Nat) : Dense (List.replicate n '0') := by
  intro c hc
  rw [List.eq_of_mem_replicate hc]
  rfl

theorem dense_plainText {digits : List Char} (h : Dense digits) (top : Int) :
    Dense (plainText digits top) := by
  have htake (n : Nat) : Dense (digits.take n) := fun c hc => h c (List.mem_of_mem_take hc)
  have hdrop (n : Nat) : Dense (digits.drop n) := fun c hc => h c (List.mem_of_mem_drop hc)
  unfold plainText
  split_ifs
  · refine dense_append.mpr ⟨dense_append.mpr ⟨htake _, dense_replicate _⟩, dense_cons.mpr ⟨rfl, ?_⟩⟩
    split_ifs
    · exact dense_cons.mpr ⟨rfl, dense_nil⟩
    · exact hdrop _
  · exact dense_cons.mpr ⟨rfl, dense_cons.mpr ⟨rfl, dense_append.mpr ⟨dense_replicate _, h⟩⟩⟩

theorem dense_scientificText {digits : List Char} (h : Dense digits) (top : Int) :
    Dense (scientificText digits top) := by
  have htake : Dense (digits.take 1) := fun c hc => h c (List.mem_of_mem_take hc)
  have hdrop : Dense (digits.drop 1) := fun c hc => h c (List.mem_of_mem_drop hc)
  have hsign : isBlank (if top < 0 then '-' else '+') = false := by split_ifs <;> rfl
  unfold scientificText
  refine dense_append.mpr ⟨dense_append.mpr ⟨htake, ?_⟩,
    dense_cons.mpr ⟨rfl, dense_cons.mpr ⟨hsign, dense_toDigits _⟩⟩⟩
  split_ifs
  · exact dense_nil
  · exact dense_cons.mpr ⟨rfl, hdrop⟩

theorem dense_floatText (x : Float) : Dense (floatText x).toList := by
  unfold floatText
  split
  · decide
  · next s _ =>
    have hbody : Dense (if s.mantissa = 0 then ['0', '.', '0'] else scaledText s) := by
      split_ifs
      · decide
      · unfold scaledText
        dsimp only
        split_ifs
        · exact dense_plainText (dense_significantDigits _) _
        · exact dense_scientificText (dense_significantDigits _) _
    rw [String.toList_ofList]
    generalize (if s.mantissa = 0 then ['0', '.', '0'] else scaledText s) = body at hbody ⊢
    split_ifs
    · exact dense_cons.mpr ⟨rfl, hbody⟩
    · exact hbody

theorem JsonNumber.dense_text (n : JsonNumber) : Dense n.text.toList := by
  cases n with
  | int i =>
    cases i with
    | ofNat n =>
      show Dense n.repr.toList
      rw [Nat.toList_repr]
      exact dense_toDigits n
    | negSucc n =>
      show Dense ("-" ++ n.succ.repr).toList
      rw [String.toList_append, Nat.toList_repr]
      exact dense_cons.mpr ⟨rfl, dense_toDigits _⟩
  | float x => exact dense_floatText x

/-! ## Line feeds -/

namespace Json

theorem hexDigit_ne_feed : ∀ n < 16, hexDigit n ≠ '\n' := by
  decide

theorem feed_notMem_escapeChar (c : Char) : '\n' ∉ escapeChar c := by
  unfold escapeChar
  split
  -- seven characters have an escape of their own, which is a backslash and a letter or a mark
  iterate 7 decide
  next hfeed _ _ _ _ =>
    split_ifs with hcontrol
    · have hhigh : '\n' ≠ hexDigit (c.toNat / 16) := (hexDigit_ne_feed _ (by omega)).symm
      have hlow : '\n' ≠ hexDigit (c.toNat % 16) := (hexDigit_ne_feed _ (by omega)).symm
      simp [hhigh, hlow]
    · exact fun hmem => hfeed (List.mem_singleton.mp hmem).symm

theorem toList_quote (s : String) :
    (quote s).toList = '"' :: (s.toList.flatMap escapeChar ++ ['"']) := by
  rw [quote, String.toList_ofList]
  rfl

theorem feed_notMem_quote (s : String) : '\n' ∉ (quote s).toList := by
  rw [toList_quote]
  simp only [List.mem_cons, List.mem_append, List.mem_flatMap, List.not_mem_nil, or_false, not_or]
  refine ⟨by decide, ?_, by decide⟩
  rintro ⟨c, -, hc⟩
  exact feed_notMem_escapeChar c hc

theorem feed_notMem_intercalate {texts : List String} (h : ∀ s ∈ texts, '\n' ∉ s.toList) :
    '\n' ∉ (String.intercalate "," texts).toList := by
  induction texts with
  | nil => decide
  | cons s texts ih =>
    obtain ⟨hs, hrest⟩ := List.forall_mem_cons.mp h
    cases texts with
    | nil => rwa [String.intercalate_singleton]
    | cons t texts =>
      rw [String.intercalate_cons_cons, String.toList_append, String.toList_append]
      simp only [List.mem_append, not_or]
      exact ⟨⟨hs, by decide⟩, ih hrest⟩

theorem compactItems_eq_map (items : List Json) : compactItems items = items.map compact := by
  induction items with
  | nil => rfl
  | cons item items ih => rw [compactItems, ih, List.map_cons]

theorem compactMembers_eq_map (members : Members) :
    compactMembers members = members.map fun m => quote m.1 ++ ":" ++ m.2.compact := by
  induction members with
  | nil => rfl
  | cons m members ih => rw [compactMembers, ih, List.map_cons]

/-- Compact text is one line. -/
theorem feed_notMem_compact (v : Json) : '\n' ∉ v.compact.toList := by
  induction v using Json.induct with
  | scalar v hv =>
    cases v with
    | null => decide
    | bool b => cases b <;> decide
    | number n => exact fun hmem => absurd (n.dense_text _ hmem) (by decide)
    | string s => exact feed_notMem_quote s
    | array | object => cases hv
  | array items ih =>
    have hitems : '\n' ∉ (String.intercalate "," (compactItems items)).toList := by
      rw [compactItems_eq_map]
      exact feed_notMem_intercalate (List.forall_mem_map.mpr ih)
    rw [compact, String.toList_append, String.toList_append]
    simp only [List.mem_append, not_or]
    exact ⟨⟨by decide, hitems⟩, by decide⟩
  | object members ih =>
    have hmembers : '\n' ∉ (String.intercalate "," (compactMembers members)).toList := by
      rw [compactMembers_eq_map]
      refine feed_notMem_intercalate (List.forall_mem_map.mpr fun m hm => ?_)
      rw [String.toList_append, String.toList_append]
      simp only [List.mem_append, not_or]
      exact ⟨⟨feed_notMem_quote m.1, by decide⟩, ih m hm⟩
    rw [compact, String.toList_append, String.toList_append]
    simp only [List.mem_append, not_or]
    exact ⟨⟨by decide, hmembers⟩, by decide⟩

theorem flush_compact (v : Json) : Flush v.compact.toList := by
  cases v with
  | null => exact flush_of_dense (by decide)
  | bool b => exact flush_of_dense (by cases b <;> decide)
  | number n => exact flush_of_dense n.dense_text
  | string s =>
    rw [compact, toList_quote]
    exact flush_between rfl rfl _
  | array items =>
    rw [compact, String.toList_append, String.toList_append]
    exact flush_between rfl rfl _
  | object members =>
    rw [compact, String.toList_append, String.toList_append]
    exact flush_between rfl rfl _

/-! ## Text on one line -/

/-- A text of the value on one line, with no blank at either end. -/
structure OneLine (v : Json) (text : List Char) : Prop where
  reads : Json.read? (String.ofList text) = some v
  line : '\n' ∉ text
  flush : Flush text

theorem OneLine.ne_nil {v : Json} {text : List Char} (h : v.OneLine text) : text ≠ [] := by
  rintro rfl
  have hnone : Json.read? (String.ofList []) = none := by cbv
  have hread := h.reads
  rw [hnone] at hread
  cases hread

/-- **Compact text that reads back as its value is a text of the value on one line.** -/
theorem oneLine_compact {v : Json} (h : Json.read? v.compact = some v) :
    v.OneLine v.compact.toList where
  reads := by rwa [String.ofList_toList]
  line := feed_notMem_compact v
  flush := flush_compact v

end Json

end DocFilter
