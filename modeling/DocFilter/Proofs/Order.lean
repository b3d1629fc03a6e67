import DocFilter.Coercion
import Mathlib.Data.List.TakeWhile

/-!
# The order of values

Two values are put in order by their texts where both have one, and by their numbers otherwise.
Loose equality also goes by texts or by numbers, but it chooses between them in another way: a
container that meets a scalar is its text from then on, while for the order it keeps rules of its own
for its number. This file shows that the two ways meet.

> `looseEq_iff_compareValues?`: a value is loosely equal to a scalar, when neither is `null`, just
> when the order between them is that of equal values.

The bridge is `toNumber?_container`: the number of a container is the number that its text stands
for, because a text with a comma in it stands for none (`textNumber?_comma`).

The order can be asked from either side:

> `compareValues?_swap`: the order of two values is that of the other two, turned round.

Of floats nothing is assumed: what is needed follows from their parts (`compareFloats?_eq`).
-/

namespace DocFilter

/-- An order that has been turned round, turned back. -/
theorem map_swap_eq_some {o : Option Ordering} {p : Ordering} :
    o.map Ordering.swap = some p ↔ o = some p.swap := by
  cases o with
  | none => simp
  | some q => cases q <;> cases p <;> simp

/-! ## Floats -/

section
open Float.Model (UnpackedFloat)

/-- The order of the parts of floats, turned round. -/
theorem unpackedCompare_swap (a b : UnpackedFloat) :
    b.compare a = (a.compare b).map Ordering.swap := by
  have hsigns : ∀ s t : UnpackedFloat.Sign, compare t s = (compare s t).swap := by
    intro s t
    cases s <;> cases t <;> rfl
  have hsizes : ∀ (e f : Int) (m n : Nat), (compare f e).then (compare n m) =
      ((compare e f).then (compare m n)).swap := by
    intro e f m n
    rw [Ordering.swap_then, Int.compare_swap, Nat.compare_swap]
  cases a with
  | notANumber => cases b <;> rfl
  | infinity s =>
    cases b with
    | infinity t => exact congrArg some (hsigns s t)
    | _ => cases s <;> rfl
  | zero s =>
    cases b with
    | infinity t | finite t => cases t <;> rfl
    | _ => rfl
  | finite s m e =>
    cases b with
    | infinity t => cases t <;> rfl
    | finite t n f =>
      -- two numbers of one sign are ordered by their sizes, negative ones the other way round
      cases s with
      | positive =>
        cases t with
        | positive => exact congrArg some (hsizes e f m n)
        | negative => rfl
      | negative =>
        cases t with
        | positive => rfl
        | negative => exact congrArg (fun o => some o.swap) (hsizes e f m n)
    | _ => cases s <;> rfl

theorem floatLt_iff {x y : Float} :
    x < y ↔ x.toModel.unpack.compare y.toModel.unpack = some .lt := by
  show decide ((x.toModel.unpack.compare y.toModel.unpack == some .lt) = true) = true ↔ _
  rw [decide_eq_true_eq, beq_iff_eq]

theorem floatBeq_iff {x y : Float} :
    (x == y) = true ↔ x.toModel.unpack.compare y.toModel.unpack = some .eq := by
  show (x.toModel.unpack.compare y.toModel.unpack == some .eq) = true ↔ _
  rw [beq_iff_eq]

/-- Floats are ordered as their parts are. -/
theorem compareFloats?_eq (x y : Float) :
    compareFloats? x y = x.toModel.unpack.compare y.toModel.unpack := by
  have hgreater : y < x ↔ x.toModel.unpack.compare y.toModel.unpack = some .gt := by
    rw [floatLt_iff, unpackedCompare_swap, map_swap_eq_some]
    rfl
  unfold compareFloats?
  simp only [floatLt_iff (x := x), floatBeq_iff, hgreater]
  cases x.toModel.unpack.compare y.toModel.unpack with
  | none => rfl
  | some o => cases o <;> rfl

end

/-- Floats are equal when neither comes before the other. -/
theorem compareFloats?_eq_some_eq {x y : Float} :
    compareFloats? x y = some .eq ↔ (x == y) = true := by
  rw [compareFloats?_eq, floatBeq_iff]

theorem compareFloats?_swap (x y : Float) :
    compareFloats? y x = (compareFloats? x y).map Ordering.swap := by
  rw [compareFloats?_eq, compareFloats?_eq, unpackedCompare_swap]

/-! ## Texts -/

theorem compareTexts_eq_eq {s t : String} : compareTexts s t = .eq ↔ s = t := by
  unfold compareTexts
  by_cases hlt : s < t
  · rw [if_pos hlt]
    refine ⟨fun h => ?_, fun h => absurd (h ▸ hlt) (String.lt_irrefl t)⟩
    cases h
  · rw [if_neg hlt]
    by_cases heq : s = t
    · simp [heq]
    · simp [heq]

theorem compareTexts_swap (s t : String) : compareTexts t s = (compareTexts s t).swap := by
  unfold compareTexts
  by_cases heq : s = t
  · simp [heq]
  · have hne : ¬ t = s := fun h => heq h.symm
    rw [if_neg heq, if_neg hne]
    by_cases hlt : s < t
    · rw [if_pos hlt, if_neg (String.lt_asymm hlt)]
      rfl
    · -- of two texts that differ, one comes first
      have hgt : t < s := by
        by_contra hle
        exact heq (String.le_antisymm (String.not_lt.mp hle) (String.not_lt.mp hlt))
      rw [if_neg hlt, if_pos hgt]
      rfl

/-! ## Texts of numbers -/

/-- Whether a character can stand in a decimal number. -/
def isDecimalPart (c : Char) : Bool :=
  c.isDigit || c == '+' || c == '-' || c == '.' || c == 'e' || c == 'E'

/-- The digits behind a point, and the rest. -/
def takeDecimals : List Char → List Char × List Char
  | '.' :: rest => takeDigits rest
  | rest => ([], rest)

/-- A decimal number is read part by part. -/
theorem readDecimal?_eq (cs : List Char) :
    readDecimal? cs =
      let whole := takeDigits (takeSign cs).2
      let fraction := takeDecimals whole.2
      if whole.1.isEmpty && fraction.1.isEmpty then none
      else
        match takeExponent fraction.2 with
        | some (exponent, []) =>
          some ((⟨whole.1, fraction.1, exponent⟩ : DecimalLiteral).toFloat (takeSign cs).1)
        | _ => none := rfl

section
variable {cs : List Char} {c : Char} (h : c ∈ cs)
include h

/-- What is not a digit is left when digits are taken from the front. -/
theorem mem_takeDigits : isDecimalPart c = true ∨ c ∈ (takeDigits cs).2 := by
  rw [← List.takeWhile_append_dropWhile (p := Char.isDigit) (l := cs), List.mem_append] at h
  refine h.imp (fun hdigit => ?_) id
  have hc : c.isDigit = true := List.mem_takeWhile_imp hdigit
  simp [isDecimalPart, hc]

theorem mem_takeSign : isDecimalPart c = true ∨ c ∈ (takeSign cs).2 := by
  unfold takeSign
  split
  · rcases List.mem_cons.mp h with rfl | h
    · exact .inl rfl
    · exact .inr h
  · rcases List.mem_cons.mp h with rfl | h
    · exact .inl rfl
    · exact .inr h
  · exact .inr h

theorem mem_takeDecimals : isDecimalPart c = true ∨ c ∈ (takeDecimals cs).2 := by
  unfold takeDecimals
  split
  · rcases List.mem_cons.mp h with rfl | h
    · exact .inl rfl
    · exact mem_takeDigits h
  · exact .inr h

theorem mem_takeExponent {rest : List Char} {exponent : Int}
    (hexponent : takeExponent cs = some (exponent, rest)) : isDecimalPart c = true ∨ c ∈ rest := by
  cases cs with
  | nil => exact absurd h List.not_mem_nil
  | cons mark cs =>
    rw [takeExponent_cons] at hexponent
    by_cases hmark : mark = 'e' ∨ mark = 'E'
    · rw [if_pos hmark] at hexponent
      rcases List.mem_cons.mp h with rfl | h
      · rcases hmark with rfl | rfl <;> exact .inl rfl
      · rcases mem_takeSign h with h | h
        · exact .inl h
        · have hrest := mem_takeDigits h
          split at hexponent
          case h_1 => cases hexponent
          case h_2 hdigits =>
            cases hexponent
            rwa [hdigits] at hrest
    · rw [if_neg hmark] at hexponent
      cases hexponent
      exact .inr h

/-- A decimal number in full has no other characters in it. -/
theorem isDecimalPart_of_readDecimal? {x : Float} (hread : readDecimal? cs = some x) :
    isDecimalPart c = true := by
  rw [readDecimal?_eq] at hread
  simp only at hread
  split at hread
  case isTrue => cases hread
  case isFalse =>
    split at hread
    case h_2 => cases hread
    case h_1 hexponent =>
      -- what is none of the parts is left at the end, where nothing is left
      rcases mem_takeSign h with hc | h
      · exact hc
      rcases mem_takeDigits h with hc | h
      · exact hc
      rcases mem_takeDecimals h with hc | h
      · exact hc
      rcases mem_takeExponent h hexponent with hc | h
      · exact hc
      · exact absurd h List.not_mem_nil

theorem mem_trimLeft (hc : isBlank c = false) : c ∈ trimLeft cs := by
  rw [← List.takeWhile_append_dropWhile (p := isBlank) (l := cs), List.mem_append] at h
  refine h.elim (fun hblank => ?_) id
  have hblank : isBlank c = true := List.mem_takeWhile_imp hblank
  rw [hc] at hblank
  cases hblank

/-- Trimming takes off blanks only. -/
theorem mem_trim (hc : isBlank c = false) : c ∈ trim cs :=
  List.mem_reverse.mpr (mem_trimLeft (List.mem_reverse.mpr (mem_trimLeft h hc)) hc)

end

/-- **A text with a comma in it stands for no number.** -/
theorem textNumber?_comma {s : String} (h : ',' ∈ s.toList) : textNumber? s = none := by
  have htrimmed : ',' ∈ trim s.toList := mem_trim h rfl
  have hword : ∀ t : String, ',' ∉ t.toList → String.ofList (trim s.toList) ≠ t := by
    rintro t ht rfl
    rw [String.toList_ofList] at ht
    exact ht htrimmed
  unfold textNumber?
  simp only
  split
  case isTrue hempty =>
    rw [List.isEmpty_iff.mp hempty] at htrimmed
    exact absurd htrimmed List.not_mem_nil
  case isFalse =>
    split
    case isTrue =>
      -- there are letters in it, but it is none of the words for infinity
      split
      case h_1 h => exact absurd h (hword _ (by decide))
      case h_2 h => exact absurd h (hword _ (by decide))
      case h_3 h => exact absurd h (hword _ (by decide))
      case h_4 => rfl
    case isFalse =>
      cases hread : readDecimal? (trim s.toList) with
      | none => rfl
      | some x =>
        have hpart : isDecimalPart ',' = true := isDecimalPart_of_readDecimal? htrimmed hread
        cases hpart

/-! ## Values -/

/-- A container stands for the number that its text stands for. -/
theorem toNumber?_container {a : Json} (ha : a.isContainer = true) :
    toNumber? (some a) = textNumber? a.plainText := by
  cases a with
  | object members =>
    rw [Json.plainText]
    rfl
  | array items =>
    match items with
    | [] => rfl
    | [item] =>
      rw [Json.plainText, Json.plainTexts, Json.plainTexts, String.intercalate_singleton]
      rfl
    | first :: second :: rest =>
      have hcomma : ',' ∈ (Json.array (first :: second :: rest)).plainText.toList := by
        rw [Json.plainText, Json.plainTexts, Json.plainTexts, String.intercalate_cons_cons]
        simp
      rw [textNumber?_comma hcomma]
      rfl
  | _ => cases ha

/-- **A container is ordered as its text.** -/
theorem compareValues?_container {a : Json} (ha : a.isContainer = true) (b : Option Json) :
    compareValues? (some a) b = compareValues? (some (.string a.plainText)) b := by
  have htext : a.orderText? = (Json.string a.plainText).orderText? := by
    cases a with
    | array | object => rfl
    | _ => cases ha
  have hnumber : toNumber? (some a) = toNumber? (some (.string a.plainText)) :=
    toNumber?_container ha
  cases b with
  | none => rfl
  | some b => simp only [compareValues?, htext, hnumber]

/-- The order of two numbers, when there are two. -/
def compareNumbers? : Option Float → Option Float → Option Ordering
  | some x, some y => compareFloats? x y
  | _, _ => none

theorem compareNumbers?_swap (x y : Option Float) :
    compareNumbers? y x = (compareNumbers? x y).map Ordering.swap := by
  cases x with
  | none => cases y <;> rfl
  | some x =>
    cases y with
    | none => rfl
    | some y => exact compareFloats?_swap x y

/-- Two values are ordered by their texts, or else by their numbers. -/
theorem compareValues?_some (a b : Json) :
    compareValues? (some a) (some b) =
      match a.orderText?, b.orderText? with
      | some s, some t => some (compareTexts s t)
      | _, _ => compareNumbers? (toNumber? (some a)) (toNumber? (some b)) := rfl

/-- Two values of which one has no text are ordered by their numbers. -/
theorem compareValues?_numbers {a b : Json} (h : a.orderText? = none ∨ b.orderText? = none) :
    compareValues? (some a) (some b) = compareNumbers? (toNumber? (some a)) (toNumber? (some b)) := by
  rw [compareValues?_some]
  rcases h with h | h
  · rw [h]
  · rw [h]
    cases a.orderText? <;> rfl

/-- **The order of two values, turned round.** -/
theorem compareValues?_swap (a b : Option Json) :
    compareValues? b a = (compareValues? a b).map Ordering.swap := by
  cases a with
  | none => cases b <;> rfl
  | some a =>
    cases b with
    | none => rfl
    | some b =>
      cases ha : a.orderText? with
      | none =>
        rw [compareValues?_numbers (.inr ha), compareValues?_numbers (.inl ha),
          compareNumbers?_swap]
      | some s =>
        cases hb : b.orderText? with
        | none =>
          rw [compareValues?_numbers (.inl hb), compareValues?_numbers (.inr hb),
            compareNumbers?_swap]
        | some t =>
          rw [compareValues?_some, compareValues?_some, ha, hb]
          exact congrArg some (compareTexts_swap s t)

/-- Two values of which one has no text are in the order of equal values when their numbers are
equal. -/
theorem compareValues?_eq_some_eq {a b : Json} (h : a.orderText? = none ∨ b.orderText? = none) :
    compareValues? (some a) (some b) = some .eq ↔
      (match toNumber? (some a), toNumber? (some b) with
        | some x, some y => x == y
        | _, _ => false) = true := by
  rw [compareValues?_numbers h]
  cases toNumber? (some a) with
  | none => simp [compareNumbers?]
  | some x =>
    cases toNumber? (some b) with
    | none => simp [compareNumbers?]
    | some y => exact compareFloats?_eq_some_eq

/-- Scalars are loosely equal when neither comes before the other. -/
theorem scalarEq_iff_compareValues? {a b : Json} (ha : a.isContainer = false)
    (hanull : a ≠ .null) (hb : b.isContainer = false) (hbnull : b ≠ .null) :
    scalarEq a b = true ↔ compareValues? (some a) (some b) = some .eq := by
  cases a with
  | null => exact absurd rfl hanull
  | array | object => cases ha
  | string s =>
    cases b with
    | null => exact absurd rfl hbnull
    | array | object => cases hb
    | string t =>
      show (s == t) = true ↔ some (compareTexts s t) = some .eq
      rw [beq_iff_eq, Option.some_inj, compareTexts_eq_eq]
    | bool | number =>
      rw [compareValues?_eq_some_eq (.inr rfl)]
      rfl
  | bool p =>
    cases b with
    | null => exact absurd rfl hbnull
    | array | object => cases hb
    | bool q =>
      have hsame : (p == q) = ((if p then 1 else 0 : Float) == if q then 1 else 0) := by
        cases p <;> cases q <;> decide
      rw [compareValues?_eq_some_eq (.inl rfl)]
      exact Bool.eq_iff_iff.mp hsame
    | string | number =>
      rw [compareValues?_eq_some_eq (.inl rfl)]
      rfl
  | number m =>
    cases b with
    | null => exact absurd rfl hbnull
    | array | object => cases hb
    | number | string | bool =>
      rw [compareValues?_eq_some_eq (.inl rfl)]
      rfl

/-- Scalars meet as they are. -/
theorem looseEq_scalars {a b : Json} (ha : a.isContainer = false) (hanull : a ≠ .null)
    (hb : b.isContainer = false) (hbnull : b ≠ .null) :
    looseEq (some a) (some b) = scalarEq a b := by
  cases a with
  | null => exact absurd rfl hanull
  | array | object => cases ha
  | _ =>
    cases b with
    | null => exact absurd rfl hbnull
    | array | object => cases hb
    | _ => rfl

/-- A container meets a scalar as its text. -/
theorem looseEq_container {a b : Json} (ha : a.isContainer = true) (hb : b.isContainer = false)
    (hbnull : b ≠ .null) : looseEq (some a) (some b) = scalarEq (.string a.plainText) b := by
  cases a with
  | array | object =>
    cases b with
    | null => exact absurd rfl hbnull
    | array | object => cases hb
    | _ => rfl
  | _ => cases ha

/-- **Equality and order agree.** A value is loosely equal to a scalar, neither of them `null`,
exactly when the order between them is that of equal values. -/
theorem looseEq_iff_compareValues? {a v : Json} (ha : a ≠ .null)
    (hv : v.isContainer = false) (hvnull : v ≠ .null) :
    looseEq (some a) (some v) = true ↔ compareValues? (some a) (some v) = some .eq := by
  cases hshape : a.isContainer with
  | true =>
    rw [looseEq_container hshape hv hvnull, compareValues?_container hshape]
    exact scalarEq_iff_compareValues? rfl (by simp) hv hvnull
  | false =>
    rw [looseEq_scalars hshape ha hv hvnull]
    exact scalarEq_iff_compareValues? hshape ha hv hvnull

end DocFilter
