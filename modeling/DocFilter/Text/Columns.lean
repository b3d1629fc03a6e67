import DocFilter.Text.Character
import DocFilter.Text.WidthTable

/-!
# Columns

How many columns of a terminal a text takes: two for a wide character, none for a character that
joins the one before it, one for any other. In some scripts two letters that meet are drawn as one
form. A text is measured from its end, as it takes the later letter to see what the earlier one
turns into. `columns_padRight` states that padding brings a text to exactly the width asked for,
unless it is wider already.
-/

namespace DocFilter

/-- The columns that a character takes by itself. -/
def charColumns (c : Char) : Nat :=
  if c.toNat < 0x80 ∨ c.toNat = 0x2D7F then 1
  else if c.toNat = 0x17A4 then 2
  else if extendsGrapheme c || CodeRange.search zeroWidthCharacters c.toNat then 0
  else if CodeRange.search wideCharacters c.toNat then 2
  else 1

namespace Columns

/-- The form that a text begins with, by what can be drawn as one with it. -/
inductive Form where
  /-- A form of some columns that stands for itself. -/
  | alone (columns : Nat)
  | alef
  | lamed
  | khmerLetter
  | bugineseYa
  | bugineseVowelYa
  | tifinaghLetter
  | tifinaghJoined
  | lisuTone
  | orkhonVowel
  | kiratVowel
  | kiratDoubleVowel
  deriving DecidableEq, Repr

/-- The columns that a form takes. -/
def Form.columns : Form → Nat
  | alone columns => columns
  | tifinaghJoined => 2
  | _ => 1

/-- What a text begins with: a form, whether a joiner stands before it, and whether the mark stands
before it that asks for an emoji. -/
structure Start where
  form : Form
  joiner : Bool
  emoji : Bool
  deriving DecidableEq, Repr

/-- The start of a text that begins with a form. -/
def Start.of (form : Form) : Start := ⟨form, false, false⟩

/-- Whether code point `n` lies in one of some ranges. -/
def isIn (n : Nat) (ranges : List CodeRange) : Bool :=
  ranges.any (·.contains n)

/-- Arabic letters with the form of alef. -/
def alefs : List CodeRange :=
  [⟨0x622, 0x623⟩, ⟨0x625, 0x625⟩, ⟨0x627, 0x627⟩, ⟨0x671, 0x673⟩, ⟨0x675, 0x675⟩,
    ⟨0x773, 0x774⟩, ⟨0x870, 0x882⟩]

/-- Arabic letters with the form of lam. -/
def lams : List CodeRange :=
  [⟨0x644, 0x644⟩, ⟨0x6B5, 0x6B8⟩, ⟨0x76A, 0x76A⟩, ⟨0x8A6, 0x8A6⟩, ⟨0x8C7, 0x8C7⟩]

/-- Khmer letters that have a form below the line. -/
def khmerLetters : List CodeRange :=
  [⟨0x1780, 0x1782⟩, ⟨0x1784, 0x1787⟩, ⟨0x1789, 0x178C⟩, ⟨0x178E, 0x1793⟩, ⟨0x1795, 0x1798⟩,
    ⟨0x179B, 0x179D⟩, ⟨0x17A0, 0x17A0⟩, ⟨0x17A2, 0x17A2⟩, ⟨0x17A7, 0x17A7⟩, ⟨0x17AB, 0x17AC⟩,
    ⟨0x17AF, 0x17AF⟩]

/-- Tifinagh consonants. -/
def tifinaghLetters : List CodeRange := [⟨0x2D31, 0x2D65⟩, ⟨0x2D6F, 0x2D6F⟩]

/-- Marks without a form of their own, which do not part letters. -/
def transparentMarks : List CodeRange :=
  [⟨0x34F, 0x34F⟩, ⟨0x17B4, 0x17B5⟩, ⟨0x180B, 0x180D⟩, ⟨0x180F, 0x180F⟩, ⟨0xFE00, 0xFE0F⟩,
    ⟨0xE0100, 0xE01EF⟩]

/-- Digits and letters that the emoji mark turns into emoji. -/
def emojiLetters : List CodeRange :=
  [⟨0x30, 0x39⟩, ⟨0x2139, 0x2139⟩, ⟨0x24C2, 0x24C2⟩, ⟨0x1F170, 0x1F171⟩, ⟨0x1F17E, 0x1F17F⟩]

/-- The form of a character by itself. -/
def formOf (c : Char) : Form :=
  let n := c.toNat
  if isIn n alefs then .alef
  else if n = 0x5DC then .lamed
  else if isIn n khmerLetters then .khmerLetter
  else if n = 0x1A10 then .bugineseYa
  else if isIn n tifinaghLetters then .tifinaghLetter
  else if n = 0xA4FC ∨ n = 0xA4FD then .lisuTone
  else if n = 0x10C03 then .orkhonVowel
  else if n = 0x16D67 then .kiratVowel
  else if n = 0x16D68 then .kiratDoubleVowel
  else .alone (charColumns c)

/-- The form that code point `n` and the form after it are drawn as; `joiner` tells whether a
joiner stands between them. -/
def Form.joinedWith? (n : Nat) (joiner : Bool) : Form → Option Form
  | alone _ => none
  | alef => if isIn n lams then some (.alone 1) else none
  | lamed => if joiner && n == 0x5D0 then some (.alone 1) else none
  | khmerLetter => if n = 0x17D2 then some (.alone 0) else none
  | bugineseYa => if joiner && n == 0x1A17 then some .bugineseVowelYa else none
  | bugineseVowelYa => if n = 0x1A15 then some (.alone 1) else none
  | tifinaghLetter =>
    if n = 0x2D7F then some .tifinaghJoined
    else if joiner && isIn n tifinaghLetters then some (.alone 1)
    else none
  | tifinaghJoined => if isIn n tifinaghLetters then some (.alone 1) else none
  | lisuTone => if 0xA4F8 ≤ n ∧ n ≤ 0xA4FB then some (.alone 1) else none
  | orkhonVowel => if joiner && n == 0x10C32 then some (.alone 1) else none
  | kiratVowel =>
    if n = 0x16D63 ∨ n = 0x16D69 then some (.alone 1)
    else if n = 0x16D67 then some .kiratDoubleVowel
    else none
  | kiratDoubleVowel => if n = 0x16D63 then some (.alone 1) else none

/-- What a form is drawn as behind a mark that does not part it from the letter before the mark:
any mark for an alef, certain ones and a joiner for the other letters. -/
def Start.behindMark? (c : Char) (start : Start) : Option Start :=
  let n := c.toNat
  let emoji := n == 0xFE0F
  match start.form with
  | .alone _ => none
  | .alef =>
    if (categoryOf n).isMark && charColumns c == 0 then some { start with emoji } else none
  | _ =>
    if n = 0x200D then some ⟨start.form, true, false⟩
    else if isIn n transparentMarks then some { start with emoji }
    else none

/-- The start of a text with `c` in front of it, and the columns of what can no longer change. -/
def extend (c : Char) (start : Start) : Nat × Start :=
  if start.emoji && isIn c.toNat emojiLetters then (start.form.columns, .of (.alone 2))
  else
    match start.form.joinedWith? c.toNat start.joiner with
    | some form => (0, .of form)
    | none =>
      match start.behindMark? c with
      | some start => (0, start)
      | none => (start.form.columns, ⟨formOf c, false, c.toNat == 0xFE0F⟩)

/-- The columns of a text, in front of a text with a given start, without those of the form that
the whole begins with; and the start of the whole. -/
def measure (start : Start) : List Char → Nat × Start
  | [] => (0, start)
  | c :: cs =>
    let (columns, start) := measure start cs
    let (more, start) := extend c start
    (columns + more, start)

end Columns

/-- The columns that characters take. -/
def columnsOf (cs : List Char) : Nat :=
  let (columns, start) := Columns.measure (.of (.alone 0)) cs
  columns + start.form.columns

/-- The columns that a text takes. -/
def columns (s : String) : Nat :=
  columnsOf s.toList

/-- A text with blanks after it, up to a width. -/
def padRight (width : Nat) (s : String) : String :=
  String.ofList (s.toList ++ List.replicate (width - columns s) ' ')

namespace Columns

theorem extend_alone (c : Char) (n : Nat) :
    extend c (.of (.alone n)) = (n, ⟨formOf c, false, c.toNat == 0xFE0F⟩) := rfl

/-- Whatever stands in front of a form that joins nothing is measured by itself. -/
theorem measure_alone (a b : Nat) (cs : List Char) :
    (∃ n, measure (.of (.alone a)) cs = (n, .of (.alone a)) ∧
        measure (.of (.alone b)) cs = (n, .of (.alone b))) ∨
      ∃ n start, measure (.of (.alone a)) cs = (n + a, start) ∧
        measure (.of (.alone b)) cs = (n + b, start) := by
  induction cs with
  | nil => exact .inl ⟨0, rfl, rfl⟩
  | cons c cs ih =>
    right
    rcases ih with ⟨n, ha, hb⟩ | ⟨n, start, ha, hb⟩
    · refine ⟨n, ⟨formOf c, false, c.toNat == 0xFE0F⟩, ?_, ?_⟩
      · simp only [measure, ha, extend_alone]
      · simp only [measure, hb, extend_alone]
    · refine ⟨n + (extend c start).1, (extend c start).2, ?_, ?_⟩
      · simp only [measure, ha]
        rw [Nat.add_right_comm]
      · simp only [measure, hb]
        rw [Nat.add_right_comm]

theorem measure_append (start : Start) (as bs : List Char) :
    measure start (as ++ bs) =
      ((measure start bs).1 + (measure (measure start bs).2 as).1,
        (measure (measure start bs).2 as).2) := by
  induction as with
  | nil => rfl
  | cons c cs ih => simp only [List.cons_append, measure, ih, Nat.add_assoc]

/-- Blanks take a column each and join nothing. -/
theorem measure_replicate_blank (n : Nat) :
    measure (.of (.alone 0)) (List.replicate (n + 1) ' ') = (n, .of (.alone 1)) := by
  induction n with
  | zero => rfl
  | succ n ih =>
    rw [List.replicate_succ]
    simp only [measure, ih]
    rfl

end Columns

theorem columnsOf_append_replicate_blank (cs : List Char) (n : Nat) :
    columnsOf (cs ++ List.replicate n ' ') = columnsOf cs + n := by
  cases n with
  | zero => simp
  | succ n =>
    simp only [columnsOf, Columns.measure_append, Columns.measure_replicate_blank]
    rcases Columns.measure_alone 0 1 cs with ⟨m, h0, h1⟩ | ⟨m, start, h0, h1⟩
    · rw [h0, h1]
      simp only [Columns.Start.of, Columns.Form.columns]
      omega
    · rw [h0, h1]
      dsimp only
      omega

theorem columns_padRight (width : Nat) (s : String) :
    columns (padRight width s) = max width (columns s) := by
  have h : columns (padRight width s) = columns s + (width - columns s) := by
    rw [columns, padRight, String.toList_ofList, columnsOf_append_replicate_blank, columns]
  rw [h]
  omega

end DocFilter
