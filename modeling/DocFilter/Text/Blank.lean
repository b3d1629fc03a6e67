/-!
# Blanks, trimming and lines

The white space characters of Unicode, the text that is left when blanks are taken off both ends,
and the lines of a text. `trim_eq_nil_iff` says that only blank text trims to nothing.
-/

namespace DocFilter

/-- Whether `c` has the Unicode property White_Space. -/
def isBlank (c : Char) : Bool :=
  let n := c.toNat
  (0x9 ≤ n && n ≤ 0xD) || n == 0x20 || n == 0x85 || n == 0xA0 || n == 0x1680 ||
    (0x2000 ≤ n && n ≤ 0x200A) || n == 0x2028 || n == 0x2029 || n == 0x202F || n == 0x205F ||
    n == 0x3000

/-- The characters without the blanks in front. -/
def trimLeft (cs : List Char) : List Char :=
  cs.dropWhile isBlank

/-- The characters without the blanks at either end. -/
def trim (cs : List Char) : List Char :=
  (trimLeft (trimLeft cs).reverse).reverse

/-- The lines of a text: what stands between line feeds. -/
def splitLines : List Char → List (List Char)
  | [] => [[]]
  | c :: cs =>
    if c = '\n' then [] :: splitLines cs
    else
      match splitLines cs with
      | [] => [[c]]
      | line :: lines => (c :: line) :: lines

theorem splitLines_ne_nil (cs : List Char) : splitLines cs ≠ [] := by
  cases cs with
  | nil => simp [splitLines]
  | cons c cs =>
    simp only [splitLines]
    split
    · simp
    · split <;> simp

theorem trimLeft_eq_nil_iff {cs : List Char} :
    trimLeft cs = [] ↔ ∀ c ∈ cs, isBlank c = true := by
  induction cs with
  | nil => simp [trimLeft]
  | cons c cs ih =>
    by_cases h : isBlank c = true
    · have hskip : trimLeft (c :: cs) = trimLeft cs := by simp [trimLeft, h]
      rw [hskip, ih, List.forall_mem_cons]
      exact ⟨fun hcs => ⟨h, hcs⟩, And.right⟩
    · simp [trimLeft, h]

/-- Only blank text trims to nothing. -/
theorem trim_eq_nil_iff {cs : List Char} : trim cs = [] ↔ ∀ c ∈ cs, isBlank c = true := by
  rw [← trimLeft_eq_nil_iff]
  constructor
  · intro h
    have hrev : trimLeft (trimLeft cs).reverse = [] := by simpa [trim] using h
    have hall : ∀ c ∈ trimLeft cs, isBlank c = true := by
      simpa using trimLeft_eq_nil_iff.1 hrev
    cases hcs : trimLeft cs with
    | nil => rfl
    | cons c r =>
      have hblank : isBlank c = true := hall c (by simp [hcs])
      have hhead := List.head?_dropWhile_not isBlank cs
      rw [show cs.dropWhile isBlank = c :: r from hcs] at hhead
      simp [hblank] at hhead
  · intro h
    rw [trim, h]
    rfl

end DocFilter
