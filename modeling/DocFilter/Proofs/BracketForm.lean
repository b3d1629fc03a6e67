import DocFilter.Selector.Basic
import Mathlib.Data.List.Basic

/-!
# The bracket form

A text has the bracket form when it is a header on one line, a key in brackets, and a footer, where the key
has blanks and quotation marks around it or not. Headers and keys may hold brackets themselves, so a text
can be read in this form in many ways (`Bracket.Reads`). The reading that counts has the longest header, and
of these the longest key (`Bracket.Captured`). A key holds neither blanks nor quotation marks, so what stands
around it begins and ends where it does, and the two lengths leave one reading only. Hence

> `Bracket.form?_eq_some_iff`: the search finds the reading that counts, and
> `Bracket.form?_eq_none_iff`: it finds none only when there is none.
-/

namespace DocFilter.Bracket

/-! ## The bracket form -/

/-- A key as it is written in brackets: with blanks on either side, and with quotation marks or without
them. -/
structure Written where
  before : List Char
  opening : Option Char
  key : List Char
  closing : Option Char
  after : List Char
  before_blank : ∀ c ∈ before, isBlank c = true
  opening_quote : ∀ c ∈ opening, isQuote c = true
  key_ne_nil : key ≠ []
  key_chars : ∀ c ∈ key, isKeyChar c = true
  closing_quote : ∀ c ∈ closing, isQuote c = true
  after_blank : ∀ c ∈ after, isBlank c = true

/-- What stands behind the key. -/
def Written.ending (b : Written) : List Char :=
  b.closing.toList ++ (b.after ++ [']'])

/-- What stands behind the opening bracket. -/
def Written.inside (b : Written) : List Char :=
  b.before ++ (b.opening.toList ++ (b.key ++ b.ending))

/-- The key in its brackets. -/
def Written.text (b : Written) : List Char :=
  '[' :: b.inside

/-- What can follow a closing bracket: nothing, or a dot and more on the same line. -/
def Footer (cs : List Char) : Prop :=
  cs = [] ∨ ∃ more, cs = '.' :: more ∧ more ≠ [] ∧ '\n' ∉ more

/-- The text has the bracket form with these parts. -/
def Reads (cs : List Char) (f : Form) : Prop :=
  '\n' ∉ f.header ∧ Footer f.footer ∧
    ∃ b : Written, b.key = f.key ∧ cs = f.header ++ (b.text ++ f.footer)

/-- The reading that counts: of those with the longest header the one with the longest key. -/
structure Captured (cs : List Char) (f : Form) : Prop where
  reads : Reads cs f
  longest : ∀ g, Reads cs g → g.header.length < f.header.length ∨
    g.header.length = f.header.length ∧ g.key.length ≤ f.key.length

/-! ## Around the key -/

theorem isQuote_of_isBlank {c : Char} (h : isBlank c = true) : isQuote c = false := by
  rw [isQuote, Bool.or_eq_false_iff, beq_eq_false_iff_ne, beq_eq_false_iff_ne]
  constructor <;> rintro rfl <;> exact absurd h (by decide)

theorem isBlank_of_isQuote {c : Char} (h : isQuote c = true) : isBlank c = false :=
  Bool.eq_false_iff.mpr fun hblank => by simp [isQuote_of_isBlank hblank] at h

theorem isKeyChar_iff {c : Char} : isKeyChar c = true ↔ isQuote c = false ∧ isBlank c = false := by
  rw [isKeyChar, Bool.and_eq_true, Bool.not_eq_true', Bool.not_eq_true']

theorem isFooter_iff {cs : List Char} : isFooter cs = true ↔ Footer cs := by
  constructor
  · intro h
    unfold isFooter at h
    split at h
    · exact .inl rfl
    · next c cs =>
      refine .inr ⟨c :: cs, rfl, List.cons_ne_nil c cs, fun hmem => ?_⟩
      exact bne_iff_ne.mp (List.all_eq_true.mp h _ hmem) rfl
    · cases h
  · rintro (rfl | ⟨more, rfl, hne, hline⟩)
    · rfl
    · obtain ⟨c, cs, rfl⟩ := List.exists_cons_of_ne_nil hne
      exact List.all_eq_true.mpr fun d hd => bne_iff_ne.mpr (ne_of_mem_of_not_mem hd hline)

theorem dropWhile_isBlank_append {blank cs : List Char} (hblank : ∀ c ∈ blank, isBlank c = true)
    (hcs : ∀ c ∈ cs.head?, isBlank c = false) : (blank ++ cs).dropWhile isBlank = cs := by
  rw [List.dropWhile_append_of_pos hblank]
  cases cs with
  | nil => rfl
  | cons c cs => exact List.dropWhile_cons_of_neg (by rw [hcs c rfl]; exact Bool.false_ne_true)

theorem dropQuote_append {quote : Option Char} (hquote : ∀ c ∈ quote, isQuote c = true)
    {cs : List Char} (hcs : ∀ c ∈ cs.head?, isQuote c = false) :
    dropQuote (quote.toList ++ cs) = cs := by
  cases quote with
  | some c => exact if_pos (hquote c rfl)
  | none =>
    cases cs with
    | nil => rfl
    | cons c cs => exact if_neg (by rw [hcs c rfl]; exact Bool.false_ne_true)

theorem exists_dropQuote (cs : List Char) :
    ∃ quote : Option Char, (∀ c ∈ quote, isQuote c = true) ∧ cs = quote.toList ++ dropQuote cs := by
  cases cs with
  | nil => exact ⟨none, nofun, rfl⟩
  | cons c cs =>
    by_cases hc : isQuote c = true
    · refine ⟨some c, ?_, ?_⟩
      · rintro _ ⟨⟩
        exact hc
      · rw [dropQuote, if_pos hc]
        rfl
    · refine ⟨none, nofun, ?_⟩
      rw [dropQuote, if_neg hc]
      rfl

/-- A bracket is closed by a quotation mark or none, blanks, the closing bracket and a footer. -/
theorem closing?_eq_some_iff {cs footer : List Char} :
    closing? cs = some footer ↔ Footer footer ∧ ∃ (closing : Option Char) (after : List Char),
      (∀ c ∈ closing, isQuote c = true) ∧ (∀ c ∈ after, isBlank c = true) ∧
        cs = closing.toList ++ (after ++ ']' :: footer) := by
  constructor
  · intro h
    obtain ⟨closing, hclosing, hcs⟩ := exists_dropQuote cs
    rw [closing?] at h
    split at h
    · next rest hrest =>
      split at h
      · next hfooter =>
        cases h
        refine ⟨isFooter_iff.mp hfooter, closing, (dropQuote cs).takeWhile isBlank, hclosing,
          fun c hc => List.all_eq_true.mp List.all_takeWhile c hc, ?_⟩
        rw [← hrest, List.takeWhile_append_dropWhile, ← hcs]
      · cases h
    · cases h
  · rintro ⟨hfooter, closing, after, hclosing, hafter, rfl⟩
    have hhead : ∀ c ∈ (after ++ ']' :: footer).head?, isQuote c = false := by
      intro c hc
      cases after with
      | nil =>
        cases hc
        rfl
      | cons d after =>
        cases hc
        exact isQuote_of_isBlank (hafter _ List.mem_cons_self)
    rw [closing?, dropQuote_append hclosing hhead, List.dropWhile_append_of_pos hafter,
      List.dropWhile_cons_of_neg (by decide)]
    exact if_pos (isFooter_iff.mpr hfooter)

/-! ## The longest key -/

/-- A key in front of the text, closed with this footer. -/
inductive ReadsKey : List Char → List Char → List Char → Prop
  | last {c : Char} {cs footer : List Char} (hc : isKeyChar c = true)
    (h : closing? cs = some footer) : ReadsKey (c :: cs) [c] footer
  | cons {c : Char} {cs key footer : List Char} (hc : isKeyChar c = true)
    (rest : ReadsKey cs key footer) : ReadsKey (c :: cs) (c :: key) footer

namespace ReadsKey
variable {cs key footer : List Char}

theorem append (hne : key ≠ []) (hkey : ∀ c ∈ key, isKeyChar c = true) {rest : List Char}
    (hrest : closing? rest = some footer) : ReadsKey (key ++ rest) key footer := by
  induction key with
  | nil => exact absurd rfl hne
  | cons c key ih =>
    obtain ⟨hc, hchars⟩ := List.forall_mem_cons.mp hkey
    cases key with
    | nil => exact last hc hrest
    | cons d key => exact cons hc (ih (List.cons_ne_nil d key) hchars)

theorem exists_rest (h : ReadsKey cs key footer) :
    key ≠ [] ∧ (∀ c ∈ key, isKeyChar c = true) ∧
      ∃ rest, cs = key ++ rest ∧ closing? rest = some footer := by
  induction h with
  | last hc h => exact ⟨List.cons_ne_nil _ _, List.forall_mem_singleton.mpr hc, _, rfl, h⟩
  | cons hc _ ih =>
    obtain ⟨-, hchars, rest, rfl, hrest⟩ := ih
    exact ⟨List.cons_ne_nil _ _, List.forall_mem_cons.mpr ⟨hc, hchars⟩, rest, rfl, hrest⟩

theorem eq_of_length (h : ReadsKey cs key footer) {other ending : List Char}
    (hother : ReadsKey cs other ending) (hlength : key.length = other.length) :
    key = other ∧ footer = ending := by
  obtain ⟨-, -, rest, rfl, hrest⟩ := h.exists_rest
  obtain ⟨-, -, rest', heq, hrest'⟩ := hother.exists_rest
  obtain ⟨rfl, rfl⟩ := List.append_inj heq hlength
  exact ⟨rfl, Option.some.inj (hrest.symm.trans hrest')⟩

end ReadsKey

theorem not_readsKey_of_key?_eq_none {cs : List Char} (h : key? cs = none) (key footer : List Char) :
    ¬ ReadsKey cs key footer := by
  intro hread
  induction hread with
  | @last c cs footer hc hclosing =>
    rw [key?, if_pos hc] at h
    cases hk : key? cs <;> simp [hk, hclosing] at h
  | @cons c cs key footer hc _ ih =>
    rw [key?, if_pos hc] at h
    cases hk : key? cs with
    | none => exact ih hk
    | some p => simp [hk] at h

theorem readsKey_of_key?_eq_some {cs key footer : List Char} (h : key? cs = some (key, footer)) :
    ReadsKey cs key footer ∧
      ∀ other ending, ReadsKey cs other ending → other.length ≤ key.length := by
  induction cs generalizing key footer with
  | nil => cases h
  | cons c cs ih =>
    rw [key?] at h
    split at h
    · next hc =>
      cases hk : key? cs with
      | some p =>
        rw [hk] at h
        cases h
        obtain ⟨hread, hlongest⟩ := ih hk
        refine ⟨.cons hc hread, fun other ending hother => ?_⟩
        cases hother with
        | last => exact Nat.succ_le_succ (Nat.zero_le _)
        | cons _ hrest => exact Nat.succ_le_succ (hlongest _ _ hrest)
      | none =>
        -- the key ends here: no longer one is closed
        rw [hk] at h
        obtain ⟨footer, hclosing, heq⟩ := Option.map_eq_some_iff.mp h
        cases heq
        refine ⟨.last hc hclosing, fun other ending hother => ?_⟩
        cases hother with
        | last => exact Nat.le_refl _
        | cons _ hrest => exact absurd hrest (not_readsKey_of_key?_eq_none hk _ _)
    · cases h

namespace Written

theorem closing?_ending (b : Written) {footer : List Char} (hfooter : Footer footer) :
    closing? (b.ending ++ footer) = some footer := by
  refine closing?_eq_some_iff.mpr ⟨hfooter, b.closing, b.after, b.closing_quote, b.after_blank, ?_⟩
  simp [ending]

/-- Blanks and a quotation mark in front of a key are dropped, and nothing of the key. -/
theorem dropQuote_inside (b : Written) (cs : List Char) :
    dropQuote ((b.inside ++ cs).dropWhile isBlank) = b.key ++ (b.ending ++ cs) := by
  have hinside : b.inside ++ cs =
      b.before ++ (b.opening.toList ++ (b.key ++ (b.ending ++ cs))) := by
    simp [inside]
  -- a key begins with neither a blank nor a quotation mark, so nothing of it can be taken for these
  have hkey : ∀ c ∈ (b.key ++ (b.ending ++ cs)).head?, isKeyChar c = true := by
    obtain ⟨c, key, hb⟩ := List.exists_cons_of_ne_nil b.key_ne_nil
    rw [hb]
    rintro _ ⟨⟩
    exact b.key_chars c (hb ▸ List.mem_cons_self)
  have hopening : ∀ c ∈ (b.opening.toList ++ (b.key ++ (b.ending ++ cs))).head?,
      isBlank c = false := by
    cases hq : b.opening with
    | none => exact fun c hc => (isKeyChar_iff.mp (hkey c hc)).2
    | some q =>
      rintro _ ⟨⟩
      exact isBlank_of_isQuote (b.opening_quote q hq)
  rw [hinside, dropWhile_isBlank_append b.before_blank hopening,
    dropQuote_append b.opening_quote fun c hc => (isKeyChar_iff.mp (hkey c hc)).1]

end Written

/-- What a key is read from, behind an opening bracket, is a key as it is written in brackets. -/
theorem readsKey_iff {cs key footer : List Char} :
    ReadsKey (dropQuote (cs.dropWhile isBlank)) key footer ↔
      Footer footer ∧ ∃ b : Written, b.key = key ∧ cs = b.inside ++ footer := by
  constructor
  · intro h
    obtain ⟨hne, hkey, rest, hrest, hclosing⟩ := h.exists_rest
    obtain ⟨opening, hopening, hcs⟩ := exists_dropQuote (cs.dropWhile isBlank)
    obtain ⟨hfooter, closing, after, hquote, hafter, rfl⟩ := closing?_eq_some_iff.mp hclosing
    have hbefore : ∀ c ∈ cs.takeWhile isBlank, isBlank c = true :=
      fun c hc => List.all_eq_true.mp List.all_takeWhile c hc
    have htext : cs.takeWhile isBlank ++
        (opening.toList ++ (key ++ (closing.toList ++ (after ++ ']' :: footer)))) = cs := by
      rw [← hrest, ← hcs, List.takeWhile_append_dropWhile]
    refine ⟨hfooter, ⟨cs.takeWhile isBlank, opening, key, closing, after, hbefore, hopening, hne,
      hkey, hquote, hafter⟩, rfl, ?_⟩
    simpa [Written.inside, Written.ending] using htext.symm
  · rintro ⟨hfooter, b, rfl, rfl⟩
    rw [b.dropQuote_inside]
    exact .append b.key_ne_nil b.key_chars (b.closing?_ending hfooter)

/-! ## The longest header -/

theorem not_reads_nil (f : Form) : ¬ Reads [] f := by
  rintro ⟨-, -, b, -, hcs⟩
  simp [Written.text] at hcs

/-- The header of a reading is empty, or it goes on behind the first character. -/
theorem reads_cons_iff {c : Char} {cs : List Char} {f : Form} :
    Reads (c :: cs) f ↔
      (f.header = [] ∧ c = '[' ∧ ReadsKey (dropQuote (cs.dropWhile isBlank)) f.key f.footer) ∨
        ∃ header, f.header = c :: header ∧ c ≠ '\n' ∧ Reads cs { f with header := header } := by
  obtain ⟨header, key, footer⟩ := f
  constructor
  · rintro ⟨hheader, hfooter, b, hkey, hcs⟩
    cases header with
    | nil =>
      obtain ⟨rfl, hinside⟩ := List.cons.inj hcs
      exact .inl ⟨rfl, rfl, readsKey_iff.mpr ⟨hfooter, b, hkey, hinside⟩⟩
    | cons d header =>
      obtain ⟨rfl, hrest⟩ := List.cons.inj hcs
      obtain ⟨hc, hline⟩ := List.ne_and_not_mem_of_not_mem_cons hheader
      exact .inr ⟨header, rfl, Ne.symm hc, hline, hfooter, b, hkey, hrest⟩
  · rintro (⟨rfl, rfl, hread⟩ | ⟨header, rfl, hc, hline, hfooter, b, hkey, hcs⟩)
    · obtain ⟨hfooter, b, hkey, hcs⟩ := readsKey_iff.mp hread
      exact ⟨List.not_mem_nil, hfooter, b, hkey, congrArg ('[' :: ·) hcs⟩
    · exact ⟨List.not_mem_cons_of_ne_of_not_mem hc.symm hline, hfooter, b, hkey, congrArg (c :: ·) hcs⟩

theorem not_reads_of_form?_eq_none {cs : List Char} (h : form? cs = none) (f : Form) :
    ¬ Reads cs f := by
  induction cs generalizing f with
  | nil => exact not_reads_nil f
  | cons c cs ih =>
    rw [form?] at h
    split at h
    · cases h
    · next hnone =>
      intro hread
      rcases reads_cons_iff.mp hread with ⟨-, rfl, hkey⟩ | ⟨header, -, hc, hrest⟩
      · exact not_readsKey_of_key?_eq_none (Option.map_eq_none_iff.mp h) _ _ hkey
      · rw [if_neg hc] at hnone
        exact ih hnone _ hrest

theorem captured_of_form?_eq_some {cs : List Char} {f : Form} (h : form? cs = some f) :
    Captured cs f := by
  induction cs generalizing f with
  | nil => cases h
  | cons c cs ih =>
    rw [form?] at h
    split at h
    · next g hg =>
      have hc : c ≠ '\n' := by
        rintro rfl
        cases hg
      rw [if_neg hc] at hg
      cases h
      obtain ⟨hread, hlongest⟩ := ih hg
      refine ⟨reads_cons_iff.mpr (.inr ⟨g.header, rfl, hc, hread⟩), fun other hother => ?_⟩
      rcases reads_cons_iff.mp hother with ⟨hnil, -⟩ | ⟨header, hheader, -, hrest⟩
      · exact .inl (by simp [hnil])
      · simpa [hheader] using hlongest _ hrest
    · next hnone =>
      -- no header goes on behind the first character, so this is the bracket
      split at h
      · next hc =>
        subst hc
        obtain ⟨⟨key, footer⟩, hkey, heq⟩ := Option.map_eq_some_iff.mp h
        cases heq
        obtain ⟨hread, hlongest⟩ := readsKey_of_key?_eq_some hkey
        refine ⟨reads_cons_iff.mpr (.inl ⟨rfl, rfl, hread⟩), fun other hother => ?_⟩
        rcases reads_cons_iff.mp hother with ⟨hnil, -, hkey⟩ | ⟨header, -, -, hrest⟩
        · exact .inr ⟨by rw [hnil], hlongest _ _ hkey⟩
        · exact absurd hrest (not_reads_of_form?_eq_none hnone _)
      · cases h

/-- At most one reading counts. -/
theorem Captured.unique {cs : List Char} {f g : Form} (hf : Captured cs f) (hg : Captured cs g) :
    f = g := by
  have h₁ := hf.longest g hg.reads
  have h₂ := hg.longest f hf.reads
  -- each is the longest, so the lengths agree, and with them the places where the text is cut
  have hheader : f.header.length = g.header.length := by omega
  have hkey : f.key.length = g.key.length := by omega
  obtain ⟨-, hfooter, b, hb, hcs⟩ := hf.reads
  obtain ⟨-, hfooter', b', hb', hcs'⟩ := hg.reads
  obtain ⟨hheaders, hrest⟩ := List.append_inj (hcs.symm.trans hcs') hheader
  have hread := readsKey_iff.mpr ⟨hfooter, b, hb, rfl⟩
  have hread' := readsKey_iff.mpr ⟨hfooter', b', hb', (List.cons.inj hrest).2⟩
  obtain ⟨hkeys, hfooters⟩ := hread.eq_of_length hread' hkey
  obtain ⟨header, key, footer⟩ := f
  obtain ⟨header', key', footer'⟩ := g
  congr

/-- **The search finds the reading that counts.** -/
theorem form?_eq_some_iff {cs : List Char} {f : Form} : form? cs = some f ↔ Captured cs f := by
  refine ⟨captured_of_form?_eq_some, fun h => ?_⟩
  cases hform : form? cs with
  | none => exact absurd h.reads (not_reads_of_form?_eq_none hform f)
  | some g => rw [(captured_of_form?_eq_some hform).unique h]

theorem form?_eq_none_iff {cs : List Char} : form? cs = none ↔ ∀ f, ¬ Reads cs f := by
  refine ⟨not_reads_of_form?_eq_none, fun h => ?_⟩
  cases hform : form? cs with
  | none => rfl
  | some g => exact absurd (captured_of_form?_eq_some hform).reads (h g)

end DocFilter.Bracket
