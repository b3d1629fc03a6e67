import DocFilter.Proofs.BracketForm
import DocFilter.Proofs.KeyPaths

/-!
# Rounds of rewriting brackets

Brackets are rewritten by a loop: as long as the text has the bracket form, the bracket of the reading that
counts becomes a part of the path. A round can make the text longer, and the key that it unpacks can hold
any number of brackets. What goes down is the number of opening brackets: a round takes one of them away,
together with one closing bracket, and besides these only blanks, quotation marks, dots and backslashes come
or go (`Bracket.Round.count`). So

> `Selector.normalized_rounds`: on every text the loop ends, after at most as many rounds as the text has
> opening brackets, with a text that has the bracket form in no way.
-/

namespace DocFilter

namespace Bracket

/-! ## Rounds -/

/-- One round of the loop. -/
def Round (cs ds : List Char) : Prop :=
  ∃ f, Captured cs f ∧ ds = f.flatten

/-- A number of rounds, one after the other. -/
inductive Rounds : Nat → List Char → List Char → Prop
  | none (cs : List Char) : Rounds 0 cs cs
  | round {n : Nat} {cs ds es : List Char} (first : Round cs ds) (rest : Rounds n ds es) :
    Rounds (n + 1) cs es

/-! ## Brackets are counted -/

theorem count_eq_zero_of_isBlank {c : Char} (hc : isBlank c = false) {cs : List Char}
    (hcs : ∀ d ∈ cs, isBlank d = true) : cs.count c = 0 :=
  List.count_eq_zero.mpr fun hmem => by simp [hcs c hmem] at hc

theorem count_eq_zero_of_isQuote {c : Char} (hc : isQuote c = false) {quote : Option Char}
    (hquote : ∀ d ∈ quote, isQuote d = true) : quote.toList.count c = 0 :=
  List.count_eq_zero.mpr fun hmem => by simp [hquote c (Option.mem_toList.mp hmem)] at hc

theorem Form.count_flatten {c : Char} (hdot : c ≠ '.') (hbackslash : c ≠ '\\') (f : Form) :
    f.flatten.count c = f.header.count c + f.key.count c + f.footer.count c := by
  have hheader : (if f.header.isEmpty then [] else f.header ++ ['.']).count c = f.header.count c := by
    split
    · next h => rw [List.isEmpty_iff.mp h]
    · rw [List.count_append, List.count_singleton, if_neg (by simpa using hdot.symm), Nat.add_zero]
  rw [Form.flatten, List.count_append, List.count_append, hheader,
    Path.count_escapeDots hdot hbackslash]

theorem Written.count_text {c : Char} (hc : c = '[' ∨ c = ']') (b : Written) :
    b.text.count c = b.key.count c + 1 := by
  have hblank : isBlank c = false := by rcases hc with rfl | rfl <;> rfl
  have hquote : isQuote c = false := by rcases hc with rfl | rfl <;> rfl
  have hone : [']'].count c + (if '[' == c then 1 else 0) = 1 := by rcases hc with rfl | rfl <;> rfl
  rw [text, inside, ending, List.count_cons]
  simp only [List.count_append, count_eq_zero_of_isBlank hblank b.before_blank,
    count_eq_zero_of_isQuote hquote b.opening_quote,
    count_eq_zero_of_isQuote hquote b.closing_quote, count_eq_zero_of_isBlank hblank b.after_blank]
  omega

/-- A round takes away one opening bracket and one closing bracket. -/
theorem Round.count {cs ds : List Char} (h : Round cs ds) {c : Char} (hc : c = '[' ∨ c = ']') :
    cs.count c = ds.count c + 1 := by
  obtain ⟨f, ⟨⟨-, -, b, hkey, rfl⟩, -⟩, rfl⟩ := h
  have hdot : c ≠ '.' := by rcases hc with rfl | rfl <;> decide
  have hbackslash : c ≠ '\\' := by rcases hc with rfl | rfl <;> decide
  rw [Form.count_flatten hdot hbackslash, List.count_append, List.count_append, b.count_text hc, hkey]
  omega

theorem Round.unique {cs ds es : List Char} (hd : Round cs ds) (he : Round cs es) : ds = es := by
  obtain ⟨f, hf, rfl⟩ := hd
  obtain ⟨g, hg, rfl⟩ := he
  rw [hf.unique hg]

namespace Rounds
variable {n k : Nat} {cs ds es : List Char}

theorem count (h : Rounds n cs ds) {c : Char} (hc : c = '[' ∨ c = ']') :
    cs.count c = ds.count c + n := by
  induction h with
  | none => rfl
  | round first _ ih => rw [first.count hc, ih, Nat.add_assoc]

/-- Rounds that were made are the first of those that lead to the end. -/
theorem exists_rest (hd : Rounds n cs ds) (he : Rounds k cs es) (hend : ∀ f, ¬ Reads es f) :
    ∃ m, Rounds m ds es := by
  induction hd generalizing k with
  | none => exact ⟨k, he⟩
  | round first _ ih =>
    cases he with
    | none =>
      -- the end has no bracket form, so no round was made there
      obtain ⟨f, hf, -⟩ := first
      exact absurd hf.reads (hend f)
    | round first' rest' => exact ih (first'.unique first ▸ rest')

end Rounds

theorem normalizeWith_of_form?_eq_none {cs : List Char} (h : form? cs = none) (n : Nat) :
    normalizeWith n cs = cs := by
  cases n with
  | zero => rfl
  | succ n => rw [normalizeWith, h]

/-- With as many rounds as there are opening brackets, the loop gets to its end. By induction on the
rounds, one of which is made for one opening bracket. -/
theorem normalizeWith_spec {n : Nat} {cs : List Char} (hn : cs.count '[' ≤ n) :
    (∃ k, Rounds k cs (normalizeWith n cs)) ∧ form? (normalizeWith n cs) = none := by
  induction n generalizing cs with
  | zero =>
    refine ⟨⟨0, .none cs⟩, ?_⟩
    cases hform : form? cs with
    | none => exact hform
    | some f =>
      have hcount := Round.count ⟨f, form?_eq_some_iff.mp hform, rfl⟩ (.inl rfl)
      omega
  | succ n ih =>
    rw [normalizeWith]
    split
    · next f hform =>
      have hround : Round cs f.flatten := ⟨f, form?_eq_some_iff.mp hform, rfl⟩
      have hcount := hround.count (.inl rfl)
      obtain ⟨⟨k, hrounds⟩, hend⟩ := ih (by omega : f.flatten.count '[' ≤ n)
      exact ⟨⟨k + 1, .round hround hrounds⟩, hend⟩
    · next hform => exact ⟨⟨0, .none cs⟩, hform⟩

/-- A round unpacks the bracket of four dots into four escaped dots. -/
theorem round_dots : Round ['[', '.', '.', '.', '.', ']']
    ['\\', '.', '\\', '.', '\\', '.', '\\', '.'] :=
  ⟨⟨[], ['.', '.', '.', '.'], []⟩, form?_eq_some_iff.mp rfl, rfl⟩

end Bracket

namespace Selector

theorem toList_normalized (raw : String) : (normalized raw).toList = Bracket.normalize raw.toList :=
  String.toList_ofList

theorem form?_normalized (raw : String) : Bracket.form? (normalized raw).toList = none := by
  rw [toList_normalized]
  exact (Bracket.normalizeWith_spec (Nat.le_refl _)).2

/-- **Rewriting brackets ends on every text.** A round takes away exactly one opening and one closing
bracket, though it can make the text longer. From every text, rounds lead to the normalized one, at most
as many as the text has opening brackets; no longer run of rounds exists, and none leads elsewhere. The
normalized text has the bracket form in no way, so it is its own normalized text, and a text without
opening brackets is normalized as it stands. -/
theorem normalized_rounds :
    (∀ cs ds, Bracket.Round cs ds →
      cs.count '[' = ds.count '[' + 1 ∧ cs.count ']' = ds.count ']' + 1) ∧
    (∃ cs ds, Bracket.Round cs ds ∧ cs.length < ds.length) ∧
    ∀ raw : String,
      (∃ n ≤ raw.toList.count '[', Bracket.Rounds n raw.toList (normalized raw).toList) ∧
      (∀ n ds, Bracket.Rounds n raw.toList ds →
        n ≤ raw.toList.count '[' ∧ ∃ m, Bracket.Rounds m ds (normalized raw).toList) ∧
      (∀ f, ¬ Bracket.Reads (normalized raw).toList f) ∧
      normalized (normalized raw) = normalized raw ∧
      ('[' ∉ raw.toList → normalized raw = raw) := by
  refine ⟨fun cs ds h => ⟨h.count (.inl rfl), h.count (.inr rfl)⟩,
    ⟨_, _, Bracket.round_dots, by decide⟩, fun raw => ?_⟩
  have hend : ∀ f, ¬ Bracket.Reads (normalized raw).toList f :=
    Bracket.form?_eq_none_iff.mp (form?_normalized raw)
  have hbound : ∀ n ds, Bracket.Rounds n raw.toList ds → n ≤ raw.toList.count '[' := by
    intro n ds h
    have hcount := h.count (.inl rfl)
    omega
  obtain ⟨k, hrounds⟩ : ∃ k, Bracket.Rounds k raw.toList (normalized raw).toList := by
    rw [toList_normalized]
    exact (Bracket.normalizeWith_spec (Nat.le_refl _)).1
  refine ⟨⟨k, hbound k _ hrounds, hrounds⟩,
    fun n ds h => ⟨hbound n ds h, h.exists_rest hrounds hend⟩, hend, ?_, fun h => ?_⟩
  · have hsame : Bracket.normalize (normalized raw).toList = (normalized raw).toList :=
      Bracket.normalizeWith_of_form?_eq_none (form?_normalized raw) _
    rw [normalized, hsame, String.ofList_toList]
  · rw [normalized, normalize_of_notMem h, String.ofList_toList]

/-- A key that holds brackets, and an opening bracket that nothing closes. -/
theorem normalized_rounds_nested :
    Bracket.Round "[x[a[b.c]]".toList "[x[a.b\\.c]".toList ∧
      "[x[a[b.c]]".toList.count ']' = "[x[a.b\\.c]".toList.count ']' + 1 ∧
      (∃ m, Bracket.Rounds m "[x[a.b\\.c]".toList (normalized "[x[a[b.c]]").toList) ∧
      normalized "[x[a[b.c]]" = "[x.a\\.b\\\\.c" ∧
      normalized (normalized "[x[a[b.c]]") = normalized "[x[a[b.c]]" ∧
      '[' ∉ "a.b]".toList ∧ normalized "a.b]" = "a.b]" := by
  have hround : Bracket.Round "[x[a[b.c]]".toList "[x[a.b\\.c]".toList := by
    refine ⟨⟨"[x[a".toList, "b.c]".toList, []⟩, Bracket.form?_eq_some_iff.mp ?_, ?_⟩ <;> cbv
  have hplain : '[' ∉ "a.b]".toList := by decide
  obtain ⟨hcount, -, hend⟩ := normalized_rounds
  obtain ⟨-, hruns, -, hagain, -⟩ := hend "[x[a[b.c]]"
  exact ⟨hround, (hcount _ _ hround).2, (hruns 1 _ (.round hround (.none _))).2, by cbv, hagain,
    hplain, (hend "a.b]").2.2.2.2 hplain⟩

end Selector

end DocFilter
