import DocFilter.Proofs.BracketRounds
import Mathlib.Data.List.Induction

/-!
# Keys in brackets

Each bracket behind a path adds one key, exactly as it stands in the bracket. The loop takes the last bracket
first: no bracket stands behind it, so the reading of it as it is written is the one that counts
(`Bracket.form?_text`), and the key becomes a part of the tail, which still has no brackets. By induction, from
the last bracket to the first, all of them become escaped keys (`Bracket.normalize_brackets`), and the keys of
the path that is left are read one behind the other (`Path.split_append`, `Path.split_escapeDots_append`). So

> `Selector.segments_bracketed`: a selector of a path, keys in brackets and a tail has the keys of the path,
> the keys in the brackets and the keys of the tail.

No line may end inside a bracket: to the brackets behind it, that bracket is a part of the header.
-/

namespace DocFilter

/-! ## Paths one behind the other -/

namespace Path
variable {rest : List Char}

/-- A path that does not end in a dot or a backslash has its own keys, whatever path follows behind a
dot. By induction on the path, of which `current` has been read; a key must have been begun where the
path is at its end. -/
theorem splitFrom_append {current head : List Char} (hcurrent : head = [] → current ≠ [])
    (hend : ∀ c ∈ head.getLast?, c ≠ '.' ∧ c ≠ '\\') (more : List Char) :
    splitFrom current (head ++ '.' :: more) = splitFrom current head ++ split more := by
  fun_induction splitFrom current head with
  | case1 current h => exact absurd (List.isEmpty_iff.mp h) (hcurrent rfl)
  | case2 current h => rfl
  | case3 current cs ih =>
    refine ih ?_ fun c hc => hend c (List.mem_getLast?_cons (List.mem_getLast?_cons hc))
    -- were the path at its end, it would end in this escaped dot
    rintro rfl
    exact absurd rfl (hend '.' rfl).1
  | case4 current cs ih =>
    refine congrArg (current :: ·) (ih ?_ fun c hc => hend c (List.mem_getLast?_cons hc))
    rintro rfl
    exact absurd rfl (hend '.' rfl).1
  | case5 current c cs hescape hdot ih =>
    -- the dot behind the path is not escaped by a backslash at its end
    have hhead : c = '\\' → (cs ++ '.' :: more).head? ≠ some '.' := by
      rintro rfl
      cases cs with
      | nil => exact absurd rfl (hend '\\' rfl).2
      | cons d cs =>
        intro hd
        cases hd
        exact hescape cs rfl rfl
    rw [List.cons_append, splitFrom_cons current hdot hhead]
    exact ih (fun _ => by simp) fun d hd => hend d (List.mem_getLast?_cons hd)

/-- A path and what follows it, nothing or a dot and more. -/
theorem split_append {head : List Char} (hne : head ≠ [])
    (hend : ∀ c ∈ head.getLast?, c ≠ '.' ∧ c ≠ '\\') (hrest : ∀ c ∈ rest.head?, c = '.') :
    split (head ++ rest) = split head ++ split rest.tail := by
  cases rest with
  | nil => simp [split, splitFrom]
  | cons c more =>
    obtain rfl := hrest c rfl
    exact splitFrom_append (fun h => absurd h hne) hend more

/-- An escaped key and what follows it, nothing or a dot and more. -/
theorem split_escapeDots_append {key : List Char} (hne : key ≠ []) (hend : key.getLast? ≠ some '\\')
    (hrest : ∀ c ∈ rest.head?, c = '.') :
    split (escapeDots key ++ rest) = key :: split rest.tail := by
  cases rest with
  | nil =>
    rw [List.append_nil, split, splitFrom_escapeDots, List.nil_append, if_neg (by simpa using hne)]
    rfl
  | cons c more =>
    obtain rfl := hrest c rfl
    rw [split, splitFrom_escapeDots_dot [] more hend]
    rfl

end Path

namespace Bracket

/-! ## Brackets without brackets in them -/

/-- A text on one line without brackets. -/
def Plain (cs : List Char) : Prop :=
  '[' ∉ cs ∧ ']' ∉ cs ∧ '\n' ∉ cs

instance (cs : List Char) : Decidable (Plain cs) :=
  inferInstanceAs (Decidable ('[' ∉ cs ∧ ']' ∉ cs ∧ '\n' ∉ cs))

theorem Plain.append {cs ds : List Char} (hcs : Plain cs) (hds : Plain ds) : Plain (cs ++ ds) := by
  obtain ⟨hopen, hclose, hline⟩ := hcs
  obtain ⟨hopen', hclose', hline'⟩ := hds
  simp only [Plain, List.mem_append, not_or]
  exact ⟨⟨hopen, hopen'⟩, ⟨hclose, hclose'⟩, hline, hline'⟩

namespace Written

/-- A bracket on one line, with a key that holds no brackets and does not end in a backslash. -/
structure Literal (b : Written) : Prop where
  key : Plain b.key
  backslash : b.key.getLast? ≠ some '\\'
  before : '\n' ∉ b.before
  after : '\n' ∉ b.after

/-- The part of a path that a bracket becomes. -/
def dotted (b : Written) : List Char :=
  '.' :: Path.escapeDots b.key

namespace Literal
variable {b : Written}

theorem plain_dotted (h : b.Literal) : Plain b.dotted := by
  obtain ⟨hopen, hclose, hline⟩ := h.key
  simp only [Plain, dotted, List.mem_cons, not_or]
  refine ⟨⟨by decide, ?_⟩, ⟨by decide, ?_⟩, by decide, ?_⟩
  all_goals rwa [Path.mem_escapeDots (by decide) (by decide)]

theorem feed_notMem (h : b.Literal) : '\n' ∉ b.text := by
  have hquote : ∀ quote : Option Char, (∀ c ∈ quote, isQuote c = true) → '\n' ∉ quote.toList := by
    intro quote hquote hmem
    exact absurd (hquote _ (Option.mem_toList.mp hmem)) (by decide)
  simp only [text, inside, ending, List.mem_cons, List.mem_append, not_or, List.not_mem_nil]
  exact ⟨by decide, h.before, hquote _ b.opening_quote, h.key.2.2, hquote _ b.closing_quote,
    h.after, by decide, not_false⟩

/-- The part of a path that a bracket becomes can follow a closing bracket. -/
theorem footer_dotted (h : b.Literal) {tail : List Char} (htail : Plain tail) :
    Footer (b.dotted ++ tail) := by
  obtain ⟨-, -, hline⟩ := h.plain_dotted.append htail
  refine .inr ⟨Path.escapeDots b.key ++ tail, rfl, ?_, fun hmem => hline (List.mem_cons_of_mem _ hmem)⟩
  obtain ⟨c, key, hkey⟩ := List.exists_cons_of_ne_nil b.key_ne_nil
  rw [hkey, Path.escapeDots, List.flatMap_cons]
  split <;> simp

end Literal

end Written

theorem Footer.eq_dot {cs : List Char} (h : Footer cs) : ∀ c ∈ cs.head?, c = '.' := by
  rintro c hc
  rcases h with rfl | ⟨more, rfl, -, -⟩
  · cases hc
  · cases hc
    rfl

theorem dotted_eq_dot (bs : List Written) {tail : List Char} (htail : Footer tail) :
    ∀ c ∈ (bs.flatMap Written.dotted ++ tail).head?, c = '.' := by
  cases bs with
  | nil => exact htail.eq_dot
  | cons b bs =>
    rintro c hc
    cases hc
    rfl

/-! ## The last bracket first -/

theorem form?_append {header cs : List Char} (hheader : '\n' ∉ header) {f : Form}
    (h : form? cs = some f) : form? (header ++ cs) = some { f with header := header ++ f.header } := by
  induction header with
  | nil => exact h
  | cons c header ih =>
    obtain ⟨hc, hrest⟩ := List.ne_and_not_mem_of_not_mem_cons hheader
    rw [List.cons_append, form?, if_neg (Ne.symm hc), ih hrest]
    rfl

theorem form?_eq_none_of_notMem {cs : List Char} (h : '[' ∉ cs) : form? cs = none := by
  refine form?_eq_none_iff.mpr ?_
  rintro f ⟨-, -, b, -, rfl⟩
  simp [Written.text] at h

theorem ReadsKey.exists_cons {cs key footer : List Char} (h : ReadsKey cs key footer) :
    ∃ c rest, cs = c :: rest ∧ isKeyChar c = true ∧ ']' ∈ rest := by
  induction h with
  | @last c cs footer hc hclosing =>
    obtain ⟨-, closing, after, -, -, rfl⟩ := closing?_eq_some_iff.mp hclosing
    exact ⟨c, _, rfl, hc, by simp⟩
  | @cons c cs key footer hc _ ih =>
    obtain ⟨d, rest, rfl, -, hmem⟩ := ih
    exact ⟨c, _, rfl, hc, List.mem_cons_of_mem d hmem⟩

/-- A key that ends here goes as far as it can when no longer one is closed. -/
theorem key?_append {key rest footer : List Char} (hne : key ≠ [])
    (hkey : ∀ c ∈ key, isKeyChar c = true) (hrest : key? rest = none)
    (hclosing : closing? rest = some footer) : key? (key ++ rest) = some (key, footer) := by
  induction key with
  | nil => exact absurd rfl hne
  | cons c key ih =>
    obtain ⟨hc, hchars⟩ := List.forall_mem_cons.mp hkey
    rw [List.cons_append, key?, if_pos hc]
    cases key with
    | nil => rw [List.nil_append, hrest, hclosing]; rfl
    | cons d key => rw [ih (List.cons_ne_nil d key) hchars]

/-- What stands behind a key begins with a character that no key holds, or it is the bracket alone. -/
theorem Written.ending_eq (b : Written) :
    b.ending = [']'] ∨ ∃ c rest, b.ending = c :: rest ∧ isKeyChar c = false := by
  cases hclosing : b.closing with
  | some q =>
    refine .inr ⟨q, b.after ++ [']'], by rw [ending, hclosing]; rfl, ?_⟩
    rw [isKeyChar, b.closing_quote q hclosing]
    rfl
  | none =>
    cases hafter : b.after with
    | nil => exact .inl (by rw [ending, hclosing, hafter]; rfl)
    | cons c after =>
      refine .inr ⟨c, after ++ [']'], by rw [ending, hclosing, hafter]; rfl, ?_⟩
      rw [isKeyChar, b.after_blank c (hafter ▸ List.mem_cons_self), Bool.not_true, Bool.and_false]

/-- A key does not go on behind its end, unless one more bracket is closed behind it. -/
theorem key?_ending (b : Written) {tail : List Char} (htail : ']' ∉ tail) :
    key? (b.ending ++ tail) = none := by
  cases hk : key? (b.ending ++ tail) with
  | none => rfl
  | some p =>
    exfalso
    obtain ⟨c, rest, hcs, hc, hmem⟩ := (readsKey_of_key?_eq_some hk).1.exists_cons
    rcases b.ending_eq with hb | ⟨d, ending, hb, hd⟩
    · rw [hb] at hcs
      obtain ⟨-, rfl⟩ := List.cons.inj hcs
      exact htail hmem
    · rw [hb] at hcs
      obtain ⟨rfl, -⟩ := List.cons.inj hcs
      rw [hd] at hc
      cases hc

/-- A bracket is read as it is written when no brackets are in it or behind it. -/
theorem form?_text {b : Written} (hb : b.Literal) {tail : List Char} (htail : Plain tail)
    (hfooter : Footer tail) : form? (b.text ++ tail) = some ⟨[], b.key, tail⟩ := by
  -- the only opening bracket is the one in front, so the header of every reading is empty
  have hcount := b.count_text (.inl rfl)
  rw [Written.text, List.count_cons_self, List.count_eq_zero.mpr hb.key.1] at hcount
  have hinside : '[' ∉ b.inside ++ tail := by
    rw [List.mem_append, not_or]
    exact ⟨List.count_eq_zero.mp (Nat.succ.inj hcount), htail.1⟩
  have hkey : afterOpening? (b.inside ++ tail) = some (b.key, tail) := by
    rw [afterOpening?, b.dropQuote_inside]
    exact key?_append b.key_ne_nil b.key_chars (key?_ending b htail.2.1) (b.closing?_ending hfooter)
  rw [Written.text, List.cons_append, form?, if_neg (by decide), form?_eq_none_of_notMem hinside]
  simp [hkey]

theorem normalize_of_form?_eq_some {cs : List Char} {f : Form} (h : form? cs = some f) :
    normalize cs = normalize f.flatten := by
  have hcount := Round.count ⟨f, form?_eq_some_iff.mp h, rfl⟩ (.inl rfl)
  rw [normalize, hcount, normalizeWith, h]
  rfl

/-- Brackets become parts of the path. By induction from the last bracket on, which a round makes a
part of the tail. -/
theorem normalize_brackets {head : List Char} (hne : head ≠ []) (hhead : Plain head)
    {bs : List Written} (hbs : ∀ b ∈ bs, b.Literal) {tail : List Char} (htail : Plain tail)
    (hfooter : Footer tail) :
    normalize (head ++ (bs.flatMap Written.text ++ tail)) =
      head ++ (bs.flatMap Written.dotted ++ tail) := by
  induction bs using List.reverseRecOn generalizing tail with
  | nil => exact Selector.normalize_of_notMem (hhead.append htail).1
  | append_singleton bs b ih =>
    obtain ⟨hinit, hlast⟩ := List.forall_mem_append.mp hbs
    have hb : b.Literal := List.forall_mem_singleton.mp hlast
    -- the brackets in front of the last one are a part of its header
    have hline : '\n' ∉ head ++ bs.flatMap Written.text := by
      rw [List.mem_append, not_or]
      refine ⟨hhead.2.2, fun hmem => ?_⟩
      obtain ⟨b', hb', hmem'⟩ := List.mem_flatMap.mp hmem
      exact (hinit b' hb').feed_notMem hmem'
    have hform := form?_append hline (form?_text hb htail hfooter)
    have hflatten : Form.flatten ⟨head ++ bs.flatMap Written.text, b.key, tail⟩ =
        head ++ (bs.flatMap Written.text ++ (b.dotted ++ tail)) := by
      simp [Form.flatten, hne, Written.dotted]
    have hrest := ih hinit (hb.plain_dotted.append htail) (hb.footer_dotted htail)
    rw [List.append_nil] at hform
    simp only [List.flatMap_append, List.flatMap_singleton, List.append_assoc] at hform ⊢
    rw [normalize_of_form?_eq_some hform, hflatten, hrest]

/-- The keys in brackets are read back from what the brackets become, and so is the tail. -/
theorem split_dotted {bs : List Written} (hbs : ∀ b ∈ bs, b.Literal) {tail : List Char}
    (hfooter : Footer tail) :
    Path.split (bs.flatMap Written.dotted ++ tail).tail =
      bs.map Written.key ++ Path.split tail.tail := by
  induction bs with
  | nil => rfl
  | cons b bs ih =>
    obtain ⟨hb, hrest⟩ := List.forall_mem_cons.mp hbs
    have htail : ((b :: bs).flatMap Written.dotted ++ tail).tail =
        Path.escapeDots b.key ++ (bs.flatMap Written.dotted ++ tail) := by
      simp [Written.dotted]
    rw [htail, Path.split_escapeDots_append b.key_ne_nil hb.backslash (dotted_eq_dot bs hfooter),
      ih hrest]
    rfl

end Bracket

namespace Selector

/-- **Keys in brackets stand for themselves.** A selector begins with a path that is not empty and does not
end in a dot or a backslash; brackets follow, any number of them, and at the end may stand a dot and more.
Path and end are each on one line and without brackets. A bracket holds, between blanks and quotation marks
or without them, a key that has no blanks, quotation marks and brackets in it and no backslash at its end;
dots it may have. Such a selector has the keys of the path, then the keys in the brackets exactly as they are
written, then the keys of what stands behind the dot. -/
theorem segments_bracketed {head tail : String} {bs : List Bracket.Written} (hne : head ≠ "")
    (hhead : Bracket.Plain head.toList)
    (hend : ∀ c ∈ head.toList.getLast?, c ≠ '.' ∧ c ≠ '\\') (hbs : ∀ b ∈ bs, b.Literal)
    (htail : Bracket.Plain tail.toList) (hfooter : Bracket.Footer tail.toList) :
    segments ⟨head ++ String.ofList (bs.flatMap Bracket.Written.text) ++ tail⟩ =
      Path.keys head ++ bs.map (fun b => String.ofList b.key) ++
        Path.keys (String.ofList tail.toList.tail) := by
  have hne' : head.toList ≠ [] := mt String.toList_eq_nil_iff.mp hne
  have hraw : (head ++ String.ofList (bs.flatMap Bracket.Written.text) ++ tail).toList =
      head.toList ++ (bs.flatMap Bracket.Written.text ++ tail.toList) := by
    rw [String.toList_append, String.toList_append, String.toList_ofList, List.append_assoc]
  have hsplit : Path.split (Bracket.normalize
      (head.toList ++ (bs.flatMap Bracket.Written.text ++ tail.toList))) =
      Path.split head.toList ++ (bs.map Bracket.Written.key ++ Path.split tail.toList.tail) := by
    rw [Bracket.normalize_brackets hne' hhead hbs htail hfooter,
      Path.split_append hne' hend (Bracket.dotted_eq_dot bs hfooter), Bracket.split_dotted hbs hfooter]
  rw [segments, Path.keys, toList_normalized, hraw, hsplit]
  simp [Path.keys]

/-- Unlike quotation marks, blanks, dots in keys, and a key that begins with a backslash. -/
theorem segments_bracketed_quoted :
    ∃ bs : List Bracket.Written, (∀ b ∈ bs, b.Literal) ∧
      bs.map (fun b => String.ofList b.key) = ["add.com", "\\.b"] ∧
      "user.x" ++ String.ofList (bs.flatMap Bracket.Written.text) ++ ".0\\.5." =
        "user.x[ 'add.com\"\t][\\.b].0\\.5." ∧
      "user.x" ≠ "" ∧ Bracket.Plain "user.x".toList ∧
      (∀ c ∈ "user.x".toList.getLast?, c ≠ '.' ∧ c ≠ '\\') ∧
      Bracket.Plain ".0\\.5.".toList ∧ Bracket.Footer ".0\\.5.".toList ∧
      segments ⟨"user.x[ 'add.com\"\t][\\.b].0\\.5."⟩ =
        ["user", "x", "add.com", "\\.b", "0.5"] := by
  obtain ⟨bs, hbs, hkeys, htext⟩ : ∃ bs : List Bracket.Written, (∀ b ∈ bs, b.Literal) ∧
      bs.map (fun b => String.ofList b.key) = ["add.com", "\\.b"] ∧
      "user.x" ++ String.ofList (bs.flatMap Bracket.Written.text) ++ ".0\\.5." =
        "user.x[ 'add.com\"\t][\\.b].0\\.5." := by
    refine ⟨[
      { before := [' '], opening := some '\'', key := "add.com".toList, closing := some '"',
        after := ['\t']
        before_blank := List.all_eq_true.mp (by decide)
        opening_quote := by rintro _ ⟨⟩; rfl
        key_ne_nil := by decide
        key_chars := List.all_eq_true.mp (by decide)
        closing_quote := by rintro _ ⟨⟩; rfl
        after_blank := List.all_eq_true.mp (by decide) },
      { before := [], opening := none, key := "\\.b".toList, closing := none, after := []
        before_blank := nofun
        opening_quote := nofun
        key_ne_nil := by decide
        key_chars := List.all_eq_true.mp (by decide)
        closing_quote := nofun
        after_blank := nofun }], ?_, ?_, ?_⟩
    · exact List.forall_mem_cons.mpr ⟨⟨by decide, by decide, by decide, by decide⟩,
        List.forall_mem_singleton.mpr ⟨by decide, by decide, by decide, by decide⟩⟩
    · cbv
    · cbv
  have hhead : Bracket.Plain "user.x".toList := by decide
  have hend : ∀ c ∈ "user.x".toList.getLast?, c ≠ '.' ∧ c ≠ '\\' := by
    intro c hc
    obtain rfl : 'x' = c := Option.some.inj hc
    decide
  have htail : Bracket.Plain ".0\\.5.".toList := by decide
  have hfooter : Bracket.Footer ".0\\.5.".toList := Bracket.isFooter_iff.mp (by decide)
  have hsegments := segments_bracketed (by decide) hhead hend hbs htail hfooter
  have hrest : String.ofList ".0\\.5.".toList.tail = "0\\.5." := by decide
  rw [htext, hkeys, hrest] at hsegments
  refine ⟨bs, hbs, hkeys, htext, by decide, hhead, hend, htail, hfooter, hsegments.trans ?_⟩
  cbv

end Selector

end DocFilter
