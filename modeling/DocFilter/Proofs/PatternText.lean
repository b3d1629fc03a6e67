import DocFilter.Pattern
import Mathlib.Data.List.Basic

/-!
# Bodies and flags of patterns

A slash is no word character, so the flags of a delimited pattern begin behind its last slash, and its body
may hold slashes itself: a text is delimited in one way at most (`Pattern.splitLast?_eq_some_iff`). Flags
are read one by one, up to the first that is not known; if all are known, those that go into the expression
are chosen where they first appear (`Pattern.inlineFlags_eq`). So

> `Pattern.compile_delimited`: body and flags are read back from the delimited form, all other text is body,
> the first flag that is not known is reported, and otherwise the body is compiled behind the group of the
> flags that were chosen, whatever other flags there are and however often one is repeated.
-/

namespace DocFilter.Pattern

/-- The text is `/body/flags`, where the body has no line feed and the flags are word characters. -/
def Delimited (text body flags : String) : Prop :=
  '\n' ∉ body.toList ∧ (∀ c ∈ flags.toList, isWord c = true) ∧ text = "/" ++ body ++ "/" ++ flags

/-- The flags that are known. -/
def knownFlags : List Char :=
  ['i', 'm', 's', 'g', 'y', 'u']

/-- The first flag that is not known. -/
def unknownFlag? (flags : List Char) : Option Char :=
  flags.find? (· ∉ knownFlags)

/-- The flags among `i`, `m` and `s`, each once, in the order in which they first appear. -/
def chosenFlags (flags : List Char) : List Char :=
  (flags.filter (· ∈ ['i', 'm', 's'])).eraseDups

/-- The body behind a group of flags, if there are any. -/
def grouped (chosen : List Char) (body : String) : String :=
  if chosen = [] then body else "(?" ++ String.ofList chosen ++ ")" ++ body

/-! ## The delimited form -/

theorem exists_of_splitLast?_eq_some {cs body flags : List Char}
    (h : splitLast? cs = some (body, flags)) :
    '\n' ∉ body ∧ (∀ c ∈ flags, isWord c = true) ∧ cs = body ++ '/' :: flags := by
  induction cs generalizing body flags with
  | nil => cases h
  | cons c cs ih =>
    rw [splitLast?] at h
    split at h
    · next body' flags' hrest =>
      cases h
      split at hrest
      · cases hrest
      · next hc =>
        obtain ⟨hline, hflags, rfl⟩ := ih hrest
        exact ⟨List.not_mem_cons_of_ne_of_not_mem (Ne.symm hc) hline, hflags, rfl⟩
    · split at h
      · next hc =>
        cases h
        exact ⟨List.not_mem_nil, List.all_eq_true.mp hc.2, by rw [hc.1]; rfl⟩
      · cases h

theorem splitLast?_append {body flags : List Char} (hline : '\n' ∉ body)
    (hflags : ∀ c ∈ flags, isWord c = true) :
    splitLast? (body ++ '/' :: flags) = some (body, flags) := by
  induction body with
  | nil =>
    -- no other slash follows, for it would be among the flags
    have hnone : splitLast? flags = none := by
      cases hsplit : splitLast? flags with
      | none => rfl
      | some p =>
        obtain ⟨-, -, heq⟩ := exists_of_splitLast?_eq_some hsplit
        have hslash := hflags '/' (by rw [heq]; simp)
        exact absurd hslash (by decide)
    rw [List.nil_append, splitLast?, if_neg (by decide), hnone]
    exact if_pos ⟨rfl, List.all_eq_true.mpr hflags⟩
  | cons c body ih =>
    obtain ⟨hc, hrest⟩ := List.ne_and_not_mem_of_not_mem_cons hline
    rw [List.cons_append, splitLast?, if_neg (Ne.symm hc), ih hrest]

theorem splitLast?_eq_some_iff {cs body flags : List Char} :
    splitLast? cs = some (body, flags) ↔
      '\n' ∉ body ∧ (∀ c ∈ flags, isWord c = true) ∧ cs = body ++ '/' :: flags := by
  refine ⟨exists_of_splitLast?_eq_some, ?_⟩
  rintro ⟨hline, hflags, rfl⟩
  exact splitLast?_append hline hflags

theorem split_of_delimited {text body flags : String} (h : Delimited text body flags) :
    split text = (body, flags) := by
  obtain ⟨hline, hflags, rfl⟩ := h
  have htext : ("/" ++ body ++ "/" ++ flags).toList = '/' :: (body.toList ++ '/' :: flags.toList) := by
    simp
  rw [split, htext, splitChars, splitLast?_eq_some_iff.mpr ⟨hline, hflags, rfl⟩]
  simp

theorem split_of_not_delimited {text : String} (h : ∀ body flags, ¬ Delimited text body flags) :
    split text = (text, "") := by
  have hchars : splitChars text.toList = (text.toList, []) := by
    unfold splitChars
    split
    · next rest htext =>
      cases hsplit : splitLast? rest with
      | none => rw [htext]; rfl
      | some p =>
        obtain ⟨body, flags⟩ := p
        obtain ⟨hline, hflags, rfl⟩ := splitLast?_eq_some_iff.mp hsplit
        refine absurd ⟨?_, ?_, ?_⟩ (h (String.ofList body) (String.ofList flags))
        · rwa [String.toList_ofList]
        · rwa [String.toList_ofList]
        · rw [← String.toList_inj, htext]
          simp
    · rfl
  rw [split, hchars]
  simp

/-! ## Flags -/

theorem isInline_iff {c : Char} : isInline c = true ↔ c ∈ ['i', 'm', 's'] := by
  simp [isInline, or_assoc]

theorem isIgnored_iff {c : Char} : isIgnored c = true ↔ c ∈ ['g', 'y', 'u'] := by
  simp [isIgnored, or_assoc]

theorem mem_knownFlags {c : Char} : c ∈ knownFlags ↔ isInline c = true ∨ isIgnored c = true := by
  rw [isInline_iff, isIgnored_iff, ← List.mem_append]
  rfl

theorem unknownFlag?_cons_of_mem {flag : Char} (h : flag ∈ knownFlags) (flags : List Char) :
    unknownFlag? (flag :: flags) = unknownFlag? flags := by
  rw [unknownFlag?, List.find?_cons_of_neg (by simpa using h), unknownFlag?]

/-- Flags are read up to the first that is not known; those for the expression come behind the ones in
`chosen`, at their first places. -/
theorem inlineFlags_eq (chosen flags : List Char) :
    inlineFlags chosen flags =
      match unknownFlag? flags with
      | some c => .error (.flag c)
      | none => .ok (chosen ++
          (flags.filter fun c => c ∈ ['i', 'm', 's'] ∧ c ∉ chosen).eraseDups) := by
  induction flags generalizing chosen with
  | nil => simp [inlineFlags, unknownFlag?]
  | cons flag flags ih =>
    rw [inlineFlags]
    by_cases hinline : isInline flag = true
    · rw [if_pos hinline, ih, unknownFlag?_cons_of_mem (mem_knownFlags.mpr (.inl hinline))]
      have hmem := isInline_iff.mp hinline
      by_cases hchosen : flag ∈ chosen
      · rw [if_pos (List.contains_iff_mem.mpr hchosen), List.filter_cons_of_neg (by simp [hchosen])]
      · -- from here on, this flag is one of those that were chosen
        have hrest : flags.filter (fun c => c ∈ ['i', 'm', 's'] ∧ c ∉ chosen ++ [flag]) =
            (flags.filter fun c => c ∈ ['i', 'm', 's'] ∧ c ∉ chosen).filter fun c => !c == flag := by
          rw [List.filter_filter]
          refine List.filter_congr fun c _ => Bool.eq_iff_iff.mpr ?_
          simp [and_left_comm, and_comm]
        rw [if_neg (mt List.contains_iff_mem.mp hchosen), hrest,
          List.filter_cons_of_pos (by simp [hmem, hchosen]), List.eraseDups_cons, List.append_assoc]
        rfl
    · have hnot := mt isInline_iff.mpr hinline
      rw [if_neg hinline]
      by_cases hignored : isIgnored flag = true
      · rw [if_pos hignored, ih, unknownFlag?_cons_of_mem (mem_knownFlags.mpr (.inr hignored)),
          List.filter_cons_of_neg (by simp [hnot])]
      · have hunknown : flag ∉ knownFlags := mt mem_knownFlags.mp (not_or.mpr ⟨hinline, hignored⟩)
        rw [if_neg hignored, unknownFlag?, List.find?_cons_of_pos (by simpa using hunknown)]

theorem source_of_split {text body flags : String} (h : split text = (body, flags)) :
    source text =
      match unknownFlag? flags.toList with
      | some c => .error (.flag c)
      | none => .ok (grouped (chosenFlags flags.toList) body) := by
  have hflags := inlineFlags_eq [] flags.toList
  simp only [List.not_mem_nil, not_false_eq_true, and_true, List.nil_append] at hflags
  rw [source, h]
  simp only [hflags]
  cases unknownFlag? flags.toList with
  | some c => rfl
  | none =>
    rw [grouped, chosenFlags]
    cases (flags.toList.filter (· ∈ ['i', 'm', 's'])).eraseDups <;> rfl

theorem compile_eq_flag_iff {text : String} {c : Char} :
    compile text = .error (.flag c) ↔ source text = .error (.flag c) := by
  rw [compile]
  cases source text with
  | error e => simp
  | ok source => cases hregex : Regex.compile source <;> simp [hregex]

theorem compile_of_source {text source' : String} (h : source text = .ok source') :
    compile text = (Regex.compile source').mapError .regex := by
  rw [compile, h]
  dsimp only
  cases Regex.compile source' <;> rfl

/-! ## Flags that make no difference -/

/-- A flag that is dropped, or that was read before. -/
def Idle (before : List Char) (flag : Char) : Prop :=
  flag ∈ ['g', 'y', 'u'] ∨ flag ∈ before

theorem unknownFlag?_insert {before : List Char} {flag : Char} (h : Idle before flag)
    (after : List Char) :
    unknownFlag? (before ++ flag :: after) = unknownFlag? (before ++ after) := by
  rw [unknownFlag?, unknownFlag?, List.find?_append, List.find?_append]
  cases hbefore : before.find? (· ∉ knownFlags) with
  | some c => rfl
  | none =>
    have hknown : flag ∈ knownFlags := by
      rcases h with h | h
      · exact mem_knownFlags.mpr (.inr (isIgnored_iff.mpr h))
      · simpa using List.find?_eq_none.mp hbefore flag h
    rw [List.find?_cons_of_neg (by simpa using hknown)]

theorem chosenFlags_insert {before : List Char} {flag : Char} (h : Idle before flag)
    (after : List Char) :
    chosenFlags (before ++ flag :: after) = chosenFlags (before ++ after) := by
  rw [chosenFlags, chosenFlags, List.filter_append, List.filter_append]
  by_cases hflag : flag ∈ ['i', 'm', 's']
  · -- such a flag is not dropped, so it was read before and is removed as a double
    have hbefore : flag ∈ before.filter (· ∈ ['i', 'm', 's']) := by
      have hnot : ∀ c ∈ ['i', 'm', 's'], c ∉ ['g', 'y', 'u'] := by simp
      exact List.mem_filter.mpr ⟨h.resolve_left (hnot flag hflag), by simpa using hflag⟩
    rw [List.filter_cons_of_pos (by simpa using hflag), List.eraseDups_append, List.eraseDups_append,
      List.cons_removeAll, List.contains_iff_mem.mpr hbefore]
    rfl
  · rw [List.filter_cons_of_neg (by simpa using hflag)]

theorem delimited_insert {text body before after : String} (h : Delimited text body (before ++ after))
    {flag : Char} (hflag : Idle before.toList flag) :
    Delimited ("/" ++ body ++ "/" ++ (before ++ flag.toString ++ after)) body
      (before ++ flag.toString ++ after) := by
  obtain ⟨hline, hflags, -⟩ := h
  rw [String.toList_append, List.forall_mem_append] at hflags
  have hword : isWord flag = true := by
    have hignored : ∀ c ∈ ['g', 'y', 'u'], isWord c = true := List.all_eq_true.mp (by decide)
    exact hflag.elim (hignored flag) (hflags.1 flag)
  refine ⟨hline, ?_, rfl⟩
  simp only [String.toList_append, List.forall_mem_append]
  exact ⟨⟨hflags.1, by simpa using hword⟩, hflags.2⟩

/-- **Patterns are read back from their text.** A delimited text has the body and the flags that it is
written for, and any other text is all body and has no flags. Compiling fails with a flag exactly when it
is the first that is not known. If all flags are known, what is compiled is the body as it stands when none
of `i`, `m` and `s` is among them, and otherwise the body behind a group of these, each once and in the order
in which they first appear. So one more `g`, `y` or `u`, or one more flag that was read before, makes no
difference to what is compiled. -/
theorem compile_delimited (text : String) :
    (∀ body flags, Delimited text body flags → split text = (body, flags)) ∧
    ((∀ body flags, ¬ Delimited text body flags) → split text = (text, "")) ∧
    (∀ body flags, split text = (body, flags) →
      (∀ c, compile text = .error (.flag c) ↔ unknownFlag? flags.toList = some c) ∧
      ((∀ c ∈ flags.toList, c ∈ knownFlags) →
        source text = .ok (grouped (chosenFlags flags.toList) body) ∧
        compile text =
          (Regex.compile (grouped (chosenFlags flags.toList) body)).mapError .regex)) ∧
    ∀ body before flag after, Delimited text body (before ++ after) → Idle before.toList flag →
      source ("/" ++ body ++ "/" ++ (before ++ flag.toString ++ after)) = source text := by
  refine ⟨fun body flags => split_of_delimited, split_of_not_delimited,
    fun body flags hsplit => ⟨fun c => ?_, fun hknown => ?_⟩,
    fun body before flag after h hflag => ?_⟩
  · rw [compile_eq_flag_iff, source_of_split hsplit]
    cases unknownFlag? flags.toList <;> simp
  · have hnone : unknownFlag? flags.toList = none :=
      List.find?_eq_none.mpr fun c hc => by simpa using hknown c hc
    have hsource : source text = .ok (grouped (chosenFlags flags.toList) body) := by
      rw [source_of_split hsplit, hnone]
    exact ⟨hsource, compile_of_source hsource⟩
  · have hinsert : (before ++ flag.toString ++ after).toList =
        before.toList ++ flag :: after.toList := by simp
    rw [source_of_split (split_of_delimited h),
      source_of_split (split_of_delimited (delimited_insert h hflag)), hinsert, String.toList_append,
      unknownFlag?_insert hflag, chosenFlags_insert hflag]

/-- A slash in the body, a flag that is dropped and one that is repeated; a flag that is not known; a text
that no slash ends. -/
theorem compile_delimited_slashes :
    Delimited "/a/b/mgi" "a/b" "mgi" ∧ split "/a/b/mgi" = ("a/b", "mgi") ∧
      (∀ c ∈ "mgi".toList, c ∈ knownFlags) ∧ source "/a/b/mgi" = .ok "(?mi)a/b" ∧
      Idle "mgi".toList 'm' ∧ source "/a/b/mgim" = source "/a/b/mgi" ∧
      split "/a/ixq" = ("a", "ixq") ∧ compile "/a/ixq" = .error (.flag 'x') ∧
      (∀ body flags, ¬ Delimited "/a b" body flags) ∧ split "/a b" = ("/a b", "") := by
  have hslash : Delimited "/a/b/mgi" "a/b" "mgi" :=
    ⟨by decide, List.all_eq_true.mp (by decide), by decide⟩
  have hunknown : Delimited "/a/ixq" "a" "ixq" :=
    ⟨by decide, List.all_eq_true.mp (by decide), by decide⟩
  have hnone : ∀ body flags, ¬ Delimited "/a b" body flags := by
    intro body flags h
    have hsplit : split "/a b" = ("/a b", "") := by cbv
    obtain ⟨rfl, rfl⟩ := Prod.mk.inj ((split_of_delimited h).symm.trans hsplit)
    exact absurd h.2.2 (by decide)
  have hidle : Idle "mgi".toList 'm' := .inr (by decide)
  have hknown : "mgi".toList ⊆ knownFlags := by decide
  obtain ⟨hread, -, hcompile, hinsert⟩ := compile_delimited "/a/b/mgi"
  obtain ⟨hsource, -⟩ := (hcompile _ _ (hread _ _ hslash)).2 hknown
  obtain ⟨hread', -, hcompile', -⟩ := compile_delimited "/a/ixq"
  have hsplit' := hread' _ _ hunknown
  exact ⟨hslash, hread _ _ hslash, hknown, hsource.trans (by cbv), hidle,
    hinsert "a/b" "mgi" 'm' "" hslash hidle, hsplit', ((hcompile' _ _ hsplit').1 'x').mpr (by decide),
    hnone, (compile_delimited "/a b").2.1 hnone⟩

end DocFilter.Pattern
