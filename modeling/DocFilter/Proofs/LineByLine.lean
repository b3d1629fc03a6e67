import DocFilter.Document
import DocFilter.Proofs.CompactText

/-!
# Documents line by line

Text that is not one value as a whole is read line by line. A text is laid out in lines
(`Document.Laid`) when each value stands on a line of its own, with blanks around it, and any number of
blank lines before, between and after the lines with values. Reading a line gives back what is on it
(`Document.Line.valueOn?_eq`), whole lines are read by induction on the lines (`linesFrom_eq_ok`), and
a text of two values or more is not taken for one value (`Document.Laid.read?_eq_none`). So

> `Document.ofText_lines`: a text of two values or more gives back the values in order, and a text that is
> no value fails exactly when one of its lines is malformed, with the number of the first such line.
-/

namespace DocFilter

/-! ## Trimming -/

theorem trimLeft_blank_append {blank : List Char} (h : ∀ c ∈ blank, isBlank c = true)
    (cs : List Char) : trimLeft (blank ++ cs) = trimLeft cs :=
  List.dropWhile_append_of_pos h

theorem trimLeft_append {cs : List Char} (hne : cs ≠ []) (h : ∀ c ∈ cs.head?, isBlank c = false)
    (more : List Char) : trimLeft (cs ++ more) = cs ++ more := by
  obtain ⟨c, cs, rfl⟩ := List.exists_cons_of_ne_nil hne
  have hc : isBlank c = false := h c rfl
  exact List.dropWhile_cons_of_neg (by rw [hc]; exact Bool.false_ne_true)

/-- Trimming takes away the blanks around a text, and nothing else. -/
theorem trim_append {before cs after : List Char} (hne : cs ≠ []) (hcs : Flush cs)
    (hbefore : ∀ c ∈ before, isBlank c = true) (hafter : ∀ c ∈ after, isBlank c = true) :
    trim (before ++ (cs ++ after)) = cs := by
  have hreverse : cs.reverse ≠ [] := mt List.reverse_eq_nil_iff.mp hne
  have hhead : ∀ c ∈ cs.reverse.head?, isBlank c = false := by
    rw [List.head?_reverse]
    exact hcs.2
  have hblank : ∀ c ∈ after.reverse, isBlank c = true := fun c hc =>
    hafter c (List.mem_reverse.mp hc)
  have htrim := trimLeft_append hreverse hhead []
  rw [List.append_nil] at htrim
  rw [trim, trimLeft_blank_append hbefore, trimLeft_append hne hcs.1, List.reverse_append,
    trimLeft_blank_append hblank, htrim, List.reverse_reverse]

/-! ## Lines -/

theorem splitLines_eq_splitOn (cs : List Char) : splitLines cs = cs.splitOn '\n' := by
  induction cs with
  | nil => rfl
  | cons c cs ih =>
    rw [splitLines, List.splitOn_cons_eq_if_modifyHead, ih]
    by_cases hc : c = '\n'
    · simp [hc]
    · obtain ⟨line, lines, hlines⟩ := List.exists_cons_of_ne_nil (splitLines_ne_nil cs)
      rw [ih] at hlines
      simp [hc, hlines]

namespace Document

/-- Blanks that end no line. -/
def Padding (cs : List Char) : Prop :=
  ∀ c ∈ cs, isBlank c = true ∧ c ≠ '\n'

instance (cs : List Char) : Decidable (Padding cs) :=
  decidable_of_iff (cs.all (fun c => isBlank c && c != '\n') = true) (by simp [Padding])

/-- What ends a line. -/
inductive LineEnd : List Char → Prop
  | feed : LineEnd ['\n']
  | returnFeed : LineEnd ['\r', '\n']

/-- A line with this value on it, or with none. -/
inductive Line : Option Json → List Char → Prop
  | blank {padding : List Char} : Padding padding → Line none padding
  | value {v : Json} {before content after : List Char} :
    Padding before → v.OneLine content → Padding after → Line (some v) (before ++ (content ++ after))

/-- A text with these values on it, each on a line of its own. -/
inductive Laid : List Json → List Char → Prop
  | last {v? : Option Json} {line : List Char} : Line v? line → Laid v?.toList line
  | line {v? : Option Json} {line ending text : List Char} {values : List Json} :
    Line v? line → LineEnd ending → Laid values text →
      Laid (v?.toList ++ values) (line ++ (ending ++ text))

/-- The value on a line, if there is one. -/
def valueOn? (line : List Char) : Option Json :=
  Json.read? (String.ofList (trim line))

theorem valueOn?_of_trim_eq_nil {line : List Char} (h : trim line = []) : valueOn? line = none := by
  rw [valueOn?, h]
  cbv

/-- A line with something on it that is no value. -/
def Malformed (line : List Char) : Prop :=
  trim line ≠ [] ∧ valueOn? line = none

namespace Padding

theorem isBlank {cs : List Char} (h : Padding cs) : ∀ c ∈ cs, DocFilter.isBlank c = true :=
  fun c hc => (h c hc).1

theorem feed_notMem {cs : List Char} (h : Padding cs) : '\n' ∉ cs :=
  fun hmem => (h _ hmem).2 rfl

theorem append {cs ds : List Char} (hcs : Padding cs) (hds : Padding ds) : Padding (cs ++ ds) :=
  List.forall_mem_append.mpr ⟨hcs, hds⟩

theorem carriageReturn : Padding ['\r'] :=
  List.forall_mem_singleton.mpr ⟨rfl, by decide⟩

end Padding

namespace LineEnd

theorem isBlank {ending : List Char} (h : LineEnd ending) :
    ∀ c ∈ ending, DocFilter.isBlank c = true := by
  cases h with
  | feed => exact List.forall_mem_singleton.mpr rfl
  | returnFeed => exact List.forall_mem_cons.mpr ⟨rfl, List.forall_mem_singleton.mpr rfl⟩

theorem startsBlank {ending after : List Char} (h : LineEnd ending) (hafter : Padding after)
    (text : List Char) : StartsBlank (after ++ (ending ++ text)) := by
  intro c hc
  cases after with
  | nil => cases h <;> cases hc <;> rfl
  | cons d after =>
    cases hc
    exact hafter.isBlank _ List.mem_cons_self

end LineEnd

namespace Line
variable {v? : Option Json} {line : List Char}

theorem feed_notMem (h : Line v? line) : '\n' ∉ line := by
  cases h with
  | blank hpadding => exact hpadding.feed_notMem
  | value hbefore hcontent hafter =>
    simp only [List.mem_append, not_or]
    exact ⟨hbefore.feed_notMem, hcontent.line, hafter.feed_notMem⟩

/-- A carriage return at the end of a line is one more blank. -/
theorem append_return (h : Line v? line) : Line v? (line ++ ['\r']) := by
  cases h with
  | blank hpadding => exact blank (hpadding.append Padding.carriageReturn)
  | value hbefore hcontent hafter =>
    rw [List.append_assoc, List.append_assoc]
    exact value hbefore hcontent (hafter.append Padding.carriageReturn)

/-- Nothing else is on a line than its value. -/
theorem valueOn?_eq (h : Line v? line) : valueOn? line = v? := by
  cases h with
  | blank hpadding => exact valueOn?_of_trim_eq_nil (trim_eq_nil_iff.mpr hpadding.isBlank)
  | value hbefore hcontent hafter =>
    rw [valueOn?, trim_append hcontent.ne_nil hcontent.flush hbefore.isBlank hafter.isBlank,
      hcontent.reads]

theorem not_malformed (h : Line v? line) : ¬ Malformed line := by
  rintro ⟨htrim, hnone⟩
  cases h with
  | blank hpadding => exact htrim (trim_eq_nil_iff.mpr hpadding.isBlank)
  | value hbefore hcontent hafter =>
    rw [(value hbefore hcontent hafter).valueOn?_eq] at hnone
    cases hnone

theorem exists_not_blank {v : Json} (h : Line (some v) line) : ∃ c ∈ line, isBlank c = false := by
  cases h with
  | value _ hcontent _ =>
    obtain ⟨c, cs, rfl⟩ := List.exists_cons_of_ne_nil hcontent.ne_nil
    refine ⟨c, List.mem_append_right _ (List.mem_append_left _ List.mem_cons_self), ?_⟩
    exact hcontent.flush.1 c rfl

/-- The first line of a text, whatever its end is. -/
theorem splitLines_append (h : Line v? line) {ending : List Char} (hending : LineEnd ending)
    (text : List Char) :
    ∃ first, Line v? first ∧ splitLines (line ++ (ending ++ text)) = first :: splitLines text := by
  simp only [splitLines_eq_splitOn]
  cases hending with
  | feed =>
    exact ⟨line, h, List.splitOn_append_cons_self_of_not_mem h.feed_notMem text⟩
  | returnFeed =>
    refine ⟨line ++ ['\r'], h.append_return, ?_⟩
    have hsplit := List.splitOn_append_cons_self_of_not_mem h.append_return.feed_notMem text
    rwa [List.append_assoc] at hsplit

end Line

/-! ## Reading lines -/

section
variable (source : String)

theorem linesFrom_of_malformed {line : List Char} (h : Malformed line) (n : Nat)
    (lines : List (List Char)) :
    linesFrom source n (line :: lines) = .error (.malformed source n) := by
  obtain ⟨htrim, hvalue⟩ := h
  rw [valueOn?] at hvalue
  rw [linesFrom]
  split
  · next hnil => exact absurd hnil htrim
  · rw [hvalue]

/-- Any other line adds the value on it, if there is one. -/
theorem linesFrom_of_not_malformed {line : List Char} (h : ¬ Malformed line) (n : Nat)
    (lines : List (List Char)) :
    linesFrom source n (line :: lines) =
      (linesFrom source (n + 1) lines).map ((valueOn? line).toList ++ ·) := by
  rw [linesFrom]
  split
  · next hnil =>
    -- a blank line is counted, but adds nothing
    rw [valueOn?_of_trim_eq_nil hnil]
    cases linesFrom source (n + 1) lines <;> rfl
  · next htrim =>
    cases hvalue : valueOn? line with
    | none => exact absurd ⟨htrim, hvalue⟩ h
    | some v =>
      rw [valueOn?] at hvalue
      rw [hvalue]
      cases linesFrom source (n + 1) lines <;> rfl

/-- Lines none of which is malformed give the values that are on them. -/
theorem linesFrom_eq_ok {lines : List (List Char)} (h : ∀ line ∈ lines, ¬ Malformed line) (n : Nat) :
    linesFrom source n lines = .ok (lines.filterMap valueOn?) := by
  induction lines generalizing n with
  | nil => rfl
  | cons line lines ih =>
    obtain ⟨hline, hlines⟩ := List.forall_mem_cons.mp h
    rw [linesFrom_of_not_malformed source hline, ih hlines, List.filterMap_cons]
    cases valueOn? line <;> rfl

/-- The first malformed line is reported by its number. -/
theorem linesFrom_eq_error {before : List (List Char)} (h : ∀ line ∈ before, ¬ Malformed line)
    {line : List Char} (hline : Malformed line) (after : List (List Char)) (n : Nat) :
    linesFrom source n (before ++ line :: after) = .error (.malformed source (n + before.length)) := by
  induction before generalizing n with
  | nil => exact linesFrom_of_malformed source hline n after
  | cons first before ih =>
    obtain ⟨hfirst, hbefore⟩ := List.forall_mem_cons.mp h
    rw [List.cons_append, linesFrom_of_not_malformed source hfirst, ih hbefore, List.length_cons,
      Nat.add_assoc, Nat.add_comm 1]
    rfl

theorem linesFrom_fails_iff (lines : List (List Char)) (n : Nat) :
    (∃ e, linesFrom source n lines = .error e) ↔ ∃ line ∈ lines, Malformed line := by
  constructor
  · rintro ⟨e, he⟩
    by_contra hnone
    have hok := linesFrom_eq_ok source (fun line hline hbad => hnone ⟨line, hline, hbad⟩) n
    rw [he] at hok
    cases hok
  · rintro ⟨line, hline, hbad⟩
    induction lines generalizing n with
    | nil => cases hline
    | cons first lines ih =>
      by_cases hfirst : Malformed first
      · exact ⟨_, linesFrom_of_malformed source hfirst n lines⟩
      · -- the malformed line is further on, and what comes before it passes the error on
        have hne : line ≠ first := by
          rintro rfl
          exact hfirst hbad
        obtain ⟨e, he⟩ := ih (n + 1) (List.mem_of_ne_of_mem hne hline)
        rw [linesFrom_of_not_malformed source hfirst, he]
        exact ⟨e, rfl⟩

end

/-! ## Texts laid out in lines -/

namespace Laid
variable {values : List Json} {text : List Char}

/-- Each line is a line with one of the values, or a blank one. -/
theorem splitLines_eq (h : Laid values text) :
    (∀ line ∈ splitLines text, ¬ Malformed line) ∧ (splitLines text).filterMap valueOn? = values := by
  induction h with
  | @last v? line hline =>
    rw [splitLines_eq_splitOn, List.splitOn_eq_singleton hline.feed_notMem]
    refine ⟨List.forall_mem_singleton.mpr hline.not_malformed, ?_⟩
    rw [List.filterMap_cons, hline.valueOn?_eq]
    cases v? <;> rfl
  | @line v? _ _ text values hline hending _ ih =>
    obtain ⟨first, hfirst, hsplit⟩ := hline.splitLines_append hending text
    rw [hsplit]
    refine ⟨List.forall_mem_cons.mpr ⟨hfirst.not_malformed, ih.1⟩, ?_⟩
    rw [List.filterMap_cons, hfirst.valueOn?_eq, ih.2]
    cases v? <;> rfl

theorem linesFrom_eq (h : Laid values text) (source : String) (n : Nat) :
    linesFrom source n (splitLines text) = .ok values := by
  obtain ⟨hlines, hvalues⟩ := h.splitLines_eq
  rw [linesFrom_eq_ok source hlines, hvalues]

theorem exists_not_blank (h : Laid values text) (hne : values ≠ []) :
    ∃ c ∈ text, isBlank c = false := by
  induction h with
  | @last v? line hline =>
    cases v? with
    | none => exact absurd rfl hne
    | some v => exact hline.exists_not_blank
  | @line v? line ending text values hline _ _ ih =>
    cases v? with
    | none =>
      obtain ⟨c, hc, hblank⟩ := ih hne
      exact ⟨c, List.mem_append_right _ (List.mem_append_right _ hc), hblank⟩
    | some v =>
      obtain ⟨c, hc, hblank⟩ := hline.exists_not_blank
      exact ⟨c, List.mem_append_left _ hc, hblank⟩

/-- A text with two values begins with one of them, and goes on behind a blank. -/
theorem exists_first (h : Laid values text) (hvalues : 2 ≤ values.length) :
    ∃ before v content more, text = before ++ (content ++ more) ∧
      (∀ c ∈ before, isBlank c = true) ∧ Json.OneLine v content ∧ StartsBlank more ∧
        ∃ c ∈ more, isBlank c = false := by
  induction h with
  | @last v? line hline => cases v? <;> simp at hvalues
  | @line v? line ending text values hline hending hlaid ih =>
    cases hline with
    | blank hpadding =>
      -- a blank line, its end included, is more of the blanks in front of the first value
      obtain ⟨before, v, content, more, rfl, hbefore, hrest⟩ := ih hvalues
      refine ⟨line ++ (ending ++ before), v, content, more, ?_, ?_, hrest⟩
      · simp only [List.append_assoc]
      · exact List.forall_mem_append.mpr
          ⟨hpadding.isBlank, List.forall_mem_append.mpr ⟨hending.isBlank, hbefore⟩⟩
    | @value v before content after hbefore hcontent hafter =>
      -- the other values are on the lines that follow
      have hne : values ≠ [] := by
        rintro rfl
        simp at hvalues
      obtain ⟨c, hc, hblank⟩ := hlaid.exists_not_blank hne
      refine ⟨before, v, content, after ++ (ending ++ text), ?_, hbefore.isBlank, hcontent,
        hending.startsBlank hafter text, c, ?_, hblank⟩
      · simp only [List.append_assoc]
      · exact List.mem_append_right _ (List.mem_append_right _ hc)

/-- A text with two values is not one value as a whole. -/
theorem read?_eq_none {text : String} (h : Laid values text.toList) (hvalues : 2 ≤ values.length) :
    Json.read? text = none := by
  obtain ⟨before, v, content, more, htext, hbefore, hcontent, hmore, hrest⟩ :=
    h.exists_first hvalues
  refine Json.read?_append_eq_none hcontent.reads hbefore hmore hrest ?_
  rw [String.toList_ofList, htext]

end Laid

/-- Documents are numbered from zero on. -/
theorem number_spec (source : String) (values : List Json) :
    (number source values).map (·.value) = values ∧
      (number source values).map (·.index) = List.range values.length ∧
        ∀ d ∈ number source values, d.source = source := by
  unfold number
  refine ⟨?_, ?_, ?_⟩
  · rw [List.map_map]
    exact List.zipIdx_map_fst 0 values
  · rw [List.map_map, List.range_eq_range']
    exact List.zipIdx_map_snd 0 values
  · intro d hd
    obtain ⟨_, -, rfl⟩ := List.mem_map.mp hd
    rfl

theorem ofText_of_read?_eq_none {text : String} (h : Json.read? text = none) (source : String) :
    ofText source text =
      (linesFrom source 1 (splitLines text.toList)).map (number source) := by
  rw [ofText, valuesOf, h]

/-- **Texts of several lines are read back exactly.** Two values or more, each on a line of its own, are
the documents of the text in order, numbered from zero. A text that is no value as a whole fails exactly
when a line of it is malformed, and the first such line is reported by its number among all lines,
counted from one. -/
theorem ofText_lines (source text : String) :
    (∀ values : List Json, 2 ≤ values.length → Laid values text.toList →
      ∃ documents, ofText source text = .ok documents ∧ documents.map (·.value) = values ∧
        documents.map (·.index) = List.range values.length ∧ ∀ d ∈ documents, d.source = source) ∧
    (Json.read? text = none →
      ((∃ e, ofText source text = .error e) ↔ ∃ line ∈ splitLines text.toList, Malformed line) ∧
      ∀ before line after, splitLines text.toList = before ++ line :: after →
        (∀ first ∈ before, ¬ Malformed first) → Malformed line →
          ofText source text = .error (.malformed source (before.length + 1))) := by
  refine ⟨fun values hvalues hlaid => ?_, fun hnone => ⟨?_, ?_⟩⟩
  · refine ⟨number source values, ?_, number_spec source values⟩
    rw [ofText_of_read?_eq_none (hlaid.read?_eq_none hvalues), hlaid.linesFrom_eq]
    rfl
  · rw [ofText_of_read?_eq_none hnone, ← linesFrom_fails_iff source _ 1]
    cases linesFrom source 1 (splitLines text.toList) <;> simp [Except.map]
  · intro before line after hsplit hbefore hline
    rw [ofText_of_read?_eq_none hnone, hsplit, linesFrom_eq_error source hbefore hline,
      Nat.add_comm]
    rfl

theorem ofText_lines_mixed :
    (∃ documents, ofText "input" "\ntrue\r\n \r\n\t[\"x\\ny\",null] \n\n" = .ok documents ∧
      documents.map (·.value) = [.bool true, .array [.string "x\ny", .null]] ∧
      documents.map (·.index) = List.range 2 ∧ ∀ d ∈ documents, d.source = "input") ∧
    ofText "input" "true\n\n  nul\nfals" = .error (.malformed "input" 3) := by
  have htrue : (Json.bool true).OneLine (Json.bool true).compact.toList :=
    Json.oneLine_compact (by cbv)
  have hpair : (Json.array [.string "x\ny", .null]).OneLine
      (Json.array [.string "x\ny", .null]).compact.toList := Json.oneLine_compact (by cbv)
  have hnil : Padding [] := by decide
  have hspace : Padding [' '] := by decide
  have htab : Padding ['\t'] := by decide
  have hlaid : Laid [.bool true, .array [.string "x\ny", .null]]
      "\ntrue\r\n \r\n\t[\"x\\ny\",null] \n\n".toList :=
    .line (.blank hnil) .feed <|
    .line (.value hnil htrue hnil) .returnFeed <|
    .line (.blank hspace) .returnFeed <|
    .line (.value htab hpair hspace) .feed <|
    .line (.blank hnil) .feed <|
    .last (.blank hnil)
  have hbefore : ∀ first ∈ ["true".toList, []], ¬ Malformed first :=
    List.forall_mem_cons.mpr ⟨(Line.value hnil htrue hnil).not_malformed,
      List.forall_mem_singleton.mpr (Line.blank hnil).not_malformed⟩
  have hbad : Malformed "  nul".toList := ⟨by decide, by cbv⟩
  exact ⟨(ofText_lines "input" _).1 _ (by decide) hlaid,
    ((ofText_lines "input" _).2 (by cbv)).2 ["true".toList, []] _ ["fals".toList] (by cbv)
      hbefore hbad⟩

end Document

end DocFilter
