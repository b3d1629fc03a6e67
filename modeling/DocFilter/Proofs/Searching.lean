import DocFilter.Proofs.Except
import DocFilter.Search
import Mathlib.Data.List.Basic

/-!
# What a search accounts for

A search asks its filter of every document and sorts the positions by the answers. What it finds
can be said without the loop: the answers in order (`verdicts`), and what the outcome takes from
each of them.

> `searchFrom_skipping`: a search that skips errors always succeeds, and its outcome is picked out
> of the answers.

A search that stops at an error is the same search as long as no document fails
(`searchFrom_stopping`), and otherwise it ends with the first failure (`searchFrom_failing`). Since
an answer is a match, a non-match or a failure, and never two of them,

> `search_accounts`: of the two searches that skip errors, the plain one and the inverted one, and
> of the documents that both of them skip, every position is in exactly one.
-/

namespace DocFilter

variable {κ : Type}

/-! ## Verdicts -/

section
variable (judge : Json → Except MatchError Bool)

/-- The answers about documents, with the positions of the documents, of which `index` is the
first. -/
def verdicts (index : Nat) (documents : List Document) : List (Nat × Except MatchError Bool) :=
  (documents.zipIdx index).map fun (document, i) => (i, judge document.value)

theorem verdicts_cons (index : Nat) (document : Document) (documents : List Document) :
    verdicts judge index (document :: documents) =
      (index, judge document.value) :: verdicts judge (index + 1) documents := rfl

/-- Every document has its verdict, and no position has two. -/
theorem positions_verdicts (index : Nat) (documents : List Document) :
    (verdicts judge index documents).map (·.1) = List.range' index documents.length := by
  rw [verdicts, List.map_map]
  exact List.zipIdx_map_snd index documents

theorem mem_verdicts {documents : List Document} {i : Nat} {verdict : Except MatchError Bool} :
    (i, verdict) ∈ verdicts judge 0 documents ↔
      ∃ document, documents[i]? = some document ∧ judge document.value = verdict := by
  simp only [verdicts, List.mem_map, Prod.exists, Prod.mk.injEq]
  refine ⟨?_, ?_⟩
  · rintro ⟨document, j, hmem, rfl, hverdict⟩
    exact ⟨document, List.mem_zipIdx_iff_getElem?.mp hmem, hverdict⟩
  · rintro ⟨document, hfound, hverdict⟩
    exact ⟨document, i, List.mem_zipIdx_iff_getElem?.mpr hfound, rfl, hverdict⟩

end

/-- The position that a search reports for a verdict. -/
def reported? (invert : Bool) : Nat × Except MatchError Bool → Option Nat
  | (i, .ok isMatch) => if isMatch != invert then some i else none
  | (_, .error _) => none

/-- What a search that skips errors notes down about a verdict. -/
def skipped? : Nat × Except MatchError Bool → Option (Nat × MatchError)
  | (_, .ok _) => none
  | (i, .error report) => some (i, report)

theorem reported?_eq_some {invert : Bool} {verdict : Nat × Except MatchError Bool} {i : Nat} :
    reported? invert verdict = some i ↔ verdict = (i, .ok !invert) := by
  obtain ⟨j, report | isMatch⟩ := verdict
  · simp [reported?]
  · cases isMatch <;> cases invert <;> simp [reported?]

theorem skipped?_eq_some {verdict : Nat × Except MatchError Bool} {entry : Nat × MatchError} :
    skipped? verdict = some entry ↔ verdict = (entry.1, .error entry.2) := by
  obtain ⟨j, report | isMatch⟩ := verdict <;> obtain ⟨i, report'⟩ := entry <;> simp [skipped?]

section
variable (judge : Json → Except MatchError Bool) {documents : List Document} {i : Nat}
  {document : Document} (hfound : documents[i]? = some document)
include hfound

/-- A position has the verdict on its document. -/
theorem mem_verdicts_of_found {verdict : Except MatchError Bool} :
    (i, verdict) ∈ verdicts judge 0 documents ↔ judge document.value = verdict := by
  rw [mem_verdicts, hfound]
  simp

theorem mem_reported (invert : Bool) :
    i ∈ (verdicts judge 0 documents).filterMap (reported? invert) ↔
      judge document.value = .ok !invert := by
  rw [← mem_verdicts_of_found judge hfound]
  simp only [List.mem_filterMap, reported?_eq_some, exists_eq_right]

theorem mem_skipped {report : MatchError} :
    (i, report) ∈ (verdicts judge 0 documents).filterMap skipped? ↔
      judge document.value = .error report := by
  rw [← mem_verdicts_of_found judge hfound]
  simp only [List.mem_filterMap, skipped?_eq_some, exists_eq_right]

end

/-- What is picked out of verdicts keeps their order, when at most the position is picked. -/
theorem pairwise_filterMap_verdicts (judge : Json → Except MatchError Bool)
    (documents : List Document) {pick : Nat × Except MatchError Bool → Option Nat}
    (hpick : ∀ v i, pick v = some i → v.1 = i) :
    ((verdicts judge 0 documents).filterMap pick).Pairwise (· < ·) := by
  have hpositions : (verdicts judge 0 documents).Pairwise (fun v w => v.1 < w.1) := by
    rw [← List.pairwise_map (f := Prod.fst) (R := (· < ·)), positions_verdicts]
    exact List.pairwise_lt_range'
  refine hpositions.filterMap pick fun v w hlt i hi j hj => ?_
  rwa [hpick v i hi, hpick w j hj] at hlt

/-- Nothing is skipped when no document fails. -/
theorem skipped_eq_nil {judge : Json → Except MatchError Bool} {documents : List Document}
    (hok : ∀ document ∈ documents, ∃ b, judge document.value = .ok b) :
    (verdicts judge 0 documents).filterMap skipped? = [] := by
  refine List.eq_nil_iff_forall_not_mem.mpr fun entry hentry => ?_
  obtain ⟨v, hv, hskipped⟩ := List.mem_filterMap.mp hentry
  rw [skipped?_eq_some.mp hskipped, mem_verdicts] at hv
  obtain ⟨document, hfound, hfails⟩ := hv
  obtain ⟨b, hb⟩ := hok document (List.mem_of_getElem? hfound)
  cases hfails.symm.trans hb

/-- **Every verdict is a match, a non-match or a failure.** -/
theorem perm_verdicts (vs : List (Nat × Except MatchError Bool)) :
    (vs.filterMap (reported? false) ++ vs.filterMap (reported? true) ++
      (vs.filterMap skipped?).map (·.1)).Perm (vs.map (·.1)) := by
  induction vs with
  | nil => exact .refl _
  | cons v vs ih =>
    obtain ⟨i, report | isMatch⟩ := v
    · exact List.perm_middle.trans (ih.cons i)
    · cases isMatch with
      | true => exact ih.cons i
      | false =>
        have hmiddle : (vs.filterMap (reported? false) ++ i :: vs.filterMap (reported? true)).Perm
            (i :: (vs.filterMap (reported? false) ++ vs.filterMap (reported? true))) :=
          List.perm_middle
        exact (hmiddle.append_right _).trans (ih.cons i)

/-! ## Searches -/

section
variable (judge : Json → Except MatchError Bool) (invert : Bool)

/-- **A search that skips errors** succeeds, with an outcome that is picked out of the verdicts. -/
theorem searchFrom_skipping (index : Nat) (documents : List Document) :
    searchFrom judge ⟨invert, true⟩ index documents =
      .ok ⟨(verdicts judge index documents).filterMap (reported? invert),
        (verdicts judge index documents).filterMap skipped?⟩ := by
  induction documents generalizing index with
  | nil => rfl
  | cons document documents ih =>
    rw [searchFrom, verdicts_cons, ih]
    cases judge document.value with
    | error report => rfl
    | ok isMatch => cases isMatch <;> cases invert <;> rfl

/-- A search that stops at errors goes on to its end when there is none. -/
theorem searchFrom_stopping (index : Nat) {documents : List Document}
    (hok : ∀ document ∈ documents, ∃ b, judge document.value = .ok b) :
    searchFrom judge ⟨invert, false⟩ index documents =
      searchFrom judge ⟨invert, true⟩ index documents := by
  induction documents generalizing index with
  | nil => rfl
  | cons document documents ih =>
    obtain ⟨⟨b, hb⟩, hrest⟩ := List.forall_mem_cons.mp hok
    rw [searchFrom, searchFrom, hb, ih (index + 1) hrest]

/-- It ends with the first failure otherwise. -/
theorem searchFrom_failing (index : Nat) {before after : List Document} {document : Document}
    {report : MatchError} (hok : ∀ earlier ∈ before, ∃ b, judge earlier.value = .ok b)
    (hfails : judge document.value = .error report) :
    searchFrom judge ⟨invert, false⟩ index (before ++ document :: after) = .error report := by
  induction before generalizing index with
  | nil =>
    rw [List.nil_append, searchFrom, hfails]
    rfl
  | cons earlier before ih =>
    obtain ⟨⟨b, hb⟩, hrest⟩ := List.forall_mem_cons.mp hok
    rw [List.cons_append, searchFrom, hb, ih (index + 1) hrest]
    rfl

/-- No document fails, or there is a first one that does. -/
theorem exists_first_failing (documents : List Document) :
    (∀ document ∈ documents, ∃ b, judge document.value = .ok b) ∨
      ∃ before document after report, documents = before ++ document :: after ∧
        (∀ earlier ∈ before, ∃ b, judge earlier.value = .ok b) ∧
        judge document.value = .error report := by
  induction documents with
  | nil => exact .inl (List.forall_mem_nil _)
  | cons document documents ih =>
    cases hjudge : judge document.value with
    | error report =>
      exact .inr ⟨[], document, documents, report, rfl, List.forall_mem_nil _, hjudge⟩
    | ok b =>
      rcases ih with hok | ⟨before, failing, after, report, rfl, hok, hfails⟩
      · exact .inl (List.forall_mem_cons.mpr ⟨⟨b, hjudge⟩, hok⟩)
      · exact .inr ⟨document :: before, failing, after, report, rfl,
          List.forall_mem_cons.mpr ⟨⟨b, hjudge⟩, hok⟩, hfails⟩

/-- **When a search that stops at errors fails**, and with which report. -/
theorem searchFrom_eq_error {index : Nat} {documents : List Document} {report : MatchError} :
    searchFrom judge ⟨invert, false⟩ index documents = .error report ↔
      ∃ before document after, documents = before ++ document :: after ∧
        (∀ earlier ∈ before, ∃ b, judge earlier.value = .ok b) ∧
        judge document.value = .error report := by
  refine ⟨fun h => ?_, ?_⟩
  · rcases exists_first_failing judge documents with hok |
      ⟨before, document, after, report', rfl, hok, hfails⟩
    · rw [searchFrom_stopping judge invert index hok, searchFrom_skipping] at h
      cases h
    · rw [searchFrom_failing judge invert index hok hfails] at h
      obtain rfl := Except.error.inj h
      exact ⟨before, document, after, rfl, hok, hfails⟩
  · rintro ⟨before, document, after, rfl, hok, hfails⟩
    exact searchFrom_failing judge invert index hok hfails

/-- It fails just when some document does. -/
theorem exists_searchFrom_eq_error {index : Nat} {documents : List Document} :
    (∃ report, searchFrom judge ⟨invert, false⟩ index documents = .error report) ↔
      ∃ document ∈ documents, ∃ report, judge document.value = .error report := by
  refine ⟨fun ⟨report, h⟩ => ?_, fun ⟨document, hmem, report, hfails⟩ => ?_⟩
  · obtain ⟨before, document, after, rfl, -, hfails⟩ := (searchFrom_eq_error judge invert).mp h
    exact ⟨document, List.mem_append_right _ List.mem_cons_self, report, hfails⟩
  · rcases exists_first_failing judge documents with hok |
      ⟨before, first, after, r, rfl, hok, hfirst⟩
    · obtain ⟨b, hb⟩ := hok document hmem
      cases hfails.symm.trans hb
    · exact ⟨r, searchFrom_failing judge invert index hok hfirst⟩

/-- When it does not fail, errors might as well have been skipped, and none were. -/
theorem searchFrom_stopping_eq_ok {documents : List Document} {outcome : SearchOutcome}
    (h : searchFrom judge ⟨invert, false⟩ 0 documents = .ok outcome) :
    searchFrom judge ⟨invert, true⟩ 0 documents = .ok outcome ∧ outcome.skipped = [] := by
  rcases exists_first_failing judge documents with hok | ⟨before, first, after, r, rfl, hok, hfirst⟩
  · have hskipping := (searchFrom_stopping judge invert 0 hok).symm.trans h
    have houtcome := hskipping.symm.trans (searchFrom_skipping judge invert 0 documents)
    obtain rfl := Except.ok.inj houtcome
    exact ⟨hskipping, skipped_eq_nil hok⟩
  · cases (searchFrom_failing judge invert 0 hok hfirst).symm.trans h

end

/-- **A search accounts for every document exactly once.** The positions of matches, those of the
inverted search and those that are skipped are all the positions, each of them once and in order;
in which of the three a position is depends on what the filter answers about its document. A
search that does not skip errors ends with the first failure if there is one, and finds the same as
one that skips them if there is none. -/
theorem search_accounts (filter : Filter κ) (host : Host κ) (documents : List Document) :
    (∃ matched unmatched skipped,
      search filter host ⟨false, true⟩ documents = .ok ⟨matched, skipped⟩ ∧
      search filter host ⟨true, true⟩ documents = .ok ⟨unmatched, skipped⟩ ∧
      (matched ++ unmatched ++ skipped.map (·.1)).Perm (List.range documents.length) ∧
      (∀ i document, documents[i]? = some document →
        (i ∈ matched ↔ filter.matches? host document.value = .ok true) ∧
        (i ∈ unmatched ↔ filter.matches? host document.value = .ok false) ∧
        ∀ report, (i, report) ∈ skipped ↔ filter.matches? host document.value = .error report) ∧
      matched.Pairwise (· < ·) ∧ unmatched.Pairwise (· < ·) ∧
      (skipped.map (·.1)).Pairwise (· < ·)) ∧
    ∀ invert,
      (∀ report, search filter host ⟨invert, false⟩ documents = .error report ↔
        ∃ before document after, documents = before ++ document :: after ∧
          (∀ earlier ∈ before, ∃ b, filter.matches? host earlier.value = .ok b) ∧
          filter.matches? host document.value = .error report) ∧
      ((∃ report, search filter host ⟨invert, false⟩ documents = .error report) ↔
        ∃ document ∈ documents, ∃ report,
          filter.matches? host document.value = .error report) ∧
      ∀ outcome, search filter host ⟨invert, false⟩ documents = .ok outcome →
        search filter host ⟨invert, true⟩ documents = .ok outcome ∧ outcome.skipped = [] := by
  let judge := filter.matches? host
  refine ⟨⟨_, _, _, searchFrom_skipping judge false 0 documents,
    searchFrom_skipping judge true 0 documents, ?_, fun i document hfound => ?_, ?_, ?_, ?_⟩,
    fun invert => ⟨fun report => searchFrom_eq_error judge invert,
      exists_searchFrom_eq_error judge invert,
      fun outcome => searchFrom_stopping_eq_ok judge invert⟩⟩
  · rw [List.range_eq_range', ← positions_verdicts judge]
    exact perm_verdicts _
  · exact ⟨mem_reported judge hfound false, mem_reported judge hfound true,
      fun report => mem_skipped judge hfound⟩
  · exact pairwise_filterMap_verdicts judge documents fun v i h => by rw [reported?_eq_some.mp h]
  · exact pairwise_filterMap_verdicts judge documents fun v i h => by rw [reported?_eq_some.mp h]
  · rw [List.map_filterMap]
    refine pairwise_filterMap_verdicts judge documents fun v i h => ?_
    obtain ⟨entry, hentry, rfl⟩ := Option.map_eq_some_iff.mp h
    rw [skipped?_eq_some.mp hentry]

end DocFilter
