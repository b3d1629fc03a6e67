import DocFilter.Proofs.AliasTables

/-!
# Settings that are read

While a TOML document is read, its tables are lists of entries that grow, one inside the other:
headers open tables, dotted keys make them on their way, and inline tables are made apart and put in
as values. Nothing in such a list keeps a key from being there twice; the reader sees to it. Each of
its changes keeps the keys of all tables distinct (`Toml.Entries.Tidy.atPath`), and by induction on
the steps of the readers of values and on the lines,

> `Toml.tidy_of_read?`: no table of a document has a key twice.

The settings are sorted by their names. So the names are in strictly increasing order:

> `Config.increasing_of_read?` for saved filters and aliases, and `Config.proper_of_read?` for a table
> of aliases that has no name of the query language.
-/

namespace DocFilter

namespace Toml

/-- Whether the value is an array or a table. -/
def isContainer : Toml → Bool
  | array _ | table _ => true
  | _ => false

/-- No table in the value has a key twice. -/
inductive Tidy : Toml → Prop
  | scalar {v : Toml} : v.isContainer = false → Tidy v
  | array {items : List Toml} : (∀ item ∈ items, Tidy item) → Tidy (.array items)
  | table {entries : List (String × Toml)} :
    (entries.map (·.1)).Nodup → (∀ e ∈ entries, Tidy e.2) → Tidy (.table entries)

/-- No table in the entry has a key twice. -/
inductive Entry.Tidy : Entry → Prop
  | value {v : Toml} : v.Tidy → Tidy (.value v)
  | table {origin : Origin} {entries : Entries} :
    (entries.map (·.1)).Nodup → (∀ e ∈ entries, Tidy e.2) → Tidy (.table origin entries)
  | tables {rows : List Entries} :
    (∀ row ∈ rows, (row.map (·.1)).Nodup) → (∀ row ∈ rows, ∀ e ∈ row, Tidy e.2) →
      Tidy (.tables rows)

/-! ## Tables in the making -/

/-- No key is there twice, nor is one in a table below. -/
structure Entries.Tidy (entries : Entries) : Prop where
  keys : (entries.map (·.1)).Nodup
  below : ∀ e ∈ entries, e.2.Tidy

theorem Entry.tidy_table {origin : Origin} {entries : Entries} :
    (Entry.table origin entries).Tidy ↔ entries.Tidy :=
  ⟨fun h => by cases h with | table hkeys hbelow => exact ⟨hkeys, hbelow⟩,
    fun h => .table h.keys h.below⟩

theorem Entry.tidy_tables {rows : List Entries} :
    (Entry.tables rows).Tidy ↔ ∀ row ∈ rows, row.Tidy :=
  ⟨fun h row hrow => by
      cases h with | tables hkeys hbelow => exact ⟨hkeys row hrow, hbelow row hrow⟩,
    fun h => .tables (fun row hrow => (h row hrow).keys) fun row hrow => (h row hrow).below⟩

namespace Entries

theorem tidy_nil : Tidy [] := ⟨List.nodup_nil, List.forall_mem_nil _⟩

theorem eq_or_mem_of_mem_put {entries : Entries} {key : String} {entry : Entry}
    {e : String × Entry} (h : e ∈ put entries key entry) : e = (key, entry) ∨ e ∈ entries := by
  induction entries with
  | nil => exact .inl (List.mem_singleton.mp h)
  | cons first rest ih =>
    obtain ⟨k, old⟩ := first
    rw [put] at h
    split_ifs at h with hkey
    · subst hkey
      exact (List.mem_cons.mp h).imp_right (List.mem_cons_of_mem _)
    · rcases List.mem_cons.mp h with rfl | h
      · exact .inr List.mem_cons_self
      · exact (ih h).imp_right (List.mem_cons_of_mem _)

namespace Tidy

variable {entries entries' : Entries} (h : entries.Tidy)
include h

theorem get? {key : String} {entry : Entry} (hget : entries.get? key = some entry) : entry.Tidy := by
  obtain ⟨e, he, rfl⟩ := Option.map_eq_some_iff.mp hget
  exact h.below e (List.mem_of_find?_eq_some he)

theorem put (key : String) {entry : Entry} (hentry : entry.Tidy) :
    (entries.put key entry).Tidy := by
  refine ⟨?_, fun e he => ?_⟩
  · -- an entry behind the first has its key from before, or is the one that is put there
    obtain ⟨hkeys, -⟩ := h
    induction entries with
    | nil => exact List.nodup_singleton key
    | cons first rest ih =>
      obtain ⟨k, old⟩ := first
      obtain ⟨hk, hrest⟩ := List.nodup_cons.mp hkeys
      rw [Entries.put]
      split_ifs with hkey
      · exact List.nodup_cons.mpr ⟨hk, hrest⟩
      · refine List.nodup_cons.mpr ⟨fun hmem => ?_, ih hrest⟩
        obtain ⟨e, he, hname⟩ := List.mem_map.mp hmem
        rcases eq_or_mem_of_mem_put he with rfl | he
        · exact hkey hname.symm
        · exact hk (List.mem_map.mpr ⟨e, he, hname⟩)
  · rcases eq_or_mem_of_mem_put he with rfl | he
    · exact hentry
    · exact h.below e he

theorem table_of_get? {key : String} {origin : Origin} {inner : Entries}
    (hget : entries.get? key = some (.table origin inner)) : inner.Tidy :=
  Entry.tidy_table.mp (h.get? hget)

theorem tables_of_get? {key : String} {rows : List Entries}
    (hget : entries.get? key = some (.tables rows)) : ∀ row ∈ rows, row.Tidy :=
  Entry.tidy_tables.mp (h.get? hget)

theorem putTable (key : String) (origin : Origin) {inner : Entries} (hinner : inner.Tidy) :
    (entries.put key (.table origin inner)).Tidy :=
  h.put key (Entry.tidy_table.mpr hinner)

theorem putTables (key : String) {rows : List Entries} (hrows : ∀ row ∈ rows, row.Tidy) :
    (entries.put key (.tables rows)).Tidy :=
  h.put key (Entry.tidy_tables.mpr hrows)

/-- A change of a table that keeps its keys distinct can be made anywhere in a document. -/
theorem atPath {change : Entries → Option Entries}
    (hchange : ∀ {es es' : Entries}, es.Tidy → change es = some es' → es'.Tidy)
    {path : List String} (hat : Entries.atPath change path entries = some entries') :
    entries'.Tidy := by
  induction path generalizing entries entries' with
  | nil => exact hchange h hat
  | cons key path ih =>
    rw [Entries.atPath] at hat
    split at hat
    · obtain ⟨inner, hinner, rfl⟩ := Option.map_eq_some_iff.mp hat
      exact h.putTable key _ (ih tidy_nil hinner)
    · cases hat
    · next hget =>
      obtain ⟨inner, hinner, rfl⟩ := Option.map_eq_some_iff.mp hat
      exact h.putTable key _ (ih (h.table_of_get? hget) hinner)
    · next hget =>
      obtain ⟨row, hrow, rfl⟩ := Option.map_eq_some_iff.mp hat
      obtain ⟨hlast, hrows⟩ := List.forall_mem_cons.mp (h.tables_of_get? hget)
      exact h.putTables key (List.forall_mem_cons.mpr ⟨ih hlast hrow, hrows⟩)
    · cases hat

theorem openTable {key : String} (hopen : Entries.openTable key entries = some entries') :
    entries'.Tidy := by
  unfold Entries.openTable at hopen
  split at hopen
  · cases hopen
    exact h.putTable key _ tidy_nil
  · next hget =>
    cases hopen
    exact h.putTable key _ (h.table_of_get? hget)
  · cases hopen

theorem openRow {key : String} (hopen : Entries.openRow key entries = some entries') :
    entries'.Tidy := by
  unfold Entries.openRow at hopen
  split at hopen
  · cases hopen
    exact h.putTables key (List.forall_mem_singleton.mpr tidy_nil)
  · next hget =>
    cases hopen
    exact h.putTables key (List.forall_mem_cons.mpr ⟨tidy_nil, h.tables_of_get? hget⟩)
  · cases hopen

theorem addDotted {v : Toml} (hv : v.Tidy) {path : List String} {last : String}
    (hadd : Entries.addDotted v path last entries = some entries') : entries'.Tidy := by
  induction path generalizing entries entries' with
  | nil =>
    rw [Entries.addDotted, addNew] at hadd
    split at hadd
    · cases hadd
      exact h.put last (.value hv)
    · cases hadd
  | cons key path ih =>
    rw [Entries.addDotted] at hadd
    split at hadd
    · obtain ⟨inner, hinner, rfl⟩ := Option.map_eq_some_iff.mp hadd
      exact h.putTable key _ (ih tidy_nil hinner)
    · next hget =>
      obtain ⟨inner, hinner, rfl⟩ := Option.map_eq_some_iff.mp hadd
      exact h.putTable key _ (ih (h.table_of_get? hget) hinner)
    · next hget =>
      split_ifs at hadd
      obtain ⟨inner, hinner, rfl⟩ := Option.map_eq_some_iff.mp hadd
      exact h.putTable key _ (ih (h.table_of_get? hget) hinner)
    · next hget =>
      split_ifs at hadd
      obtain ⟨row, hrow, rfl⟩ := Option.map_eq_some_iff.mp hadd
      obtain ⟨hlast, hrows⟩ := List.forall_mem_cons.mp (h.tables_of_get? hget)
      exact h.putTables key (List.forall_mem_cons.mpr ⟨ih hlast hrow, hrows⟩)
    · cases hadd

end Tidy

end Entries

/-! ## Finished tables -/

theorem valuesOf_eq_map (entries : Entries) :
    valuesOf entries = entries.map fun e => (e.1, e.2.toValue) := by
  induction entries with
  | nil => rfl
  | cons e entries ih => rw [valuesOf, ih, List.map_cons]

theorem tablesOf_eq_map (rows : List Entries) :
    tablesOf rows = rows.map fun row => .table (valuesOf row) := by
  induction rows with
  | nil => rfl
  | cons row rows ih => rw [tablesOf, ih, List.map_cons]

theorem keys_valuesOf (entries : Entries) :
    (valuesOf entries).map (·.1) = entries.map (·.1) := by
  rw [valuesOf_eq_map, List.map_map]
  rfl

theorem Entry.Tidy.toValue {entry : Entry} (h : entry.Tidy) : entry.toValue.Tidy := by
  have htable {entries : Entries} (hkeys : (entries.map (·.1)).Nodup)
      (hbelow : ∀ e ∈ entries, e.2.toValue.Tidy) : (Toml.table (valuesOf entries)).Tidy := by
    refine .table (by rwa [keys_valuesOf]) ?_
    rw [valuesOf_eq_map]
    exact List.forall_mem_map.mpr hbelow
  induction h with
  | value hv => exact hv
  | table hkeys _ ih => exact htable hkeys ih
  | tables hkeys _ ih =>
    refine .array fun item hitem => ?_
    rw [List.mem_reverse, tablesOf_eq_map] at hitem
    obtain ⟨row, hrow, rfl⟩ := List.mem_map.mp hitem
    exact htable (hkeys row hrow) (ih row hrow)

theorem Entries.Tidy.toValue {entries : Entries} (h : entries.Tidy) :
    (Toml.table (valuesOf entries)).Tidy :=
  have htable : (Entry.table .header entries).Tidy := Entry.tidy_table.mpr h
  htable.toValue

/-! ## Reading values -/

theorem isContainer_of_integer? {value : Int} {v : Toml} (h : integer? value = some v) :
    v.isContainer = false := by
  unfold integer? at h
  split_ifs at h
  cases h
  rfl

theorem isContainer_of_takeBased {base : Nat} {isDigit : Char → Bool} {cs : List Char} {v : Toml}
    {rest : List Char} (h : takeBased base isDigit cs = some (v, rest)) : v.isContainer = false := by
  unfold takeBased at h
  simp only [Option.bind_eq_bind, Option.bind_eq_some_iff] at h
  obtain ⟨⟨digits, _⟩, -, number, hnumber, h⟩ := h
  cases h
  exact isContainer_of_integer? hnumber

theorem isContainer_of_takeUnsigned {negative : Bool} {cs : List Char} {v : Toml}
    {rest : List Char} (h : takeUnsigned negative cs = some (v, rest)) : v.isContainer = false := by
  unfold takeUnsigned at h
  split at h
  · cases h
    rfl
  · cases h
    rfl
  · simp only [Option.bind_eq_bind, Option.bind_eq_some_iff] at h
    obtain ⟨⟨whole, _⟩, -, h⟩ := h
    split at h
    · cases h
    · obtain ⟨⟨fraction, _⟩, -, h⟩ := Option.bind_eq_some_iff.mp h
      obtain ⟨⟨exponent, _⟩, -, h⟩ := Option.bind_eq_some_iff.mp h
      dsimp only at h
      split at h
      · obtain ⟨number, hnumber, h⟩ := Option.bind_eq_some_iff.mp h
        cases h
        exact isContainer_of_integer? hnumber
      · split at h
        · cases h
        · cases h
          rfl

theorem isContainer_of_takeNumber {cs : List Char} {v : Toml} {rest : List Char}
    (h : takeNumber cs = some (v, rest)) : v.isContainer = false := by
  unfold takeNumber at h
  split at h
  · cases h
    rfl
  · split at h
    · exact isContainer_of_takeUnsigned h
    · exact isContainer_of_takeUnsigned h
    · exact isContainer_of_takeBased h
    · exact isContainer_of_takeBased h
    · exact isContainer_of_takeBased h
    · exact isContainer_of_takeUnsigned h

/-- What is read in so many steps has no key twice. Pairs are added to entries. -/
structure Reads (fuel : Nat) : Prop where
  value : ∀ {room cs v rest}, readValue fuel room cs = some (v, rest) → v.Tidy
  items : ∀ {room cs items rest}, readItems fuel room cs = some (items, rest) →
    ∀ item ∈ items, item.Tidy
  pairs : ∀ {room entries cs all rest}, Entries.Tidy entries →
    readPairs fuel room entries cs = some (all, rest) → all.Tidy

section
variable {fuel : Nat} (ih : Reads fuel)
include ih

theorem readItems_tidy {room : Nat} {cs : List Char} {items : List Toml} {rest : List Char}
    (h : readItems (fuel + 1) room cs = some (items, rest)) : ∀ item ∈ items, item.Tidy := by
  unfold readItems at h
  split at h
  · cases h
    exact List.forall_mem_nil _
  · simp only [Option.bind_eq_bind, Option.bind_eq_some_iff] at h
    obtain ⟨⟨item, _⟩, hitem, h⟩ := h
    split at h
    · simp only [Option.bind_eq_some_iff] at h
      obtain ⟨⟨others, _⟩, hothers, h⟩ := h
      cases h
      exact List.forall_mem_cons.mpr ⟨ih.value hitem, ih.items hothers⟩
    · cases h
      exact List.forall_mem_singleton.mpr (ih.value hitem)
    · cases h

theorem readPairs_tidy {room : Nat} {entries : Entries} {cs : List Char} {all : Entries}
    {rest : List Char} (hentries : entries.Tidy)
    (h : readPairs (fuel + 1) room entries cs = some (all, rest)) : all.Tidy := by
  rw [readPairs] at h
  simp only [Option.bind_eq_bind, Option.bind_eq_some_iff] at h
  obtain ⟨⟨key, _⟩, -, h⟩ := h
  split at h
  · simp only [Option.bind_eq_some_iff] at h
    obtain ⟨⟨v, _⟩, hv, added, hadded, h⟩ := h
    have htidy : Entries.Tidy added := by
      unfold addInline at hadded
      split at hadded
      · exact hentries.addDotted (ih.value hv) hadded
      · cases hadded
    split at h
    · exact ih.pairs htidy h
    · cases h
      exact htidy
    · cases h
  · cases h

theorem readValue_tidy {room : Nat} {cs : List Char} {v : Toml} {rest : List Char}
    (h : readValue (fuel + 1) room cs = some (v, rest)) : v.Tidy := by
  unfold readValue at h
  split at h
  iterate 4
    obtain ⟨_, -, heq⟩ := Option.map_eq_some_iff.mp h
    cases heq
    exact .scalar rfl
  · cases h
    exact .scalar rfl
  · cases h
    exact .scalar rfl
  · split at h
    · cases h
    · obtain ⟨⟨items, _⟩, hitems, heq⟩ := Option.map_eq_some_iff.mp h
      cases heq
      exact .array (ih.items hitems)
  · split at h
    · cases h
    · split at h
      · cases h
        exact .table List.nodup_nil (List.forall_mem_nil _)
      · -- an inline table is made from nothing, and finished before it is put in
        obtain ⟨⟨entries, _⟩, hentries, heq⟩ := Option.map_eq_some_iff.mp h
        cases heq
        exact (ih.pairs Entries.tidy_nil hentries).toValue
  · exact .scalar (isContainer_of_takeNumber h)

end

theorem reads (fuel : Nat) : Reads fuel := by
  induction fuel with
  | zero =>
    refine ⟨fun h => ?_, fun h => ?_, fun _ h => ?_⟩
    · rw [readValue] at h; cases h
    · rw [readItems] at h; cases h
    · rw [readPairs] at h; cases h
  | succ fuel ih => exact ⟨readValue_tidy ih, readItems_tidy ih, readPairs_tidy ih⟩

/-! ## Reading documents -/

theorem tidy_of_readHeader {draft draft' : Draft} (h : draft.entries.Tidy) {cs rest : List Char}
    (hread : readHeader draft cs = some (draft', rest)) : draft'.entries.Tidy := by
  unfold readHeader at hread
  simp only [Option.bind_eq_bind, Option.bind_eq_some_iff] at hread
  obtain ⟨⟨key, _⟩, -, last, -, _, -, entries, hentries, hread⟩ := hread
  cases hread
  refine h.atPath ?_ hentries
  intro es es' hes hchange
  split_ifs at hchange
  · exact hes.openRow hchange
  · exact hes.openTable hchange

theorem tidy_of_readPair {draft draft' : Draft} (h : draft.entries.Tidy) {cs rest : List Char}
    (hread : readPair draft cs = some (draft', rest)) : draft'.entries.Tidy := by
  unfold readPair at hread
  simp only [Option.bind_eq_bind, Option.bind_eq_some_iff] at hread
  obtain ⟨⟨key, _⟩, -, last, -, hread⟩ := hread
  split at hread
  · simp only [Option.bind_eq_some_iff] at hread
    obtain ⟨⟨v, _⟩, hv, entries, hentries, hread⟩ := hread
    cases hread
    exact h.atPath (fun hes hadd => hes.addDotted ((reads _).value hv) hadd) hentries
  · cases hread

theorem tidy_of_readLines {fuel : Nat} {draft : Draft} (h : draft.entries.Tidy) {cs : List Char}
    {entries : Entries} (hread : readLines fuel draft cs = some entries) : entries.Tidy := by
  induction fuel generalizing draft cs with
  | zero => cases hread
  | succ fuel ih =>
    unfold readLines at hread
    split at hread
    · cases hread
      exact h
    · simp only [Option.bind_eq_bind, Option.bind_eq_some_iff] at hread
      obtain ⟨⟨next, _⟩, hheader, _, -, hread⟩ := hread
      exact ih (tidy_of_readHeader h hheader) hread
    · split at hread
      · exact ih h hread
      · simp only [Option.bind_eq_bind, Option.bind_eq_some_iff] at hread
        obtain ⟨⟨next, _⟩, hpair, _, -, hread⟩ := hread
        exact ih (tidy_of_readPair h hpair) hread

/-- **No table of a document has a key twice**, nor has the document itself. -/
theorem tidy_of_read? {text : String} {entries : List (String × Toml)}
    (h : Toml.read? text = some entries) : (Toml.table entries).Tidy := by
  obtain ⟨made, hmade, rfl⟩ := Option.map_eq_some_iff.mp h
  exact (tidy_of_readLines Entries.tidy_nil hmade).toValue

end Toml

/-! ## Settings -/

namespace Config

theorem keys_textsOf {entries : List (String × Toml)} {texts : List (String × String)}
    (h : textsOf entries = some texts) : texts.map (·.1) = entries.map (·.1) := by
  induction entries generalizing texts with
  | nil =>
    cases h
    rfl
  | cons e entries ih =>
    obtain ⟨key, v⟩ := e
    cases v with
    | string text =>
      rw [textsOf] at h
      simp only [Option.bind_eq_bind, Option.bind_eq_some_iff] at h
      obtain ⟨others, hothers, h⟩ := h
      cases h
      rw [List.map_cons, List.map_cons, ih hothers]
    | _ => cases h

/-- A table of texts that is read is in strictly increasing order. -/
theorem increasing_of_texts? {v : Option Toml} (hv : ∀ t ∈ v, t.Tidy)
    {texts : List (String × String)} (h : texts? v = some texts) :
    texts.Pairwise fun a b => a.1 < b.1 := by
  unfold texts? at h
  split at h
  · cases h
    exact .nil
  · next entries =>
    obtain ⟨found, hfound, rfl⟩ := Option.map_eq_some_iff.mp h
    have hkeys : (found.map (·.1)).Nodup := by
      rw [keys_textsOf hfound]
      cases hv _ rfl with
      | scalar hcontainer => cases hcontainer
      | table hkeys _ => exact hkeys
    have hsorted : (found.mergeSort fun a b => a.1 ≤ b.1).Pairwise
        fun a b => decide (a.1 ≤ b.1) = true := by
      refine List.pairwise_mergeSort (fun a b c hab hbc => ?_) (fun a b => ?_) found
      · exact decide_eq_true (le_trans (of_decide_eq_true hab) (of_decide_eq_true hbc))
      · rw [Bool.or_eq_true, decide_eq_true_eq, decide_eq_true_eq]
        exact le_total a.1 b.1
    have hdistinct : (found.mergeSort fun a b => a.1 ≤ b.1).Pairwise fun a b => a.1 ≠ b.1 := by
      have hperm := (List.mergeSort_perm found fun a b => a.1 ≤ b.1).map (·.1)
      exact List.pairwise_map.mp (hperm.nodup_iff.mpr hkeys)
    exact (hsorted.and hdistinct).imp fun ⟨hle, hne⟩ => lt_of_le_of_ne (of_decide_eq_true hle) hne
  · cases h

theorem tidy_of_field? {entries : List (String × Toml)} (h : (Toml.table entries).Tidy)
    {key : String} {v : Toml} (hv : field? entries key = some v) : v.Tidy := by
  obtain ⟨e, he, rfl⟩ := Option.map_eq_some_iff.mp hv
  cases h with
  | scalar hcontainer => cases hcontainer
  | table _ hbelow => exact hbelow e (List.mem_of_find?_eq_some he)

/-- **The names of saved filters and aliases are in strictly increasing order.** -/
theorem increasing_of_read? {text : String} {c : Config} (h : Config.read? text = some c) :
    (c.filters.Pairwise fun a b => a.1 < b.1) ∧ c.aliases.Pairwise fun a b => a.1 < b.1 := by
  obtain ⟨entries, hentries, h⟩ := Option.bind_eq_some_iff.mp h
  have htidy := Toml.tidy_of_read? hentries
  unfold ofEntries? at h
  simp only [Option.bind_eq_bind, Option.bind_eq_some_iff] at h
  obtain ⟨filters, hfilters, aliases, haliases, _, -, h⟩ := h
  cases h
  exact ⟨increasing_of_texts? (fun t ht => tidy_of_field? htidy ht) hfilters,
    increasing_of_texts? (fun t ht => tidy_of_field? htidy ht) haliases⟩

/-- So a table of aliases that is read only has to leave the names of the query language alone. -/
theorem proper_of_read? {text : String} {c : Config} (h : Config.read? text = some c)
    (hfresh : ∀ a ∈ c.aliases, ∀ operation : Builtin, a.1 ≠ operation.name) : Proper c.aliases :=
  ⟨(increasing_of_read? h).2, hfresh⟩

end Config

end DocFilter
