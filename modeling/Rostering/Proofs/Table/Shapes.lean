import Rostering.Proofs.Config.Fields
import Rostering.Table

/-!
# Tables from data of any shape

Data of a table come as rows in the order of a schema, as records that name their fields, or as
columns by name. What has the same cells gives the same table in all three shapes, with the columns
of the schema in order and each column of one type (`Table.ofData_shapes`). A list makes a table
exactly if it is empty or all of its items are records with all fields or all of them are rows of
the right length.

## The architecture

* **`Table.typedColumn_cases`**, **`Table.typedColumn_typedColumn`** — the ways to give a column a
  type, after which it has one.
* **`Table.columnAt_ofRows`** — every column of a table that was laid out as rows is the typed
  column of the data.
* **`Table.IsRowOf`**, **`Table.IsRecordOf`**, **`Table.columnsOf`** — the cells of a row in each of
  the shapes.
* **`Table.ofItems_rows`**, **`Table.ofItems_records`**, **`Table.ofColumns_columnsOf`** — each
  shape comes down to laying out rows.
* **`Table.ofItems_succeeds_iff`** — and no other list does.
-/

namespace Rostering.Table

variable {schema : List String} {t : Table}

/-! ## Columns of one type -/

theorem length_typedColumn (cells : List Value) :
    (typedColumn cells).length = cells.length := by
  unfold typedColumn
  simp only
  split_ifs <;> simp only [List.length_map]

/-- The ways in which a column can be given a type: that of floats, of texts, or of moments, where
they are more than gaps. -/
theorem typedColumn_cases (cells : List Value) :
    typedColumn cells = cells
      ∨ ((∀ v ∈ cells, CellSort.of v ∈ [CellSort.null, .nan, .whole, .fraction])
        ∧ typedColumn cells = cells.map floatCell)
      ∨ ((∀ v ∈ cells, CellSort.of v ∈ [CellSort.null, .nan, .text])
        ∧ typedColumn cells = cells.map textCell)
      ∨ ((∀ v ∈ cells, CellSort.of v ∈ [CellSort.null, .nan, .noMoment, .moment])
        ∧ (∃ v ∈ cells, CellSort.of v ∉ [CellSort.null, .nan, .whole, .fraction])
        ∧ typedColumn cells = cells.map momentCell) := by
  -- the tests on all cells, one for each type
  have honly : ∀ allowed : List CellSort, (cells.map CellSort.of).all allowed.contains = true ↔
      ∀ v ∈ cells, CellSort.of v ∈ allowed := by
    intro allowed
    rw [List.all_map, List.all_eq_true]
    exact forall₂_congr fun v _ => List.contains_iff_mem
  unfold typedColumn
  simp only
  split
  · exact Or.inl rfl
  · split
    · next hfloats =>
        split
        · exact Or.inr (Or.inl ⟨(honly _).mp hfloats, rfl⟩)
        · exact Or.inl rfl
    · next hother =>
        split
        · next htexts => exact Or.inr (Or.inr (Or.inl ⟨(honly _).mp htexts, rfl⟩))
        · split
          · next hmoments =>
              split
              · rw [honly] at hother hmoments
                push Not at hother
                exact Or.inr (Or.inr (Or.inr ⟨hmoments, hother, rfl⟩))
              · exact Or.inl rfl
          · exact Or.inl rfl

/-- Cells that have a type already keep it. -/
theorem typedColumn_fixed {cells : List Value}
    (hcells : ∀ v ∈ cells, floatCell v = v ∧ textCell v = v)
    (hmoments : (∀ v ∈ cells, momentCell v = v)
      ∨ ∀ v ∈ cells, CellSort.of v ∉ [CellSort.noMoment, .moment]) :
    typedColumn cells = cells := by
  have hmap : ∀ {f : Value → Value}, (∀ v ∈ cells, f v = v) → cells.map f = cells := fun h =>
    (List.map_congr_left h).trans (List.map_id cells)
  -- the first three leave cells that have the type; moments are only made where there are moments
  rcases typedColumn_cases cells with h | ⟨-, h⟩ | ⟨-, h⟩ | ⟨hsorts, ⟨v, hv, hother⟩, h⟩
  · exact h
  · exact h.trans (hmap fun v hv => (hcells v hv).1)
  · exact h.trans (hmap fun v hv => (hcells v hv).2)
  · rcases hmoments with hmoments | hnone
    · exact h.trans (hmap hmoments)
    · have hsort := hsorts v hv
      have hnone := hnone v hv
      simp only [List.mem_cons, List.not_mem_nil, or_false, not_or] at hsort hother hnone
      tauto

theorem floatCell_eq_float {v : Value}
    (hv : CellSort.of v ∈ [CellSort.null, .nan, .whole, .fraction]) :
    ∃ x, floatCell v = .float x := by
  cases v with
  | null | int _ | float _ => exact ⟨_, rfl⟩
  | day d => cases d <;> simp [CellSort.of] at hv
  | _ => simp [CellSort.of] at hv

theorem textCell_eq {v : Value} (hv : CellSort.of v ∈ [CellSort.null, .nan, .text]) :
    (∃ x, textCell v = .float x) ∨ ∃ s, textCell v = .str s := by
  cases v with
  | null | float _ => exact Or.inl ⟨_, rfl⟩
  | str s => exact Or.inr ⟨s, rfl⟩
  | day d => cases d <;> simp [CellSort.of] at hv
  | _ => simp [CellSort.of] at hv

theorem momentCell_eq (v : Value) : momentCell v = .noMoment ∨ ∃ d, momentCell v = .day d := by
  cases v with
  | day d => exact Or.inr ⟨d, rfl⟩
  | _ => exact Or.inl rfl

theorem sort_float (x : Float) : CellSort.of (.float x) ∉ [CellSort.noMoment, .moment] := by
  simp only [CellSort.of]
  split <;> decide

/-- Typing a column once is enough. Whatever type the cells were given, they have it already when
they are typed again. -/
theorem typedColumn_typedColumn (cells : List Value) :
    typedColumn (typedColumn cells) = typedColumn cells := by
  rcases typedColumn_cases cells with h | ⟨hsorts, h⟩ | ⟨hsorts, h⟩ | ⟨-, -, h⟩
  · rw [h, h]
  · -- floats
    rw [h]
    refine typedColumn_fixed (List.forall_mem_map.mpr fun v hv => ?_)
      (Or.inr (List.forall_mem_map.mpr fun v hv => ?_))
    · obtain ⟨x, hx⟩ := floatCell_eq_float (hsorts v hv)
      rw [hx]
      exact ⟨rfl, rfl⟩
    · obtain ⟨x, hx⟩ := floatCell_eq_float (hsorts v hv)
      exact hx ▸ sort_float x
  · -- texts, and floats for gaps
    rw [h]
    refine typedColumn_fixed (List.forall_mem_map.mpr fun v hv => ?_)
      (Or.inr (List.forall_mem_map.mpr fun v hv => ?_))
    · rcases textCell_eq (hsorts v hv) with ⟨x, hx⟩ | ⟨s, hs⟩
      · rw [hx]
        exact ⟨rfl, rfl⟩
      · rw [hs]
        exact ⟨rfl, rfl⟩
    · rcases textCell_eq (hsorts v hv) with ⟨x, hx⟩ | ⟨s, hs⟩
      · exact hx ▸ sort_float x
      · rw [hs]
        simp [CellSort.of]
  · -- moments
    rw [h]
    refine typedColumn_fixed (List.forall_mem_map.mpr fun v _ => ?_)
      (Or.inl (List.forall_mem_map.mpr fun v _ => ?_))
    · rcases momentCell_eq v with hv | ⟨d, hv⟩ <;> rw [hv] <;> exact ⟨rfl, rfl⟩
    · rcases momentCell_eq v with hv | ⟨d, hv⟩ <;> rw [hv] <;> rfl

/-- Names of columns that are texts stay as they are when they are typed. -/
theorem typedColumn_texts (schema : List String) :
    typedColumn (schema.map .str) = schema.map .str := by
  refine typedColumn_fixed ?_ (Or.inr ?_)
  · exact List.forall_mem_map.mpr fun _ _ => ⟨rfl, rfl⟩
  · exact List.forall_mem_map.mpr fun _ _ => by simp [CellSort.of]

/-! ## Tables of rows -/

theorem columns_ofRows (schema : List String) (rows : List (List Value)) :
    (ofRows (schema.map .str) rows).columns = schema.map .str :=
  typedColumn_texts schema

theorem length_rows_ofRows (columns : List Value) (rows : List (List Value)) :
    (ofRows columns rows).rows.length = rows.length := by
  simp [ofRows, ofTyped, rowsOfColumns]

/-- Columns can be taken out of the rows again. -/
theorem columnAt_rowsOfColumns {height i : Nat} {columns : List (List Value)} {column : List Value}
    (hi : columns[i]? = some column) (hheight : column.length = height) :
    columnAt i (rowsOfColumns height columns) = column := by
  subst hheight
  refine List.ext_getElem (by simp [columnAt, rowsOfColumns]) fun j _ hj => ?_
  simp [columnAt, rowsOfColumns, cellAt, hi, hj]

theorem columnAt_ofRows {columns : List Value} {i : Nat} (hi : i < columns.length)
    (rows : List (List Value)) :
    columnAt i (ofRows columns rows).rows = typedColumn (columnAt i rows) := by
  refine columnAt_rowsOfColumns ?_ ?_
  · simp [hi]
  · rw [length_typedColumn, columnAt, List.length_map]

/-! ## Rows and records -/

/-- An item is a row with the cells. -/
def IsRowOf (cells : List Value) (item : Value) : Prop := item = .list cells ∨ item = .tuple cells

/-- An item is a record with the cells under the names of the schema, and may have more fields. -/
def IsRecordOf (schema : List String) (cells : List Value) (item : Value) : Prop :=
  ∃ es : Entries, item = .map es ∧ schema.map es.field? = cells.map some

/-- Lists and tuples of a length. -/
def IsRow (length : Nat) (item : Value) : Prop :=
  ∃ cells, IsRowOf cells item ∧ cells.length = length

/-- Mappings that have all fields of a schema. -/
def IsRecord (schema : List String) (item : Value) : Prop :=
  ∃ es : Entries, item = .map es ∧ ∀ c ∈ schema, (es.field? c).isSome

/-- The cells of rows as columns by name. -/
def columnsOf (schema : List String) (rows : List (List Value)) : List (String × Value) :=
  schema.zip ((List.range schema.length).map fun i => .list (columnAt i rows))

theorem row?_eq_some {item : Value} {cells : List Value} :
    row? item = some cells ↔ IsRowOf cells item := by
  unfold IsRowOf
  cases item <;> simp [row?]

theorem entries?_eq_some {item : Value} {es : Entries} :
    entries? item = some es ↔ item = .map es := by
  cases item <;> simp [entries?]

/-- All items are records exactly if they are the records that are found. Induction on the items. -/
theorem mapM_entries?_eq_some {items : List Value} {records : List Entries} :
    items.mapM entries? = some records ↔ items = records.map .map := by
  induction items generalizing records with
  | nil => simp [eq_comm]
  | cons item items ih =>
      simp only [List.mapM_cons, Option.bind_eq_bind, Option.bind_eq_some_iff, Option.pure_def,
        Option.some.injEq, entries?_eq_some, ih]
      constructor
      · rintro ⟨es, rfl, rest, rfl, rfl⟩
        rfl
      · intro h
        cases records with
        | nil => cases h
        | cons es records =>
            rw [List.map_cons, List.cons_eq_cons] at h
            exact ⟨es, h.1, records, h.2, rfl⟩

/-- An item passes for a row if it is a list or tuple of the right length. -/
theorem checkedRow_eq_ok {position : Nat} {item : Value} {cells : List Value} :
    checkedRow schema position item = .ok cells
      ↔ IsRowOf cells item ∧ cells.length = schema.length := by
  unfold checkedRow
  rw [← row?_eq_some]
  cases hrow : row? item with
  | none => simp [throw_ne_ok]
  | some found =>
      simp only
      split
      · next hlength =>
          rw [pure_eq_ok]
          constructor
          · rintro rfl
            exact ⟨rfl, hlength⟩
          · exact fun h => Option.some.inj h.1
      · next hlength =>
          constructor
          · exact fun h => absurd h throw_ne_ok
          · rintro ⟨h, hcells⟩
            exact absurd (Option.some.inj h ▸ hcells) hlength

/-- Checking rows gives their cells. Induction on the rows, for any position. -/
theorem checkedRows_eq_ok {position : Nat} {items : List Value} {rows : List (List Value)} :
    checkedRows schema position items = .ok rows ↔
      List.Forall₂ (fun item cells => IsRowOf cells item ∧ cells.length = schema.length)
        items rows := by
  induction items generalizing position rows with
  | nil =>
      rw [checkedRows, pure_eq_ok, List.forall₂_nil_left_iff]
      exact eq_comm
  | cons item items ih =>
      simp only [checkedRows, bind_eq_ok, pure_eq_ok, checkedRow_eq_ok, ih,
        List.forall₂_cons_left_iff]
      constructor
      · rintro ⟨cells, hcells, rest, hrest, rfl⟩
        exact ⟨cells, rest, hcells, hrest, rfl⟩
      · rintro ⟨cells, rest, hcells, hrest, rfl⟩
        exact ⟨cells, hcells, rest, hrest, rfl⟩

/-- No field is missing exactly if every record has all of them. -/
theorem missingFields_isEmpty {records : List Entries} :
    (missingFields schema records).isEmpty = true
      ↔ ∀ es ∈ records, ∀ c ∈ schema, (es.field? c).isSome := by
  unfold missingFields sortedTexts
  rw [List.isEmpty_iff, ← List.length_eq_zero_iff, List.length_mergeSort, List.length_eq_zero_iff,
    List.eq_nil_iff_forall_not_mem]
  simp only [List.mem_eraseDups, List.mem_filter, List.any_eq_true, not_and, not_exists,
    Option.isNone_iff_eq_none, ← ne_eq, Option.isSome_iff_ne_none]
  exact ⟨fun h es hes c hc => h c hc es hes, fun h c hc es hes => h es hes c hc⟩

/-! ## Each shape as rows -/

/-- Rows and records are laid out under the columns of the schema, in order. -/
theorem columns_of_ofItems {items : List Value} (ht : ofItems schema items = .ok t) :
    t.columns = schema.map .str := by
  unfold ofItems at ht
  simp only at ht
  split at ht
  · -- records
    split at ht
    · exact absurd ht throw_ne_ok
    · have hrows := pure_eq_ok.mp ht
      rw [← hrows, columns_ofRows]
  · -- rows
    obtain ⟨rows, -, ht⟩ := bind_eq_ok.mp ht
    rw [pure_eq_ok] at ht
    rw [← ht, columns_ofRows]

/-- A list of items without a record among them is taken as rows. -/
theorem ofItems_rows {items : List Value} (rows : List (List Value)) (hitems : items ≠ [])
    (hrows : List.Forall₂ (fun item cells => IsRowOf cells item ∧ cells.length = schema.length)
      items rows) :
    ofItems schema items = .ok (ofRows (schema.map .str) rows) := by
  -- if all items were records, the first one would be
  have hnone : items.mapM entries? = none := by
    rw [Option.eq_none_iff_forall_not_mem]
    intro records hrecords
    obtain rfl := mapM_entries?_eq_some.mp hrecords
    cases records with
    | nil => exact hitems rfl
    | cons es records =>
        obtain ⟨cells, rest, ⟨hrow, -⟩, -, -⟩ := List.forall₂_cons_left_iff.mp hrows
        rcases hrow with h | h <;> cases h
  unfold ofItems
  simp only [hnone]
  exact bind_eq_ok.mpr ⟨rows, checkedRows_eq_ok.mpr hrows, rfl⟩

theorem ofItems_records {records : List Entries}
    (hrecords : ∀ es ∈ records, ∀ c ∈ schema, (es.field? c).isSome) :
    ofItems schema (records.map .map) = .ok (ofRows (schema.map .str)
      (if schema.isEmpty then [] else records.map fun es => schema.map es.field)) := by
  unfold ofItems
  simp only [mapM_entries?_eq_some.mpr rfl, missingFields_isEmpty.mpr hrecords]
  rfl

/-- Columns that are given cell by cell, and are equally long, only have to be typed. -/
theorem ofColumns_cells {es : Entries} {cells : List (List Value)} {height : Nat} (hes : es ≠ [])
    (hcells : es.map (fun e => ColumnData.of e.2) = cells.map .cells)
    (hheight : ∀ column ∈ cells, column.length = height) :
    ofColumns es = .ok (ofTyped (es.map Prod.fst) height (cells.map typedColumn)) := by
  cases cells with
  | nil => exact absurd (List.map_eq_nil_iff.mp hcells) hes
  | cons first rest =>
      have hfirst : first.length = height := hheight first List.mem_cons_self
      -- the code compares all heights with the first one
      have hrest : (rest.map List.length).all (· == first.length) = true := by
        rw [List.all_map, List.all_eq_true]
        intro column hcolumn
        rw [Function.comp_apply, beq_iff_eq, hfirst]
        exact hheight column (List.mem_cons_of_mem _ hcolumn)
      unfold ofColumns
      simp only [List.isEmpty_eq_false_iff.mpr hes, hcells]
      simp only [Bool.false_eq_true, if_false]
      split
      · next hlengths _ => simp at hlengths
      · next hlengths _ => simp at hlengths
      · next hnamed => simp [Function.comp_def] at hnamed
      · next n ns hlengths hnamed =>
          simp only [List.map_cons, List.filterMap_cons, List.filterMap_map, Function.comp_def,
            List.filterMap_eq_map', List.cons_eq_cons] at hlengths
          obtain ⟨rfl, rfl⟩ := hlengths
          rw [if_pos hrest, pure_bind, hfirst, List.map_map]
          rfl

/-- Columns by name are laid out as the rows that they were made of. Every column is typed by itself
in both shapes, so nothing depends on how the cells came in. -/
theorem ofColumns_columnsOf (hschema : schema ≠ []) (rows : List (List Value)) :
    ofColumns (Entries.ofFields (columnsOf schema rows))
      = .ok (ofRows (schema.map .str) rows) := by
  have hlength : schema.length
      = ((List.range schema.length).map fun i => Value.list (columnAt i rows)).length := by
    rw [List.length_map, List.length_range]
  -- the names and the cells are those of the zipped list, taken apart again
  have hnames : (Entries.ofFields (columnsOf schema rows)).map Prod.fst = schema.map .str := by
    have hfst := List.map_fst_zip hlength.le
    unfold Entries.ofFields columnsOf
    rw [List.map_map]
    conv_rhs => rw [← hfst, List.map_map]
    rfl
  have hcells : (Entries.ofFields (columnsOf schema rows)).map (fun e => ColumnData.of e.2)
      = ((List.range schema.length).map fun i => columnAt i rows).map .cells := by
    have hsnd := congrArg (List.map ColumnData.of) (List.map_snd_zip hlength.ge)
    rw [List.map_map, List.map_map] at hsnd
    unfold Entries.ofFields columnsOf
    rw [List.map_map, List.map_map]
    exact hsnd
  have hne : Entries.ofFields (columnsOf schema rows) ≠ [] := by
    intro h
    rw [h] at hnames
    exact hschema (List.map_eq_nil_iff.mp hnames.symm)
  have hheight : ∀ column ∈ (List.range schema.length).map (fun i => columnAt i rows),
      column.length = rows.length := by
    intro column hcolumn
    obtain ⟨i, -, rfl⟩ := List.mem_map.mp hcolumn
    exact List.length_map _
  rw [ofColumns_cells hne hcells hheight, hnames, List.map_map]
  unfold ofRows
  rw [List.length_map]
  rfl

/-! ## Lists as tables -/

/-- A table with the columns of the schema lacks none of them. -/
theorem hasColumn_of_columns (ht : t.columns = schema.map .str) :
    (schema.filter fun c => !t.hasColumn (.str c)) = [] := by
  rw [List.filter_eq_nil_iff]
  intro c hc
  have hfound : t.hasColumn (.str c) = true := by
    unfold hasColumn
    rw [ht, List.any_map, List.any_eq_true]
    exact ⟨c, hc, Value.str_same_iff.mpr rfl⟩
  rw [hfound]
  exact Bool.false_ne_true

theorem ofData_nil (schema : List String) :
    ofData (.list []) schema = .ok ⟨schema.map .str, []⟩ := by
  unfold ofData
  simp only [pure_bind, hasColumn_of_columns (t := ⟨schema.map .str, []⟩) rfl]
  rfl

/-- The last check finds nothing missing in a table of rows or records. -/
theorem ofData_list {items : List Value} (hitems : items ≠ []) (schema : List String) :
    ofData (.list items) schema = ofItems schema items := by
  cases items with
  | nil => exact absurd rfl hitems
  | cons item items =>
      have hgoes : ofItems schema (item :: items) = ofItems schema (item :: items) >>= pure :=
        (bind_pure _).symm
      unfold ofData
      simp only
      rw [hgoes, bind_assoc]
      refine bind_congr_ok fun table htable => ?_
      rw [pure_bind, hasColumn_of_columns (columns_of_ofItems htable)]
      rfl

/-- A table that was made of rows or records has the columns of the schema, in order, and no
others. -/
theorem columns_of_ofData_list {items : List Value} (ht : ofData (.list items) schema = .ok t) :
    t.columns = schema.map .str := by
  by_cases hitems : items = []
  · subst hitems
    rw [ofData_nil] at ht
    cases ht
    rfl
  · rw [ofData_list hitems] at ht
    exact columns_of_ofItems ht

theorem ofData_columnsOf (hschema : schema ≠ []) (rows : List (List Value)) :
    ofData (.ofFields (columnsOf schema rows)) schema = .ok (ofRows (schema.map .str) rows) := by
  unfold ofData Value.ofFields
  simp only [ofColumns_columnsOf hschema rows]
  rw [show Except.ok (ofRows (schema.map .str) rows)
      = (pure (ofRows (schema.map .str) rows) : Except TableFault Table) from rfl,
    pure_bind, hasColumn_of_columns (columns_ofRows schema rows)]
  rfl

/-- A list of items makes a table exactly if all of them are records or all of them are rows. The
first item does not decide: a list of records with one row in it is taken as rows, and then a record
is no row. -/
theorem ofItems_succeeds_iff {items : List Value} (hitems : items ≠ []) :
    (∃ t, ofItems schema items = .ok t)
      ↔ (∀ item ∈ items, IsRecord schema item) ∨ ∀ item ∈ items, IsRow schema.length item := by
  constructor
  · rintro ⟨t, ht⟩
    unfold ofItems at ht
    simp only at ht
    split at ht
    · -- records
      next records hrecords =>
        split at ht
        · exact absurd ht throw_ne_ok
        · next hmissing =>
            rw [Bool.not_eq_true, Bool.not_eq_false', missingFields_isEmpty] at hmissing
            obtain rfl := mapM_entries?_eq_some.mp hrecords
            refine Or.inl fun item hitem => ?_
            obtain ⟨es, hes, rfl⟩ := List.mem_map.mp hitem
            exact ⟨es, rfl, hmissing es hes⟩
    · -- rows
      obtain ⟨rows, hrows, -⟩ := bind_eq_ok.mp ht
      refine Or.inr fun item hitem => ?_
      obtain ⟨cells, -, hcells⟩ := exists_of_mem_forall₂ (checkedRows_eq_ok.mp hrows).flip hitem
      exact ⟨cells, hcells⟩
  · rintro (hrecords | hrows)
    · obtain ⟨records, rfl⟩ : ∃ records : List Entries, records.map .map = items := by
        rw [← Set.mem_range, Set.range_list_map]
        intro item hitem
        obtain ⟨es, rfl, -⟩ := hrecords item hitem
        exact ⟨es, rfl⟩
      refine ⟨_, ofItems_records fun es hes c hc => ?_⟩
      obtain ⟨es', hsame, hfields⟩ := hrecords _ (List.mem_map_of_mem hes)
      cases hsame
      exact hfields c hc
    · refine ⟨_, ofItems_rows (items.map fun item => (row? item).getD []) hitems ?_⟩
      rw [List.forall₂_map_right_iff, List.forall₂_same]
      intro item hitem
      obtain ⟨cells, hrow, hlength⟩ := hrows item hitem
      rw [row?_eq_some.mpr hrow]
      exact ⟨hrow, hlength⟩

/-! ## The shapes agree -/

theorem isSome_of_cells {es : Entries} {cells : List Value}
    (hcells : schema.map es.field? = cells.map some) : ∀ c ∈ schema, (es.field? c).isSome := by
  intro c hc
  have hmem : es.field? c ∈ cells.map some := hcells ▸ List.mem_map_of_mem hc
  obtain ⟨cell, -, hcell⟩ := List.mem_map.mp hmem
  rw [← hcell, Option.isSome_some]

theorem map_field_of_cells {es : Entries} {cells : List Value}
    (hcells : schema.map es.field? = cells.map some) : schema.map es.field = cells := by
  have hgiven := congrArg (List.map fun cell => cell.getD Value.null) hcells
  rw [List.map_map, List.map_map] at hgiven
  exact hgiven.trans (List.map_id cells)

/-- Records with the cells of rows have all fields, and the rows can be read off them. Induction on
the rows. -/
theorem exists_records {rows : List (List Value)} {items : List Value}
    (hitems : List.Forall₂ (IsRecordOf schema) rows items) :
    ∃ records : List Entries, items = records.map .map
      ∧ (∀ es ∈ records, ∀ c ∈ schema, (es.field? c).isSome)
      ∧ records.map (fun es => schema.map es.field) = rows := by
  induction hitems with
  | nil => exact ⟨[], rfl, by simp, rfl⟩
  | cons hitem _ ih =>
      obtain ⟨es, rfl, hcells⟩ := hitem
      obtain ⟨records, rfl, hfields, rfl⟩ := ih
      refine ⟨es :: records, rfl, List.forall_mem_cons.mpr ⟨isSome_of_cells hcells, hfields⟩, ?_⟩
      rw [List.map_cons, map_field_of_cells hcells]

/-- Rows, records and columns with the same cells give the same table, with the columns of the
schema, as many rows, and each column typed; and a list makes a table exactly if it is empty, or has
records with all fields only, or rows of the right length only, and else fails for a bad value. -/
theorem ofData_shapes :
    (∀ (schema : List String) (rows : List (List Value)) (rowItems recordItems : List Value),
      schema ≠ [] → rows ≠ [] → (∀ cells ∈ rows, cells.length = schema.length) →
      List.Forall₂ IsRowOf rows rowItems → List.Forall₂ (IsRecordOf schema) rows recordItems →
      ∃ t : Table, ofData (.list rowItems) schema = .ok t
        ∧ ofData (.list recordItems) schema = .ok t
        ∧ ofData (.ofFields (columnsOf schema rows)) schema = .ok t
        ∧ t.columns = schema.map .str ∧ t.rows.length = rows.length
        ∧ ∀ i < schema.length, columnAt i t.rows = typedColumn (columnAt i rows)) ∧
    ∀ (schema : List String) (items : List Value),
      ((∃ t, ofData (.list items) schema = .ok t) ↔ items = []
        ∨ (∀ item ∈ items, IsRecord schema item) ∨ ∀ item ∈ items, IsRow schema.length item) ∧
      ∀ fault, ofData (.list items) schema = .error fault → (Fault.table fault).cls = .badValue := by
  refine ⟨fun schema rows rowItems recordItems hschema hne hlengths hrows hrecords => ?_,
    fun schema items => ⟨?_, fun _ _ => rfl⟩⟩
  · have hrowItems : rowItems ≠ [] := fun h => hne (List.forall₂_nil_right_iff.mp (h ▸ hrows))
    have hrecordItems : recordItems ≠ [] :=
      fun h => hne (List.forall₂_nil_right_iff.mp (h ▸ hrecords))
    -- the rows pass the check on their lengths, and the records the one on their fields
    have hchecked : List.Forall₂ (fun item cells => IsRowOf cells item ∧
        cells.length = schema.length) rowItems rows :=
      ((List.forall₂_and_left _ _).mpr ⟨hlengths, hrows⟩).flip.imp fun _ _ h => ⟨h.2, h.1⟩
    obtain ⟨records, rfl, hfields, hcells⟩ := exists_records hrecords
    refine ⟨ofRows (schema.map .str) rows, ?_, ?_, ofData_columnsOf hschema rows,
      columns_ofRows schema rows, length_rows_ofRows _ rows,
      fun i hi => columnAt_ofRows (by rwa [List.length_map]) rows⟩
    · rw [ofData_list hrowItems, ofItems_rows rows hrowItems hchecked]
    · rw [ofData_list hrecordItems, ofItems_records hfields, hcells,
        if_neg (by simpa using hschema)]
  · by_cases hitems : items = []
    · subst hitems
      exact ⟨fun _ => .inl rfl, fun _ => ⟨_, ofData_nil schema⟩⟩
    · rw [ofData_list hitems, ofItems_succeeds_iff hitems]
      exact (or_iff_right hitems).symm

/-- Two rows, one of them with a gap, in all three shapes; and a list whose second item is a text.
-/
theorem ofData_shapes_of_gap :
    (∃ t : Table,
      ofData (.list [.list [.str "mon", .int 2], .tuple [.str "tue", .null]])
          ["day", "staff"] = .ok t
      ∧ ofData (.list [.ofFields [("day", .str "mon"), ("staff", .int 2)],
          .ofFields [("note", .str "closed"), ("staff", .null), ("day", .str "tue")]])
          ["day", "staff"] = .ok t
      ∧ ofData (.ofFields [("day", .list [.str "mon", .str "tue"]),
          ("staff", .list [.int 2, .null])]) ["day", "staff"] = .ok t
      ∧ columnAt 1 t.rows = [.float (floatOfInt 2), notANumber])
    ∧ ofData (.list [.list [.str "mon"], .str "t"]) ["day"] = .error (.rowNotSequence 1 (.str "t"))
    ∧ (Fault.table (.rowNotSequence 1 (.str "t"))).cls = .badValue := by
  have hfails : ofData (.list [.list [.str "mon"], .str "t"]) ["day"]
      = .error (.rowNotSequence 1 (.str "t")) := by cbv
  refine ⟨?_, hfails, (ofData_shapes.2 _ _).2 _ hfails⟩
  obtain ⟨t, hrows, hrecords, hcolumns, -, -, hcells⟩ := ofData_shapes.1 ["day", "staff"]
    [[.str "mon", .int 2], [.str "tue", .null]]
    [.list [.str "mon", .int 2], .tuple [.str "tue", .null]]
    [.ofFields [("day", .str "mon"), ("staff", .int 2)],
      .ofFields [("note", .str "closed"), ("staff", .null), ("day", .str "tue")]]
    (by decide) (by decide) (by decide)
    (.cons (.inl rfl) (.cons (.inr rfl) .nil))
    (.cons ⟨_, rfl, by cbv⟩ (.cons ⟨_, rfl, by cbv⟩ .nil))
  refine ⟨t, hrows, hrecords, hcolumns, (hcells 1 (by decide)).trans ?_⟩
  rfl

end Rostering.Table
