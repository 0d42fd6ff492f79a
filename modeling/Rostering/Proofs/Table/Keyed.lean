import Rostering.Proofs.Table.Shapes
import Rostering.Proofs.Value.Same

/-!
# Mappings from tables

A table is read as a mapping by one of its columns, the named one or else the first; its values are
those of the first other column. Rows with one key are one entry, which stands where the first of
them stood and has the value of the last. A mapping of numbers comes out as it is, whether it is
given as such, as records or as a table of two columns (`Entries.ofData_keyed`).

The column of the values is found by its name, as the first that differs from that of the keys. A
name that is no number differs from itself, so that a first column of that name is taken for both
(`Entries.not_keyed_of_missing_name`).

## The architecture

* **`Value.firsts`** — values in the order in which they appear, one for each class of values that
  are the same.
* **`Entries.KeepsLast`** — the specification of a mapping from rows. **`KeepsLast.concat`** and
  **`KeepsLast.replace`** are the step, one more row with a new key or with one that is there;
  **`KeepsLast.foldl_putCell`** is the run over all rows.
* **`Table.keyName_eq`**, **`Table.find?_valueName`**, **`Table.column?_of_distinct`** — names lead
  to columns if each column has a name of its own.
* **`Table.columns_ofRecords`**, **`Table.columnAt_ofRecords`** — the table that records make.
-/

namespace Rostering

/-! ## Values in order of appearance -/

namespace Value

/-- Adds a value to those seen before, if it is not the same as one of them. -/
def appear (seen : List Value) (v : Value) : List Value :=
  if seen.any v.same then seen else seen ++ [v]

/-- The values without those that are the same as one before them. -/
def firsts (l : List Value) : List Value := l.foldl appear []

theorem firsts_concat (l : List Value) (v : Value) : firsts (l ++ [v]) = appear (firsts l) v := by
  unfold firsts
  rw [List.foldl_append]
  rfl

theorem mem_of_mem_firsts {l : List Value} {v : Value} (hv : v ∈ firsts l) : v ∈ l := by
  induction l using List.reverseRecOn with
  | nil => exact hv
  | append_singleton l last ih =>
      rw [firsts_concat, appear] at hv
      rw [List.mem_append, List.mem_singleton]
      split at hv
      · exact Or.inl (ih hv)
      · exact (List.mem_append.mp hv).imp ih List.mem_singleton.mp

/-- No value is the same as one that appeared before. -/
def NoneAgain (l : List Value) : Prop := l.Pairwise fun a b => b.same a = false

theorem noneAgain_firsts (l : List Value) : NoneAgain (firsts l) := by
  induction l using List.reverseRecOn with
  | nil => exact List.Pairwise.nil
  | append_singleton l last ih =>
      rw [firsts_concat, appear]
      split
      · exact ih
      · next hnew =>
          refine List.pairwise_append.mpr ⟨ih, List.pairwise_singleton _ _, fun a ha b hb => ?_⟩
          obtain rfl := List.mem_singleton.mp hb
          exact Bool.eq_false_iff.mpr fun h => hnew (List.any_eq_true.mpr ⟨a, ha, h⟩)

/-- New values that differ from each other appear one after the other. Induction on them, for any
that were seen before. -/
theorem foldl_appear {l : List Value} (hl : NoneAgain l) (seen : List Value) :
    l.foldl appear seen = seen ++ l.filter fun v => !(seen.any v.same) := by
  induction l generalizing seen with
  | nil => exact (List.append_nil seen).symm
  | cons v l ih =>
      obtain ⟨hlater, hl⟩ := List.pairwise_cons.mp hl
      rw [List.foldl_cons, ih hl, appear]
      split
      · next hseen => rw [List.filter_cons, hseen]; rfl
      · next hnew =>
          -- `v` is now among those that were seen, but it is like none of those that follow
          have hsame : l.filter (fun w => !((seen ++ [v]).any w.same))
              = l.filter fun w => !(seen.any w.same) := by
            refine List.filter_congr fun w hw => ?_
            rw [List.any_append, List.any_cons, hlater w hw]
            simp
          rw [hsame, List.filter_cons, Bool.eq_false_iff.mpr hnew]
          simp

/-- What was seen before does not appear again. Induction on it. -/
theorem foldl_appear_seen {l seen : List Value} (hl : ∀ v ∈ l, seen.any v.same = true) :
    l.foldl appear seen = seen := by
  induction l with
  | nil => rfl
  | cons v l ih =>
      obtain ⟨hv, hl⟩ := List.forall_mem_cons.mp hl
      rw [List.foldl_cons, appear, if_pos hv, ih hl]

theorem noneAgain_texts {l : List String} (hl : l.Nodup) : NoneAgain (l.map .str) := by
  refine List.pairwise_map.mpr (hl.imp fun hne => ?_)
  rw [Value.same_str]
  exact beq_eq_false_iff_ne.mpr (Ne.symm hne)

theorem firsts_of_noneAgain {l : List Value} (hl : NoneAgain l) : firsts l = l := by
  unfold firsts
  rw [foldl_appear hl]
  simp

end Value

/-! ## Rows into a mapping -/

namespace Entries

theorem sameKeyCell_eq {k : Value} (hk : k.IsKeyCell) (numbers : Bool) (other : Value) :
    sameKeyCell numbers k other = k.same other := by
  cases k with
  | float x =>
      have hnan : x.isNaN = false := hk
      cases other with
      | float y =>
          rw [sameKeyCell, Value.same, hnan, Bool.and_false, Bool.false_and, Bool.or_false]
      | _ => rfl
  | bool _ | int _ | str _ | day _ => rfl
  | _ => exact absurd hk id

theorem putCell_append {numbers : Bool} {key value : Value} {before : Entries}
    (hbefore : ∀ e ∈ before, sameKeyCell numbers e.1 key = false) (rest : Entries) :
    putCell numbers key value (before ++ rest) = before ++ putCell numbers key value rest := by
  induction before with
  | nil => rfl
  | cons e before ih =>
      obtain ⟨hfirst, hbefore⟩ := List.forall_mem_cons.mp hbefore
      rw [List.cons_append, putCell, if_neg (Bool.eq_false_iff.mp hfirst), ih hbefore,
        List.cons_append]

/-- The value of the entry is that of the last row with its key. -/
def IsLast (rows : List (Value × Value)) (e : Value × Value) : Prop :=
  ∃ before row after, rows = before ++ row :: after ∧ row.1.same e.1 = true ∧ row.2 = e.2
    ∧ ∀ later ∈ after, later.1.same e.1 = false

/-- The rows give these entries: a key for the first of each class of rows with the same key cell,
and the value of the last. -/
structure KeepsLast (rows : List (Value × Value)) (es : Entries) : Prop where
  keys : es.map Prod.fst = Value.firsts (rows.map Prod.fst)
  values : ∀ e ∈ es, IsLast rows e

section

variable {rows : List (Value × Value)} {es : Entries} {key value : Value} {e : Value × Value}

theorem IsLast.of_other (h : IsLast rows e) (hother : key.same e.1 = false) :
    IsLast (rows ++ [(key, value)]) e := by
  obtain ⟨before, row, after, rfl, hsame, hvalue, hafter⟩ := h
  refine ⟨before, row, after ++ [(key, value)], by simp, hsame, hvalue, ?_⟩
  intro later hlater
  rcases List.mem_append.mp hlater with hlater | hlater
  · exact hafter later hlater
  · obtain rfl := List.mem_singleton.mp hlater
    exact hother

theorem isLast_of_same {k : Value} (hsame : key.same k = true) :
    IsLast (rows ++ [(key, value)]) (k, value) :=
  ⟨rows, (key, value), [], rfl, hsame, rfl, nofun⟩

namespace KeepsLast

theorem isKeyCell (h : KeepsLast rows es) (hrows : ∀ row ∈ rows, row.1.IsKeyCell) (he : e ∈ es) :
    e.1.IsKeyCell := by
  have hmem : e.1 ∈ es.map Prod.fst := List.mem_map_of_mem he
  rw [h.keys] at hmem
  obtain ⟨row, hrow, heq⟩ := List.mem_map.mp (Value.mem_of_mem_firsts hmem)
  exact heq ▸ hrows row hrow

theorem firsts_concat (h : KeepsLast rows es) :
    Value.firsts ((rows ++ [(key, value)]).map Prod.fst)
      = Value.appear (es.map Prod.fst) key := by
  rw [List.map_append, List.map_singleton, Value.firsts_concat, h.keys]

/-- A row with a new key is a new entry. -/
theorem concat (h : KeepsLast rows es) (hkey : key.IsKeyCell)
    (hnew : ∀ e ∈ es, key.same e.1 = false) :
    KeepsLast (rows ++ [(key, value)]) (es ++ [(key, value)]) := by
  have hnone : (es.map Prod.fst).any key.same = false := by
    rw [List.any_map, List.any_eq_false]
    exact fun e he => Bool.eq_false_iff.mp (hnew e he)
  refine ⟨?_, List.forall_mem_append.mpr ⟨fun e he => ?_, ?_⟩⟩
  · rw [h.firsts_concat, Value.appear, hnone, List.map_append]
    rfl
  · exact (h.values e he).of_other (hnew e he)
  · exact List.forall_mem_singleton.mpr (isLast_of_same hkey.same_self)

/-- A row with a key that is there gives it its value. No other entry has the key, as it would be
there twice. -/
theorem replace {before after : Entries} {found : Value × Value}
    (h : KeepsLast rows (before ++ found :: after)) (hrows : ∀ row ∈ rows, row.1.IsKeyCell)
    (hkey : key.IsKeyCell) (hsame : key.same found.1 = true)
    (hbefore : ∀ e ∈ before, key.same e.1 = false) :
    KeepsLast (rows ++ [(key, value)]) (before ++ (found.1, value) :: after) := by
  have hsome : ((before ++ found :: after).map Prod.fst).any key.same = true :=
    List.any_eq_true.mpr ⟨found.1, by simp, hsame⟩
  have hapart := h.keys ▸ Value.noneAgain_firsts (rows.map Prod.fst)
  rw [List.map_append, List.map_cons] at hapart
  have hlater := (List.pairwise_cons.mp (List.pairwise_append.mp hapart).2.1).1
  -- a second entry with this key would be like the first one, by transitivity
  have hafter : ∀ e ∈ after, key.same e.1 = false := by
    intro e he
    refine Bool.eq_false_iff.mpr fun hagain => ?_
    have hcell := h.isKeyCell hrows (List.mem_append_right before (List.mem_cons_of_mem found he))
    have htwice := hcell.same_trans (hkey.same_symm hagain) hsame
    rw [hlater e.1 (List.mem_map_of_mem he)] at htwice
    cases htwice
  refine ⟨?_, List.forall_mem_append.mpr
    ⟨fun e he => ?_, List.forall_mem_cons.mpr ⟨isLast_of_same hsame, fun e he => ?_⟩⟩⟩
  · rw [h.firsts_concat, Value.appear, hsome, List.map_append, List.map_append]
    rfl
  · exact (h.values e (List.mem_append_left _ he)).of_other (hbefore e he)
  · exact (h.values e (List.mem_append_right before (List.mem_cons_of_mem found he))).of_other
      (hafter e he)

/-- One more row. The column of the keys may be one of numbers; given cells are compared alike in
both sorts of columns. -/
theorem putCell (h : KeepsLast rows es) (hrows : ∀ row ∈ rows, row.1.IsKeyCell)
    (hkey : key.IsKeyCell) (numbers : Bool) :
    KeepsLast (rows ++ [(key, value)]) (putCell numbers key value es) := by
  have hcell : ∀ e ∈ es, sameKeyCell numbers e.1 key = key.same e.1 := by
    intro e he
    have hgiven := h.isKeyCell hrows he
    rw [sameKeyCell_eq hgiven, Bool.eq_iff_iff]
    exact ⟨hgiven.same_symm, hkey.same_symm⟩
  -- the key is new, or it is that of an entry, which is met where it stands
  cases hfound : List.find? (fun e : Value × Value => key.same e.1) es with
  | none =>
      have hnew : ∀ e ∈ es, key.same e.1 = false := fun e he =>
        Bool.eq_false_iff.mpr (List.find?_eq_none.mp hfound e he)
      have hpassed : ∀ e ∈ es, sameKeyCell numbers e.1 key = false :=
        fun e he => (hcell e he).trans (hnew e he)
      have hput : Entries.putCell numbers key value es = es ++ [(key, value)] := by
        conv_lhs => rw [← List.append_nil es]
        rw [putCell_append hpassed, Entries.putCell]
      exact hput ▸ h.concat hkey hnew
  | some found =>
      obtain ⟨hsame, before, after, rfl, hskipped⟩ := List.find?_eq_some_iff_append.mp hfound
      have hbefore : ∀ e ∈ before, key.same e.1 = false := fun e he => by
        simpa using hskipped e he
      have hpassed : ∀ e ∈ before, sameKeyCell numbers e.1 key = false := fun e he =>
        (hcell e (List.mem_append_left _ he)).trans (hbefore e he)
      have hmet : sameKeyCell numbers found.1 key = true :=
        (hcell found (List.mem_append_right _ List.mem_cons_self)).trans hsame
      have hput : Entries.putCell numbers key value (before ++ found :: after)
          = before ++ (found.1, value) :: after := by
        rw [putCell_append hpassed, Entries.putCell, if_pos hmet]
      exact hput ▸ h.replace hrows hkey hsame hbefore

/-- All rows, one after the other. -/
theorem foldl_putCell (rows : List (Value × Value)) (hrows : ∀ row ∈ rows, row.1.IsKeyCell)
    (numbers : Bool) :
    KeepsLast rows (rows.foldl (fun es row => Entries.putCell numbers row.1 row.2 es) []) := by
  induction rows using List.reverseRecOn with
  | nil => exact ⟨rfl, nofun⟩
  | append_singleton rows row ih =>
      rw [List.forall_mem_append, List.forall_mem_singleton] at hrows
      rw [List.foldl_append]
      exact (ih hrows.1).putCell hrows.1 hrows.2 numbers

/-- Rows without a key that comes again are the entries themselves. -/
theorem eq_rows (h : KeepsLast rows es) (hrows : ∀ row ∈ rows, row.1.IsKeyCell)
    (hapart : Value.NoneAgain (rows.map Prod.fst)) : es = rows := by
  -- keys stand in the same places, since none of them comes again
  have hkeys := h.keys
  rw [Value.firsts_of_noneAgain hapart] at hkeys
  have hlength : es.length = rows.length := by simpa using congrArg List.length hkeys
  refine List.ext_getElem hlength fun i hi hi' => ?_
  have hkey : es[i].1 = rows[i].1 := by
    have hmapped : i < (es.map Prod.fst).length := by rwa [List.length_map]
    have hat := List.getElem_of_eq hkeys hmapped
    rwa [List.getElem_map, List.getElem_map] at hat
  obtain ⟨before, row, after, hsplit, hsame, hvalue, -⟩ := h.values es[i] (List.getElem_mem hi)
  obtain ⟨j, hj, rfl⟩ := List.mem_iff_getElem.mp (hsplit ▸ List.mem_append_right before
    List.mem_cons_self : row ∈ rows)
  have hdistinct := List.pairwise_iff_getElem.mp (List.pairwise_map.mp hapart)
  rw [hkey] at hsame
  -- the row with the key of the i-th entry can only be the i-th one
  rcases Nat.lt_trichotomy i j with hij | rfl | hij
  · rw [hdistinct i j hi' hj hij] at hsame
    cases hsame
  · exact Prod.ext hkey hvalue.symm
  · have hback := (hrows rows[j] (List.getElem_mem hj)).same_symm hsame
    rw [hdistinct j i hj hi' hij] at hback
    cases hback

end KeepsLast

end

/-- The run over all rows: what comes out keeps the last value of each key. -/
theorem ofCells_keyed {keys : List Value} (values : List Value) (hkeys : ∀ k ∈ keys, k.IsKeyCell) :
    ∃ es, ofCells keys values = .ok es ∧ KeepsLast (keys.zip values) es := by
  have hall : keys.all Value.isKey = true := by
    rw [List.all_eq_true]
    intro k hk
    have hcell := hkeys k hk
    cases k <;> first | rfl | exact absurd hcell id
  refine ⟨_, ?_, KeepsLast.foldl_putCell (keys.zip values)
    (fun row hrow => hkeys row.1 (List.of_mem_zip hrow).1)
    (keys.all fun k => CellSort.of k ∈ [CellSort.nan, .fraction])⟩
  unfold ofCells
  rw [if_pos hall]
  rfl

end Entries

/-! ## Columns by name -/

namespace Table

/-- Each column has a name of its own: its name is that of no other column. -/
def HasDistinctNames (columns : List Value) : Prop :=
  ∀ i j, i < columns.length → j < columns.length →
    (sameName (cellAt i columns) (cellAt j columns) = true ↔ i = j)

/-- The column of the keys: the named one if it is there, else the first. -/
def keyPosition (t : Table) (key : String) : Nat :=
  (t.columns.findIdx? (sameName (.str key))).getD 0

/-- The column of the values: the first but the column of the keys. -/
def valuePosition (t : Table) (key : String) : Nat := if t.keyPosition key = 0 then 1 else 0

variable {t : Table} {key : String}

theorem cellAt_of_lt {i : Nat} {cells : List Value} (hi : i < cells.length) :
    cellAt i cells = cells[i] := by
  unfold cellAt
  rw [List.getElem?_eq_getElem hi]
  rfl

theorem sameName_str_iff {name : String} {c : Value} :
    sameName (.str name) c = true ↔ c = .str name :=
  Value.str_same_iff

/-- Names that are the same are names of one column. -/
theorem same_eq_false_of_sameName {a b : Value} (h : sameName a b = false) : a.same b = false := by
  unfold sameName at h
  split at h
  · rw [Value.same]
    exact (Bool.or_eq_false_iff.mp h).1
  · cases h
  · exact h

theorem sameName_eq {a : Value} (ha : a.IsKeyCell) (b : Value) : sameName a b = a.same b := by
  cases a with
  | float x =>
      have hnan : x.isNaN = false := ha
      cases b with
      | float y => rw [sameName, Value.same, hnan, Bool.false_and, Bool.or_false]
      | _ => rfl
  | bool _ | int _ | str _ | day _ => rfl
  | _ => exact absurd ha id

/-- Names that are not missing only have to differ from each other. -/
theorem hasDistinctNames_of_noneAgain {columns : List Value} (hcells : ∀ c ∈ columns, c.IsKeyCell)
    (hapart : Value.NoneAgain columns) : HasDistinctNames columns := by
  intro i j hi hj
  have hcell := hcells columns[i] (List.getElem_mem hi)
  rw [cellAt_of_lt hi, cellAt_of_lt hj, sameName_eq hcell]
  have hdistinct := List.pairwise_iff_getElem.mp hapart
  constructor
  · intro h
    -- being apart says only that an earlier name is not like a later one
    rcases Nat.lt_trichotomy i j with hij | hij | hij
    · have hback := hcell.same_symm h
      rw [hdistinct i j hi hj hij] at hback
      cases hback
    · exact hij
    · rw [hdistinct j i hj hi hij] at h
      cases h
  · rintro rfl
    exact hcell.same_self

theorem hasDistinctNames_pair {a b : String} (hne : a ≠ b) :
    HasDistinctNames [.str a, .str b] := by
  refine hasDistinctNames_of_noneAgain ?_ (Value.noneAgain_texts (l := [a, b]) (by simp [hne]))
  simp [Value.IsKeyCell]

/-- With a name of its own, a column is what stands under the name. -/
theorem column?_of_distinct (hnames : HasDistinctNames t.columns) {i : Nat}
    (hi : i < t.columns.length) : t.column? (cellAt i t.columns) = some (columnAt i t.rows) := by
  have hplace : t.positions (cellAt i t.columns) = [i] := by
    rw [← List.perm_singleton]
    refine (List.perm_ext_iff_of_nodup (List.nodup_range.filter _) (List.nodup_singleton i)).mpr
      fun j => ?_
    rw [List.mem_filter, List.mem_range, List.mem_singleton]
    constructor
    · rintro ⟨hj, hsame⟩
      exact ((hnames i j hi hj).mp hsame).symm
    · rintro rfl
      exact ⟨hi, (hnames j j hi hi).mpr rfl⟩
  unfold column?
  rw [hplace]

theorem headD_eq_cellAt (cells : List Value) : cells.headD .null = cellAt 0 cells := by
  cases cells <;> rfl

theorem keyPosition_lt (hwidth : 0 < t.columns.length) (key : String) :
    t.keyPosition key < t.columns.length := by
  unfold keyPosition
  cases hfound : t.columns.findIdx? (sameName (.str key)) with
  | none => exact hwidth
  | some i => exact (List.findIdx?_eq_some_iff_getElem.mp hfound).1

/-- The name by which the column of the keys is looked up is that of the column. -/
theorem keyName_eq (t : Table) (key : String) :
    (if t.hasColumn (.str key) then .str key else t.columns.headD .null)
      = cellAt (t.keyPosition key) t.columns := by
  unfold keyPosition hasColumn
  -- no column has the name, or the first that has it is the one
  cases hfound : t.columns.findIdx? (sameName (.str key)) with
  | none =>
      rw [if_neg, headD_eq_cellAt]
      · rfl
      · rw [List.any_eq_true]
        rintro ⟨c, hc, hsame⟩
        rw [List.findIdx?_eq_none_iff.mp hfound c hc] at hsame
        cases hsame
  | some i =>
      obtain ⟨hi, hsame, -⟩ := List.findIdx?_eq_some_iff_getElem.mp hfound
      rw [if_pos (List.any_eq_true.mpr ⟨_, List.getElem_mem hi, hsame⟩), Option.getD_some,
        cellAt_of_lt hi, sameName_str_iff.mp hsame]

/-- The names of the columns are distinct keys. Not all of them are moments, since among those a text
is looked up as a date, and so may find a column that it is not the name of. -/
structure HasPlainHeader (t : Table) : Prop where
  distinct : HasDistinctNames t.columns
  keys : Value.areKeys t.columns = true
  notMoments : t.columns.all Value.isMomentCell = false

theorem hasPlainHeader_pair {a b : String} (hne : a ≠ b) (ht : t.columns = [.str a, .str b]) :
    t.HasPlainHeader := by
  refine ⟨?_, ?_, ?_⟩ <;> rw [ht]
  · exact hasDistinctNames_pair hne
  · rfl
  · rfl

/-- The name of the first column is the same as itself, as only a missing name is not; with a named
column for the keys that does not matter. -/
def KeyNameIsItself (t : Table) (key : String) : Prop :=
  t.hasColumn (.str key) = true ∨ (t.columns.headD .null).same (t.columns.headD .null) = true

theorem keyName_same (hkey : t.KeyNameIsItself key) :
    (cellAt (t.keyPosition key) t.columns).same (cellAt (t.keyPosition key) t.columns) = true := by
  rw [← keyName_eq]
  by_cases hfound : t.hasColumn (.str key) = true
  · rw [if_pos hfound]
    exact Value.str_same_iff.mpr rfl
  · rw [if_neg hfound]
    exact hkey.resolve_left hfound

/-- The first name that differs from that of the keys is that of the first other column. The code
looks for a name, and the statement is about a column. They agree because no two columns have one
name. -/
theorem find?_valueName (hwidth : 2 ≤ t.columns.length) (hnames : HasDistinctNames t.columns)
    (hkey : t.KeyNameIsItself key) :
    t.columns.find? (fun c => !(c.same (cellAt (t.keyPosition key) t.columns)))
      = some (cellAt (t.valuePosition key) t.columns) := by
  have hself := keyName_same hkey
  have hplace := keyPosition_lt (t := t) (by omega) key
  -- no other name is like that of the keys
  have hother : ∀ i < t.columns.length, i ≠ t.keyPosition key →
      (cellAt i t.columns).same (cellAt (t.keyPosition key) t.columns) = false := by
    intro i hi hne
    exact same_eq_false_of_sameName
      (Bool.eq_false_iff.mpr fun h => hne ((hnames i _ hi hplace).mp h))
  unfold valuePosition
  match hcolumns : t.columns, hwidth with
  | first :: second :: rest, _ =>
      rw [hcolumns] at hself hother
      -- the keys are in the first column, or they are not and the first column has the values
      split
      · next hzero =>
          rw [hzero] at hself hother ⊢
          have hskip : first.same (cellAt 0 (first :: second :: rest)) = true := hself
          have hmet : second.same (cellAt 0 (first :: second :: rest)) = false :=
            hother 1 (by simp) (by decide)
          simp only [List.find?_cons, hskip, hmet]
          rfl
      · next hne =>
          have hmet : first.same (cellAt (t.keyPosition key) (first :: second :: rest)) = false :=
            hother 0 (by simp) (Ne.symm hne)
          simp only [List.find?_cons, hmet]
          rfl

theorem valuePosition_lt (hwidth : 2 ≤ t.columns.length) (key : String) :
    t.valuePosition key < t.columns.length := by
  unfold valuePosition
  split <;> omega

end Table

/-! ## Records as a table -/

namespace Table

variable {records : List Entries}

/-- The names of all fields of the records, as they stand. -/
def fieldsOf (records : List Entries) : List Value := records.flatMap fun r => r.map Prod.fst

/-- Fields are named in the order in which they appear. Induction on the records. -/
theorem fieldNames_eq (hrecords : ∀ r ∈ records, Value.NoneAgain (r.map Prod.fst)) :
    fieldNames records = Value.firsts (fieldsOf records) := by
  induction records using List.reverseRecOn with
  | nil => rfl
  | append_singleton records r ih =>
      rw [List.forall_mem_append, List.forall_mem_singleton] at hrecords
      -- a record adds those of its fields that were not there, and none of its fields comes twice
      have hnames : fieldNames (records ++ [r]) = fieldNames records
          ++ (r.map Prod.fst).filter fun k => !((fieldNames records).any k.same) := by
        unfold fieldNames
        rw [List.foldl_append]
        rfl
      rw [hnames, ih hrecords.1]
      unfold fieldsOf Value.firsts
      rw [List.flatMap_append, List.foldl_append, List.flatMap_singleton,
        Value.foldl_appear hrecords.2]

theorem columns_ofRecords (hrecords : ∀ r ∈ records, Value.NoneAgain (r.map Prod.fst)) :
    (ofRecords records).columns = typedColumn (Value.firsts (fieldsOf records)) := by
  unfold ofRecords ofRows ofTyped
  rw [fieldNames_eq hrecords]
  exact typedColumn_typedColumn _

theorem columnAt_ofRecords {i : Nat} (hi : i < (ofRecords records).columns.length) :
    columnAt i (ofRecords records).rows = typedColumn
      (records.map fun r => (r.find? (cellAt i (ofRecords records).columns)).getD notANumber) := by
  have hcolumns : (ofRecords records).columns = typedColumn (fieldNames records) :=
    typedColumn_typedColumn _
  rw [hcolumns] at hi ⊢
  unfold ofRecords
  rw [columnAt_ofRows hi, columnAt, List.map_map]
  refine congrArg typedColumn (List.map_congr_left fun r _ => ?_)
  rw [Function.comp_apply, cellAt_of_lt (by rwa [List.length_map]), List.getElem_map,
    cellAt_of_lt hi]

end Table

/-! ## Tables into mappings -/

namespace Entries

open Table

variable {t : Table} {key : String}

/-- A table of at least two columns gives each key its last value. All three hypotheses on the
header are needed: names have to lead to columns, and the name of the keys has to be found by
itself. -/
theorem ofTable_keyed (hwidth : 2 ≤ t.columns.length) (hheader : t.HasPlainHeader)
    (hkey : t.KeyNameIsItself key)
    (hcells : ∀ row ∈ t.rows, (cellAt (t.keyPosition key) row).IsKeyCell) :
    ∃ es, ofTable t key = .ok es ∧ KeepsLast
      (t.rows.map fun row => (cellAt (t.keyPosition key) row, cellAt (t.valuePosition key) row))
      es := by
  have hkeys : ∀ k ∈ columnAt (t.keyPosition key) t.rows, k.IsKeyCell :=
    List.forall_mem_map.mpr hcells
  obtain ⟨es, hes, hrows⟩ := ofCells_keyed (columnAt (t.valuePosition key) t.rows) hkeys
  refine ⟨es, ?_, ?_⟩
  · unfold ofTable
    rw [if_neg (by omega), keyName_eq]
    -- names lead to columns, so the names that are found give the two columns
    have hnames := hheader.distinct
    simp only [find?_valueName hwidth hnames hkey, hheader.keys,
      column?_of_distinct hnames (keyPosition_lt (t := t) (by omega) key),
      column?_of_distinct hnames (valuePosition_lt hwidth key), Option.getD_some]
    exact hes
  · unfold columnAt at hrows
    rwa [List.zip_map'] at hrows

/-! ## Tables of two columns -/

theorem positions_of_keyFirst {value : String} (ht : t.columns = [.str key, .str value]) :
    t.keyPosition key = 0 ∧ t.valuePosition key = 1 := by
  have hkey : t.keyPosition key = 0 := by
    unfold keyPosition
    rw [ht, List.findIdx?_cons, if_pos (sameName_str_iff.mpr rfl)]
    rfl
  unfold valuePosition
  exact ⟨hkey, if_pos hkey⟩

theorem positions_of_keyLast {value : String} (hne : value ≠ key)
    (ht : t.columns = [.str value, .str key]) :
    t.keyPosition key = 1 ∧ t.valuePosition key = 0 := by
  have hother : ¬ sameName (.str key) (.str value) = true :=
    fun h => hne (Value.str.inj (sameName_str_iff.mp h))
  have hkey : t.keyPosition key = 1 := by
    unfold keyPosition
    rw [ht, List.findIdx?_cons, if_neg hother, List.findIdx?_cons,
      if_pos (sameName_str_iff.mpr rfl)]
    rfl
  unfold valuePosition
  exact ⟨hkey, if_neg (by omega)⟩

/-- Without a key that comes again, a table of two columns is a mapping as it stands. -/
theorem ofTable_pairs {value : String} {pairs : Entries} (hne : value ≠ key)
    (ht : t.columns = [.str key, .str value] ∨ t.columns = [.str value, .str key])
    (hpairs : t.rows.map (fun row =>
      (cellAt (t.keyPosition key) row, cellAt (t.valuePosition key) row)) = pairs)
    (hcells : ∀ e ∈ pairs, e.1.IsKeyCell) (hapart : Value.NoneAgain (pairs.map Prod.fst)) :
    ofTable t key = .ok pairs := by
  have hheader : t.HasPlainHeader := by
    rcases ht with h | h
    · exact hasPlainHeader_pair hne.symm h
    · exact hasPlainHeader_pair hne h
  -- both tables have a column of this name
  have hnames : t.columns.length = 2 ∧ t.hasColumn (.str key) = true := by
    have hfound := sameName_str_iff.mpr (rfl : Value.str key = .str key)
    unfold hasColumn
    rcases ht with h | h <;> rw [h] <;> exact ⟨rfl, by simp [hfound]⟩
  obtain ⟨hwidth, hfound⟩ := hnames
  subst hpairs
  obtain ⟨es, hes, hrows⟩ := ofTable_keyed hwidth.ge hheader (Or.inl hfound)
    fun row hrow => hcells _ (List.mem_map_of_mem hrow)
  rw [hes, hrows.eq_rows hcells hapart]

/-- A record of a key and a value, in either order. -/
def IsPairRecord (key value : String) (e : String × Int) (r : Entries) : Prop :=
  r = ofFields [(key, .str e.1), (value, .int e.2)]
    ∨ r = ofFields [(value, .int e.2), (key, .str e.1)]

theorem IsPairRecord.find? {value : String} (hne : value ≠ key) {e : String × Int} {r : Entries}
    (hr : IsPairRecord key value e r) :
    r.find? (.str key) = some (.str e.1) ∧ r.find? (.str value) = some (.int e.2) := by
  have hkey : (key == value) = false := beq_eq_false_iff_ne.mpr hne.symm
  have hvalue : (value == key) = false := beq_eq_false_iff_ne.mpr hne
  rcases hr with rfl | rfl
  · exact ⟨(field?_ofFields _ key).trans (by simp [List.lookup]),
      (field?_ofFields _ value).trans (by simp [List.lookup, hvalue])⟩
  · exact ⟨(field?_ofFields _ key).trans (by simp [List.lookup, hkey]),
      (field?_ofFields _ value).trans (by simp [List.lookup])⟩

theorem IsPairRecord.names {value : String} {e : String × Int} {r : Entries}
    (hr : IsPairRecord key value e r) :
    r.map Prod.fst = [key, value].map .str ∨ r.map Prod.fst = [value, key].map .str := by
  rcases hr with rfl | rfl
  · exact Or.inl rfl
  · exact Or.inr rfl

/-- The first of such records says in which order the columns are. The fields of the other records
are the same two, so nothing is added to the columns by them. -/
theorem columns_of_pairRecords {value : String} (hne : value ≠ key) {records : List Entries}
    (hsome : records ≠ []) (hrecords : ∀ r ∈ records, ∃ e, IsPairRecord key value e r) :
    (ofRecords records).columns = [.str key, .str value]
      ∨ (ofRecords records).columns = [.str value, .str key] := by
  have hnames : ∀ r ∈ records, ∃ names, r.map Prod.fst = names.map Value.str ∧ names.Nodup
      ∧ (names = [key, value] ∨ names = [value, key]) := by
    intro r hr
    obtain ⟨e, he⟩ := hrecords r hr
    rcases he.names with h | h
    · exact ⟨_, h, by simp [hne.symm], Or.inl rfl⟩
    · exact ⟨_, h, by simp [hne], Or.inr rfl⟩
  have hapart : ∀ r ∈ records, Value.NoneAgain (r.map Prod.fst) := by
    intro r hr
    obtain ⟨names, h, hnodup, -⟩ := hnames r hr
    exact h ▸ Value.noneAgain_texts hnodup
  cases records with
  | nil => exact absurd rfl hsome
  | cons first rest =>
      obtain ⟨names, hfirst, -, hcases⟩ := hnames first List.mem_cons_self
      -- later records have the same two fields
      have hseen : ∀ v ∈ fieldsOf rest, (first.map Prod.fst).any v.same = true := by
        intro v hv
        obtain ⟨r, hr, hv⟩ := List.mem_flatMap.mp hv
        obtain ⟨others, hothers, -, hcases'⟩ := hnames r (List.mem_cons_of_mem _ hr)
        rw [hothers] at hv
        obtain ⟨name, hname, rfl⟩ := List.mem_map.mp hv
        have hmem : name ∈ names := by
          rcases hcases with rfl | rfl <;> rcases hcases' with rfl | rfl <;> simp_all [or_comm]
        rw [hfirst]
        exact List.any_eq_true.mpr ⟨_, List.mem_map_of_mem hmem, Value.str_same_iff.mpr rfl⟩
      have hfirsts : Value.firsts (fieldsOf (first :: rest)) = names.map .str := by
        have halone := Value.firsts_of_noneAgain (hapart first List.mem_cons_self)
        unfold Value.firsts at halone ⊢
        unfold fieldsOf at hseen ⊢
        rw [List.flatMap_cons, List.foldl_append, halone, Value.foldl_appear_seen hseen, hfirst]
      rw [columns_ofRecords hapart, hfirsts, typedColumn_texts]
      rcases hcases with rfl | rfl
      · exact Or.inl rfl
      · exact Or.inr rfl

/-- What is looked up in records is what the pairs have. -/
theorem map_find?_of_pairRecords {name : String} {l : List (String × Int)}
    {records : List Entries} {R : String × Int → Entries → Prop} {f : String × Int → Value}
    (hrecords : List.Forall₂ R l records)
    (hfind : ∀ e r, R e r → r.find? (.str name) = some (f e)) :
    (records.map fun r => (r.find? (.str name)).getD notANumber) = l.map f := by
  induction hrecords with
  | nil => rfl
  | cons hfirst _ ih => rw [List.map_cons, List.map_cons, hfind _ _ hfirst, ih, Option.getD_some]

theorem typedColumn_ints (l : List Int) : typedColumn (l.map .int) = l.map .int := by
  unfold typedColumn
  have hwhole : (((l.map Value.int).map CellSort.of).all [CellSort.whole].contains) = true := by
    rw [List.map_map, List.all_map, List.all_eq_true]
    exact fun _ _ => rfl
  simp only [hwhole, Bool.or_true, if_true]

/-- Records of a key and a value each are the mapping itself. -/
theorem ofTable_pairRecords {value : String} (hne : value ≠ key) {l : List (String × Int)}
    (hl : (l.map Prod.fst).Nodup) (hsome : l ≠ []) {records : List Entries}
    (hrecords : List.Forall₂ (IsPairRecord key value) l records) :
    ofTable (ofRecords records) key = .ok (l.map fun e => (.str e.1, .int e.2)) := by
  have hcolumns := columns_of_pairRecords hne
    (fun h => hsome (List.forall₂_nil_right_iff.mp (h ▸ hrecords)))
    fun r hr => (exists_of_mem_forall₂ hrecords hr).imp fun _ h => h.2
  have hkeys : (records.map fun r => (r.find? (.str key)).getD notANumber)
      = (l.map Prod.fst).map .str := by
    rw [map_find?_of_pairRecords hrecords fun e r h => (h.find? hne).1, List.map_map]
    rfl
  have hvalues : (records.map fun r => (r.find? (.str value)).getD notANumber)
      = (l.map Prod.snd).map .int := by
    rw [map_find?_of_pairRecords hrecords fun e r h => (h.find? hne).2, List.map_map]
    rfl
  generalize ht : ofRecords records = t at hcolumns ⊢
  -- the first record says where the columns stand, and both cases go on alike
  have hplaces : t.columns.length = 2 ∧ cellAt (t.keyPosition key) t.columns = .str key
      ∧ cellAt (t.valuePosition key) t.columns = .str value := by
    rcases hcolumns with h | h
    · rw [(positions_of_keyFirst h).1, (positions_of_keyFirst h).2, h]
      exact ⟨rfl, rfl, rfl⟩
    · rw [(positions_of_keyLast hne h).1, (positions_of_keyLast hne h).2, h]
      exact ⟨rfl, rfl, rfl⟩
  obtain ⟨hwidth, hkey, hvalue⟩ := hplaces
  have hkeyColumn : columnAt (t.keyPosition key) t.rows = (l.map Prod.fst).map .str := by
    have hplace := keyPosition_lt (t := t) (by omega) key
    subst ht
    rw [columnAt_ofRecords hplace, hkey, hkeys, typedColumn_texts]
  have hvalueColumn : columnAt (t.valuePosition key) t.rows = (l.map Prod.snd).map .int := by
    have hplace := valuePosition_lt (t := t) hwidth.ge key
    subst ht
    rw [columnAt_ofRecords hplace, hvalue, hvalues, typedColumn_ints]
  refine ofTable_pairs hne hcolumns ?_ ?_ ?_
  · unfold columnAt at hkeyColumn hvalueColumn
    rw [← List.zip_map', hkeyColumn, hvalueColumn, List.map_map, List.map_map, List.zip_map']
    rfl
  · exact List.forall_mem_map.mpr fun _ _ => trivial
  · have hapart := Value.noneAgain_texts hl
    rw [List.map_map] at hapart ⊢
    exact hapart

/-! ## Data of any shape -/

/-- The data are the table, or records that make it. -/
def IsTableData (data : Value) (t : Table) : Prop :=
  data = .table t.columns t.rows
    ∨ ∃ records : List Entries, data = .list (records.map .map) ∧ t = ofRecords records

theorem ofData_table (columns : List Value) (rows : List (List Value)) (key : String) :
    ofData (.table columns rows) key = ofTable ⟨columns, rows⟩ key :=
  rfl

theorem ofData_tableData {data : Value} (hdata : IsTableData data t) (key : String) :
    ofData data key = ofTable t key := by
  rcases hdata with rfl | ⟨records, rfl, rfl⟩
  · rfl
  · unfold ofData
    simp only [mapM_entries?_eq_some.mpr rfl]

/-- Data give the same mapping whatever their shape, and a table gives each key of its key column
the value in the last row with that key, in the order in which the keys come. -/
theorem ofData_keyed (key : String) :
    (∀ (value : String) (m : Named Int), value ≠ key → m.entries ≠ [] →
      let es : Entries := m.entries.map fun e => (.str e.1, .int e.2)
      ofData (.map es) key = .ok es
        ∧ (∀ records, List.Forall₂ (IsPairRecord key value) m.entries records →
          ofData (.list (records.map .map)) key = .ok es)
        ∧ ofData (.table [.str key, .str value]
          (m.entries.map fun e => [.str e.1, .int e.2])) key = .ok es
        ∧ ofData (.table [.str value, .str key]
          (m.entries.map fun e => [.int e.2, .str e.1])) key = .ok es) ∧
    (∀ (data : Value) (t : Table), IsTableData data t → 2 ≤ t.columns.length →
      t.HasPlainHeader → t.KeyNameIsItself key →
      (∀ row ∈ t.rows, (cellAt (t.keyPosition key) row).IsKeyCell) →
      ∃ es, ofData data key = .ok es ∧ KeepsLast (t.rows.map fun row =>
        (cellAt (t.keyPosition key) row, cellAt (t.valuePosition key) row)) es) ∧
    ∀ records : List Entries, (∀ r ∈ records, Value.NoneAgain (r.map Prod.fst)) →
      (ofRecords records).columns = typedColumn (Value.firsts (fieldsOf records))
        ∧ ∀ i < (ofRecords records).columns.length,
          columnAt i (ofRecords records).rows = typedColumn (records.map fun r =>
            (r.find? (cellAt i (ofRecords records).columns)).getD notANumber) := by
  refine ⟨fun value m hne hsome => ?_, fun data t hdata hwidth hheader hkey hcells => ?_,
    fun records hrecords => ⟨columns_ofRecords hrecords, fun i hi => columnAt_ofRecords hi⟩⟩
  -- the keys are texts, and none of them comes twice in a mapping
  · have hcells : ∀ e ∈ m.entries.map fun e => (Value.str e.1, Value.int e.2), e.1.IsKeyCell :=
      List.forall_mem_map.mpr fun _ _ => trivial
    have hapart : Value.NoneAgain
        ((m.entries.map fun e => (Value.str e.1, Value.int e.2)).map Prod.fst) := by
      have htexts := Value.noneAgain_texts m.distinct
      rw [List.map_map] at htexts ⊢
      exact htexts
    refine ⟨rfl, fun records hrecords => ?_, ?_, ?_⟩
    · rw [ofData_tableData (Or.inr ⟨records, rfl, rfl⟩)]
      exact ofTable_pairRecords hne m.distinct hsome hrecords
    · obtain ⟨hkey, hvalue⟩ := positions_of_keyFirst (t := ⟨[.str key, .str value],
        m.entries.map fun e => [.str e.1, .int e.2]⟩) rfl
      rw [ofData_table]
      refine ofTable_pairs hne (Or.inl rfl) ?_ hcells hapart
      rw [hkey, hvalue, List.map_map]
      rfl
    · obtain ⟨hkey, hvalue⟩ := positions_of_keyLast hne (t := ⟨[.str value, .str key],
        m.entries.map fun e => [.int e.2, .str e.1]⟩) rfl
      rw [ofData_table]
      refine ofTable_pairs hne (Or.inr rfl) ?_ hcells hapart
      rw [hkey, hvalue, List.map_map]
      rfl
  · rw [ofData_tableData hdata]
    exact ofTable_keyed hwidth hheader hkey hcells

/-- Ann is paid twice, and the second amount counts. -/
theorem ofData_keyed_of_repeated :
    ofData (.list [.ofFields [("name", .str "ann"), ("pay", .int 3)],
        .ofFields [("pay", .int 2), ("name", .str "bob")]]) "name"
      = .ok [(.str "ann", .int 3), (.str "bob", .int 2)]
    ∧ (∃ es, ofData (.table [.str "pay", .str "name"]
        [[.int 1, .str "ann"], [.int 2, .str "bob"], [.int 3, .str "ann"]]) "name" = .ok es
      ∧ KeepsLast [(.str "ann", .int 1), (.str "bob", .int 2), (.str "ann", .int 3)] es)
    ∧ (ofRecords [ofFields [("name", .str "ann")], ofFields [("pay", .int 2)]]).columns
      = typedColumn (Value.firsts [.str "name", .str "pay"]) := by
  refine ⟨?_, ?_, ?_⟩
  · have hrecords := ((ofData_keyed "name").1 "pay" ⟨[("ann", 3), ("bob", 2)], by decide⟩
      (by decide) (by decide)).2.1
    exact hrecords [ofFields [("name", .str "ann"), ("pay", .int 3)],
      ofFields [("pay", .int 2), ("name", .str "bob")]] (.cons (.inl rfl) (.cons (.inr rfl) .nil))
  · have hplaces := positions_of_keyLast (by decide : "pay" ≠ "name")
      (t := ⟨[.str "pay", .str "name"],
        [[.int 1, .str "ann"], [.int 2, .str "bob"], [.int 3, .str "ann"]]⟩) rfl
    obtain ⟨es, hes, hrows⟩ := (ofData_keyed "name").2.1 _ ⟨[.str "pay", .str "name"],
      [[.int 1, .str "ann"], [.int 2, .str "bob"], [.int 3, .str "ann"]]⟩ (.inl rfl)
      (by decide) (hasPlainHeader_pair (by decide) rfl) (.inl (by decide +kernel)) (by
        rw [hplaces.1]
        simp [cellAt, Value.IsKeyCell])
    rw [hplaces.1, hplaces.2] at hrows
    exact ⟨es, hes, hrows⟩
  · refine ((ofData_keyed "name").2.2 _ (List.forall_mem_cons.mpr ⟨?_, List.forall_mem_singleton.mpr ?_⟩)).1
    · exact Value.noneAgain_texts (l := ["name"]) (by decide)
    · exact Value.noneAgain_texts (l := ["pay"]) (by decide)

/-- The name of the first column is no number, and so differs from itself: that column is taken for
the keys as well as for the values. -/
theorem not_keyed_of_missing_name :
    let t : Table := ⟨[notANumber, .float 1], [[.int 5, .int 6]]⟩
    2 ≤ t.columns.length ∧ t.HasPlainHeader
      ∧ (∀ row ∈ t.rows, (cellAt (t.keyPosition "k") row).IsKeyCell)
      ∧ ofData (.table t.columns t.rows) "k" = .ok [(.int 5, .int 5)]
      ∧ ¬ KeepsLast (t.rows.map fun row =>
        (cellAt (t.keyPosition "k") row, cellAt (t.valuePosition "k") row)) [(.int 5, .int 5)] := by
  intro t
  have hkey : t.keyPosition "k" = 0 := by decide +kernel
  have hvalue : t.valuePosition "k" = 1 := by decide +kernel
  have hunequal : notANumber.same notANumber = false := by decide +kernel
  have hcolumn : t.column? notANumber = some [.int 5] := by
    have hplaces : t.positions notANumber = [0] := by decide +kernel
    unfold column?
    rw [hplaces]
    rfl
  have htable : ofTable t "k" = .ok [(.int 5, .int 5)] := by
    have hfirst : cellAt 0 t.columns = notANumber := rfl
    -- the search for another name stops at the name of the keys itself, since that is unlike itself
    have hfound : t.columns.find? (fun c => !(c.same notANumber)) = some notANumber :=
      List.find?_cons_of_pos (by rw [hunequal]; rfl)
    unfold ofTable
    rw [keyName_eq, hkey, hfirst]
    simp only [hfound, hcolumn, Option.getD_some]
    rfl
  have hnames : HasDistinctNames t.columns := by
    intro i j hi hj
    have hall : ∀ i < 2, ∀ j < 2,
        (sameName (cellAt i t.columns) (cellAt j t.columns) = true ↔ i = j) := by decide +kernel
    exact hall i hi j hj
  refine ⟨by decide, ⟨hnames, by simp [t, notANumber, Value.areKeys, Value.isKey], rfl⟩, ?_, htable, ?_⟩
  · rw [hkey]
    exact List.forall_mem_singleton.mpr trivial
  · rw [hkey, hvalue]
    intro h
    obtain ⟨before, row, after, hrows, -, hrow, -⟩ := h.values _ List.mem_cons_self
    have hmem : row ∈ [(Value.int 5, Value.int 6)] := by
      have hrow := List.mem_append_right before (List.mem_cons_self : row ∈ row :: after)
      rwa [← hrows] at hrow
    obtain rfl := List.mem_singleton.mp hmem
    cases hrow

end Entries

end Rostering
