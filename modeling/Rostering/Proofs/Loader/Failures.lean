import Rostering.Proofs.Except
import Rostering.Proofs.Loader.Agreement

/-!
# How loading fails

Loading is to fail with an error of its source. What makes it fail with a bare fault instead is told by
four relations, one for each thing that loading does: asking the system, the network and the decoder
(`Loader.ReadingEscapes`), writing a source as a key (`Loader.LacksKey`), copying what is kept
(`World.CannotCopy`), and making tables and mappings of data (`Loader.Escapes`).

## The architecture

* **`KeyPath.fault_of_descend`**, **`Entries.ofData_fails`** — the faults of the two conversions.
* **`Loader.read_fails`**, **`Loader.load_fails`** — what reading adds to them, and what keeping does.
* **`Loader.materialize_fails`** — the step: one parameter fails with an error of its source, or a
  fault escapes.
* **`Loader.materializeAll_fails`** — the run: so do all of them, at the first that cannot be loaded.
-/

namespace Rostering

/-- The failures that are reported with the source they are of. -/
def Failure.IsSource : Failure → Prop
  | .source _ => True
  | _ => False

/-- The recipe for the data. -/
def Parameter.source? : Parameter → Option Source
  | .table _ s _ => some s
  | .mapping _ s _ => some s
  | .scalar _ _ => none

/-! ## Key paths -/

namespace KeyPath

/-- The step looks like a number and is none: it has two minus signs, say. -/
def IsMisnumbered (name : String) : Prop := looksNumeric name = true ∧ integerOfText? 10 name = none

/-- A step fails only where it looks like a number and is none. -/
theorem step_fails (name : String) (v : Value) :
    FailsWith (fun f => f = .malformed ∧ IsMisnumbered name) (step name v) := by
  unfold step
  split
  · exact .of_pure _ _
  · split
    · next hlooks =>
        split
        · exact .of_pure _ _
        · next hnone => exact .of_throw ⟨rfl, hlooks, hnone⟩
    · exact .of_pure _ _
  · exact .of_pure _ _

/-- A descent stops with a fault only at a step that is no number. Induction on the steps that are
left. -/
theorem fault_of_descendFrom {names : List String} : ∀ {tried : Nat} {v : Value} {f : Fault},
    descendFrom tried names v = .error (.fault f) →
      f = .malformed ∧ ∃ name ∈ names, IsMisnumbered name := by
  induction names with
  | nil => exact fun h => absurd h pure_ne_error
  | cons name names ih =>
      intro tried v f h
      rw [descendFrom] at h
      -- the step fails, or it finds nothing, or the descent goes on
      split at h
      · next f' hstep =>
          cases h
          obtain ⟨hf, hname⟩ := step_fails name v f hstep
          exact ⟨hf, name, List.mem_cons_self, hname⟩
      · cases h
      · obtain ⟨hf, other, hother, hno⟩ := ih h
        exact ⟨hf, other, List.mem_cons_of_mem name hother, hno⟩

theorem fault_of_descend {names : List String} {v : Value} {f : Fault}
    (h : descend names v = .error (.fault f)) : f = .malformed ∧ ∃ name ∈ names, IsMisnumbered name :=
  fault_of_descendFrom h

end KeyPath

/-! ## Mappings from tables -/

namespace Table

/-- The column that a mapping has its keys from: the one of that name, or else the first. -/
def keyColumn (t : Table) (key : String) : Value :=
  if t.hasColumn (.str key) then .str key else t.columns.headD .null

/-- All of several columns go by the name of the keys, and none is left for the values. -/
def IsAllKeys (t : Table) (key : String) : Prop :=
  2 ≤ t.columns.length ∧ ∀ c ∈ t.columns, c.same (t.keyColumn key) = true

/-- Some cell among the keys cannot be a key, or some name of a column cannot, by which columns are
looked up. -/
def HasUnfitKey (t : Table) (key : String) : Prop :=
  Value.areKeys t.columns = false
    ∨ ∃ cells, t.column? (t.keyColumn key) = some cells ∧ ∃ c ∈ cells, c.isKey = false

end Table

namespace Entries

/-- The table that a mapping is drawn from: the data themselves, or the one that records make. -/
def tableOf? : Value → Option Table
  | .table columns rows => some ⟨columns, rows⟩
  | .list items => (items.mapM Table.entries?).map Table.ofRecords
  | _ => none

/-- The fault is one of the table as such, or there are no values, or keys that cannot be keys. -/
def Rejects (t : Table) (key : String) (f : Fault) : Prop :=
  (∃ g, f = .table g) ∨ f = .exhausted ∧ t.IsAllKeys key ∨ f = .mistyped ∧ t.HasUnfitKey key

theorem ofCells_fails (keys values : List Value) :
    FailsWith (fun f => f = .mistyped ∧ ∃ c ∈ keys, c.isKey = false) (ofCells keys values) := by
  unfold ofCells
  split
  · exact .of_pure _ _
  · next hall =>
      refine .of_throw ⟨rfl, ?_⟩
      simpa using hall

/-- Drawing a mapping from a table fails if there are fewer than two columns, if all of them go by
the name of the keys, or if some name or key cannot be one. -/
theorem ofTable_fails (t : Table) (key : String) : FailsWith (Rejects t key) (ofTable t key) := by
  intro f h
  unfold ofTable at h
  dsimp only at h
  split at h
  · cases h
    exact Or.inl ⟨_, rfl⟩
  · next hwide =>
    have hwide : 2 ≤ t.columns.length := by omega
    -- the column of the keys, as it is chosen
    have hkey : (if t.hasColumn (.str key) then .str key else t.columns.headD .null)
        = t.keyColumn key := rfl
    rw [hkey] at h
    split at h
    · next hnone =>
        cases h
        refine Or.inr (Or.inl ⟨rfl, hwide, fun c hc => ?_⟩)
        simpa using List.find?_eq_none.mp hnone c hc
    · split at h
      · next hnames =>
          cases h
          exact Or.inr (Or.inr ⟨rfl, Or.inl (by simpa using hnames)⟩)
      · obtain ⟨rfl, c, hc, hunfit⟩ := ofCells_fails _ _ f h
        -- cells that cannot be keys are cells of that column
        cases hcolumn : t.column? (t.keyColumn key) with
        | none =>
            rw [hcolumn] at hc
            exact absurd hc List.not_mem_nil
        | some cells =>
            rw [hcolumn] at hc
            exact Or.inr (Or.inr ⟨rfl, Or.inr ⟨cells, hcolumn, c, hc, hunfit⟩⟩)

/-- Data fail to give a mapping if they make no table, or as their table does. -/
theorem ofData_fails (v : Value) (key : String) :
    FailsWith (fun f => (∃ g, f = .table g) ∨ ∃ t, tableOf? v = some t ∧ Rejects t key f)
      (ofData v key) := by
  unfold ofData
  split
  · exact .of_pure _ _
  · next columns rows =>
      exact (ofTable_fails _ key).mono fun f hf => Or.inr ⟨⟨columns, rows⟩, rfl, hf⟩
  · next items =>
      split
      · next records hrecords =>
          have htable : tableOf? (.list items) = some (Table.ofRecords records) := by
            show (items.mapM Table.entries?).map Table.ofRecords = _
            rw [hrecords]
            rfl
          exact (ofTable_fails _ key).mono fun f hf => Or.inr ⟨_, htable, hf⟩
      · exact .of_throw (Or.inl ⟨_, rfl⟩)
  · exact .of_throw (Or.inl ⟨_, rfl⟩)

end Entries

/-! ## Copies -/

/-- The value cannot be copied: it is no value but a reader, or the stack does not bear it. -/
inductive World.CannotCopy {σ : Type} (w : World σ) : Value → Fault → Prop
  | reader : w.CannotCopy .reader .mistyped
  | deep {v : Value} (hdeep : w.stack.copies v = false) : w.CannotCopy v .endless

theorem World.copy_fails {σ : Type} (w : World σ) (v : Value) :
    FailsWith (w.CannotCopy v) (w.copy v) := by
  unfold World.copy
  split
  · exact .of_throw .reader
  · split
    · exact .of_pure _ _
    · next hdeep => exact .of_throw (.deep (Bool.eq_false_iff.mpr hdeep))

namespace Loader

variable {σ : Type}

/-! ## Sources -/

theorem reject_fails {α : Type} {E : Failure → Prop} (s : Source) (fault : SourceFault)
    (hE : ∀ e, Failure.IsSource e → E e) : FailsWith E (reject s fault : Except Failure α) :=
  .of_throw (hE _ trivial)

/-- The fault escapes from reading a source. -/
inductive ReadingEscapes (l : Loader σ) (w : World σ) : Source → Fault → Prop
  /-- A name on the way to the file is longer than names may be, or the way as a whole is. -/
  | name {s : Source} {path : String}
      (hpath : (∃ options, s = .csv path options) ∨ ∃ steps, s = .json path steps)
      (hdenied : w.files.denies (.ofText path) = true
        ∨ w.files.denies (l.dataFolder.under (.ofText path)) = true) :
      ReadingEscapes l w s .overlongName
  /-- The file is nested too deeply to be read. -/
  | deepFile {path text : String} {steps : List String}
      (hfile : l.content? w.files path = .ok (some text)) (hdeep : w.stack.reads text = false) :
      ReadingEscapes l w (.json path steps) .endless
  /-- The key path has a step that looks like a number and is none. -/
  | step {path name : String} {steps : List String} (hmem : name ∈ steps)
      (hno : KeyPath.IsMisnumbered name) : ReadingEscapes l w (.json path steps) .malformed
  /-- The request could not be made. -/
  | request {url : String} {headers : Named String} {transform : Option String} {f : Fault}
      (hreply : w.reply url = .failed f) : ReadingEscapes l w (.api url headers transform) f
  /-- The answer is nested too deeply to be read. -/
  | deepAnswer {url body : String} {headers : Named String} {transform : Option String}
      {status : Nat} (hreply : w.reply url = .answered status body)
      (hdeep : w.stack.reads body = false) : ReadingEscapes l w (.api url headers transform) .endless

theorem call_fails (l : Loader σ) (w : World σ) (s : Source) (name : String) (args : List Value) :
    FailsWith Failure.IsSource (l.call w s name args).1 := by
  unfold call
  split
  · exact reject_fails s _ fun _ h => h
  · split
    · exact .of_pure _ _
    · exact reject_fails s _ fun _ h => h

/-- A request fails with an error of the source, unless it cannot be made or its answer is nested
too deeply. -/
theorem fetch_fails (l : Loader σ) (w : World σ) (s : Source) (url : String)
    (headers : Named String) (transform : Option String) :
    FailsWith (fun e => e.IsSource ∨ ∃ f, e = .fault f
      ∧ l.ReadingEscapes w (.api url headers transform) f) (l.fetch w s url headers transform).1 := by
  unfold fetch World.send
  -- no answer, none that could be asked for, or an answer whose status and text are looked at in
  -- turn
  cases hreply : w.reply url with
  | lost reason => exact reject_fails s _ fun _ => Or.inl
  | failed f => exact .of_throw (Or.inr ⟨f, rfl, .request hreply⟩)
  | answered status body =>
      simp only
      split
      · exact reject_fails s _ fun _ => Or.inl
      · split
        · next hdeep => exact .of_throw (Or.inr ⟨_, rfl, .deepAnswer hreply (by simpa using hdeep)⟩)
        · split
          · exact reject_fails s _ fun _ => Or.inl
          · exact .of_pure _ _
          · exact (call_fails _ _ _ _ _).mono fun _ => Or.inl

/-- Looking for a file only fails where the system refuses. A path that is not absolute is looked
for at two places, and either of them can be refused. -/
theorem content?_fails (l : Loader σ) (files : Directory) (path : String) :
    FailsWith (fun f => f = .overlongName ∧ (files.denies (.ofText path) = true
      ∨ files.denies (l.dataFolder.under (.ofText path)) = true)) (l.content? files path) := by
  have hexists : ∀ p, FailsWith (fun f => f = .overlongName ∧ files.denies p = true)
      (exists? files p) := by
    intro p
    unfold exists?
    split
    · next hdenied => exact .of_throw ⟨rfl, hdenied⟩
    · exact .of_pure _ _
  -- the path that is settled on is one of the two, so it has been asked for already or is absolute
  have hresolve : FailsWith (fun f => f = .overlongName ∧ (files.denies (.ofText path) = true
      ∨ files.denies (l.dataFolder.under (.ofText path)) = true)) (l.resolve files path)
      ∧ ∀ p, l.resolve files path = .ok p →
        p = .ofText path ∨ p = l.dataFolder.under (.ofText path) := by
    unfold resolve
    dsimp only
    split
    · exact ⟨.of_pure _ _, fun p hp => Or.inl (pure_eq_ok.mp hp).symm⟩
    · constructor
      · refine ((hexists _).mono fun f hf => ⟨hf.1, Or.inl hf.2⟩).bind fun here _ => ?_
        split
        · exact .of_pure _ _
        · refine ((hexists _).mono fun f hf => ⟨hf.1, Or.inr hf.2⟩).bind fun there _ => ?_
          split
          · exact .of_pure _ _
          · exact .of_pure _ _
      · intro p hp
        obtain ⟨here, -, hp⟩ := bind_eq_ok.mp hp
        split at hp
        · exact Or.inl (pure_eq_ok.mp hp).symm
        · obtain ⟨there, -, hp⟩ := bind_eq_ok.mp hp
          split at hp
          · exact Or.inr (pure_eq_ok.mp hp).symm
          · exact Or.inl (pure_eq_ok.mp hp).symm
  unfold content?
  refine hresolve.1.bind fun p hp => ?_
  split
  · next hdenied =>
      rcases hresolve.2 p hp with rfl | rfl
      · exact .of_throw ⟨rfl, Or.inl hdenied⟩
      · exact .of_throw ⟨rfl, Or.inr hdenied⟩
  · exact .of_pure _ _

/-- Reading rows of text lets a fault escape only while the file is looked for: all that the library
says is reported. -/
theorem readCsv_fails (l : Loader σ) (w : World σ) (s : Source) (path : String)
    (options : Entries) : FailsWith (fun e => e.IsSource ∨ ∃ f, e = .fault f
      ∧ l.ReadingEscapes w (.csv path options) f) (l.readCsv w s path options) := by
  unfold readCsv
  refine FailsWith.bind (FailsWith.mapError ((content?_fails l w.files path).mono ?_)) fun text? _ => ?_
  · rintro f ⟨rfl, hdenied⟩
    exact Or.inr ⟨_, rfl, .name (Or.inl ⟨options, rfl⟩) hdenied⟩
  · split
    · exact reject_fails s _ fun _ => Or.inl
    · split
      · split
        · exact .of_pure _ _
        · exact reject_fails s _ fun _ => Or.inl
      · split
        · exact .of_pure _ _
        · exact .of_pure _ _
        · exact reject_fails s _ fun _ => Or.inl

/-- Reading a document lets a fault escape while the file is looked for, while a text is decoded
that is nested too deeply, and at a step that is no number. -/
theorem readJson_fails (l : Loader σ) (w : World σ) (s : Source) (path : String)
    (steps : List String) : FailsWith (fun e => e.IsSource ∨ ∃ f, e = .fault f
      ∧ l.ReadingEscapes w (.json path steps) f) (l.readJson w s path steps) := by
  unfold readJson
  refine FailsWith.bind (FailsWith.mapError ((content?_fails l w.files path).mono ?_))
    fun text? htext => ?_
  · rintro f ⟨rfl, hdenied⟩
    exact Or.inr ⟨_, rfl, .name (Or.inr ⟨steps, rfl⟩) hdenied⟩
  · split
    · exact reject_fails s _ fun _ => Or.inl
    · next text =>
      have hfile : l.content? w.files path = .ok (some text) := mapError_eq_ok.mp htext
      split
      · next hdeep =>
          exact .of_throw (Or.inr ⟨_, rfl, .deepFile hfile (by simpa using hdeep)⟩)
      · split
        · exact reject_fails s _ fun _ => Or.inl
        · split
          · exact .of_pure _ _
          · exact reject_fails s _ fun _ => Or.inl
          · next hdescend =>
              obtain ⟨rfl, name, hmem, hno⟩ := KeyPath.fault_of_descend hdescend
              exact .of_throw (Or.inr ⟨_, rfl, .step hmem hno⟩)

/-- Reading fails with an error of the source, or a fault escapes. -/
theorem read_fails (l : Loader σ) (w : World σ) (s : Source) :
    FailsWith (fun e => e.IsSource ∨ ∃ f, e = .fault f ∧ l.ReadingEscapes w s f)
      (l.read w s).1 := by
  cases s with
  | csv path options => exact readCsv_fails l w _ path options
  | json path steps => exact readJson_fails l w _ path steps
  | api url headers transform => exact fetch_fails l w _ url headers transform
  | function name args => exact (call_fails _ _ _ _ _).mono fun _ => Or.inl
  | literal data => exact .of_pure _ _

/-- The source cannot be written as a key. -/
inductive LacksKey (stack : Stack) (s : Source) : Fault → Prop
  /-- Its values are nested too deeply. -/
  | deep (h : stack.writes (Config.encodeSource s) = false) : LacksKey stack s .endless
  /-- Some value in it holds itself. -/
  | again (h : (Config.encodeSource s).isEndless = true) : LacksKey stack s .malformed
  /-- Some mapping in it has keys without an order. -/
  | order (h : (Json.sortKeys (Config.encodeSource s)).bind (Json.print? .spaced) = none) :
      LacksKey stack s .mistyped
  /-- Some whole number in it has too many digits. -/
  | digits (h : (Config.encodeSource s).hasText = false) : LacksKey stack s .overlong

theorem memoKey_fails (stack : Stack) (s : Source) : FailsWith (LacksKey stack s) (memoKey stack s) := by
  unfold memoKey
  dsimp only
  split
  · next hdeep => exact .of_throw (.deep (by simpa using hdeep))
  · split
    · next hagain => exact .of_throw (.again hagain)
    · split
      · next hnone => exact .of_throw (.order hnone)
      · split
        · exact .of_pure _ _
        · next hlong => exact .of_throw (.digits (by simpa using hlong))

/-- The fault escapes from loading a source. Copies and keys are only made of what is kept. -/
inductive LoadingEscapes (l : Loader σ) (w : World σ) (s : Source) : Fault → Prop
  | reading {f : Fault} (h : l.ReadingEscapes w s f) : LoadingEscapes l w s f
  | key {f : Fault} (hkeeps : l.keeps = true) (hlive : isLive s = false) (h : LacksKey w.stack s f) :
      LoadingEscapes l w s f
  | copy {v : Value} {f : Fault} (hkeeps : l.keeps = true) (hlive : isLive s = false)
      (hdata : (l.read w s).1 = .ok v ∨ ∃ key, l.memo.find? key = some v)
      (h : w.CannotCopy v f) : LoadingEscapes l w s f

/-- What escapes from loading comes from reading, from writing the key, or from copying; the latter
two only if the loader keeps what it loads. -/
theorem load_fails (l : Loader σ) (w : World σ) (s : Source) :
    FailsWith (fun e => e.IsSource ∨ ∃ f, e = .fault f ∧ l.LoadingEscapes w s f)
      (l.load w s).1 := by
  have hread : FailsWith (fun e => e.IsSource ∨ ∃ f, e = .fault f ∧ l.LoadingEscapes w s f)
      (l.read w s).1 := by
    refine (read_fails l w s).mono fun e he => he.imp_right ?_
    rintro ⟨f, rfl, hf⟩
    exact ⟨f, rfl, .reading hf⟩
  unfold load
  split
  · exact hread
  · next hkept =>
      -- from here on the loader keeps, and the source is none that is live
      obtain ⟨hkeeps, hlive⟩ : l.keeps = true ∧ isLive s = false := by simpa using hkept
      split
      · next f hkey =>
          exact .of_throw (Or.inr ⟨f, rfl, .key hkeeps hlive (memoKey_fails _ _ f hkey)⟩)
      · next key _ =>
          split
          · next v hfound =>
              refine FailsWith.mapError ((w.copy_fails v).mono fun f hf => Or.inr ⟨f, rfl, ?_⟩)
              exact .copy hkeeps hlive (Or.inr ⟨key, hfound⟩) hf
          · split
            · next e w' heq =>
                rw [heq] at hread
                exact hread
            · next v w' heq =>
                split
                · exact .of_pure _ _
                · next f hf =>
                    have hdata : (l.read w s).1 = .ok v := congrArg Prod.fst heq
                    -- reading a file or a literal leaves the world as it is, so the copy is made in
                    -- the same one
                    obtain rfl : w' = w :=
                      (congrArg Prod.snd heq).symm.trans (read_snd l w hlive)
                    exact .of_throw (Or.inr ⟨f, rfl,
                      .copy hkeeps hlive (Or.inl hdata) (World.copy_fails _ v f hf)⟩)

/-! ## Parameters -/

/-- The fault escapes from loading the data of a parameter. -/
inductive Escapes (l : Loader σ) (w : World σ) : Parameter → Fault → Prop
  | source {p : Parameter} {s : Source} {f : Fault} (hsource : p.source? = some s)
      (h : l.LoadingEscapes w s f) : Escapes l w p f
  /-- A column of a table is given as a set. -/
  | unordered {schema : List String} {s : Source} {data : Option Table} {v : Value}
      (hload : (l.load w s).1 = .ok v) (hset : Table.isUnordered v = true) :
      Escapes l w (.table schema s data) .mistyped
  /-- The data of a mapping are a table that has nothing but columns of the keys. -/
  | allKeys {key : String} {s : Source} {data : Option Entries} {v : Value} {t : Table}
      (hload : (l.load w s).1 = .ok v) (htable : Entries.tableOf? v = some t)
      (hall : t.IsAllKeys key) : Escapes l w (.mapping key s data) .exhausted
  /-- Lists or mappings stand where the keys of a mapping are to come from, or for a column. -/
  | unfitKey {key : String} {s : Source} {data : Option Entries} {v : Value} {t : Table}
      (hload : (l.load w s).1 = .ok v) (htable : Entries.tableOf? v = some t)
      (hunfit : t.HasUnfitKey key) : Escapes l w (.mapping key s data) .mistyped

/-- A loading that fails with a fault lets it escape from the parameter it is for. -/
theorem escapes_of_load {l : Loader σ} {w : World σ} {s : Source} {p : Parameter}
    (hsource : p.source? = some s) :
    FailsWith (fun e => e.IsSource ∨ ∃ f, e = .fault f ∧ l.Escapes w p f) (l.load w s).1 := by
  refine (load_fails l w s).mono fun e he => he.imp_right ?_
  rintro ⟨f, rfl, hf⟩
  exact ⟨f, rfl, .source hsource hf⟩

/-- The data of one parameter fail to load with an error of its source, or else a fault escapes.
What is loaded still has to fit the schema, and a misfit is a failure of the source too. -/
theorem materialize_fails (l : Loader σ) (w : World σ) (p : Parameter) :
    FailsWith (fun e => e.IsSource ∨ ∃ f, e = .fault f ∧ l.Escapes w p f)
      (l.materialize w p).1 := by
  cases p with
  | scalar value type => exact .of_pure _ _
  | table schema s data =>
      refine (escapes_of_load rfl).bind fun v hload => FailsWith.map ?_
      unfold tableFrom
      split
      · next hset => exact .of_throw (Or.inr ⟨_, rfl, .unordered hload hset⟩)
      · split
        · exact .of_pure _ _
        · exact reject_fails s _ fun _ => Or.inl
  | mapping key s data =>
      refine (escapes_of_load rfl).bind fun v hload => FailsWith.map ?_
      have hconvert := Entries.ofData_fails v key
      unfold mappingFrom
      split
      · exact .of_pure _ _
      · exact reject_fails s _ fun _ => Or.inl
      · next f hbare hf =>
          refine .of_throw (Or.inr ⟨f, rfl, ?_⟩)
          -- a fault of the table itself is an error of the source
          rcases hconvert f hf with ⟨g, rfl⟩ | ⟨t, ht, ⟨g, rfl⟩ | ⟨rfl, hall⟩ | ⟨rfl, hunfit⟩⟩
          · exact absurd rfl (hbare g)
          · exact absurd rfl (hbare g)
          · exact .allKeys hload ht hall
          · exact .unfitKey hload ht hunfit

/-! ## All parameters -/

/-- Loading gets as far as this parameter, which has no data, with this loader and in this world. -/
structure Reaches (l : Loader σ) (w : World σ) (es : List (String × Parameter)) (p : Parameter)
    (l' : Loader σ) (w' : World σ) : Prop where
  pending : isPending p = true
  loaded : ∃ before name after qs, es = before ++ (name, p) :: after
    ∧ l.materializeEntries w before = (.ok qs, l', w')

theorem Reaches.here (l : Loader σ) (w : World σ) (name : String) {p : Parameter}
    (es : List (String × Parameter)) (hp : isPending p = true) :
    l.Reaches w ((name, p) :: es) p l w :=
  ⟨hp, [], name, es, [], rfl, rfl⟩

/-- One parameter further: what was settled first does not matter. -/
theorem Reaches.later {l l' l'' : Loader σ} {w w' w'' : World σ} {name : String}
    {p q r : Parameter} {es : List (String × Parameter)}
    (hfirst : l.settle w q = (.ok r, l', w')) (h : l'.Reaches w' es p l'' w'') :
    l.Reaches w ((name, q) :: es) p l'' w'' := by
  obtain ⟨hp, before, other, after, qs, rfl, hqs⟩ := h
  refine ⟨hp, (name, q) :: before, other, after, (name, r) :: qs, rfl, ?_⟩
  rw [materializeEntries_cons, hfirst]
  simp only [hqs]
  rfl

/-- Loading parameters one after the other fails with an error of a source, or a fault escapes from
one that it gets to. Induction on the parameters that are left. -/
theorem materializeEntries_fails (es : List (String × Parameter)) :
    ∀ (l : Loader σ) (w : World σ),
      FailsWith (fun e => e.IsSource ∨ ∃ p l' w' f, l.Reaches w es p l' w' ∧ e = .fault f
        ∧ l'.Escapes w' p f) (l.materializeEntries w es).1 := by
  induction es with
  | nil => exact fun l w => .of_pure _ _
  | cons first es ih =>
      intro l w e h
      obtain ⟨name, q⟩ := first
      rw [materializeEntries_cons] at h
      rcases hfirst : l.settle w q with ⟨result, l', w'⟩
      rw [hfirst] at h
      cases result with
      | error e' =>
          cases h
          -- what has its data is not loaded, and so does not fail
          have hpending : isPending q = true := by
            by_contra hnot
            rw [settle, if_neg hnot] at hfirst
            cases hfirst
          rw [settle, if_pos hpending] at hfirst
          refine (materialize_fails l w q e (congrArg Prod.fst hfirst)).imp_right ?_
          rintro ⟨f, rfl, hescapes⟩
          exact ⟨q, l, w, f, .here l w name es hpending, rfl, hescapes⟩
      | ok r =>
          have hrest : FailsWith _ ((l'.materializeEntries w' es).1.map ((name, r) :: ·)) :=
            (ih l' w').map
          refine (hrest e h).imp_right ?_
          rintro ⟨p, l'', w'', f, hreaches, rfl, hescapes⟩
          exact ⟨p, l'', w'', f, hreaches.later hfirst, rfl, hescapes⟩

theorem materializeAll_fails (l : Loader σ) (w : World σ) (s : Specification) :
    FailsWith (fun e => e.IsSource ∨ ∃ p l' w' f, l.Reaches w s.parameters.entries p l' w'
      ∧ e = .fault f ∧ l'.Escapes w' p f) (l.materializeAll w s).1 :=
  (materializeEntries_fails s.parameters.entries l w).map

end Loader

end Rostering
