import Rostering.Proofs.Config.JsonText
import Rostering.Proofs.Config.WellFormed
import Rostering.Proofs.Loader.Agreement
import Rostering.Proofs.Table.Shapes

/-!
# Specifications stay well-formed

A specification is read from a configuration and then revised: patches are applied, data are loaded,
options are set. Whatever the order, what comes out is well-formed, and data of a table have the
columns of its schema. Rows or records that a patch hands in give a table with these columns, in
order, and no others, for as long as no other patch writes there
(`Specification.wellFormed_of_revisions`).

Names of entries, of arguments and of headers are texts by their type.

## The architecture

* **`Table.hasColumn_of_ofData`** — the columns that a table has that was made of data.
* **`Loader.Settled`** — all that loading can make of a parameter, one constructor for each case, and
  `Loader.related_of_materializeAll` for all the parameters of a specification.
* **`Revision.apply_wellFormed`**, **`Revision.apply_hasColumns`** — a revision keeps a specification
  well-formed and its tables complete.
* **`Revision.apply_hasExactColumns`** — only a patch replaces rows that are there.
-/

namespace Rostering

/-! ## The columns of a table -/

namespace Table

variable {schema : List String} {t : Table}

/-- What passes the last check of `ofData` has the columns of the schema. -/
theorem eq_ok_of_checked {made : Except TableFault Table}
    (ht : (made >>= fun table =>
      if (schema.filter fun c => !table.hasColumn (.str c)).isEmpty then pure table
      else throw (TableFault.columnsMissing (schema.filter fun c => !table.hasColumn (.str c))
        table.columns)) = .ok t) :
    made = .ok t ∧ ∀ c ∈ schema, t.hasColumn (.str c) = true := by
  obtain ⟨table, hmade, ht⟩ := bind_eq_ok.mp ht
  split at ht
  · next hmissing =>
      rw [pure_eq_ok] at ht
      subst ht
      exact ⟨hmade, by simpa using hmissing⟩
  · exact absurd ht throw_ne_ok

/-- A table that was made for a schema has its columns. -/
theorem hasColumn_of_ofData {v : Value} (ht : ofData v schema = .ok t) :
    ∀ c ∈ schema, t.hasColumn (.str c) = true := by
  unfold ofData at ht
  simp only at ht
  split at ht <;> exact (eq_ok_of_checked ht).2

end Table

/-! ## Data of tables -/

/-- The data of a table have all columns of its schema. -/
def Parameter.HasColumns : Parameter → Prop
  | .table schema _ (some t) => ∀ c ∈ schema, t.hasColumn (.str c) = true
  | _ => True

namespace Specification

/-- Every table has all columns of its schema. -/
def HasColumns (s : Specification) : Prop := ∀ e ∈ s.parameters.entries, e.2.HasColumns

/-- If a table is declared under the name, it has data with the columns of its schema, in order, and
no others. -/
def HasExactColumns (s : Specification) (name : String) : Prop :=
  ∀ schema source data, s.parameters.find? name = some (.table schema source data) →
    ∃ rows, data = some ⟨schema.map .str, rows⟩

end Specification

/-! ## Loading -/

namespace Loader

variable {σ : Type}

/-- What loading can make of a parameter: the data of a table have the columns of its schema, and
data that are there are left alone. -/
inductive Settled : Parameter → Parameter → Prop where
  | kept {p : Parameter} (hp : isPending p = false) : Settled p p
  | table {schema : List String} {source : Source} {t : Table}
      (ht : ∀ c ∈ schema, t.hasColumn (.str c) = true) :
      Settled (.table schema source none) (.table schema source (some t))
  | mapping {key : String} {source : Source} (es : Entries) :
      Settled (.mapping key source none) (.mapping key source (some es))

theorem Settled.wellFormed {p q : Parameter} (h : Settled p q) (hp : p.WellFormed) :
    q.WellFormed := by
  cases h with
  | kept => exact hp
  | table => exact hp
  | mapping => exact hp

theorem Settled.hasColumns {p q : Parameter} (h : Settled p q) (hp : p.HasColumns) :
    q.HasColumns := by
  cases h with
  | kept => exact hp
  | table ht => exact ht
  | mapping => trivial

theorem Settled.isPending_eq_false {p q : Parameter} (h : Settled p q) : isPending q = false := by
  cases h with
  | kept hp => exact hp
  | table => rfl
  | mapping => rfl

/-- Loading settles a parameter. What is pending is a table or a mapping without data, and what the
loader gives for it is checked before it is kept. -/
theorem settled_of_settle {l : Loader σ} {w : World σ} {p q : Parameter}
    (hq : (l.settle w p).1 = .ok q) : Settled p q := by
  unfold settle at hq
  split at hq
  · next hpending =>
      -- only these two kinds can be pending
      match p with
      | .table schema source none =>
          obtain ⟨v, -, hq⟩ := bind_eq_ok.mp hq
          obtain ⟨t, ht, rfl⟩ := map_eq_ok.mp hq
          refine .table (Table.hasColumn_of_ofData (v := v) ?_)
          unfold tableFrom at ht
          split at ht
          · exact absurd ht throw_ne_ok
          split at ht
          · next t' hmade =>
              rw [pure_eq_ok] at ht
              exact ht ▸ hmade
          · exact absurd ht throw_ne_ok
      | .mapping key source none =>
          obtain ⟨v, -, hq⟩ := bind_eq_ok.mp hq
          obtain ⟨es, -, rfl⟩ := map_eq_ok.mp hq
          exact .mapping es
  · next hready =>
      cases hq
      exact .kept (Bool.eq_false_iff.mpr hready)

/-- Each parameter is settled, in its place. Induction on the parameters that are left. -/
theorem settled_of_materializeEntries (es : List (String × Parameter)) :
    ∀ {l : Loader σ} {w : World σ} {fs : List (String × Parameter)},
      (l.materializeEntries w es).1 = .ok fs →
        List.Forall₂ (fun e f => e.1 = f.1 ∧ Settled e.2 f.2) es fs := by
  induction es with
  | nil =>
      intro l w fs hfs
      cases hfs
      exact .nil
  | cons e es ih =>
      intro l w fs hfs
      obtain ⟨name, p⟩ := e
      rw [materializeEntries_cons] at hfs
      rcases hfirst : l.settle w p with ⟨result, l₁, w₁⟩
      rw [hfirst] at hfs
      cases result with
      | error e => cases hfs
      | ok q =>
          obtain ⟨rest, hrest, rfl⟩ := map_eq_ok.mp hfs
          exact .cons ⟨rfl, settled_of_settle (congrArg Prod.fst hfirst)⟩ (ih hrest)

/-- Loading all data settles the parameters and leaves everything else as it was. -/
theorem related_of_materializeAll {l : Loader σ} {w : World σ} {s t : Specification}
    (ht : (l.materializeAll w s).1 = .ok t) :
    t = { s with parameters := t.parameters } ∧ s.parameters.Related Settled t.parameters := by
  obtain ⟨es, hes, rfl⟩ := map_eq_ok.mp ht
  exact ⟨rfl, Named.related_ofList (settled_of_materializeEntries _ hes)⟩

end Loader

/-! ## Revisions -/

/-- A step that makes a specification of another. -/
inductive Revision (σ : Type) where
  | patch (p : Patch)
  | load (l : Loader σ) (w : World σ)
  | option (name : String) (v : Value)

namespace Revision

variable {σ : Type}

/-- What a revision makes of a specification. -/
def apply : Revision σ → Specification → Except Failure Specification
  | .patch p, s => p.apply s
  | .load l w, s => (l.materializeAll w s).1
  | .option name v, s => pure (s.withOption name v)

/-- Applies revisions one after the other, until one fails. -/
def applyAll (rs : List (Revision σ)) (s : Specification) : Except Failure Specification :=
  rs.foldlM (fun s r => r.apply s) s

variable {r : Revision σ} {s t : Specification}

/-- A patch that is applied changes one entry. -/
theorem changes_of_apply_patch {p : Patch} (ht : (patch p : Revision σ).apply s = .ok t) :
    ∃ c, p.Changes s c ∧ t = c.into s :=
  Patch.changes_of_apply ht

/-- Every revision keeps a specification well-formed. -/
theorem apply_wellFormed (hs : s.WellFormed) (ht : r.apply s = .ok t) : t.WellFormed := by
  cases r with
  | patch p => exact Patch.apply_wellFormed hs ht
  | load l w =>
      obtain ⟨hrest, hsettled⟩ := Loader.related_of_materializeAll ht
      have hparameters : ∀ e ∈ t.parameters.entries, e.2.WellFormed := by
        intro e he
        obtain ⟨p, hp, hpq⟩ := hsettled.exists_of_mem he
        exact hpq.wellFormed (hs.parameters _ hp)
      rw [hrest]
      exact { hs with parameters := hparameters }
  | option name v =>
      rw [apply, pure_eq_ok] at ht
      exact ht ▸ hs.withOption name v

/-- Every revision keeps the tables complete: patches and loading check new rows against the schema,
and nothing else touches rows. -/
theorem apply_hasColumns (hs : s.HasColumns) (ht : r.apply s = .ok t) : t.HasColumns := by
  cases r with
  | patch p =>
      obtain ⟨c, hc, rfl⟩ := changes_of_apply_patch ht
      cases hc with
      | option => exact hs
      | index => exact hs
      | overrides => exact hs
      | parameter _ _ hupdates =>
          refine Named.forall_insert hs ?_
          -- only a table has columns, and its new data were made with its schema
          cases hupdates with
          | table _ hmade => exact Table.hasColumn_of_ofData hmade
          | mapping => trivial
          | scalar => trivial
  | load l w =>
      intro e he
      obtain ⟨p, hp, hpq⟩ := (Loader.related_of_materializeAll ht).2.exists_of_mem he
      exact hpq.hasColumns (hs _ hp)
  | option name v =>
      rw [apply, pure_eq_ok] at ht
      exact ht ▸ hs

/-- A patch of a table hands in rows or records, which leaves exactly the columns of the schema. -/
theorem hasExactColumns_of_patch {p : Patch} {name : String} (hpath : p.path = ["parameters", name])
    (ht : (patch p : Revision σ).apply s = .ok t) : t.HasExactColumns name := by
  obtain ⟨c, hc, rfl⟩ := changes_of_apply_patch ht
  have hwritten := hc.path_eq.trans hpath
  -- the path says that it is a parameter, and the other sections have other paths
  match c, hc with
  | .parameter other r, .parameter _ _ hupdates =>
      obtain rfl : other = name := by simpa [Change.path] using hwritten
      intro schema source data hfound
      simp only [Change.into, Specification.withParameter, Named.find?_insert, if_true] at hfound
      cases hfound
      cases hupdates with
      | @table _ _ _ _ made hitems hmade =>
          rw [hitems] at hmade
          exact ⟨made.rows, by rw [← Table.columns_of_ofData_list hmade]⟩
  | .option .., _ => simp [Change.path] at hwritten
  | .index .., _ => simp [Change.path] at hwritten
  | .overrides .., _ => simp [Change.path] at hwritten

/-- Only a patch of the same entry replaces the rows of a table. Loading leaves data that are there,
and other patches do not reach the table. -/
theorem apply_hasExactColumns {name : String} (hs : s.HasExactColumns name)
    (hother : ∀ p, r = .patch p → p.path ≠ ["parameters", name]) (ht : r.apply s = .ok t) :
    t.HasExactColumns name := by
  cases r with
  | patch p =>
      obtain ⟨c, hc, rfl⟩ := changes_of_apply_patch ht
      cases hc with
      | option => exact hs
      | index => exact hs
      | overrides => exact hs
      | @parameter other q r hpath _ _ =>
          have hne : ¬ name = other := by
            rintro rfl
            exact hother p rfl hpath
          intro schema source data hfound
          simp only [Change.into, Specification.withParameter, Named.find?_insert, if_neg hne]
            at hfound
          exact hs schema source data hfound
  | load l w =>
      intro schema source data hfound
      have hrelated := (Loader.related_of_materializeAll ht).2.find? name
      rw [hfound] at hrelated
      cases hold : s.parameters.find? name with
      | none =>
          rw [hold] at hrelated
          cases hrelated
      | some p =>
          rw [hold] at hrelated
          cases hrelated with
          | some hsettled =>
              cases hsettled with
              | kept => exact hs schema source data hold
              | table =>
                  -- the rows were there before, so there was nothing to load
                  obtain ⟨rows, hrows⟩ := hs _ _ _ hold
                  cases hrows
  | option name v =>
      rw [apply, pure_eq_ok] at ht
      exact ht ▸ hs

/-! ## Runs of revisions -/

/-- What each revision keeps is kept by any number of them. Induction on the revisions. -/
theorem applyAll_induction {P : Specification → Prop} (rs : List (Revision σ))
    (hstep : ∀ r ∈ rs, ∀ {s t}, P s → r.apply s = .ok t → P t) :
    ∀ {s t}, P s → applyAll rs s = .ok t → P t := by
  induction rs with
  | nil =>
      intro s t hs ht
      rw [applyAll, List.foldlM_nil, pure_eq_ok] at ht
      exact ht ▸ hs
  | cons r rs ih =>
      intro s t hs ht
      rw [applyAll, List.foldlM_cons] at ht
      obtain ⟨u, hu, ht⟩ := bind_eq_ok.mp ht
      exact ih (fun r hr => hstep r (List.mem_cons_of_mem _ hr))
        (hstep r List.mem_cons_self hs hu) ht

/-- Rows and records that were handed in stand under exactly the columns of the schema until
somebody else hands in something. -/
theorem applyAll_hasExactColumns {before after : List (Revision σ)} {p : Patch} {name : String}
    (hpath : p.path = ["parameters", name])
    (hlast : ∀ q, .patch q ∈ after → q.path ≠ ["parameters", name])
    (ht : applyAll (before ++ .patch p :: after) s = .ok t) : t.HasExactColumns name := by
  rw [applyAll, List.foldlM_append] at ht
  obtain ⟨u, -, ht⟩ := bind_eq_ok.mp ht
  rw [List.foldlM_cons] at ht
  obtain ⟨v, hv, ht⟩ := bind_eq_ok.mp ht
  have hpatched := hasExactColumns_of_patch hpath hv
  refine applyAll_induction (P := fun s => s.HasExactColumns name) after ?_ hpatched ht
  intro r hr s t hs ht
  exact apply_hasExactColumns hs (fun q hq => hlast q (hq ▸ hr)) ht

end Revision

/-! ## The result -/

/-- A configuration that is accepted carries no data yet. -/
theorem Config.decode_hasColumns {es : Entries} {s : Specification} (hs : decode es = .ok s) :
    s.HasColumns := by
  rw [← withoutData_of_decode hs]
  intro e he
  obtain ⟨declared, -, rfl⟩ := List.mem_map.mp he
  cases declared.2 <;> trivial

namespace Specification

variable {σ : Type}

/-- Whatever revisions succeed on a configuration that was accepted, the specification is
well-formed: its template is named, its ranges run forward, its lists, schemas and keys are not
empty, scalars are of their types, where truth values are no numbers, and overrides stand in known
phases and have targets. Data of tables have all columns of their schemas, and exactly those, in
order, where the last patch brought rows or records. -/
theorem wellFormed_of_revisions {es : Entries} {s t : Specification} {rs : List (Revision σ)}
    (hs : Config.decode es = .ok s) (ht : Revision.applyAll rs s = .ok t) :
    t.WellFormed ∧ t.HasColumns
      ∧ (∀ e ∈ t.parameters.entries, ∀ b type, e.2 = .scalar (.bool b) type →
          type ≠ .int ∧ type ≠ .float)
      ∧ ∀ before p after name, rs = before ++ .patch p :: after → p.path = ["parameters", name] →
          (∀ q, .patch q ∈ after → q.path ≠ ["parameters", name]) → t.HasExactColumns name := by
  -- both invariants go through the whole list of revisions, and the columns need the last patch
  -- besides
  have hwellFormed : t.WellFormed :=
    Revision.applyAll_induction rs (fun _ _ _ _ => Revision.apply_wellFormed)
      (Config.decode_wellFormed hs) ht
  have hcolumns : t.HasColumns :=
    Revision.applyAll_induction rs (fun _ _ _ _ => Revision.apply_hasColumns)
      (Config.decode_hasColumns hs) ht
  refine ⟨hwellFormed, hcolumns, ?_, ?_⟩
  · intro e he b type hscalar
    have hholds := hwellFormed.parameters e he
    rw [hscalar] at hholds
    constructor
    · rintro rfl
      cases hholds
    · rintro rfl
      cases hholds
  · rintro before p after name rfl hpath hlast
    exact Revision.applyAll_hasExactColumns hpath hlast ht

/-- Two tables, with their data. -/
def rota : Entries :=
  Entries.ofFields
    [("template", .str "rota"),
      ("parameters", .ofFields
        [("demand", Config.inlineTable ["day", "count"] []),
          ("cost", Config.inlineTable ["month", "value"] [.list [.str "March", .int 3]])])]

/-- The data are loaded, one table gets other rows, and an option is set. -/
def rotaRevisions : List (Revision Unit) :=
  [.load ⟨.empty, .ofText "data", .null, false, .empty⟩ (.bare ()),
    .patch ⟨.str "merge", ["parameters", "demand"], .list [.list [.str "Monday", .int 2]]⟩,
    .option "seed" (.int 7)]

/-- The revised rota, computed: it is accepted, all revisions succeed, and its demand is a table of
two columns. -/
def checkRota : Bool :=
  (Config.decode rota).toOption.any fun s =>
  (Revision.applyAll rotaRevisions s).toOption.any fun t =>
  match t.parameters.find? "demand" with
  | some (.table schema _ _) => schema == ["day", "count"]
  | _ => false

/-- A rota that is patched, loaded and given an option stays well-formed, and its demand has exactly
the columns of its schema. -/
theorem wellFormed_of_rotaRevisions :
    ∃ s t, Config.decode rota = .ok s ∧ Revision.applyAll rotaRevisions s = .ok t
      ∧ t.WellFormed ∧ t.HasColumns
      ∧ ∃ source rows, t.parameters.find? "demand"
        = some (.table ["day", "count"] source (some ⟨[.str "day", .str "count"], rows⟩)) := by
  have hrota : checkRota = true := by decide +kernel
  unfold checkRota at hrota
  simp only [Option.any_eq_true] at hrota
  obtain ⟨s, hs, t, ht, htable⟩ := hrota
  have hs := eq_ok_of_toOption hs
  have ht := eq_ok_of_toOption ht
  obtain ⟨hwellFormed, hcolumns, -, hexact⟩ := wellFormed_of_revisions hs ht
  refine ⟨s, t, hs, ht, hwellFormed, hcolumns, ?_⟩
  split at htable
  · next schema source data hfound =>
      obtain rfl := beq_iff_eq.mp htable
      have hdemand : t.HasExactColumns "demand" := by
        refine hexact (rotaRevisions.take 1) _ (rotaRevisions.drop 2) "demand" rfl rfl ?_
        simp [rotaRevisions]
      obtain ⟨rows, rfl⟩ := hdemand _ _ _ hfound
      exact ⟨source, rows, hfound⟩
  · cases htable

end Specification

end Rostering
