import Mathlib
import Rostering.Build
import Rostering.Proofs.Config.RoundTrip
import Rostering.Proofs.Coverage
import Rostering.Proofs.Loader.Agreement

/-!
# Models are reproduced from what is written

What a specification is written as, together with the data that patches have handed in, determines
the specification and with it what building it comes to (`Build.run_eq_of_encode_eq`). So without
such data, reading back what was written reproduces the model. The data themselves are not written:
a patch that hands them in changes the model and not the text (`Build.run_ne_of_encode_eq`).

## The architecture

* **`Specification.withoutData_of_encode`** — what is written determines the specification but for
  its data, since it is read back to that.
* **`Specification.eq_of_withoutData`** — with the data, it determines all of it.
* **`Build.run_agrees`** — building comes to the same in worlds that agree.
* **`Patch.encode_eq_of_injects`** — data that a patch hands in are not written.
-/

namespace Rostering

/-! ## Declarations and data -/

theorem Table.toValue_injective {t u : Table} (h : t.toValue = u.toValue) : t = u := by
  cases t
  cases u
  cases h
  rfl

/-- A parameter is what it declares and its data. -/
theorem Parameter.eq_of_withoutData {p q : Parameter} (hdeclared : p.withoutData = q.withoutData)
    (hdata : p.data? = q.data?) : p = q := by
  -- parameters of different kinds declare different things
  cases p with
  | scalar value type =>
      cases q with
      | scalar value' type' => exact hdeclared
      | _ => cases hdeclared
  | table schema s data =>
      cases q with
      | table schema' s' data' =>
          cases hdeclared
          have hdata : data = data' :=
            Option.map_injective (fun _ _ => Table.toValue_injective) hdata
          rw [hdata]
      | _ => cases hdeclared
  | mapping key s data =>
      cases q with
      | mapping key' s' data' =>
          cases hdeclared
          have hdata : data = data' := Option.map_injective (fun _ _ => Value.map.inj) hdata
          rw [hdata]
      | _ => cases hdeclared

namespace Specification

/-- What is written determines what is declared. -/
theorem withoutData_of_encode {s t : Specification} (hs : s.WellFormed) (ht : t.WellFormed)
    (hencode : Config.encode s = Config.encode t) : s.withoutData = t.withoutData := by
  have hread := Config.decode_writtenFields hs
  rw [Config.encode_eq, Config.encode_eq] at hencode
  rw [Value.map.inj hencode, Config.decode_writtenFields ht] at hread
  exact (Except.ok.inj hread).symm

/-- The data under a name: those that were loaded or handed in, or the value of a scalar. -/
def data? (s : Specification) (name : String) : Option Value :=
  (s.parameters.find? name).bind Parameter.data?

/-- A specification is determined by what it declares and the data that it carries: the parameters
have the same names, and each is determined by both. -/
theorem eq_of_withoutData {s t : Specification} (hdeclared : s.withoutData = t.withoutData)
    (hdata : ∀ name, s.data? name = t.data? name) : s = t := by
  have hparameters : (s.parameters.map fun _ => Parameter.withoutData)
      = t.parameters.map fun _ => Parameter.withoutData :=
    congrArg Specification.parameters hdeclared
  have hnames : s.parameters.names = t.parameters.names := by
    have hnames := congrArg Named.names hparameters
    rwa [Named.names_map, Named.names_map] at hnames
  have hfind : ∀ name, s.parameters.find? name = t.parameters.find? name := by
    intro name
    have hfound := congrArg (Named.find? · name) hparameters
    simp only [Named.find?_map] at hfound
    have hname := hdata name
    unfold data? at hname
    -- a name that one of them has is a name of the other one
    cases hs : s.parameters.find? name with
    | none =>
        rw [hs, Option.map_none, eq_comm, Option.map_eq_none_iff] at hfound
        rw [hfound]
    | some p =>
        rw [hs, Option.map_some, eq_comm, Option.map_eq_some_iff] at hfound
        obtain ⟨q, hq, heq⟩ := hfound
        rw [hs, hq] at hname
        rw [hq, Parameter.eq_of_withoutData heq.symm hname]
  have hsame : s.parameters = t.parameters := Named.ext_find? hnames hfind
  cases s
  cases t
  cases hsame
  cases hdeclared
  rfl

end Specification

/-! ## Data that are handed in -/

/-- Data that a patch hands in are not written. The parameter declares what it did before, and only
that is written. -/
theorem Patch.encode_eq_of_injects {p : Patch} {s t : Specification} {name : String}
    {q : Parameter} (ht : p.apply s = .ok t) (hpath : p.path = ["parameters", name])
    (hq : s.parameters.find? name = some q) (hscalar : ∀ v type, q ≠ .scalar v type) :
    Config.encode t = Config.encode s := by
  rw [Patch.apply_eq_judge] at ht
  obtain ⟨c, hc, rfl⟩ := map_eq_ok.mp ht
  have hchanges := Patch.changes_of_judge hc
  have hcpath := hchanges.path_eq.trans hpath
  -- the path leads to a parameter, so nothing else can have been written
  cases hchanges with
  | option => exact absurd (List.cons.inj hcpath).1 (by decide)
  | index => exact absurd (List.cons.inj hcpath).1 (by decide)
  | overrides => exact absurd (List.cons.inj hcpath).1 (by decide)
  | @parameter other q' r _ hq' hr =>
      have hname : other = name := (List.cons.inj (List.cons.inj hcpath).2).1
      subst hname
      rw [hq] at hq'
      cases hq'
      have hdeclared : r.withoutData = q.withoutData := by
        cases hr with
        | table => rfl
        | mapping => rfl
        | scalar => exact absurd rfl (hscalar _ _)
      have hsame : (s.withParameter other r).withoutData = s.withoutData := by
        -- writing a parameter that declares the same changes no declaration
        have hparameters : ((s.parameters.insert other r).map fun _ => Parameter.withoutData)
            = s.parameters.map fun _ => Parameter.withoutData := by
          rw [Named.map_insert, hdeclared]
          apply Named.insert_of_find?
          rw [Named.find?_map, hq]
          rfl
        unfold Specification.withoutData Specification.withParameter
        simp only [hparameters]
      show Config.encode (s.withParameter other r) = Config.encode s
      rw [← Config.encode_withoutData, hsame, Config.encode_withoutData]

/-! ## Building -/

namespace Build

variable {η σ : Type}

/-- Building comes to the same in worlds that agree. -/
theorem run_agrees (r : Capabilities η) {l : Loader σ} (hl : l.IsPure) {w w' : World σ}
    (hw : w.Agrees w') (s : Specification) : (run r l w s).1 = (run r l w' s).1 := by
  unfold run
  simp only [(Loader.materializeAll_alike hl hw s).result]

/-- Specifications that were read and patched, are written alike and carry the same data are built
to the same, wherever functions and network answer alike. If no data were handed in, what is written
reads back to a specification that is built to the same as well. -/
theorem run_eq_of_encode_eq (r : Capabilities η) {l : Loader σ} (hl : l.IsPure) {w w' : World σ}
    (hw : w.Agrees w') {es es' : Entries} {ps ps' : List Patch} {read read' s t : Specification}
    (hread : Config.decode es = .ok read) (hs : Patch.applyAll ps read = .ok s)
    (hread' : Config.decode es' = .ok read') (ht : Patch.applyAll ps' read' = .ok t)
    (hencode : Config.encode s = Config.encode t) (hdata : ∀ name, s.data? name = t.data? name) :
    (run r l w s).1 = (run r l w' t).1
      ∧ (s.withoutData = s → ∃ written u, Config.encode s = .map written
        ∧ Config.decode written = .ok u ∧ (run r l w' u).1 = (run r l w s).1) := by
  have hsformed : s.WellFormed :=
    Patch.applyAll_wellFormed ps (Config.decode_wellFormed hread) hs
  have htformed : t.WellFormed :=
    Patch.applyAll_wellFormed ps' (Config.decode_wellFormed hread') ht
  -- what was read and patched is well-formed, so what is written determines it
  have hsame : s = t := Specification.eq_of_withoutData
    (Specification.withoutData_of_encode hsformed htformed hencode) hdata
  refine ⟨?_, fun hnone => ?_⟩
  · rw [← hsame]
    exact run_agrees r hl hw s
  · refine ⟨_, s, Config.encode_eq s, ?_, (run_agrees r hl hw s).symm⟩
    rw [Config.decode_writtenFields hsformed, hnone]

/-- A function that counts its calls and answers alike, in two worlds where it was called a different
number of times; one of two sessions was given the option that it had already. -/
theorem run_eq_of_encode_eq_of_counting :
    let rows : SourceFunction Nat := fun _ n => (.ok (.list [.list [.int 1]]), n + 1)
    let l : Loader Nat := ⟨Named.ofList [("rows", rows)], .ofText "data", .null, false, .empty⟩
    let w : Nat → World Nat := fun n => .bare n
    let s : Specification := ⟨"work_scheduling", .empty,
      Named.ofList [("p", .table ["x"] (.function "rows" []) none)],
      Named.ofList [("note", .str "a")], .empty⟩
    let es := Entries.ofFields (Config.writtenFields s)
    let p : Patch := ⟨.str "merge", ["options", "note"], .str "a"⟩
    l.IsPure ∧ (w 0).Agrees (w 5) ∧ Config.decode es = .ok s ∧ Patch.applyAll [] s = .ok s
      ∧ ∃ t, Patch.applyAll [p] s = .ok t ∧ Config.encode s = Config.encode t
        ∧ (∀ name, s.data? name = t.data? name)
        ∧ (run builtins l (w 0) s).1 = (run builtins l (w 5) t).1
        ∧ (s.withoutData = s → ∃ written u, Config.encode s = .map written
          ∧ Config.decode written = .ok u
          ∧ (run builtins l (w 5) u).1 = (run builtins l (w 0) s).1) := by
  intro rows l w s es p
  have hl : l.IsPure := by
    intro e he
    rw [show l.functions.entries = [("rows", rows)] from rfl, List.mem_singleton] at he
    rw [he]
    exact fun _ _ _ => rfl
  have hw : (w 0).Agrees (w 5) := ⟨rfl, rfl, rfl, rfl⟩
  have hformed : s.WellFormed :=
    { template := by decide +kernel
      indexes := fun e he => absurd he List.not_mem_nil
      parameters := fun e he => by
        rw [show s.parameters.entries = [("p", .table ["x"] (.function "rows" []) none)] from rfl,
          List.mem_singleton] at he
        rw [he]
        exact ⟨by simp, by simp [Source.WellFormed]⟩
      overrides := fun e he => absurd he List.not_mem_nil }
  have hread : Config.decode es = .ok s := Config.decode_writtenFields hformed
  -- the option gets the value that it had, and is written alike
  have ht : Patch.applyAll [p] s = .ok (s.withOption "note" (.str "a")) := by
    have happly : p.apply s = .ok (s.withOption "note" (.str "a")) := by
      unfold Patch.apply
      rw [Patch.merge_supported]
      rfl
    rw [Patch.applyAll, happly]
    rfl
  refine ⟨hl, hw, hread, rfl, _, ht, rfl, fun _ => rfl, ?_⟩
  have hnothing : Patch.applyAll [] s = .ok s := rfl
  exact run_eq_of_encode_eq builtins hl hw hread hnothing hread ht rfl fun _ => rfl

/-- Parameters that are tables. -/
def isTable : Parameter → Bool
  | .table _ _ _ => true
  | _ => false

/-- The desk with its declared demand of two, and with a demand of three that a patch handed in: both
are written alike, and only the first can be satisfied by two candidates. -/
theorem run_ne_of_encode_eq :
    let p : Patch := ⟨.str "merge", ["parameters", "demand"],
      .list [.list [.str "2025-03-03", .str "desk", .int 3]]⟩
    ∃ s t, Config.decode (deskFor ["Ann", "Bob"]) = .ok s ∧ Patch.applyAll [] s = .ok s
      ∧ Patch.applyAll [p] s = .ok t ∧ Config.encode s = Config.encode t
      ∧ (run builtins literalLoader literalWorld s).1
        ≠ (run builtins literalLoader literalWorld t).1 := by
  intro p
  -- whether everybody working all days satisfies the model that is built
  let satisfied : Specification → Option Bool := fun s =>
    (run builtins literalLoader literalWorld s).1.toOption.map fun b =>
      b.handle.constraints.all fun c => decide (c.Holds fun _ => 1)
  -- both models are computed: two candidates are enough for the declared demand and not for the
  -- other one
  have hruns : (Config.decode (deskFor ["Ann", "Bob"])).toOption.bind (fun s =>
      (p.apply s).toOption.map fun t =>
        ((s.parameters.find? "demand").any isTable, satisfied s, satisfied t))
      = some (true, some true, some false) := by
    decide +kernel
  obtain ⟨s, hs, hruns⟩ := Option.bind_eq_some_iff.mp hruns
  obtain ⟨t, ht, hruns⟩ := Option.map_eq_some_iff.mp hruns
  obtain ⟨htable, hruns⟩ := Prod.mk.inj hruns
  obtain ⟨hsatisfied, hviolated⟩ := Prod.mk.inj hruns
  have ht : p.apply s = .ok t := eq_ok_of_toOption ht
  have happly : Patch.applyAll [p] s = .ok t := by
    rw [Patch.applyAll, ht]
    rfl
  have hencode : Config.encode t = Config.encode s := by
    cases hq : s.parameters.find? "demand" with
    | none =>
        rw [hq] at htable
        cases htable
    | some q =>
        refine Patch.encode_eq_of_injects ht rfl hq fun v type heq => ?_
        rw [hq, heq] at htable
        cases htable
  refine ⟨s, t, eq_ok_of_toOption hs, rfl, happly, hencode.symm, fun hsame => ?_⟩
  -- if the runs were the same, so would be what they satisfy
  have houtcome : satisfied s = satisfied t := by
    show (run builtins literalLoader literalWorld s).1.toOption.map _ = _
    rw [hsame]
  rw [hsatisfied, hviolated] at houtcome
  cases houtcome

end Build

end Rostering
