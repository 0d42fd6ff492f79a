import Rostering.Proofs.Balance
import Rostering.Proofs.Model.Nesting
import Rostering.Proofs.Staffing.Labels

/-!
# Everything that was found is reported

A solution reports the values of all families. The families of a built model have keys of one length
each, made of members that labels tell apart: texts by themselves, and the days of a range by their
dates. So every variable that is registered is reported once, under the labels of its key.

## The architecture

* **`Index.WellFormed.areLabelled`** — labels tell the members of an index that was read apart.
* **`Family.IsReportable`** — a family whose values can be reported, for any values
  (`Family.isReportable_ofPairs`).
* **`Build.Registered`** — the families of a built model, and `Build.registered_of_assemble`.
* **`Build.solution_reports_all`** — nesting loses nothing, and so no solution of a built model does.
-/

namespace Rostering

open Staffing (AreLabelled membersOf)

/-! ## Labels of members -/

/-- Labels tell the members of an index that was read apart. -/
theorem Index.WellFormed.areLabelled {i : Index} (hi : i.WellFormed) : AreLabelled i.members := by
  cases i with
  | range first last => exact Staffing.areLabelled_range first last
  | listed members =>
      obtain ⟨names, -, rfl⟩ := hi
      -- a list that was read holds texts, and a text is its own label
      have htext : ∀ v ∈ (Index.listed (names.map .str)).members, ∃ name, v = .str name := by
        intro v hv
        obtain ⟨name, -, rfl⟩ := List.mem_map.mp hv
        exact ⟨name, rfl⟩
      refine ⟨fun v hv => ?_, fun u hu v hv => ?_⟩
      · obtain ⟨name, rfl⟩ := htext v hv
        trivial
      · obtain ⟨a, rfl⟩ := htext u hu
        obtain ⟨b, rfl⟩ := htext v hv
        rw [Value.same_str, beq_iff_eq]
        rfl

theorem areLabelled_membersOf {s : Specification} (hs : s.WellFormed) (name : String) :
    AreLabelled (membersOf s name []) := by
  unfold membersOf
  cases hfound : s.indexes.find? name with
  | none => exact ⟨fun _ h => absurd h List.not_mem_nil, fun _ h => absurd h List.not_mem_nil⟩
  | some i => exact (hs.indexes _ ((Named.mem_entries_iff _ _ _).mpr hfound)).areLabelled

/-! ## Families that can be reported -/

namespace Family

/-- The values of the variables of a family. -/
def valuesAt (f : Family) (point : Array Int) : FamilyValues :=
  f.map fun e => (e.1, .int (point.getD e.2 0))

/-- A single variable, or variables under keys that labels tell apart. -/
def IsReportable (f : Family) : Prop :=
  (∃ i, f = [([], i)]) ∨ ∃ n, ∀ point, FamilyValues.IsLabelled (f.valuesAt point) (n + 1)

/-- Members at one place of two keys are told apart if all members that can stand there are.
Induction along both keys. -/
theorem told_of_columns {columns : List (List Value)} (hcolumns : ∀ c ∈ columns, AreLabelled c) :
    ∀ {key other : Key}, List.Forall₂ (· ∈ ·) key columns → List.Forall₂ (· ∈ ·) other columns →
      ∀ (i : Nat) (u v : Value), key[i]? = some u → other[i]? = some v → u.label = v.label →
        u.same v = true := by
  induction columns with
  | nil =>
      intro key other hkey _ i u v hu
      cases hkey
      cases hu
  | cons c columns ih =>
      intro key other hkey hother i u v hu hv hlabel
      cases hkey with
      | cons hfirst hkey =>
          cases hother with
          | cons hfirst' hother =>
              -- the place is the first one, where the column decides, or one behind it
              cases i with
              | zero =>
                  cases hu
                  cases hv
                  exact ((hcolumns c List.mem_cons_self).same_iff _ hfirst _ hfirst').mpr hlabel
              | succ i =>
                  exact ih (fun c hc => hcolumns c (List.mem_cons_of_mem _ hc)) hkey hother i u v hu
                    hv hlabel

/-- A family can be reported if there is a list of members for each place of its keys, and labels tell
the members of each list apart. -/
theorem isReportable_ofPairs {keys : List Key} {column : List Value} {columns : List (List Value)}
    (hcolumns : ∀ c ∈ column :: columns, AreLabelled c)
    (hkeys : ∀ key ∈ keys, List.Forall₂ (· ∈ ·) key (column :: columns)) (first : Nat) :
    (ofPairs (keys.zipIdx first)).IsReportable := by
  -- a key that is put twice is kept once, so the keys of the family are among those that were given
  have hall : ∀ e ∈ ofPairs (keys.zipIdx first), List.Forall₂ (· ∈ ·) e.1 (column :: columns) := by
    have hput := forall_keys_ofPairs (l := keys.zipIdx first)
      (P := fun key => List.Forall₂ (· ∈ ·) key (column :: columns))
      fun e he => hkeys _ (List.fst_mem_of_mem_zipIdx he)
    exact fun e he => hput e.1 (List.mem_map_of_mem he)
  -- the three facts that nesting asks for: keys of one length, no key twice, and labels that tell
  -- keys apart
  refine Or.inr ⟨columns.length, fun point => ⟨?_, ?_, ?_⟩⟩
  · intro _ hvalue
    obtain ⟨e, he, rfl⟩ := List.mem_map.mp hvalue
    exact (hall e he).length_eq
  · unfold valuesAt
    rw [List.pairwise_map]
    exact List.pairwise_map.mp (pairwise_keys_ofPairs _)
  · intro _ hvalue _ hvalue'
    obtain ⟨e, he, rfl⟩ := List.mem_map.mp hvalue
    obtain ⟨f, hf, rfl⟩ := List.mem_map.mp hvalue'
    exact told_of_columns hcolumns (hall e he) (hall f hf)

/-- What is reported of a family that can be reported. -/
theorem IsReportable.exists_reports {f : Family} (hf : f.IsReportable) (point : Array Int) :
    ∃ n v, nested (f.valuesAt point) = .ok v ∧ (∀ key ∈ f.keys, key.length = n)
      ∧ v.Reports n (f.valuesAt point) := by
  rcases hf with ⟨i, rfl⟩ | ⟨n, hlabelled⟩
  · obtain ⟨hnested, hreports⟩ := FamilyValues.reports_nested_single (.int (point.getD i 0))
    exact ⟨0, _, hnested, by simp [keys], hreports⟩
  · obtain ⟨es, hnested, hreports⟩ := (hlabelled point).reports_nested
    refine ⟨n + 1, _, hnested, fun key hkey => ?_, hreports⟩
    obtain ⟨e, he, rfl⟩ := List.mem_map.mp hkey
    exact (hlabelled point).length _ (List.mem_map_of_mem he)

end Family

/-! ## Built models -/

namespace Build

open Staffing (Problem loadsOf largestOf)

/-- The families of a model that was built of a problem: the two that it starts with, and those of a
balanced workload if that is the goal. -/
inductive Registered (p : Problem) : Named Family → Prop where
  | problem : Registered p (.ofList [("assign", p.assign), ("hire", p.hire)])
  | balanced {m : Model} (hcreated : ∀ n ∈ p.assign.numbers ++ p.hire.numbers, n < m.vars.length) :
      Registered p (.ofList [("assign", p.assign), ("hire", p.hire),
        ("workload", loadsOf m ⟨p.candidates, p.days, p.skills⟩),
        ("max_workload", [([], largestOf m ⟨p.candidates, p.days, p.skills⟩)])])

/-- The families of a built model are those of the problem; only a goal that balances the workload
registers more of them. -/
theorem registered_of_assemble {s : Specification} {b : Built Model}
    (h : assemble builtins s = .ok b) :
    ∃ p, Problem.ofSpecification s = .ok p ∧ Registered p b.handle.families := by
  obtain ⟨p, m, mid, l, hp, hmodel, hadds, -, hlast⟩ := assemble_eq_ok (template_of_assemble h) h
  have hfamilies : mid.handle.families = .ofList [("assign", p.assign), ("hire", p.hire)] :=
    hadds.families.trans (Problem.model_eq_ok hmodel).2.1
  refine ⟨p, hp, ?_⟩
  rcases hlast with rfl | ⟨o, -, happly⟩
  · rw [hfamilies]
    exact .problem
  · obtain ⟨rule, hrule, hhandle, -⟩ := applyOverride_eq_ok happly
    -- the goals that minimize the cost and maximize the coverage add no family
    rcases objective_builtins hrule with ⟨-, rfl⟩ | ⟨-, rfl⟩ | ⟨-, rfl⟩
    · rw [(minimizeCost_adds hhandle).families, hfamilies]
      exact .problem
    · rw [(maximizeCoverage_adds hhandle).families, hfamilies]
      exact .problem
    · rw [Staffing.balanceWorkload_eq_ok hfamilies (Staffing.indexes_of_ofSpecification hp)]
        at hhandle
      rw [← Except.ok.inj hhandle]
      -- the variables of the goal come behind those of the families
      refine .balanced fun n hn => ?_
      obtain ⟨name, hname⟩ := Problem.vars_of_mem_numbers hmodel hn
      rw [hadds.vars]
      exact (List.getElem?_eq_some_iff.mp hname).1

namespace Registered

variable {p : Problem} {families : Named Family}

/-- No variable is registered twice. -/
theorem nodup_numbers (h : Registered p families) :
    (families.values.flatMap Family.numbers).Nodup := by
  cases h with
  | problem =>
      show (p.assign.numbers ++ (p.hire.numbers ++ [])).Nodup
      rw [List.append_nil]
      exact p.nodup_numbers
  | @balanced m hcreated =>
      have hdistinct := Staffing.distinct_loadsOf m ⟨p.candidates, p.days, p.skills⟩ p.nodup_numbers
        hcreated
      rw [List.append_assoc] at hdistinct
      exact hdistinct

/-- All families can be reported. -/
theorem isReportable (h : Registered p families) (hcandidates : AreLabelled p.candidates)
    (hdays : AreLabelled p.days) (hskills : AreLabelled p.skills) :
    ∀ e ∈ families.entries, e.2.IsReportable := by
  have hassign : p.assign.IsReportable := by
    have hcolumns : ∀ c ∈ [p.candidates, p.days, p.skills], AreLabelled c := by
      simp [hcandidates, hdays, hskills]
    refine Family.isReportable_ofPairs hcolumns (fun key hkey => ?_) 0
    obtain ⟨c, hc, d, hd, k, hk, rfl⟩ := Problem.mem_assignKeys.mp hkey
    exact .cons hc (.cons hd (.cons hk .nil))
  -- one variable for each candidate, wherever the stretch of variables starts
  have hsingles : ∀ first, (Family.ofPairs
      ((p.candidates.map fun c => [c]).zipIdx first)).IsReportable := by
    intro first
    have hcolumns : ∀ c ∈ [p.candidates], AreLabelled c := by simp [hcandidates]
    refine Family.isReportable_ofPairs hcolumns (fun key hkey => ?_) first
    obtain ⟨c, hc, rfl⟩ := List.mem_map.mp hkey
    exact .cons hc .nil
  cases h with
  | problem =>
      show ∀ e ∈ [("assign", p.assign), ("hire", p.hire)], e.2.IsReportable
      simp [hassign, Problem.hire, Problem.hireKeys, hsingles]
  | @balanced m _ =>
      show ∀ e ∈ [("assign", p.assign), ("hire", p.hire), ("workload", loadsOf m _),
        ("max_workload", [([], largestOf m _)])], e.2.IsReportable
      simp [hassign, Problem.hire, Problem.hireKeys, hsingles, loadsOf]
      exact Or.inl ⟨_, rfl⟩

/-- The largest load is a single variable. -/
theorem maxWorkload (h : Registered p families) {f : Family}
    (hf : families.find? "max_workload" = some f) : ∃ i, f = [([], i)] := by
  cases h with
  | problem => cases hf
  | balanced =>
      cases hf
      exact ⟨_, rfl⟩

end Registered

/-- The families of a model that was built of a well-formed specification can be reported. -/
theorem registered_of_run {σ : Type} {l : Loader σ} {w : World σ} {s : Specification}
    {b : Built Model} (hs : s.WellFormed) (hbuild : (run builtins l w s).1 = .ok b) :
    ∃ p, Registered p b.handle.families ∧ ∀ e ∈ b.handle.families.entries, e.2.IsReportable := by
  unfold run at hbuild
  obtain ⟨loaded, hloaded, hassemble⟩ := bind_eq_ok.mp hbuild
  obtain ⟨-, hindexes, -⟩ := Loader.kept_of_materializeAll (mapError_eq_ok.mp hloaded)
  obtain ⟨p, hp, hregistered⟩ := registered_of_assemble hassemble
  have hread := (Problem.reads_of_ofSpecification hp).indexes
  -- loading leaves the indexes as they were declared
  have hlabelled : ∀ name, AreLabelled (membersOf loaded name []) := by
    intro name
    unfold membersOf
    rw [hindexes]
    exact areLabelled_membersOf hs name
  have hcandidates : AreLabelled (Staffing.indexesOf loaded).candidates := hlabelled "candidates"
  have hdays : AreLabelled (Staffing.indexesOf loaded).days := hlabelled "days"
  have hskills : AreLabelled (Staffing.indexesOf loaded).skills := hlabelled "skills"
  rw [hread] at hcandidates hdays hskills
  exact ⟨p, hregistered, hregistered.isReportable hcandidates hdays hskills⟩

/-- Nesting the values of a family loses nothing. If the keys are all of one length, at least one, and
labels tell members at the same place of two keys apart, then walking along the labels of a key leads
to its value, and there are no leaves but those of the keys.

Hence a solution of any model that was built of a configuration, patched or not, reports every
registered variable once: no variable is registered twice, the solution has all the families, and each
of them reports its variables under the labels of their keys. The largest load is reported as its
value. -/
theorem solution_reports_all {σ : Type} :
    (∀ (values : FamilyValues) (n : Nat), 1 ≤ n → FamilyValues.IsLabelled values n →
      ∃ es, nested values = .ok (.map es) ∧ (Value.map es).Reports n values
        ∧ ((Value.map es).leaves n).length = values.length)
    ∧ ∀ (l : Loader σ) (w : World σ) (es : Entries) (read s : Specification) (ps : List Patch)
      (b : Built Model), Config.decode es = .ok read → Patch.applyAll ps read = .ok s →
        (run builtins l w s).1 = .ok b →
          (b.handle.families.values.flatMap Family.numbers).Nodup
          ∧ ∀ (status : String) (goal : Option Float) (point : Array Int), ∃ solution,
            Solution.ofValues status goal (b.handle.valuesAt point) = .ok solution
            ∧ solution.values.names = b.handle.families.names
            ∧ ∀ name f, b.handle.families.find? name = some f →
              ∃ n v, solution.values.find? name = some v ∧ (∀ key ∈ f.keys, key.length = n)
                ∧ v.Reports n (f.valuesAt point)
                ∧ (name = "max_workload" → ∃ i, f = [([], i)] ∧ v = .int (point.getD i 0)) := by
  refine ⟨fun values n hn hlabelled => ?_, ?_⟩
  · obtain ⟨n, rfl⟩ := Nat.exists_eq_add_of_le' hn
    obtain ⟨es, hnested, hreports⟩ := hlabelled.reports_nested
    exact ⟨es, hnested, hreports, by rw [hreports.leaves.length_eq, List.length_map]⟩
  · intro l w es read s ps b hread hpatch hbuild
    have hs : s.WellFormed := Patch.applyAll_wellFormed ps (Config.decode_wellFormed hread) hpatch
    obtain ⟨p, hregistered, hreportable⟩ := registered_of_run hs hbuild
    refine ⟨hregistered.nodup_numbers, fun status goal point => ?_⟩
    -- every family can be nested, so the solution as a whole exists
    have hvalues : ∀ e ∈ (b.handle.valuesAt point).entries, ∃ v, nested e.2 = .ok v := by
      intro _ hvalue
      obtain ⟨e, he, rfl⟩ := List.mem_map.mp hvalue
      obtain ⟨-, v, hv, -⟩ := (hreportable e he).exists_reports point
      exact ⟨v, hv⟩
    obtain ⟨values, hnested, hrelated⟩ := Named.mapExcept_succeeds hvalues
    refine ⟨⟨status, goal, values⟩, bind_eq_ok.mpr ⟨values, hnested, rfl⟩, ?_, fun name f hf => ?_⟩
    · exact hrelated.names_eq.symm.trans (Named.names_map _ _)
    · have hfound := hrelated.find? name
      rw [show (b.handle.valuesAt point).find? name = some (f.valuesAt point) by
        rw [Model.valuesAt, Named.find?_map, hf]; rfl] at hfound
      obtain ⟨n, v, hv, hlength, hreports⟩ :=
        (hreportable _ ((Named.mem_entries_iff _ _ _).mpr hf)).exists_reports point
      -- what stands in the solution is what nesting gives for this family
      cases hvalue : values.find? name with
      | none =>
          rw [hvalue] at hfound
          cases hfound
      | some u =>
          rw [hvalue] at hfound
          obtain ⟨hu⟩ := hfound
          obtain rfl : v = u := Except.ok.inj (hv.symm.trans hu)
          refine ⟨n, v, rfl, hlength, hreports, ?_⟩
          rintro rfl
          obtain ⟨i, rfl⟩ := hregistered.maxWorkload hf
          exact ⟨i, rfl, (Except.ok.inj hu).symm⟩

/-- Ann and Bob at the desk with a balanced workload, and a point with seven values: the last variable
is the largest load. -/
theorem solution_reports_all_at_desk :
    (∃ es, nested [([.str "Ann"], .int 3), ([.str "Bob"], .int 4)] = .ok (.map es)
      ∧ (Value.map es).at? ["Bob"] = some (.int 4) ∧ ((Value.map es).leaves 1).length = 2)
    ∧ ∃ s b solution, Config.decode balancedDesk = .ok s
      ∧ (run builtins literalLoader literalWorld s).1 = .ok b
      ∧ Solution.ofValues "FEASIBLE" none (b.handle.valuesAt #[1, 1, 1, 1, 1, 1, 2]) = .ok solution
      ∧ solution.values.names = ["assign", "hire", "workload", "max_workload"]
      ∧ solution.values.find? "max_workload" = some (.int 2) := by
  obtain ⟨hnests, hreports⟩ := @solution_reports_all Unit
  constructor
  · have hlabelled :
        FamilyValues.IsLabelled [([.str "Ann"], .int 3), ([.str "Bob"], .int 4)] 1 := by
      have hcolumn : AreLabelled [.str "Ann", .str "Bob"] :=
        Index.WellFormed.areLabelled (i := .listed _) ⟨["Ann", "Bob"], by simp, rfl⟩
      have hkey : ∀ e ∈ ([([.str "Ann"], .int 3), ([.str "Bob"], .int 4)] : FamilyValues),
          List.Forall₂ (· ∈ ·) e.1 [[.str "Ann", .str "Bob"]] := by
        simp
      refine ⟨fun e he => (hkey e he).length_eq, by simp [Value.sameItems, Value.same], ?_⟩
      exact fun e he f hf => Family.told_of_columns (by simpa using hcolumn) (hkey e he) (hkey f hf)
    obtain ⟨es, hnested, hes, hlength⟩ := hnests _ 1 le_rfl hlabelled
    exact ⟨es, hnested, hes.reached ([.str "Bob"], .int 4) (by simp), hlength⟩
  -- the model is computed once, and the numbers of the largest load are read off it
  · have hcheck : ((Config.decode balancedDesk).toOption.any fun s =>
        (run builtins literalLoader literalWorld s).1.toOption.any fun b =>
          b.handle.families.names == ["assign", "hire", "workload", "max_workload"]
            && (b.handle.families.find? "max_workload").any fun f => f.numbers == [6]) = true := by
      decide +kernel
    simp only [Option.any_eq_true, Bool.and_eq_true, beq_iff_eq] at hcheck
    obtain ⟨s, hs, b, hb, hnames, f, hf, hnumbers⟩ := hcheck
    have hread := eq_ok_of_toOption hs
    have hbuild := eq_ok_of_toOption hb
    obtain ⟨-, hall⟩ := hreports literalLoader literalWorld balancedDesk s s [] b hread rfl hbuild
    obtain ⟨solution, hsolution, hsame, hfamilies⟩ := hall "FEASIBLE" none #[1, 1, 1, 1, 1, 1, 2]
    obtain ⟨n, v, hv, -, -, hlargest⟩ := hfamilies "max_workload" f hf
    obtain ⟨i, rfl, rfl⟩ := hlargest rfl
    obtain rfl : i = 6 := by simpa [Family.numbers] using hnumbers
    exact ⟨s, b, solution, hread, hbuild, hsolution, hsame.trans hnames, hv⟩

end Build

end Rostering
