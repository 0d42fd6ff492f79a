import Rostering.Proofs.Patch.Change

/-!
# The order of patches

Patches on different paths can be applied in any order, and of the patches on one path only the last
one counts. The order of the entries in a section may differ, so specifications are compared by what
is found in them.

## The architecture

* **`Specification.Agrees`** — the same template, and the same under every name of every section.
* **`Change.into_comm`**, **`Change.into_absorb`** — two changes on different paths commute, and of
  two on one path the first has no effect.
* **`Change.allInto_perm`**, **`Change.allInto_drop`** — so a list of changes on distinct paths can
  be reordered, and a change can be left out if a later one has its path.
* **`Patch.applyAll_of_perm_lastOnPaths`** — the last patches on their paths, in any order, do what
  the whole batch does.
-/

namespace Rostering

/-! ## Agreement -/

/-- The same template, and the same entries under the same names, data included. -/
structure Specification.Agrees (s t : Specification) : Prop where
  template : s.template = t.template
  indexes : ∀ name, s.indexes.find? name = t.indexes.find? name
  parameters : ∀ name, s.parameters.find? name = t.parameters.find? name
  options : ∀ name, s.options.find? name = t.options.find? name
  overrides : ∀ phase, s.overrides.find? phase = t.overrides.find? phase

namespace Specification.Agrees

variable {s t u : Specification}

theorem refl (s : Specification) : s.Agrees s :=
  ⟨rfl, fun _ => rfl, fun _ => rfl, fun _ => rfl, fun _ => rfl⟩

theorem symm (h : s.Agrees t) : t.Agrees s where
  template := h.template.symm
  indexes name := (h.indexes name).symm
  parameters name := (h.parameters name).symm
  options name := (h.options name).symm
  overrides phase := (h.overrides phase).symm

theorem trans (hst : s.Agrees t) (htu : t.Agrees u) : s.Agrees u where
  template := hst.template.trans htu.template
  indexes name := (hst.indexes name).trans (htu.indexes name)
  parameters name := (hst.parameters name).trans (htu.parameters name)
  options name := (hst.options name).trans (htu.options name)
  overrides phase := (hst.overrides phase).trans (htu.overrides phase)

end Specification.Agrees

/-! ## Entries by path -/

/-- The entry on a path, as the change that would write it. -/
def Specification.found? (s : Specification) : List String → Option Change
  | ["parameters", name] => (s.parameters.find? name).map (.parameter name)
  | ["options", name] => (s.options.find? name).map (.option name)
  | ["indexes", name] => (s.indexes.find? name).map (.index name)
  | ["overrides", phase] => (s.overrides.find? phase).map (.overrides phase)
  | _ => none

/-- Specifications agree exactly if they have the same template and the same entries. What is found
on a path is a change that would leave it as it is, so that all four sections can be treated at
once. -/
theorem Specification.agrees_iff {s t : Specification} :
    s.Agrees t ↔ s.template = t.template ∧ ∀ path, s.found? path = t.found? path := by
  constructor
  · intro h
    refine ⟨h.template, fun path => ?_⟩
    unfold found?
    split
    · rw [h.parameters]
    · rw [h.options]
    · rw [h.indexes]
    · rw [h.overrides]
    · rfl
  · rintro ⟨htemplate, h⟩
    refine ⟨htemplate, ?_, ?_, ?_, ?_⟩
    -- what is found is wrapped in the change that would write it, and the wrapping loses nothing
    · intro name
      exact Option.map_injective (fun _ _ heq => (Change.index.inj heq).2) (h ["indexes", name])
    · intro name
      exact Option.map_injective (fun _ _ heq => (Change.parameter.inj heq).2)
        (h ["parameters", name])
    · intro name
      exact Option.map_injective (fun _ _ heq => (Change.option.inj heq).2) (h ["options", name])
    · intro name
      exact Option.map_injective (fun _ _ heq => (Change.overrides.inj heq).2)
        (h ["overrides", name])

/-! ## Changes -/

namespace Change

variable {s t : Specification}

theorem template_into (c : Change) (s : Specification) : (c.into s).template = s.template := by
  cases c <;> rfl

/-- What is found under a name of a section when one of its entries has been written. -/
theorem found_insert {α : Type} (m : Named α) (f : String → α → Change) (name other : String)
    (a : α) : ((m.insert name a).find? other).map (f other)
      = if other = name then some (f name a) else (m.find? other).map (f other) := by
  rw [← Named.find?_map, Named.map_insert, Named.find?_insert, Named.find?_map]

/-- A change writes the entry on its path and no other. The two laws of changes, that they commute
on different paths and absorb each other on one, follow from this alone. -/
theorem found?_into (c : Change) (s : Specification) (path : List String) :
    (c.into s).found? path = if path = c.path then some c else s.found? path := by
  unfold Specification.found?
  -- the path is split as `found?` splits it: in the section of the change the names are compared,
  -- and in all others the path of the change is not the path
  cases c with
  | parameter name p =>
      split
      · simp only [Change.path, List.cons.injEq, true_and, and_true]
        exact found_insert s.parameters Change.parameter name _ p
      all_goals simp_all [into, Change.path, Specification.withParameter]
  | option name v =>
      split
      · rfl
      · simp only [Change.path, List.cons.injEq, true_and, and_true]
        exact found_insert s.options Change.option name _ v
      all_goals simp_all [into, Change.path, Specification.withOption]
  | index name i =>
      split
      · rfl
      · rfl
      · simp only [Change.path, List.cons.injEq, true_and, and_true]
        exact found_insert s.indexes Change.index name _ i
      all_goals simp_all [into, Change.path, Specification.withIndex]
  | overrides phase l =>
      split
      · rfl
      · rfl
      · rfl
      · simp only [Change.path, List.cons.injEq, true_and, and_true]
        exact found_insert s.overrides Change.overrides phase _ l
      all_goals simp_all [Change.path]

/-- What is found after a change depends on what was found before it, and on nothing else. -/
theorem into_agrees (h : s.Agrees t) (c : Change) : (c.into s).Agrees (c.into t) := by
  rw [Specification.agrees_iff] at h ⊢
  refine ⟨by rw [template_into, template_into, h.1], fun path => ?_⟩
  rw [found?_into, found?_into, h.2]

/-- Changes on different paths commute. -/
theorem into_comm {c d : Change} (hpath : c.path ≠ d.path) (s : Specification) :
    (d.into (c.into s)).Agrees (c.into (d.into s)) := by
  rw [Specification.agrees_iff]
  refine ⟨by simp only [template_into], fun path => ?_⟩
  simp only [found?_into]
  by_cases hd : path = d.path
  · rw [if_pos hd, if_neg (hd ▸ hpath.symm), if_pos hd]
  · rw [if_neg hd, if_neg hd]

/-- A change has no effect if the next one is on the same path. -/
theorem into_absorb {c d : Change} (hpath : c.path = d.path) (s : Specification) :
    (d.into (c.into s)).Agrees (d.into s) := by
  rw [Specification.agrees_iff]
  refine ⟨by simp only [template_into], fun path => ?_⟩
  simp only [found?_into, hpath]
  by_cases hd : path = d.path
  · rw [if_pos hd, if_pos hd]
  · rw [if_neg hd, if_neg hd, if_neg hd]

/-! ## Lists of changes -/

theorem allInto_agrees (cs : List Change) :
    ∀ {s t : Specification}, s.Agrees t → (allInto cs s).Agrees (allInto cs t) := by
  induction cs with
  | nil => exact id
  | cons c cs ih => exact fun h => ih (into_agrees h c)

/-- Changes on distinct paths can be made in any order. Induction on how the order is changed. -/
theorem allInto_perm {cs ds : List Change} (hperm : cs.Perm ds)
    (hpaths : (cs.map path).Nodup) : ∀ s, (allInto cs s).Agrees (allInto ds s) := by
  induction hperm with
  | nil => exact .refl
  | cons c _ ih =>
      intro s
      exact ih (List.nodup_cons.mp hpaths).2 (c.into s)
  -- two neighbours are swapped, and their paths differ because no path comes twice
  | swap c d cs =>
      intro s
      have hne : d.path ≠ c.path := by
        intro h
        rw [List.map_cons, List.map_cons, h] at hpaths
        exact (List.nodup_cons.mp hpaths).1 List.mem_cons_self
      exact allInto_agrees cs (into_comm hne s)
  | trans hcd _ ihc ihd =>
      intro s
      exact (ihc hpaths s).trans (ihd ((hcd.map path).nodup_iff.mp hpaths) s)

/-- A change can be left out if a later one is on its path: it moves past changes on other paths
until it meets that one. Induction on what comes after it. -/
theorem allInto_drop {c : Change} {cs : List Change} (hlater : c.path ∈ cs.map path) :
    ∀ s, (allInto (c :: cs) s).Agrees (allInto cs s) := by
  induction cs with
  | nil => exact absurd hlater List.not_mem_nil
  | cons d cs ih =>
      intro s
      by_cases hpath : c.path = d.path
      · exact allInto_agrees cs (into_absorb hpath s)
      · have hrest : c.path ∈ cs.map path := by
          rw [List.map_cons, List.mem_cons] at hlater
          exact hlater.resolve_left hpath
        exact (allInto_agrees cs (into_comm hpath s)).trans (ih hrest (d.into s))

end Change

/-! ## Patches -/

namespace Patch

/-- The patches that are the last ones on their paths. -/
def lastOnPaths : List Patch → List Patch
  | [] => []
  | p :: ps => if p.path ∈ ps.map path then lastOnPaths ps else p :: lastOnPaths ps

theorem lastOnPaths_subset (ps : List Patch) : lastOnPaths ps ⊆ ps := by
  induction ps with
  | nil => exact List.Subset.refl []
  | cons p ps ih =>
      rw [lastOnPaths]
      split
      · exact List.subset_cons_of_subset p ih
      · exact List.cons_subset_cons p ih

theorem nodup_lastOnPaths (ps : List Patch) : ((lastOnPaths ps).map path).Nodup := by
  induction ps with
  | nil => exact List.nodup_nil
  | cons p ps ih =>
      rw [lastOnPaths]
      split
      · exact ih
      · next hlast =>
          rw [List.map_cons, List.nodup_cons]
          exact ⟨fun h => hlast (List.map_subset path (lastOnPaths_subset ps) h), ih⟩

/-- The changes of a batch are on the paths of its patches. -/
theorem map_path_of_judge {ps : List Patch} {cs : List Change} {s : Specification}
    (hcs : List.Forall₂ (fun p c => p.judge s = .ok c) ps cs) :
    cs.map Change.path = ps.map path := by
  rw [← List.forall₂_eq_eq_eq, List.forall₂_map_left_iff, List.forall₂_map_right_iff]
  exact hcs.flip.imp fun c p hc => (changes_of_judge hc).path_eq

/-- The changes of the last patches on their paths do what all the changes do. Induction on the
patches, the last one first: each is either left out or made before all others. -/
theorem exists_changes_lastOnPaths {ps : List Patch} {cs : List Change} {s : Specification}
    (hcs : List.Forall₂ (fun p c => p.judge s = .ok c) ps cs) :
    ∃ ds, List.Forall₂ (fun p c => p.judge s = .ok c) (lastOnPaths ps) ds
      ∧ ∀ t, (Change.allInto ds t).Agrees (Change.allInto cs t) := by
  induction hcs with
  | nil => exact ⟨[], .nil, .refl⟩
  | @cons p c ps cs hc hcs ih =>
      obtain ⟨ds, hds, hagrees⟩ := ih
      rw [lastOnPaths]
      split
      -- the path is written again later on, so this patch is left out, and so may its change be
      · next hlater =>
          have hdropped : c.path ∈ cs.map Change.path := by
            rw [(changes_of_judge hc).path_eq, map_path_of_judge hcs]
            exact hlater
          exact ⟨ds, hds, fun t => (hagrees t).trans (Change.allInto_drop hdropped t).symm⟩
      · exact ⟨c :: ds, .cons hc hds, fun t => hagrees (c.into t)⟩

/-- Of a batch that succeeds, the last patches on their paths succeed in any order, and what they
make of a specification agrees with what the whole batch makes of it. -/
theorem applyAll_of_perm_lastOnPaths {ps qs : List Patch} {s t : Specification}
    (ht : applyAll ps s = .ok t) (hqs : qs.Perm (lastOnPaths ps)) :
    ∃ u, applyAll qs s = .ok u ∧ u.Agrees t := by
  rw [applyAll_eq_judge, map_eq_ok] at ht
  obtain ⟨cs, hcs, rfl⟩ := ht
  obtain ⟨ds, hds, hagrees⟩ := exists_changes_lastOnPaths (mapM_eq_ok.mp hcs)
  obtain ⟨es, hes, hperm⟩ := List.perm_comp_forall₂ hqs hds
  refine ⟨Change.allInto es s, ?_, ?_⟩
  · rw [applyAll_eq_judge, map_eq_ok]
    exact ⟨es, mapM_eq_ok.mpr hes, rfl⟩
  · have hpaths : (es.map Change.path).Nodup := by
      rw [(hperm.map Change.path).nodup_iff, map_path_of_judge hds]
      exact nodup_lastOnPaths ps
    exact (Change.allInto_perm hperm hpaths s).trans (hagrees s)

/-- An option that is written twice, with data for a mapping in between. -/
theorem applyAll_of_perm_lastOnPaths_of_option_twice :
    let s : Specification :=
      ⟨"t", .empty, .ofList [("m", .mapping "key" (.literal .null) none)], .empty, .empty⟩
    let first : Patch := ⟨.str "merge", ["options", "x"], .int 1⟩
    let data : Patch := ⟨.str "merge", ["parameters", "m"], .map [(.str "a", .int 1)]⟩
    let last : Patch := ⟨.str "merge", ["options", "x"], .int 2⟩
    ∃ t, applyAll [first, data, last] s = .ok t
      ∧ [last, data].Perm (lastOnPaths [first, data, last])
      ∧ ∃ u, applyAll [last, data] s = .ok u ∧ u.Agrees t := by
  intro s first data last
  have hrun : ∃ t, applyAll [first, data, last] s = .ok t := by
    simp only [applyAll, apply, first, data, last, merge_supported]
    exact ⟨_, rfl⟩
  have hperm : [last, data].Perm (lastOnPaths [first, data, last]) := List.Perm.swap _ _ _
  obtain ⟨t, ht⟩ := hrun
  exact ⟨t, ht, hperm, applyAll_of_perm_lastOnPaths ht hperm⟩

end Patch

end Rostering
