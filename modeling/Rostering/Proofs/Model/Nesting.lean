import Rostering.Model.Solution
import Rostering.Proofs.Config.Fields

/-!
# Values under the labels of their keys

The values of a family are put one after the other into mappings within mappings. As long as all keys
are of one length and labels tell their members apart, no value gets into the way of another: walking
along the labels of a key leads to its value, and the mappings have no other leaves.

## The architecture

* **`Entries.put_of_field?`** and its siblings — what putting a value under a text key does, for a key
  that is there and for one that is not.
* **`Value.at?`**, **`Value.leaves`** — walking along labels, and all that can be reached in so many
  steps.
* **`leaves_nestAt`**, **`at?_nestAt`** — the step: one more value is one more leaf, and all others
  stay where they are.
* **`Value.Reports`** — the invariant: the leaves are the values put so far, each at its place.
* **`FamilyValues.IsLabelled.reports_nested`** — the run: so it is once all of them have been put.
-/

namespace Rostering

/-! ## Text keys -/

namespace Entries

theorem field?_cons_self (name : String) (v : Value) (es : Entries) :
    field? ((.str name, v) :: es) name = some v := by
  unfold field? find?
  rw [List.find?_cons, Value.str_same_iff.mpr rfl]
  rfl

theorem field?_cons_of_ne {name : String} {k : Value} (hk : k ≠ .str name) (v : Value)
    (es : Entries) : field? ((k, v) :: es) name = field? es name := by
  have hno : (Value.str name).same k = false :=
    Bool.eq_false_iff.mpr fun h => hk (Value.str_same_iff.mp h)
  unfold field? find?
  rw [List.find?_cons, hno]

theorem put_cons_self (name : String) (v old : Value) (es : Entries) :
    put (.str name) v ((.str name, old) :: es) = (.str name, v) :: es := by
  rw [put, if_pos (Value.same_str_iff.mpr rfl)]

theorem put_cons_of_ne {name : String} {k : Value} (hk : k ≠ .str name) (v old : Value)
    (es : Entries) : put (.str name) v ((k, old) :: es) = (k, old) :: put (.str name) v es := by
  rw [put, if_neg fun h => hk (Value.same_str_iff.mp h)]

/-- A value under a key that is not there comes last. -/
theorem put_of_field?_eq_none {name : String} {es : Entries} (h : field? es name = none)
    (v : Value) : put (.str name) v es = es ++ [(.str name, v)] := by
  induction es with
  | nil => rfl
  | cons e es ih =>
      obtain ⟨k, old⟩ := e
      by_cases hk : k = .str name
      · rw [hk, field?_cons_self] at h
        cases h
      · rw [field?_cons_of_ne hk] at h
        rw [put_cons_of_ne hk, ih h, List.cons_append]

/-- A value under a key that is there takes the place of the old one. -/
theorem put_of_field? {name : String} {es : Entries} {old : Value} (h : field? es name = some old) :
    ∃ before after, es = before ++ (.str name, old) :: after
      ∧ ∀ v, put (.str name) v es = before ++ (.str name, v) :: after := by
  induction es with
  | nil => cases h
  | cons e es ih =>
      obtain ⟨k, first⟩ := e
      -- the first field with the name is the one that is found and replaced
      by_cases hk : k = .str name
      · subst hk
        rw [field?_cons_self] at h
        cases h
        exact ⟨[], es, rfl, fun v => put_cons_self name v old es⟩
      · rw [field?_cons_of_ne hk] at h
        obtain ⟨before, after, rfl, hput⟩ := ih h
        refine ⟨(k, first) :: before, after, rfl, fun v => ?_⟩
        rw [put_cons_of_ne hk, hput, List.cons_append]

/-- Under the key the new value is found, and under all others what was found before. -/
theorem field?_put (es : Entries) (name other : String) (v : Value) :
    field? (put (.str name) v es) other = if other = name then some v else field? es other := by
  induction es with
  | nil =>
      by_cases h : other = name
      · rw [if_pos h, h]
        exact field?_cons_self name v []
      · rw [if_neg h]
        exact field?_cons_of_ne (fun heq => h (Value.str.inj heq).symm) v []
  | cons e es ih =>
      obtain ⟨k, old⟩ := e
      -- put in the place of the first field, or behind it
      by_cases hk : k = .str name
      · subst hk
        rw [put_cons_self]
        by_cases h : other = name
        · rw [if_pos h, h, field?_cons_self]
        · have hne : Value.str name ≠ .str other := fun heq => h (Value.str.inj heq).symm
          rw [if_neg h, field?_cons_of_ne hne, field?_cons_of_ne hne]
      · rw [put_cons_of_ne hk]
        by_cases hother : k = .str other
        · have hne : ¬ other = name := fun heq => hk (heq ▸ hother)
          rw [hother, field?_cons_self, field?_cons_self, if_neg hne]
        · rw [field?_cons_of_ne hother, field?_cons_of_ne hother, ih]

end Entries

/-! ## Walking and leaves -/

namespace Value

/-- The value that walking along labels leads to. -/
def at? : Value → List String → Option Value
  | v, [] => some v
  | .map es, label :: rest => (Entries.field? es label).bind fun v => v.at? rest
  | _, _ :: _ => none

/-- Everything that is reached by so many steps down mappings, or fewer where a value is no mapping,
with the keys on the way. -/
def leaves : Nat → Value → List (List Value × Value)
  | n + 1, .map es => es.flatMap fun e => (leaves n e.2).map fun p => (e.1 :: p.1, p.2)
  | _, v => [([], v)]

@[simp] theorem leaves_zero (v : Value) : v.leaves 0 = [([], v)] := by
  cases v <;> rfl

theorem leaves_map (n : Nat) (es : Entries) : (Value.map es).leaves (n + 1)
    = es.flatMap fun e => (e.2.leaves n).map fun p => (e.1 :: p.1, p.2) := rfl

/-- A value that does not go as deep as its leaves is a mapping. -/
theorem exists_map_of_leaves {n : Nat} {v : Value}
    (hv : ∀ p ∈ v.leaves (n + 1), p.1.length = n + 1) : ∃ es, v = .map es := by
  cases v with
  | map es => exact ⟨es, rfl⟩
  | _ => exact absurd (hv _ (List.mem_singleton_self _)) (by simp)

end Value

/-! ## One value -/

/-- A value under labels that lead nowhere yet can be put, and is one more leaf. Induction on the
labels. -/
theorem leaves_nestAt (value : Value) (labels : List String) : ∀ {n : Nat} {es : Entries},
    labels.length = n + 1 → (∀ p ∈ (Value.map es).leaves (n + 1), p.1.length = n + 1) →
      labels.map Value.str ∉ ((Value.map es).leaves (n + 1)).map Prod.fst →
        ∃ es', nestAt value labels es = .ok es' ∧ ((Value.map es').leaves (n + 1)).Perm
          ((Value.map es).leaves (n + 1) ++ [(labels.map .str, value)]) := by
  induction labels with
  | nil => exact fun hlength => absurd hlength (by simp)
  | cons label rest ih =>
      intro n es hlength hdepth hfresh
      cases rest with
      | nil =>
          obtain rfl : n = 0 := by simpa using hlength.symm
          -- the key is not there, or its value would be a leaf
          have hnone : Entries.field? es label = none := by
            cases hfound : Entries.field? es label with
            | none => rfl
            | some old =>
                obtain ⟨before, after, rfl, -⟩ := Entries.put_of_field? hfound
                exact absurd (by simp [Value.leaves_map]) hfresh
          refine ⟨es ++ [(.str label, value)], ?_, ?_⟩
          · rw [nestAt, Entries.put_of_field?_eq_none hnone]
            rfl
          · simp [Value.leaves_map]
      | cons second rest =>
          obtain ⟨n, rfl⟩ : ∃ k, n = k + 1 := ⟨rest.length, by
            rw [List.length_cons, List.length_cons] at hlength
            omega⟩
          have hrest : (second :: rest).length = n + 1 := Nat.succ.inj hlength
          cases hfound : Entries.field? es label with
          | none =>
              have hempty : (Value.map []).leaves (n + 1) = [] := rfl
              obtain ⟨inner, hinner, hleaves⟩ := @ih n [] hrest (by simp [hempty]) (by simp [hempty])
              refine ⟨es ++ [(.str label, .map inner)], ?_, ?_⟩
              · simp only [nestAt, hfound, hinner]
                exact congrArg Except.ok (Entries.put_of_field?_eq_none hfound _)
              · simp only [Value.leaves_map (n + 1), List.flatMap_append, List.flatMap_singleton]
                exact (hleaves.map _).append_left _
          | some old =>
              obtain ⟨before, after, rfl, hput⟩ := Entries.put_of_field? hfound
              simp only [Value.leaves_map (n + 1), List.flatMap_append, List.flatMap_cons,
                List.mem_append, List.map_append, not_or] at hdepth hfresh
              have hdepth' : ∀ p ∈ old.leaves (n + 1), p.1.length = n + 1 := by
                intro p hp
                simpa using hdepth _ (Or.inr (Or.inl (List.mem_map_of_mem hp)))
              have hfresh' : (second :: rest).map Value.str ∉ (old.leaves (n + 1)).map Prod.fst := by
                intro hmem
                obtain ⟨p, hp, heq⟩ := List.mem_map.mp hmem
                refine hfresh.2.1 (List.mem_map.mpr ⟨_, List.mem_map_of_mem hp, ?_⟩)
                rw [List.map_cons, heq]
              obtain ⟨inner, rfl⟩ := Value.exists_map_of_leaves hdepth'
              obtain ⟨inner', hinner, hleaves⟩ := ih hrest hdepth' hfresh'
              refine ⟨before ++ (.str label, .map inner') :: after, ?_, ?_⟩
              · simp only [nestAt, hfound, hinner]
                exact congrArg Except.ok (hput (.map inner'))
              · -- the new leaf moves behind those of the entries after it
                simp only [Value.leaves_map (n + 1), List.flatMap_append, List.flatMap_cons,
                  List.append_assoc]
                refine List.Perm.append_left _ ?_
                refine ((hleaves.map _).append_right _).trans ?_
                rw [List.map_append, List.append_assoc]
                exact List.Perm.append_left _ List.perm_append_comm

/-- The labels now lead to the value, and all other labels, as many, to where they led before.
Induction on the labels. -/
theorem at?_nestAt (value : Value) (labels : List String) : ∀ {es es' : Entries},
    nestAt value labels es = .ok es' → ∀ other, other.length = labels.length →
      (Value.map es').at? other
        = if other = labels then some value else (Value.map es).at? other := by
  induction labels with
  | nil => exact fun h => absurd h throw_ne_ok
  | cons label rest ih =>
      intro es es' h other hlength
      obtain ⟨first, others, rfl⟩ : ∃ first others, other = first :: others :=
        List.exists_cons_of_length_eq_add_one hlength
      have hothers : others.length = rest.length := by simpa using hlength
      -- whatever is put is put under the first label
      have hput : ∃ v, es' = Entries.put (.str label) v es ∧ v.at? others
          = if others = rest then some value
            else (Entries.field? es label).bind fun old => old.at? others := by
        cases rest with
        | nil =>
            rw [nestAt, pure_eq_ok] at h
            refine ⟨value, h.symm, ?_⟩
            rw [List.length_nil, List.length_eq_zero_iff] at hothers
            subst hothers
            rfl
        | cons second rest =>
            simp only [nestAt] at h
            split at h
            · next hnone =>
                obtain ⟨inner, hinner, h⟩ := bind_eq_ok.mp h
                rw [pure_eq_ok] at h
                refine ⟨_, h.symm, ?_⟩
                rw [ih hinner others hothers, hnone]
                obtain ⟨next, more, rfl⟩ := List.exists_cons_of_length_eq_add_one hothers
                rfl
            · next inner hinner =>
                obtain ⟨inner', hinner', h⟩ := bind_eq_ok.mp h
                rw [pure_eq_ok] at h
                refine ⟨_, h.symm, ?_⟩
                rw [ih hinner' others hothers, hinner]
                rfl
            · exact absurd h throw_ne_ok
      obtain ⟨v, rfl, hv⟩ := hput
      rw [Value.at?, Entries.field?_put]
      by_cases hfirst : first = label
      · subst hfirst
        rw [if_pos rfl, Option.bind_some, hv]
        simp [Value.at?]
      · simp [hfirst, Value.at?]

/-! ## All values of a family -/

/-- A value is a report of others: they are its leaves, and walking along the labels of a key leads to
the value of that key. -/
structure Value.Reports (v : Value) (n : Nat) (values : FamilyValues) : Prop where
  leaves : (v.leaves n).Perm (values.map fun e => (e.1.map fun m => .str m.label, e.2))
  reached : ∀ e ∈ values, v.at? (e.1.map Value.label) = some e.2

namespace FamilyValues

/-- The keys are different and all of one length, and members at the same place of two keys are the
same if they have the same label. -/
structure IsLabelled (values : FamilyValues) (n : Nat) : Prop where
  length : ∀ e ∈ values, e.1.length = n
  distinct : values.Pairwise fun e f => Value.sameItems e.1 f.1 = false
  told : ∀ e ∈ values, ∀ f ∈ values, ∀ (i : Nat) (u v : Value), e.1[i]? = some u →
    f.1[i]? = some v → u.label = v.label → u.same v = true

/-- Keys with the same labels are the same, where labels tell members apart. Induction along both
keys. -/
theorem sameItems_of_labels {key : Key} : ∀ {other : Key},
    (∀ (i : Nat) (u v : Value), key[i]? = some u → other[i]? = some v → u.label = v.label →
      u.same v = true) →
      key.map Value.label = other.map Value.label → Value.sameItems key other = true := by
  induction key with
  | nil =>
      intro other _ h
      obtain rfl : other = [] := by simpa using h.symm
      rw [Value.sameItems]
  | cons u key ih =>
      intro other htold h
      cases other with
      | nil => cases h
      | cons v other =>
          rw [List.map_cons, List.map_cons, List.cons.injEq] at h
          have hfirst := htold 0 u v rfl rfl h.1
          have hrest := ih (fun i u' v' => htold (i + 1) u' v') h.2
          rw [Value.sameItems, hfirst, hrest]
          rfl

namespace IsLabelled

variable {values : FamilyValues} {n : Nat}

/-- No two keys have the same labels. -/
theorem labels_distinct (h : IsLabelled values n) :
    values.Pairwise fun e f => e.1.map Value.label ≠ f.1.map Value.label := by
  refine h.distinct.imp_of_mem fun {e f} he hf hne heq => ?_
  rw [sameItems_of_labels (h.told e he f hf) heq] at hne
  cases hne

/-- The step: one more value can be put and reported. The leaves that were reported stay where they
are, since the new key differs from theirs by a label. -/
theorem reports_nestAt {done : FamilyValues} {e : Key × Value} {es : Entries}
    (hes : (Value.map es).Reports (n + 1) done) (hlengths : ∀ f ∈ done, f.1.length = n + 1)
    (hlength : e.1.length = n + 1)
    (hfresh : ∀ f ∈ done, f.1.map Value.label ≠ e.1.map Value.label) :
    ∃ es', nestAt e.2 (e.1.map Value.label) es = .ok es'
      ∧ (Value.map es').Reports (n + 1) (done ++ [e]) := by
  -- what is there already are the values before, each under its labels
  have hpaths : ∀ p ∈ (Value.map es).leaves (n + 1), ∃ f ∈ done,
      p = (f.1.map fun m => .str m.label, f.2) := by
    intro p hp
    obtain ⟨f, hf, rfl⟩ := List.mem_map.mp (hes.leaves.subset hp)
    exact ⟨f, hf, rfl⟩
  have hdepth : ∀ p ∈ (Value.map es).leaves (n + 1), p.1.length = n + 1 := by
    intro p hp
    obtain ⟨f, hf, rfl⟩ := hpaths p hp
    rw [List.length_map, hlengths f hf]
  -- so the path of the new value is none that is there
  have hnew : (e.1.map Value.label).map Value.str
      ∉ ((Value.map es).leaves (n + 1)).map Prod.fst := by
    intro hmem
    obtain ⟨p, hp, heq⟩ := List.mem_map.mp hmem
    obtain ⟨f, hf, rfl⟩ := hpaths p hp
    refine hfresh f hf (List.map_injective_iff.mpr (fun _ _ h => Value.str.inj h) ?_)
    rw [← heq, List.map_map]
    rfl
  obtain ⟨es', hes', hleaves⟩ :=
    leaves_nestAt e.2 (e.1.map Value.label) (by rw [List.length_map, hlength]) hdepth hnew
  -- one more leaf, and all values are found, those before where they were
  refine ⟨es', hes', ?_, ?_⟩
  · refine hleaves.trans ?_
    rw [List.map_append, List.map_singleton, List.map_map]
    exact hes.leaves.append_right _
  · intro f hf
    cases List.mem_append.mp hf with
    | inl hold =>
        rw [at?_nestAt _ _ hes' _ (by rw [List.length_map, List.length_map, hlengths f hold, hlength]),
          if_neg (hfresh f hold)]
        exact hes.reached f hold
    | inr hlast =>
        obtain rfl := List.mem_singleton.mp hlast
        rw [at?_nestAt _ _ hes' _ rfl, if_pos rfl]

/-- The run: all values can be put, and the result reports them. Induction on the values that are
left, for any that were put before. -/
theorem reports_nested (h : IsLabelled values (n + 1)) :
    ∃ es, nested values = .ok (.map es) ∧ (Value.map es).Reports (n + 1) values := by
  have hfold : ∀ (left done : FamilyValues) (es : Entries), IsLabelled (done ++ left) (n + 1) →
      (Value.map es).Reports (n + 1) done → ∃ es',
        left.foldlM (fun es e => nestAt e.2 (e.1.map Value.label) es) es = .ok es'
          ∧ (Value.map es').Reports (n + 1) (done ++ left) := by
    intro left
    induction left with
    | nil =>
        intro done es _ hes
        rw [List.append_nil]
        exact ⟨es, rfl, hes⟩
    | cons e left ih =>
        intro done es h hes
        have hlabels := h.labels_distinct
        rw [List.pairwise_append] at hlabels
        obtain ⟨mid, hmid, hreports⟩ := reports_nestAt hes
          (fun f hf => h.length f (List.mem_append_left _ hf))
          (h.length e (List.mem_append_right _ List.mem_cons_self))
          (fun f hf => hlabels.2.2 f hf e List.mem_cons_self)
        -- the next value is counted among those that are done
        have hassoc : done ++ e :: left = done ++ [e] ++ left := by simp
        rw [hassoc] at h ⊢
        obtain ⟨es', hes', hall⟩ := ih (done ++ [e]) mid h hreports
        exact ⟨es', by rw [List.foldlM_cons, hmid]; exact hes', hall⟩
  obtain ⟨es, hes, hreports⟩ := hfold values [] [] h ⟨by simp [Value.leaves_map], by simp⟩
  refine ⟨es, ?_, hreports⟩
  -- with one step at least, the values are not a single one without labels
  unfold nested
  split
  · next v => exact absurd (h.length _ (List.mem_singleton_self _)) (by simp)
  · rw [hes]
    rfl

end IsLabelled

/-- A single value without members is reported as itself. -/
theorem reports_nested_single (v : Value) :
    nested [([], v)] = .ok v ∧ v.Reports 0 [([], v)] :=
  ⟨rfl, by simp, fun e he => by rw [List.mem_singleton.mp he]; rfl⟩

end FamilyValues

end Rostering
