import Rostering.PatchRequest
import Rostering.Proofs.Config.Fields
import Rostering.Proofs.Cutting

/-!
# Reading requests for patches

A body can write a patch in several ways: by its own fields or in a list, and with a path that has a
point in it or is given step by step. This module says which patch is meant by what is written
(`WrittenPatch.meant`), and that this is the one that is read.

## The architecture

* **`WrittenPatch`** — a patch as it is written, with `WrittenPatch.IsFieldsOf` for the object that
  writes it; the fields may come in any order.
* **`PatchRequest.IsSingle`**, **`PatchRequest.IsBatch`** — the two kinds of bodies. Every patch can be
  written in both (`PatchRequest.isSingle_entries`, `PatchRequest.isBatch_entries`).
* **`PatchRequest.ofValue?_of_isSingle`**, **`PatchRequest.ofValue?_of_isBatch`** — what is read.
-/

namespace Rostering

/-! ## Bodies that write patches -/

/-- A patch as it is written in a body. Its operation and its value may be left out. -/
structure WrittenPatch where
  operation : Option String
  path : PathSpelling
  value : Option Value

namespace WrittenPatch

/-- What is meant: a merge if no operation is written, and null if no value is. -/
def meant (p : WrittenPatch) : Patch :=
  ⟨.str (p.operation.getD "merge"), p.path.toSteps, p.value.getD .null⟩

/-- The fields of an object, in any order, are those of the patch. -/
structure IsFieldsOf (p : WrittenPatch) (es : Entries) : Prop where
  operation : Entries.field? es "operation" = p.operation.map .str
  path : Entries.field? es "path" = some p.path.toValue
  value : Entries.field? es "value" = p.value

/-- The fields of the patch in the order of the documentation. -/
def fields (p : WrittenPatch) : List (String × Value) :=
  (p.operation.map fun operation => ("operation", .str operation)).toList
    ++ [("path", p.path.toValue)] ++ (p.value.map fun v => ("value", v)).toList

/-- The object that writes a patch, with the fields that it has and no others. -/
def entries (p : WrittenPatch) : Entries := Entries.ofFields p.fields

theorem isFieldsOf_entries (p : WrittenPatch) : p.IsFieldsOf p.entries := by
  unfold entries fields
  constructor <;> rw [Entries.field?_ofFields] <;> cases p.operation <;> cases p.value <;> rfl

/-- An object writes the patch. -/
def IsItem (p : WrittenPatch) (v : Value) : Prop := ∃ es, v = .map es ∧ p.IsFieldsOf es

end WrittenPatch

namespace PatchRequest

/-- The body has the fields of a patch, and no list. -/
structure IsSingle (p : WrittenPatch) (es : Entries) : Prop extends p.IsFieldsOf es where
  alone : Entries.field? es "patches" = none
  known : ∀ e ∈ es, isKnown e = true

/-- The body has a list of patches, and nothing else. -/
structure IsBatch (ps : List WrittenPatch) (es : Entries) : Prop where
  items : ∃ items, Entries.field? es "patches" = some (.list items)
    ∧ List.Forall₂ WrittenPatch.IsItem ps items
  only : ∀ e ∈ es, e.1 = .str "patches"

/-- Every patch can be written as a body of its own. -/
theorem isSingle_entries (p : WrittenPatch) : IsSingle p p.entries where
  toIsFieldsOf := p.isFieldsOf_entries
  alone := by
    unfold WrittenPatch.entries WrittenPatch.fields
    rw [Entries.field?_ofFields]
    cases p.operation <;> cases p.value <;> rfl
  known := by
    have hknown : ∀ name ∈ fields, ∀ v, isKnown (.str name, v) = true := by
      intro name hname v
      rw [isKnown, List.any_eq_true]
      exact ⟨name, hname, by rw [Value.same_str, beq_self_eq_true]⟩
    intro e he
    unfold WrittenPatch.entries Entries.ofFields at he
    obtain ⟨field, hfield, rfl⟩ := List.mem_map.mp he
    refine hknown field.1 ?_ field.2
    simp only [WrittenPatch.fields, List.mem_append, List.mem_singleton, Option.mem_toList,
      Option.map_eq_some_iff] at hfield
    unfold fields
    rcases hfield with (⟨_, -, rfl⟩ | rfl) | ⟨_, -, rfl⟩ <;> simp

theorem isBatch_entries (ps : List WrittenPatch) :
    IsBatch ps (Entries.ofFields [("patches", .list (ps.map fun p => .map p.entries))]) where
  items := by
    refine ⟨_, by rw [Entries.field?_ofFields]; rfl, ?_⟩
    rw [List.forall₂_map_right_iff, List.forall₂_same]
    exact fun p _ => ⟨p.entries, rfl, p.isFieldsOf_entries⟩
  only := by
    intro e he
    rw [List.mem_singleton.mp he]

/-- A path is read as it is spelled, in one string or step by step. -/
theorem ofValue?_toValue (path : PathSpelling) : PathSpelling.ofValue? path.toValue = some path := by
  cases path with
  | dotted path => rfl
  | steps path =>
      have hread : (path.map Value.str).mapM PathSpelling.text? = some path := by
        induction path with
        | nil => rfl
        | cons step path ih =>
            rw [List.map_cons, List.mapM_cons, ih]
            rfl
      show ((path.map Value.str).mapM PathSpelling.text?).map PathSpelling.steps = _
      rw [hread]
      rfl

/-- An item of a list is read as the patch that it writes. -/
theorem ofValue?_of_isItem {p : WrittenPatch} {v : Value} (h : p.IsItem v) :
    (RequestedPatch.ofValue? v).map RequestedPatch.toPatch = some p.meant := by
  obtain ⟨es, rfl, hp⟩ := h
  unfold RequestedPatch.ofValue?
  simp only [hp.path, hp.operation, Entries.field, hp.value, Option.bind_eq_bind, Option.bind_some,
    ofValue?_toValue]
  -- an operation that is left out is a merge
  cases hoperation : p.operation with
  | none =>
      unfold WrittenPatch.meant
      rw [hoperation]
      rfl
  | some operation =>
      unfold WrittenPatch.meant
      rw [hoperation]
      rfl

/-- The items of a list are read one after the other, each as what it writes. -/
theorem mapM_of_forall₂ {ps : List WrittenPatch} {items : List Value}
    (h : List.Forall₂ WrittenPatch.IsItem ps items) :
    (items.mapM RequestedPatch.ofValue?).map (List.map RequestedPatch.toPatch)
      = some (ps.map WrittenPatch.meant) := by
  induction h with
  | nil => rfl
  | @cons p item ps items hitem _ ih =>
      obtain ⟨r, hr, hmeant⟩ := Option.map_eq_some_iff.mp (ofValue?_of_isItem hitem)
      obtain ⟨rs, hrs, hrest⟩ := Option.map_eq_some_iff.mp ih
      rw [List.mapM_cons, hr, hrs]
      show some (r.toPatch :: rs.map RequestedPatch.toPatch) = _
      rw [hmeant, hrest]
      rfl

/-- A body with one patch is read as that. The operation must not be empty: it would be taken for left
out. -/
theorem ofValue?_of_isSingle {p : WrittenPatch} {es : Entries} (h : IsSingle p es)
    (hoperation : p.operation ≠ some "") :
    (ofValue? (.map es)).map (List.map RequestedPatch.toPatch) = some [p.meant] := by
  have hall : (!es.all isKnown) = false := by
    rw [Bool.not_eq_false', List.all_eq_true]
    exact h.known
  -- the four fields one by one, and then what is made of them
  have hpath : optional? es "path" PathSpelling.ofValue? = some (some p.path) := by
    have hnull : p.path.toValue ≠ .null := by cases p.path <;> nofun
    unfold optional?
    rw [h.path]
    split
    · next habsent => cases habsent
    · next habsent => exact absurd (Option.some.inj habsent) hnull
    · next v hv =>
        cases hv
        rw [ofValue?_toValue]
        rfl
  have hread : optional? es "operation" PathSpelling.text? = some p.operation := by
    unfold optional?
    rw [h.operation]
    cases p.operation <;> rfl
  have hpatches : optional? es "patches" list? = some none := by
    unfold optional?
    rw [h.alone]
  -- the empty operation is excluded, so that the text that is left out and the text that is written
  -- part here
  have hmeant : (if (p.operation.getD "").isEmpty then "merge" else p.operation.getD "")
      = p.operation.getD "merge" := by
    cases hwritten : p.operation with
    | none => rfl
    | some operation =>
        have hne : operation ≠ "" := by
          rintro rfl
          exact hoperation hwritten
        simp [hne]
  unfold ofValue?
  simp only [hall, hpath, hread, hpatches, Option.bind_eq_bind, Option.bind_some]
  rw [hmeant]
  unfold Entries.field
  rw [h.value]
  rfl

/-- A body with a list is read as the patches that its items write. Whatever else stands beside the
list would be refused, so the list stands alone. -/
theorem ofValue?_of_isBatch {ps : List WrittenPatch} {es : Entries} (h : IsBatch ps es) :
    (ofValue? (.map es)).map (List.map RequestedPatch.toPatch)
      = some (ps.map WrittenPatch.meant) := by
  obtain ⟨items, hpatches, hitems⟩ := h.items
  have hall : (!es.all isKnown) = false := by
    rw [Bool.not_eq_false', List.all_eq_true]
    intro e he
    rw [isKnown, h.only e he]
    simp [fields, Value.same]
  -- the list is the only field, so every other one is left out
  have hnone : ∀ name, name ≠ "patches" → Entries.field? es name = none := by
    intro name hname
    unfold Entries.field? Entries.find?
    rw [Option.map_eq_none_iff, List.find?_eq_none]
    intro e he
    rw [h.only e he, Value.same]
    simpa using hname
  obtain ⟨rs, hrs, hmeant⟩ := Option.map_eq_some_iff.mp (mapM_of_forall₂ hitems)
  have hlist : optional? es "patches" list? = some (some rs) := by
    unfold optional?
    rw [hpatches]
    show (items.mapM RequestedPatch.ofValue?).map some = _
    rw [hrs]
    rfl
  have hothers : optional? es "operation" PathSpelling.text? = some none
      ∧ optional? es "path" PathSpelling.ofValue? = some none := by
    unfold optional?
    rw [hnone "operation" (by decide), hnone "path" (by decide)]
    exact ⟨rfl, rfl⟩
  unfold ofValue?
  simp only [hall, hothers.1, hothers.2, hlist, Option.bind_eq_bind, Option.bind_some]
  rw [← hmeant]
  rfl

end PatchRequest

end Rostering
