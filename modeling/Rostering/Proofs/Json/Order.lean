import Mathlib
import Rostering.Proofs.Json.Document

/-!
# Documents with their keys in order

Putting the keys of a document into order succeeds, since all of them are texts, and gives a
document with the same floats in it.

* **`exists_sorted_fields`** — the entries of one mapping are permuted and stay fields.
* **`sortKeys_fields`** — so what the fields become is found under the names that they had.
* **`IsDocument.sortKeys`** — the same all the way down, by induction on the document.
* **`sortKeys_lookup`** — where two mappings become the same, so do their fields.
-/

namespace Rostering.Json

theorem text?_isSome_ofFields (fields : List (String × Value)) :
    ((Entries.ofFields fields).all fun e => (text? e.1).isSome) = true := by
  simp [Entries.ofFields, text?]

/-- Fields put into the order of their keys are the same fields. Sorting permutes them, and names
that are texts can always be ordered. -/
theorem exists_sorted_fields (fields : List (String × Value)) :
    ∃ sorted, sortEntries (Entries.ofFields fields) = some (Entries.ofFields sorted)
      ∧ sorted.Perm fields := by
  unfold sortEntries
  split
  · exact ⟨fields, rfl, List.Perm.refl fields⟩
  · rw [if_pos (text?_isSome_ofFields fields)]
    set less : Value × Value → Value × Value → Bool :=
      fun a b => !((text? b.1).getD "" < (text? a.1).getD "") with hless
    let back : Value × Value → String × Value := fun e => ((text? e.1).getD "", e.2)
    have hperm := List.mergeSort_perm (Entries.ofFields fields) less
    -- every entry is a field, so that taking it apart loses nothing
    have hback : ∀ e ∈ Entries.ofFields fields, (Value.str (back e).1, (back e).2) = e := by
      intro e he
      obtain ⟨field, -, rfl⟩ := List.mem_map.mp he
      rfl
    have hfields : (Entries.ofFields fields).map back = fields := by
      unfold Entries.ofFields
      rw [List.map_map]
      exact List.map_id fields
    refine ⟨((Entries.ofFields fields).mergeSort less).map back, ?_, ?_⟩
    · have hsame : ((Entries.ofFields fields).mergeSort less).map
          (fun e => (Value.str (back e).1, (back e).2))
            = (Entries.ofFields fields).mergeSort less :=
        (List.map_congr_left fun e he => hback e (hperm.mem_iff.mp he)).trans (List.map_id _)
      unfold Entries.ofFields at hsame ⊢
      rw [List.map_map]
      exact congrArg some hsame.symm
    · have hmapped := hperm.map back
      rw [hfields] at hmapped
      exact hmapped

/-- The entries of a document are put into order value by value. -/
theorem exists_sortKeys_fields {fields : List (String × Value)}
    (hfields : ∀ e ∈ fields, ∃ w, sortKeys e.2 = some w) :
    ∃ inner, sortKeysEntries (Entries.ofFields fields) = some (Entries.ofFields inner)
      ∧ List.Forall₂ (fun e d => e.1 = d.1 ∧ sortKeys e.2 = some d.2) fields inner := by
  induction fields with
  | nil => exact ⟨[], rfl, .nil⟩
  | cons e fields ih =>
      obtain ⟨name, v⟩ := e
      obtain ⟨w, hw⟩ := hfields (name, v) List.mem_cons_self
      obtain ⟨inner, hinner, hall⟩ := ih fun d hd => hfields d (List.mem_cons_of_mem _ hd)
      refine ⟨(name, w) :: inner, ?_, .cons ⟨rfl, hw⟩ hall⟩
      show sortKeysEntries ((.str name, v) :: Entries.ofFields fields) = _
      rw [sortKeysEntries, hw, hinner]
      rfl

theorem exists_sortKeys_items {items : List Value}
    (hitems : ∀ v ∈ items, ∃ w, sortKeys v = some w) :
    ∃ sorted, sortKeysItems items = some sorted
      ∧ List.Forall₂ (fun v w => sortKeys v = some w) items sorted := by
  induction items with
  | nil => exact ⟨[], rfl, .nil⟩
  | cons v items ih =>
      obtain ⟨w, hw⟩ := hitems v List.mem_cons_self
      obtain ⟨sorted, hsorted, hall⟩ := ih fun u hu => hitems u (List.mem_cons_of_mem _ hu)
      exact ⟨w :: sorted, by rw [sortKeysItems, hw, hsorted], .cons hw hall⟩

/-- What the fields of a mapping become is found under the names that they had. A key may be shown
in another form than it has, but a text stays what it is. -/
theorem sortKeys_fields {fields : List (String × Value)}
    (hdistinct : (fields.map Prod.fst).Nodup)
    (hfields : ∀ e ∈ fields, ∃ w, sortKeys e.2 = some w) :
    ∃ sorted, sortKeys (Value.ofFields fields) = some (Value.ofFields sorted)
      ∧ (sorted.map Prod.fst).Nodup
      ∧ (∀ d ∈ sorted, ∃ e ∈ fields, sortKeys e.2 = some d.2)
      ∧ ∀ name, sorted.lookup name = (fields.lookup name).bind sortKeys := by
  obtain ⟨inner, hinner, hall⟩ := exists_sortKeys_fields hfields
  obtain ⟨sorted, hsorted, hperm⟩ := exists_sorted_fields inner
  have hnames : fields.map Prod.fst = inner.map Prod.fst := by
    rw [← List.forall₂_eq_eq_eq, List.forall₂_map_left_iff, List.forall₂_map_right_iff]
    exact hall.imp fun _ _ h => h.1
  have hinnerDistinct : (inner.map Prod.fst).Nodup := hnames ▸ hdistinct
  have hsortedDistinct : (sorted.map Prod.fst).Nodup :=
    (hperm.map Prod.fst).nodup_iff.mpr hinnerDistinct
  have hlookupInner : ∀ name, inner.lookup name = (fields.lookup name).bind sortKeys := by
    intro name
    clear hinner hsorted hperm hnames hinnerDistinct hdistinct hfields
    induction hall with
    | nil => rfl
    | @cons e d fields inner h _ ih =>
        obtain ⟨k, v⟩ := e
        obtain ⟨l, w⟩ := d
        obtain ⟨rfl, hw⟩ := h
        rw [List.lookup_cons, List.lookup_cons]
        cases name == k with
        | true => exact hw.symm
        | false => exact ih
  refine ⟨sorted, ?_, hsortedDistinct, ?_, fun name => ?_⟩
  · show sortKeys (.map (Entries.ofFields fields)) = _
    rw [sortKeys, hinner]
    simp only [hsorted, Option.map_some]
    rfl
  · intro d hd
    obtain ⟨e, he, h⟩ := exists_of_mem_forall₂ hall (hperm.mem_iff.mp hd)
    exact ⟨e, he, h.2⟩
  · rw [← hlookupInner]
    refine Option.ext fun w => ?_
    rw [← Named.mem_iff_lookup hsortedDistinct, ← Named.mem_iff_lookup hinnerDistinct,
      hperm.mem_iff]

/-- A document with its keys in order is a document, with no floats but those that it had. -/
theorem IsDocument.sortKeys {v : Value} (hv : IsDocument v) :
    ∃ w, Json.sortKeys v = some w ∧ IsDocument w ∧ ∀ x ∈ w.floats, x ∈ v.floats := by
  induction hv with
  | null => exact ⟨.null, rfl, .null, fun x hx => hx⟩
  | bool b => exact ⟨.bool b, rfl, .bool b, fun x hx => hx⟩
  | int n hn => exact ⟨.int n, rfl, .int n hn, fun x hx => hx⟩
  | float y => exact ⟨.float y, rfl, .float y, fun x hx => hx⟩
  | str s => exact ⟨.str s, rfl, .str s, fun x hx => hx⟩
  | list items _ ih =>
      obtain ⟨sorted, hsorted, hall⟩ := exists_sortKeys_items fun v hv =>
        let ⟨w, hw, _⟩ := ih v hv
        ⟨w, hw⟩
      -- every item comes from one of the old ones
      have hold : ∀ w ∈ sorted, ∃ v ∈ items, IsDocument w ∧ ∀ x ∈ w.floats, x ∈ v.floats := by
        intro w hw
        obtain ⟨v, hv, hvw⟩ := exists_of_mem_forall₂ hall hw
        obtain ⟨u, hu, hdocument, hfloats⟩ := ih v hv
        cases hvw.symm.trans hu
        exact ⟨v, hv, hdocument, hfloats⟩
      refine ⟨.list sorted, by rw [Json.sortKeys, hsorted]; rfl,
        .list sorted fun w hw => (hold w hw).choose_spec.2.1, fun x hx => ?_⟩
      obtain ⟨w, hw, hx⟩ := Value.mem_floatsOfItems.mp hx
      obtain ⟨v, hv, -, hfloats⟩ := hold w hw
      exact Value.mem_floatsOfItems.mpr ⟨v, hv, hfloats x hx⟩
  | map fields hdistinct _ ih =>
      obtain ⟨sorted, hsorted, hsortedDistinct, hall, -⟩ := sortKeys_fields hdistinct fun e he =>
        let ⟨w, hw, _⟩ := ih e he
        ⟨w, hw⟩
      have hold : ∀ d ∈ sorted, ∃ e ∈ fields, IsDocument d.2 ∧ ∀ x ∈ d.2.floats, x ∈ e.2.floats := by
        intro d hd
        obtain ⟨e, he, hed⟩ := hall d hd
        obtain ⟨u, hu, hdocument, hfloats⟩ := ih e he
        cases hed.symm.trans hu
        exact ⟨e, he, hdocument, hfloats⟩
      refine ⟨Value.ofFields sorted, hsorted,
        .map sorted hsortedDistinct fun d hd => (hold d hd).choose_spec.2.1, fun x hx => ?_⟩
      obtain ⟨d, hd, hx⟩ := Value.mem_floatsOfEntries.mp hx
      obtain ⟨field, hfield, rfl⟩ := List.mem_map.mp hd
      obtain ⟨e, he, -, hfloats⟩ := hold field hfield
      exact Value.mem_floatsOfEntries.mpr
        ⟨(.str e.1, e.2), List.mem_map_of_mem he, hfloats x hx⟩

/-- Where two mappings become the same, so do their fields, name by name. -/
theorem sortKeys_lookup {fields others : List (String × Value)}
    (hfields : IsDocument (Value.ofFields fields)) (hothers : IsDocument (Value.ofFields others))
    (heq : sortKeys (Value.ofFields fields) = sortKeys (Value.ofFields others)) (name : String) :
    (fields.lookup name).bind sortKeys = (others.lookup name).bind sortKeys := by
  have hsorts : ∀ {l : List (String × Value)}, IsDocument (Value.ofFields l) →
      ∀ e ∈ l, ∃ w, sortKeys e.2 = some w := fun hl e he =>
    let ⟨w, hw, _⟩ := ((isDocument_ofFields_iff.mp hl).2 e he).sortKeys
    ⟨w, hw⟩
  obtain ⟨sorted, hsorted, -, -, hlookup⟩ :=
    sortKeys_fields (isDocument_ofFields_iff.mp hfields).1 (hsorts hfields)
  obtain ⟨sorted', hsorted', -, -, hlookup'⟩ :=
    sortKeys_fields (isDocument_ofFields_iff.mp hothers).1 (hsorts hothers)
  rw [hsorted, hsorted'] at heq
  rw [← hlookup, ← hlookup', Entries.ofFields_injective (Value.map.inj (Option.some.inj heq))]

theorem sortKeys_ofTexts (l : List String) :
    sortKeys (Value.ofTexts l) = some (Value.ofTexts l) := by
  have hitems : sortKeysItems (l.map .str) = some (l.map .str) := by
    induction l with
    | nil => rfl
    | cons s l ih =>
        rw [List.map_cons, sortKeysItems, ih]
        rfl
  unfold Value.ofTexts
  rw [sortKeys, hitems]
  rfl

end Rostering.Json
