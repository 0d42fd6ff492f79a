import Rostering.Config.Decode
import Rostering.Config.Encode
import Rostering.Proofs.Calendar
import Rostering.Proofs.Except
import Rostering.Proofs.Named
import Rostering.Proofs.Value.Text

/-!
# Fields of a configuration

What the readers of single fields find in entries with text keys. The encoder leaves fields out,
the readers treat a missing field like an empty one, and this module is where the two meet.

## The architecture

* **`Entries.field?_ofFields`** — a text key is found as a name is found in a list of pairs, so
  fields that were written are looked up by rewriting.
* **`Config.lookup_nonEmptyField`** — a field that may be left out is found unless it was empty.
* **`Config.namedSection_encodeSection`**, **`Config.namedValues_written`** — entries that were written
  under distinct names are read back under the same names, in the same order.
-/

namespace Rostering

/-! ## Look-up by text keys -/

theorem Value.same_str (a b : String) : (Value.str a).same (.str b) = (a == b) := by
  simp [Value.same]

/-- Nothing but the text itself is the same as a text. -/
theorem Value.str_same_iff {name : String} {k : Value} :
    (Value.str name).same k = true ↔ k = .str name := by
  cases k with
  | str other =>
      rw [Value.same, beq_iff_eq, Value.str.injEq]
      exact eq_comm
  | _ => simp [Value.same]

theorem Value.same_str_iff {name : String} {k : Value} :
    k.same (.str name) = true ↔ k = .str name := by
  cases k with
  | str other => simp [Value.same]
  | _ => simp [Value.same, Value.sameInt]

/-- Fields that were written under texts are looked up like names in a list of pairs. -/
theorem Entries.field?_ofFields (l : List (String × Value)) (name : String) :
    Entries.field? (Entries.ofFields l) name = l.lookup name := by
  induction l with
  | nil => rfl
  | cons e rest ih =>
      obtain ⟨key, v⟩ := e
      have hcons : Entries.field? (Entries.ofFields ((key, v) :: rest)) name
          = if name == key then some v else Entries.field? (Entries.ofFields rest) name := by
        unfold Entries.field? Entries.find? Entries.ofFields
        rw [List.map_cons, List.find?_cons, Value.same_str]
        cases name == key <;> rfl
      rw [hcons, ih, List.lookup_cons]
      cases name == key <;> rfl

theorem Entries.field_ofFields (l : List (String × Value)) (name : String) :
    Entries.field (Entries.ofFields l) name = (l.lookup name).getD .null := by
  unfold Entries.field
  rw [Entries.field?_ofFields]

theorem Entries.field_of_field? {es : Entries} {key : String} {v : Value}
    (h : es.field? key = some v) : es.field key = v := by
  unfold Entries.field
  rw [h]
  rfl

/-- A field that is not there would be null. -/
theorem Entries.field?_of_field {es : Entries} {key : String} {v : Value} (h : es.field key = v)
    (hv : v ≠ .null) : es.field? key = some v := by
  cases hfound : es.field? key with
  | none =>
      unfold Entries.field at h
      rw [hfound] at h
      exact absurd h.symm hv
  | some w => rw [← h, Entries.field_of_field? hfound]

/-! ## Values that count as given -/

theorem Value.isAbsent_of_isTrue {v : Value} (hv : v.isTrue = true) : v.isAbsent = false := by
  cases v <;> simp_all [Value.isTrue, Value.isAbsent]

/-! ## Single fields -/

namespace Config

theorem lookup_nonEmptyField (key name : String) (isEmpty : Bool) (v : Value) :
    (nonEmptyField key isEmpty v).lookup name
      = if name == key && !isEmpty then some v else none := by
  unfold nonEmptyField
  cases isEmpty with
  | true => simp
  | false =>
      cases h : name == key <;> simp [List.lookup_cons, h]

/-- A required field is there and counts as given. -/
theorem required_eq_ok {es : Entries} {key path : String} {v : Value} :
    required es key path = .ok v ↔ es.field key = v ∧ v.isAbsent = false := by
  unfold required
  simp only
  -- a field that is not there reads as null, and null counts as absent, so one test decides
  cases habsent : (es.field key).isAbsent with
  | true =>
      simp only [if_true]
      refine ⟨fun h => absurd h throw_ne_ok, ?_⟩
      rintro ⟨rfl, hgiven⟩
      rw [habsent] at hgiven
      cases hgiven
  | false =>
      simp only [Bool.false_eq_true, if_false, pure_eq_ok]
      refine ⟨?_, And.left⟩
      rintro rfl
      exact ⟨rfl, habsent⟩

/-- A mapping that is written only when it has entries is read back either way. -/
theorem optionalMapping_written {es m : Entries} {key : String} (path : String)
    (hfield : es.field? key = if m.isEmpty then none else some (.map m)) :
    optionalMapping es key path = .ok m := by
  unfold optionalMapping Entries.field
  rw [hfield]
  cases m with
  | nil => rfl
  | cons e m => rfl

theorem asConfig_eq_ok {α : Type} {r : Except ConfigError α} {a : α} :
    asConfig r = .ok a ↔ r = .ok a :=
  mapError_eq_ok

/-! ## Fields that are taken as texts -/

/-- The text of a value, if it has one. -/
theorem textOf_eq_ok {v : Value} {s : String} :
    textOf v = .ok s ↔ v.hasText = true ∧ v.shown = s := by
  unfold textOf
  rw [mapError_eq_ok, Value.text_eq_ok]

@[simp] theorem textOf_str (s : String) : textOf (.str s) = .ok s :=
  textOf_eq_ok.mpr ⟨Value.hasText_str s, rfl⟩

/-- Reporting a bad value otherwise does not touch a result. -/
theorem reportValues_eq_ok {α : Type} {path : String} {r : Except Failure α} {a : α} :
    reportValues path r = .ok a ↔ r = .ok a := by
  unfold reportValues
  split
  · split
    · simp [asConfig_eq_ok, reject, throw_ne_ok]
    · rfl
  · rfl

theorem rejectType_ne_ok {α : Type} {fault : Value → ConfigFault} {type : Value} {path : String}
    {a : α} : rejectType fault type path ≠ .ok a := by
  intro h
  obtain ⟨_, -, h⟩ := bind_eq_ok.mp h
  exact throw_ne_ok (asConfig_eq_ok.mp h)

/-- The text of a field that is there and counts as given. -/
theorem requiredText_eq_ok {es : Entries} {key path s : String} : requiredText es key path = .ok s
    ↔ (es.field key).isAbsent = false ∧ textOf (es.field key) = .ok s := by
  unfold requiredText
  simp only [bind_eq_ok, asConfig_eq_ok, required_eq_ok]
  constructor
  · rintro ⟨_, ⟨rfl, hgiven⟩, htext⟩
    exact ⟨hgiven, htext⟩
  · rintro ⟨hgiven, htext⟩
    exact ⟨_, ⟨rfl, hgiven⟩, htext⟩

/-- A value that counts as false has no text here, whatever it shows. -/
theorem optionalText_eq_ok {v : Value} {t : Option String} : optionalText v = .ok t
    ↔ v.isTrue = false ∧ t = none ∨ v.isTrue = true ∧ ∃ s, textOf v = .ok s ∧ t = some s := by
  unfold optionalText
  cases v.isTrue with
  | false => simp [pure_eq_ok, @eq_comm _ none]
  | true => simp [map_eq_ok, @eq_comm _ _ t]

/-! ## Sections -/

/-- No key is unknown if all are names of sections. -/
theorem unknownSections_ofFields {l : List (String × Value)} (h : ∀ e ∈ l, e.1 ∈ sections) :
    unknownSections (Entries.ofFields l) = [] := by
  unfold unknownSections Entries.ofFields
  rw [List.map_map, List.filter_eq_nil_iff]
  intro key hkey
  obtain ⟨field, hfield, rfl⟩ := List.mem_map.mp hkey
  simp only [Function.comp_apply, Value.same_str, Bool.not_eq_true, Bool.not_eq_false',
    List.any_eq_true, beq_iff_eq, exists_eq_right']
  exact h field hfield

/-- A key without a text ends the reading of a section, whatever stands under it. -/
theorem namedValues_eq_error {k v : Value} {es : Entries} (hk : k.hasText = false) :
    namedValues ((k, v) :: es) = .error (.fault .overlong) := by
  have htext : textOf k = .error (.fault .overlong) := by
    unfold textOf Value.text
    rw [hk]
    rfl
  refine bind_eq_error.mpr (Or.inl (mapM_eq_error.mpr ⟨[], _, es, rfl, nofun, ?_⟩))
  exact bind_eq_error.mpr (Or.inl htext)


/-- A section reads back to what its entries read back to, under the same names and in the same
order. -/
theorem namedSection_encodeSection {α β : Type} {f : α → Value} {g : α → β}
    {read : String → Value → Except Failure β} {m : Named α}
    (hread : ∀ e ∈ m.entries, read e.1 (f e.2) = .ok (g e.2)) :
    namedSection (Entries.ofFields (m.entries.map fun e => (e.1, f e.2))) read
      = .ok (m.map fun _ => g) := by
  -- every name is its own text, so the entries come out one by one as they were put in
  have hentries : (Entries.ofFields (m.entries.map fun e => (e.1, f e.2))).mapM
      (fun e => do
        let name ← textOf e.1
        let v ← read name e.2
        pure (name, v)) = .ok (m.map fun _ => g).entries := by
    unfold Entries.ofFields
    rw [List.map_map, mapM_eq_ok]
    refine List.forall₂_map_left_iff.mpr (List.forall₂_map_right_iff.mpr ?_)
    refine List.forall₂_same.mpr fun e he => ?_
    exact bind_eq_ok.mpr ⟨e.1, textOf_str e.1, bind_eq_ok.mpr ⟨g e.2, hread e he, rfl⟩⟩
  unfold namedSection
  exact bind_eq_ok.mpr ⟨_, hentries, congrArg Except.ok (Named.ofList_entries _)⟩

/-- Entries under distinct names are read back as they are, in the same order. -/
theorem namedValues_written {α : Type} (f : α → Value) (m : Named α) :
    namedValues (Entries.ofFields (m.entries.map fun e => (e.1, f e.2)))
      = .ok (m.map fun _ => f) :=
  namedSection_encodeSection fun _ _ => rfl

/-- Every entry of a section that was read comes from reading one of the entries. -/
theorem exists_mem_of_mem_namedSection {α : Type} {es : Entries}
    {read : String → Value → Except Failure α} {m : Named α} (hm : namedSection es read = .ok m)
    {e : String × α} (he : e ∈ m.entries) : ∃ source ∈ es, read e.1 source.2 = .ok e.2 := by
  unfold namedSection at hm
  obtain ⟨entries, hentries, hfill⟩ := bind_eq_ok.mp hm
  rw [pure_eq_ok] at hfill
  rw [← hfill] at he
  obtain ⟨source, hmem, hsource⟩ := exists_of_mem_mapM hentries (Named.mem_ofList he)
  obtain ⟨name, -, hsource⟩ := bind_eq_ok.mp hsource
  obtain ⟨v, hv, heq⟩ := bind_eq_ok.mp hsource
  rw [pure_eq_ok] at heq
  exact ⟨source, hmem, by rw [← heq]; exact hv⟩

theorem exists_of_mem_namedSection {α : Type} {es : Entries}
    {read : String → Value → Except Failure α} {m : Named α} (hm : namedSection es read = .ok m)
    {e : String × α} (he : e ∈ m.entries) : ∃ v, read e.1 v = .ok e.2 := by
  obtain ⟨source, -, hread⟩ := exists_mem_of_mem_namedSection hm he
  exact ⟨source.2, hread⟩

end Config

end Rostering
