import Mathlib
import Rostering.Proofs.Config.RoundTrip
import Rostering.Proofs.Json.Document

/-!
# Specifications as documents

What is read from a document, which is a value that JSON text can stand for, is written as one.

## The architecture

* **`field_isDocument`** — the fields of a document are documents, and
  **`isDocument_append_nonEmptyField`** puts fields together again.
* **`source_hasDocuments`**, **`encodeSource_isDocument`** — a source is given documents if it is
  read from one, and is written as one if it is given documents.
* **`encodeParameter_isDocument`**, **`encodeOverride_isDocument`** — what each reader of a part
  makes of a document is written as one. One case for each declared type.
* **`encode_isDocument`** — so is a whole specification.
-/

namespace Rostering

open Json (IsDocument isDocument_ofFields_iff)

/-- The values that a source is given are documents. -/
def Source.HasDocuments : Source → Prop
  | .csv _ options => IsDocument (.map options)
  | .json _ _ => True
  | .api _ _ _ => True
  | .function _ args => IsDocument (.list args)
  | .literal data => IsDocument data

namespace Config

/-! ## Fields of documents -/

theorem not_mem_append_nonEmptyField {fields : List (String × Value)} {key other : String}
    (hkey : key ∉ fields.map Prod.fst) (hne : key ≠ other) (isEmpty : Bool) (v : Value) :
    key ∉ (fields ++ nonEmptyField other isEmpty v).map Prod.fst := by
  rw [List.map_append, List.mem_append, not_or]
  refine ⟨hkey, fun hmem => ?_⟩
  obtain ⟨e, he, heq⟩ := List.mem_map.mp hmem
  rw [fst_of_mem_nonEmptyField he] at heq
  exact hne heq.symm

/-- A field that may be left out is appended to those that a document has. -/
theorem isDocument_append_nonEmptyField {fields : List (String × Value)} {key : String} {v : Value}
    (hfields : IsDocument (Value.ofFields fields)) (hkey : key ∉ fields.map Prod.fst)
    (hv : IsDocument v) (isEmpty : Bool) :
    IsDocument (Value.ofFields (fields ++ nonEmptyField key isEmpty v)) := by
  cases isEmpty with
  | true => exact (List.append_nil fields).symm ▸ hfields
  | false =>
      -- the keys stay distinct, since the new one is none of those before
      obtain ⟨hdistinct, hall⟩ := isDocument_ofFields_iff.mp hfields
      refine isDocument_ofFields_iff.mpr ⟨?_, ?_⟩
      · rw [List.map_append]
        exact hdistinct.append (List.nodup_singleton key) (List.disjoint_singleton.mpr hkey)
      · intro e he
        cases List.mem_append.mp he with
        | inl hold => exact hall e hold
        | inr hnew => exact List.mem_singleton.mp hnew ▸ hv

/-- Every entry of a document is under a text, and its value is a document. -/
theorem exists_of_mem_document {es : Entries} (hes : IsDocument (.map es)) {e : Value × Value}
    (he : e ∈ es) : ∃ name, e.1 = .str name ∧ IsDocument e.2 := by
  cases hes with
  | map fields _ hfields =>
      obtain ⟨field, hfield, rfl⟩ := List.mem_map.mp he
      exact ⟨field.1, rfl, hfields field hfield⟩

theorem field?_isDocument {es : Entries} (hes : IsDocument (.map es)) {name : String} {v : Value}
    (hv : es.field? name = some v) : IsDocument v := by
  unfold Entries.field? Entries.find? at hv
  obtain ⟨e, he, rfl⟩ := Option.map_eq_some_iff.mp hv
  obtain ⟨-, -, hdocument⟩ := exists_of_mem_document hes (List.mem_of_find?_eq_some he)
  exact hdocument

theorem field_isDocument {es : Entries} (hes : IsDocument (.map es)) (name : String) :
    IsDocument (es.field name) := by
  unfold Entries.field
  cases hv : es.field? name with
  | none => exact .null
  | some v => exact field?_isDocument hes hv

theorem mapping_isDocument {v : Value} {path : String} {es : Entries} (hv : IsDocument v)
    (hes : mapping v path = .ok es) : IsDocument (.map es) := by
  unfold mapping at hes
  split at hes
  · rw [pure_eq_ok] at hes
    rw [← hes]
    exact hv
  · exact absurd hes throw_ne_ok

theorem optionalMapping_isDocument {es m : Entries} {key path : String}
    (hes : IsDocument (.map es)) (hm : optionalMapping es key path = .ok m) :
    IsDocument (.map m) := by
  unfold optionalMapping at hm
  simp only at hm
  split at hm
  · exact mapping_isDocument (field_isDocument hes key) hm
  · rw [pure_eq_ok] at hm
    rw [← hm]
    exact .map [] (by simp) (by simp)

/-- Named entries of documents are written as one. -/
theorem encodeSection_isDocument {α : Type} {f : α → Value} {m : Named α}
    (hm : ∀ e ∈ m.entries, IsDocument (f e.2)) : IsDocument (encodeSection f m) := by
  refine isDocument_ofFields_iff.mpr ⟨?_, fun e he => ?_⟩
  · rw [List.map_map]
    exact m.distinct
  · obtain ⟨entry, hentry, rfl⟩ := List.mem_map.mp he
    exact hm entry hentry

theorem textEntries_isDocument (m : Named String) : IsDocument (.map (Source.textEntries m)) := by
  have hsection : IsDocument (encodeSection Value.str m) :=
    encodeSection_isDocument fun e _ => .str e.2
  unfold encodeSection Value.ofFields Entries.ofFields at hsection
  rw [List.map_map] at hsection
  exact hsection

/-- What is kept of the entries of a document are documents. -/
theorem namedValues_isDocument {es : Entries} (hes : IsDocument (.map es)) {m : Named Value}
    (hm : namedValues es = .ok m) {e : String × Value} (he : e ∈ m.entries) :
    IsDocument e.2 := by
  obtain ⟨entry, hentry, heq⟩ := exists_mem_of_mem_namedSection hm he
  obtain ⟨-, -, hdocument⟩ := exists_of_mem_document hes hentry
  rw [← pure_eq_ok.mp heq]
  exact hdocument

theorem callArguments_isDocument {v : Value} {path : String} {args : List Value}
    (hv : IsDocument v) (hargs : callArguments v path = .ok args) : IsDocument (.list args) := by
  unfold callArguments at hargs
  split at hargs
  · rw [pure_eq_ok] at hargs
    rw [← hargs]
    exact .list [] (by simp)
  · rw [pure_eq_ok] at hargs
    rw [← hargs]
    exact hv
  · exact absurd hargs throw_ne_ok

/-! ## Parts -/

/-- An index is written as a document, whatever it was read from. -/
theorem encodeIndex_isDocument {i : Index} (hi : i.WellFormed) : IsDocument (encodeIndex i) := by
  cases i with
  | range first last =>
      refine isDocument_ofFields_iff.mpr ⟨by simp, ?_⟩
      simp only [List.forall_mem_cons]
      exact ⟨.str _, .str _, .str _, by simp⟩
  | listed members =>
      obtain ⟨names, -, rfl⟩ := hi
      refine isDocument_ofFields_iff.mpr ⟨by simp, ?_⟩
      simp only [List.forall_mem_cons]
      exact ⟨.str _, Json.isDocument_ofTexts names, by simp⟩

/-- A source whose values are documents is written as one. -/
theorem encodeSource_isDocument {s : Source} (hs : s.HasDocuments) :
    IsDocument (encodeSource s) := by
  -- every source begins with its type and one field that says where the data are
  have htwo : ∀ (kind key : String) {v : Value}, key ≠ "type" → IsDocument v →
      IsDocument (Value.ofFields [("type", .str kind), (key, v)]) := by
    intro kind key v hkey hv
    refine isDocument_ofFields_iff.mpr ⟨by simpa using hkey.symm, ?_⟩
    simp only [List.forall_mem_cons]
    exact ⟨.str _, hv, by simp⟩
  cases s with
  | csv path options =>
      exact isDocument_append_nonEmptyField (htwo _ _ (by decide) (.str path)) (by simp) hs _
  | json path steps =>
      exact isDocument_append_nonEmptyField (htwo _ _ (by decide) (.str path)) (by simp)
        (Json.isDocument_ofTexts steps) _
  | api url headers transform =>
      exact isDocument_append_nonEmptyField (isDocument_append_nonEmptyField
        (htwo _ _ (by decide) (.str url)) (by simp) (textEntries_isDocument headers) _)
        (not_mem_append_nonEmptyField (by simp) (by decide) _ _) (.str _) _
  | function name args =>
      exact isDocument_append_nonEmptyField (htwo _ _ (by decide) (.str name)) (by simp) hs _
  | literal data => exact htwo _ _ (by decide) hs

/-- What a source that is read from a document is given are documents. Texts are documents whatever
they hold, so that only what is taken over as a value has to be looked at: options, arguments and
data that are written out. -/
theorem source_hasDocuments {v : Value} {path : String} {s : Source} (hv : IsDocument v)
    (hs : source v path = .ok s) : s.HasDocuments := by
  unfold source at hs
  obtain ⟨es, hes, hs⟩ := bind_eq_ok.mp hs
  have hes : IsDocument (.map es) := mapping_isDocument hv (asConfig_eq_ok.mp hes)
  split at hs
  · -- rows of text
    obtain ⟨file, -, hs⟩ := bind_eq_ok.mp hs
    obtain ⟨options, hoptions, hs⟩ := bind_eq_ok.mp hs
    rw [pure_eq_ok] at hs
    rw [← hs]
    exact optionalMapping_isDocument hes (asConfig_eq_ok.mp hoptions)
  · -- a document
    obtain ⟨file, -, hs⟩ := bind_eq_ok.mp hs
    obtain ⟨steps, -, hs⟩ := bind_eq_ok.mp hs
    rw [pure_eq_ok] at hs
    rw [← hs]
    trivial
  · -- the network
    obtain ⟨entries, -, hs⟩ := bind_eq_ok.mp hs
    obtain ⟨url, -, hs⟩ := bind_eq_ok.mp hs
    obtain ⟨headers, -, hs⟩ := bind_eq_ok.mp hs
    obtain ⟨transform, -, hs⟩ := bind_eq_ok.mp hs
    rw [pure_eq_ok] at hs
    rw [← hs]
    trivial
  · -- a function
    obtain ⟨args, hargs, hs⟩ := bind_eq_ok.mp hs
    obtain ⟨name, -, hs⟩ := bind_eq_ok.mp hs
    rw [pure_eq_ok] at hs
    rw [← hs]
    exact callArguments_isDocument (field_isDocument hes "args") (asConfig_eq_ok.mp hargs)
  · -- data that are written out
    rw [pure_eq_ok] at hs
    rw [← hs]
    exact field_isDocument hes "data"
  · exact absurd hs rejectType_ne_ok

theorem requiredSource_isDocument {es : Entries} {path : String} {s : Source}
    (hes : IsDocument (.map es)) (hs : requiredSource es path = .ok s) :
    IsDocument (encodeSource s) := by
  obtain ⟨v, hv, hs⟩ := bind_eq_ok.mp hs
  refine encodeSource_isDocument (source_hasDocuments ?_ hs)
  rw [← (required_eq_ok.mp (asConfig_eq_ok.mp hv)).1]
  exact field_isDocument hes "source"

/-- A parameter that is read from a document is written as one. Data of tables and mappings are not
written, so only the source and a scalar matter. -/
theorem encodeParameter_isDocument {v : Value} {path : String} {p : Parameter} (hv : IsDocument v)
    (hp : parameter v path = .ok p) : IsDocument (encodeParameter p) := by
  unfold parameter at hp
  obtain ⟨es, hes, hp⟩ := bind_eq_ok.mp hp
  have hes : IsDocument (.map es) := mapping_isDocument hv (asConfig_eq_ok.mp hes)
  split at hp
  · -- a table
    rw [reportValues_eq_ok] at hp
    obtain ⟨columns, -, hp⟩ := bind_eq_ok.mp hp
    split at hp
    · obtain ⟨s, hs, hp⟩ := bind_eq_ok.mp hp
      obtain ⟨schema, -, hp⟩ := bind_eq_ok.mp hp
      rw [pure_eq_ok] at hp
      rw [← hp]
      refine isDocument_ofFields_iff.mpr ⟨by simp, ?_⟩
      simp only [List.forall_mem_cons]
      exact ⟨.str _, Json.isDocument_ofTexts _, requiredSource_isDocument hes hs, by simp⟩
    · exact absurd (asConfig_eq_ok.mp hp) throw_ne_ok
  · -- a mapping
    rw [reportValues_eq_ok] at hp
    obtain ⟨v, -, hp⟩ := bind_eq_ok.mp hp
    obtain ⟨s, hs, hp⟩ := bind_eq_ok.mp hp
    obtain ⟨key, -, hp⟩ := bind_eq_ok.mp hp
    rw [pure_eq_ok] at hp
    rw [← hp]
    refine isDocument_ofFields_iff.mpr ⟨by simp, ?_⟩
    simp only [List.forall_mem_cons]
    exact ⟨.str _, .str _, requiredSource_isDocument hes hs, by simp⟩
  · -- a scalar
    rw [reportValues_eq_ok] at hp
    unfold scalarParameter at hp
    split at hp
    · exact absurd (asConfig_eq_ok.mp hp) throw_ne_ok
    · next value hvalue =>
        obtain ⟨type, -, hp⟩ := bind_eq_ok.mp hp
        obtain ⟨t, -, -, rfl⟩ :=
          Parameter.ofScalar_eq_ok (mapError_eq_ok.mp (asConfig_eq_ok.mp hp))
        have htwo : IsDocument (Value.ofFields [("type", .str "scalar"), ("value", value)]) := by
          refine isDocument_ofFields_iff.mpr ⟨by simp, ?_⟩
          simp only [List.forall_mem_cons]
          exact ⟨.str _, field?_isDocument hes hvalue, by simp⟩
        exact isDocument_append_nonEmptyField htwo (by simp) (.str _) _
  · exact absurd hp rejectType_ne_ok

theorem encodeOverride_isDocument {v : Value} {path : String} {o : Override} (hv : IsDocument v)
    (ho : override v path = .ok o) : IsDocument (encodeOverride o) := by
  unfold override at ho
  obtain ⟨es, hes, ho⟩ := bind_eq_ok.mp ho
  have hes : IsDocument (.map es) := mapping_isDocument hv (asConfig_eq_ok.mp hes)
  obtain ⟨value, -, ho⟩ := bind_eq_ok.mp ho
  obtain ⟨entries, hentries, ho⟩ := bind_eq_ok.mp ho
  obtain ⟨name, -, ho⟩ := bind_eq_ok.mp ho
  obtain ⟨target, -, ho⟩ := bind_eq_ok.mp ho
  obtain ⟨args, hargs, ho⟩ := bind_eq_ok.mp ho
  rw [pure_eq_ok] at ho
  have hargs : ∀ e ∈ o.args.entries, IsDocument e.2 := by
    rw [← ho]
    exact fun e he => namedValues_isDocument
      (optionalMapping_isDocument hes (asConfig_eq_ok.mp hentries)) hargs he
  have hentries : IsDocument (.map o.argEntries) :=
    isDocument_ofFields_iff.mpr ⟨o.args.distinct, hargs⟩
  -- the name comes first if there is one
  have hname : ∀ b : Bool, IsDocument (Value.ofFields
      (nonEmptyField "name" b (.str o.name) ++ [("function", .str o.target)]))
      ∧ "args" ∉ (nonEmptyField "name" b (.str o.name)
        ++ [("function", Value.str o.target)]).map Prod.fst := by
    intro b
    refine ⟨isDocument_ofFields_iff.mpr ⟨?_, ?_⟩, ?_⟩
    · cases b <;> simp [nonEmptyField]
    · intro e he
      cases List.mem_append.mp he with
      | inr htarget => exact List.mem_singleton.mp htarget ▸ .str _
      | inl hname =>
          cases b with
          | true => exact absurd hname List.not_mem_nil
          | false => exact List.mem_singleton.mp hname ▸ .str _
    · cases b <;> simp [nonEmptyField]
  exact isDocument_append_nonEmptyField (hname _).1 (hname _).2 hentries _

/-- So are all overrides of a list. Induction on those that are left, for any position. -/
theorem encodeOverrides_isDocument {path : String} (vs : List Value)
    (hvs : ∀ v ∈ vs, IsDocument v) :
    ∀ {position : Nat} {l : List Override}, overridesFrom path position vs = .ok l →
      ∀ o ∈ l, IsDocument (encodeOverride o) := by
  induction vs with
  | nil =>
      intro position l hl o ho
      rw [overridesFrom, pure_eq_ok] at hl
      rw [← hl] at ho
      exact absurd ho List.not_mem_nil
  | cons v vs ih =>
      intro position l hl o ho
      rw [overridesFrom] at hl
      obtain ⟨first, hfirst, hl⟩ := bind_eq_ok.mp hl
      obtain ⟨rest, hrest, hl⟩ := bind_eq_ok.mp hl
      rw [pure_eq_ok] at hl
      rw [← hl] at ho
      -- the first one was read of the first value, the others of those that follow
      cases List.mem_cons.mp ho with
      | inl heq => exact heq ▸ encodeOverride_isDocument (hvs v List.mem_cons_self) hfirst
      | inr hmem => exact ih (fun w hw => hvs w (List.mem_cons_of_mem v hw)) hrest o hmem

theorem encodeOverrideList_isDocument {v : Value} {path : String} {l : List Override}
    (hv : IsDocument v) (hl : overrideList v path = .ok l) :
    IsDocument (.list (l.map encodeOverride)) := by
  unfold overrideList at hl
  split at hl
  · next items =>
      cases hv with
      | list _ hitems =>
          refine .list _ fun w hw => ?_
          obtain ⟨o, ho, rfl⟩ := List.mem_map.mp hw
          exact encodeOverrides_isDocument items hitems hl o ho
  · exact absurd (asConfig_eq_ok.mp hl) throw_ne_ok

/-! ## Whole specifications -/

theorem sectionEntries_isDocument {es entries : Entries} {name : String}
    (hes : IsDocument (.map es)) (hentries : sectionEntries es name = .ok entries) :
    IsDocument (.map entries) := by
  unfold sectionEntries at hentries
  split at hentries
  · rw [pure_eq_ok] at hentries
    rw [← hentries]
    exact .map [] (by simp) (by simp)
  · next hfield =>
      rw [pure_eq_ok] at hentries
      rw [← hentries, ← hfield]
      exact field_isDocument hes name
  · exact absurd hentries throw_ne_ok

/-- What was read from a document is written as one. What a patch or a loader has handed in is not
written, so it does not have to be one. -/
theorem encode_isDocument {es : Entries} {s : Specification} (hes : IsDocument (.map es))
    (hs : decode es = .ok s) : IsDocument (encode s) := by
  unfold decode at hs
  obtain ⟨name, -, hs⟩ := bind_eq_ok.mp hs
  obtain ⟨_, -, hs⟩ := bind_eq_ok.mp hs
  obtain ⟨indexEntries, -, hs⟩ := bind_eq_ok.mp hs
  obtain ⟨parameterEntries, hparameterEntries, hs⟩ := bind_eq_ok.mp hs
  obtain ⟨optionEntries, hoptionEntries, hs⟩ := bind_eq_ok.mp hs
  obtain ⟨overrideEntries, hoverrideEntries, hs⟩ := bind_eq_ok.mp hs
  obtain ⟨indexes, hindexes, hs⟩ := bind_eq_ok.mp hs
  obtain ⟨parameters, hparameters, hs⟩ := bind_eq_ok.mp hs
  obtain ⟨options, hoptions, hs⟩ := bind_eq_ok.mp hs
  obtain ⟨overrides, hoverrides, hs⟩ := bind_eq_ok.mp hs
  split at hs
  · exact absurd (asConfig_eq_ok.mp hs) throw_ne_ok
  rw [pure_eq_ok] at hs
  have hindexes : IsDocument (encodeSection encodeIndex indexes) :=
    encodeSection_isDocument fun e he => by
      obtain ⟨v, hv⟩ := exists_of_mem_namedSection hindexes he
      exact encodeIndex_isDocument (index_wellFormed hv)
  have hparameters : IsDocument (encodeSection encodeParameter parameters) :=
    encodeSection_isDocument fun e he => by
      obtain ⟨source, hsource, hread⟩ := exists_mem_of_mem_namedSection hparameters he
      obtain ⟨-, -, hdocument⟩ := exists_of_mem_document
        (sectionEntries_isDocument hes (asConfig_eq_ok.mp hparameterEntries)) hsource
      exact encodeParameter_isDocument hdocument hread
  have hoptions : IsDocument (encodeSection id options) :=
    encodeSection_isDocument fun e he => namedValues_isDocument
      (sectionEntries_isDocument hes (asConfig_eq_ok.mp hoptionEntries)) hoptions he
  have hoverrides :
      IsDocument (encodeSection (fun l => .list (l.map encodeOverride)) overrides) :=
    encodeSection_isDocument fun e he => by
      obtain ⟨source, hsource, hread⟩ := exists_mem_of_mem_namedSection hoverrides he
      obtain ⟨-, -, hdocument⟩ := exists_of_mem_document
        (sectionEntries_isDocument hes (asConfig_eq_ok.mp hoverrideEntries)) hsource
      exact encodeOverrideList_isDocument hdocument hread
  have htemplate : IsDocument (Value.ofFields [("template", .str name)]) :=
    isDocument_ofFields_iff.mpr ⟨by simp, by simpa using IsDocument.str name⟩
  rw [← hs]
  refine isDocument_append_nonEmptyField (isDocument_append_nonEmptyField
    (isDocument_append_nonEmptyField (isDocument_append_nonEmptyField htemplate ?_ hindexes _)
      ?_ hparameters _) ?_ hoptions _) ?_ hoverrides _
  -- no section has the key of another
  · simp
  · exact not_mem_append_nonEmptyField (by simp) (by decide) _ _
  · exact not_mem_append_nonEmptyField (not_mem_append_nonEmptyField (by simp) (by decide) _ _)
      (by decide) _ _
  · exact not_mem_append_nonEmptyField (not_mem_append_nonEmptyField
      (not_mem_append_nonEmptyField (by simp) (by decide) _ _) (by decide) _ _) (by decide) _ _

end Config

end Rostering
