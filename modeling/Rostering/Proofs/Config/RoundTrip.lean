import Rostering.Proofs.Config.WellFormed

/-!
# What is written reads back

`encode` leaves out every field that is empty or that says what holds without it, and `decode`
takes a missing field for an empty one. This module shows that the two fit together on everything
that reading and patching can produce.

## The architecture

Each part has its own round trip, and a whole specification is assembled from those of its parts.

* **`index_encodeIndex`** — dates are read back from their texts, members from theirs.
* **`source_encodeSource`** — one case for each kind of source; the field that may be left out is
  found by `lookup_optionalField`.
* **`parameter_encodeParameter`** — a parameter reads back to what it declares, without its data.
* **`overridesFrom_encodeOverride`** — overrides read back one after the other.
* **`decode_writtenFields`** — a well-formed specification reads back to what it declares.
* **`round_trip_of_reachable`** — hence so does every specification that was read and patched.
-/

namespace Rostering.Config

/-! ## Fields that were written -/

theorem mapping_ofFields (l : List (String × Value)) (path : String) :
    mapping (Value.ofFields l) path = .ok (Entries.ofFields l) := rfl

theorem declaredType_ofFields (t : Value) (l : List (String × Value)) :
    declaredType (Entries.ofFields (("type", t) :: l)) = t := by
  unfold declaredType
  rw [Entries.field?_ofFields, List.lookup_cons]
  rfl

/-- A text that was written under a key is read back, if it is not empty. -/
theorem required_str {l : List (String × Value)} {key s : String} (path : String)
    (hkey : l.lookup key = some (.str s)) (hs : s ≠ "") :
    required (Entries.ofFields l) key path = .ok (.str s) := by
  refine required_eq_ok.mpr ⟨?_, ?_⟩
  · rw [Entries.field_ofFields, hkey]
    rfl
  · exact Bool.eq_false_iff.mpr fun h => hs (String.isEmpty_iff.mp h)

/-! ## Indexes -/

theorem date_iso (d : Date) (path : String) : date (.str d.iso) path = .ok d := by
  unfold date
  refine bind_eq_ok.mpr ⟨_, textOf_str d.iso, ?_⟩
  rw [Date.ofIso?_iso]
  rfl

/-- A text that was written under a key is read back as itself, if it is not empty. -/
theorem requiredText_str {l : List (String × Value)} {key s : String} (path : String)
    (hkey : l.lookup key = some (.str s)) (hs : s ≠ "") :
    requiredText (Entries.ofFields l) key path = .ok s := by
  obtain ⟨hfield, hgiven⟩ := required_eq_ok.mp (required_str path hkey hs)
  rw [requiredText_eq_ok, hfield]
  exact ⟨hgiven, textOf_str s⟩

/-- An index is read back as it was. A range is written by the texts of its ends, and these are days
or texts of days; a list is written as it stands. -/
theorem index_encodeIndex {i : Index} (hi : i.WellFormed) (path : String) :
    index (encodeIndex i) path = .ok i := by
  cases i with
  | range first last =>
      cases first with
      | moment m => exact absurd hi id
      | date first =>
          cases last with
          | moment m => exact absurd hi id
          | date last =>
              unfold index encodeIndex
              rw [mapping_ofFields]
              refine bind_eq_ok.mpr ⟨_, rfl, ?_⟩
              rw [declaredType_ofFields]
              simp only
              refine reportValues_eq_ok.mpr ?_
              unfold range
              refine bind_eq_ok.mpr
                ⟨_, asConfig_eq_ok.mpr (required_str path rfl first.iso_ne_empty), ?_⟩
              refine bind_eq_ok.mpr ⟨_, date_iso first _, ?_⟩
              refine bind_eq_ok.mpr
                ⟨_, asConfig_eq_ok.mpr (required_str path rfl last.iso_ne_empty), ?_⟩
              refine bind_eq_ok.mpr ⟨_, date_iso last _, ?_⟩
              -- the reader checks the order again
              have hforward : first.index ≤ last.index := hi
              rw [if_pos hforward]
              rfl
  | listed members =>
      obtain ⟨names, hnames, rfl⟩ := hi
      have hvalues : required (Entries.ofFields
          [("type", .str "list"), ("values", .list (names.map .str))]) "values" path
            = .ok (.list (names.map .str)) := by
        refine required_eq_ok.mpr ⟨by rw [Entries.field_ofFields]; rfl, ?_⟩
        cases names with
        | nil => exact absurd rfl hnames
        | cons name names => rfl
      unfold index encodeIndex
      rw [mapping_ofFields]
      refine bind_eq_ok.mpr ⟨_, rfl, ?_⟩
      rw [declaredType_ofFields]
      simp only
      refine asConfig_eq_ok.mpr ?_
      unfold listing
      refine bind_eq_ok.mpr ⟨_, hvalues, ?_⟩
      rw [texts?_ofTexts]
      rfl

/-! ## Sources -/

/-- A field that may be left out is found unless it was empty, if no other field has its key. -/
theorem lookup_optionalField {before after : List (String × Value)} {key : String}
    (hbefore : before.lookup key = none) (hafter : after.lookup key = none) (isEmpty : Bool)
    (v : Value) : (before ++ nonEmptyField key isEmpty v ++ after).lookup key
      = if isEmpty then none else some v := by
  rw [List.lookup_append, List.lookup_append, hbefore, hafter, lookup_nonEmptyField]
  cases isEmpty <;> simp

/-- The same for a field that comes last, as the entries of a value. -/
theorem field?_lastField {before : List (String × Value)} {key : String}
    (hbefore : before.lookup key = none) (isEmpty : Bool) (v : Value) :
    Entries.field? (Entries.ofFields (before ++ nonEmptyField key isEmpty v)) key
      = if isEmpty then none else some v := by
  rw [Entries.field?_ofFields, ← List.append_nil (before ++ _)]
  exact lookup_optionalField hbefore rfl isEmpty v

/-- Texts are read back by whatever reads back each of them. -/
theorem mapM_str_eq_ok {ε : Type} {read : Value → Except ε String}
    (hread : ∀ s, read (.str s) = .ok s) {l : List String} :
    (l.map Value.str).mapM read = .ok l := by
  rw [mapM_eq_ok, List.forall₂_map_left_iff]
  exact List.forall₂_same.mpr fun s _ => hread s

/-- A path that was written only when it has steps is read back either way. -/
theorem keyPath_written {es : Entries} {key : String} {steps : List String}
    (hfield : es.field? key = if steps.isEmpty then none else some (Value.ofTexts steps)) :
    keyPath (es.field key) = .ok steps := by
  unfold Entries.field
  rw [hfield]
  cases steps with
  | nil => rfl
  | cons step steps =>
      show ((step :: steps).map Value.str).mapM Value.text = _
      exact mapM_str_eq_ok fun s => Value.text_of_hasText (Value.hasText_str s)

/-- Arguments that were written only when there are any are read back either way. -/
theorem args_written {es : Entries} {key path : String} {args : List Value}
    (hfield : es.field? key = if args.isEmpty then none else some (.list args)) :
    callArguments (es.field key) path = .ok args := by
  unfold Entries.field
  rw [hfield]
  cases args with
  | nil => rfl
  | cons arg args => rfl

/-- Texts that were written under names are read back. -/
theorem namedSection_textEntries (m : Named String) :
    namedSection (Source.textEntries m) (fun _ v => textOf v) = .ok m := by
  have hread := @namedSection_encodeSection _ _ Value.str id (fun _ v => textOf v) m
    fun e _ => textOf_str e.2
  rw [Named.map_id] at hread
  rwa [Entries.ofFields, List.map_map] at hread

/-- A transformation that was written only when it has a name is read back either way. -/
theorem transform_written {es : Entries} {key : String} {transform : Option String}
    (htransform : transform ≠ some "")
    (hfield : es.field? key
      = if (transform.getD "").isEmpty then none else some (.str (transform.getD ""))) :
    optionalText (es.field key) = .ok transform := by
  unfold Entries.field
  rw [hfield]
  cases transform with
  | none => rfl
  | some name =>
      have hname : name.isEmpty = false :=
        Bool.eq_false_iff.mpr fun h => htransform (congrArg some (String.isEmpty_iff.mp h))
      simp [optionalText, Value.isTrue, hname, Except.map]

/-- A source is read back as it was, although fields that are empty are not written: an empty field
and one that is missing are read alike. -/
theorem source_encodeSource {s : Source} (hs : s.WellFormed) (path : String) :
    source (encodeSource s) path = .ok s := by
  cases s with
  | csv file options =>
      let written := [("type", Value.str "csv"), ("path", .str file)]
      have hoptions : Entries.field? (Entries.ofFields
          (written ++ nonEmptyField "options" options.isEmpty (.map options))) "options"
            = if options.isEmpty then none else some (.map options) :=
        field?_lastField rfl _ _
      unfold source encodeSource
      rw [mapping_ofFields]
      refine bind_eq_ok.mpr ⟨_, rfl, ?_⟩
      simp only [List.cons_append, declaredType_ofFields]
      refine bind_eq_ok.mpr ⟨_, requiredText_str path rfl hs, ?_⟩
      exact bind_eq_ok.mpr ⟨options, asConfig_eq_ok.mpr (optionalMapping_written path hoptions), rfl⟩
  | json file steps =>
      let written := [("type", Value.str "json"), ("path", .str file)]
      have hsteps : Entries.field? (Entries.ofFields
          (written ++ nonEmptyField "key_path" steps.isEmpty (Value.ofTexts steps))) "key_path"
            = if steps.isEmpty then none else some (Value.ofTexts steps) :=
        field?_lastField rfl _ _
      unfold source encodeSource
      rw [mapping_ofFields]
      refine bind_eq_ok.mpr ⟨_, rfl, ?_⟩
      simp only [List.cons_append, declaredType_ofFields]
      refine bind_eq_ok.mpr ⟨_, requiredText_str path rfl hs, ?_⟩
      exact bind_eq_ok.mpr ⟨steps, mapError_eq_ok.mpr (keyPath_written hsteps), rfl⟩
  | api url headers transform =>
      obtain ⟨hurl, htransform⟩ := hs
      let written := [("type", Value.str "api"), ("url", .str url)]
      let name := transform.getD ""
      let fields := written ++ nonEmptyField "headers" headers.isEmpty
        (.map (Source.textEntries headers)) ++ nonEmptyField "transform" name.isEmpty (.str name)
      have hheaders : Entries.field? (Entries.ofFields fields) "headers"
          = if (Source.textEntries headers).isEmpty then none
            else some (.map (Source.textEntries headers)) := by
        -- the encoder asks the names whether they are empty, the reader the entries
        have hempty : (Source.textEntries headers).isEmpty = headers.isEmpty := List.isEmpty_map
        rw [Entries.field?_ofFields, hempty]
        refine lookup_optionalField rfl ?_ _ _
        rw [lookup_nonEmptyField]
        rfl
      have hname : Entries.field? (Entries.ofFields fields) "transform"
          = if name.isEmpty then none else some (.str name) := by
        refine field?_lastField ?_ _ _
        rw [List.lookup_append, lookup_nonEmptyField]
        rfl
      unfold source encodeSource
      rw [mapping_ofFields]
      refine bind_eq_ok.mpr ⟨_, rfl, ?_⟩
      simp only [List.cons_append, declaredType_ofFields]
      refine bind_eq_ok.mpr ⟨_, asConfig_eq_ok.mpr (optionalMapping_written path hheaders), ?_⟩
      refine bind_eq_ok.mpr ⟨_, requiredText_str path rfl hurl, ?_⟩
      refine bind_eq_ok.mpr ⟨headers, namedSection_textEntries headers, ?_⟩
      exact bind_eq_ok.mpr ⟨transform, transform_written htransform hname, rfl⟩
  | function name args =>
      let written := [("type", Value.str "function"), ("function", .str name)]
      have hargs : Entries.field? (Entries.ofFields
          (written ++ nonEmptyField "args" args.isEmpty (.list args))) "args"
            = if args.isEmpty then none else some (.list args) :=
        field?_lastField rfl _ _
      unfold source encodeSource
      rw [mapping_ofFields]
      refine bind_eq_ok.mpr ⟨_, rfl, ?_⟩
      simp only [List.cons_append, declaredType_ofFields]
      refine bind_eq_ok.mpr ⟨args, asConfig_eq_ok.mpr (args_written hargs), ?_⟩
      exact bind_eq_ok.mpr ⟨_, requiredText_str path rfl hs, rfl⟩
  | literal data =>
      unfold source encodeSource
      rw [mapping_ofFields]
      refine bind_eq_ok.mpr ⟨_, rfl, ?_⟩
      simp only [declaredType_ofFields]
      rw [Entries.field_ofFields]
      rfl

/-! ## Parameters -/

theorem isAbsent_encodeSource (s : Source) : (encodeSource s).isAbsent = false := by
  cases s <;> rfl

/-- A source that was written is read back from its field. -/
theorem requiredSource_encodeSource {es : Entries} {s : Source} (hs : s.WellFormed) (path : String)
    (hfield : es.field "source" = encodeSource s) : requiredSource es path = .ok s := by
  have hgiven : required es "source" path = .ok (encodeSource s) :=
    required_eq_ok.mpr ⟨hfield, isAbsent_encodeSource s⟩
  exact bind_eq_ok.mpr ⟨_, asConfig_eq_ok.mpr hgiven, source_encodeSource hs _⟩

/-- A scalar is read from any entries that hold its value and the name of its type; if there is no
name, it is of any type. -/
theorem parameter_scalar {es : Entries} {value : Value} {type : ScalarType} (path : String)
    (hkind : declaredType es = .str "scalar") (hvalue : es.field? "value" = some value)
    (htype : (es.field? "value_type").getD (.str "any") = .str type.name)
    (hholds : type.holds value = true) :
    parameter (.map es) path = .ok (.scalar value type) := by
  unfold parameter
  refine bind_eq_ok.mpr ⟨es, rfl, ?_⟩
  rw [hkind]
  simp only
  refine reportValues_eq_ok.mpr ?_
  unfold scalarParameter
  simp only [hvalue, htype]
  refine bind_eq_ok.mpr ⟨_, textOf_str _, asConfig_eq_ok.mpr (mapError_eq_ok.mpr ?_)⟩
  -- the type is found by its name, and the value is checked against it once more
  unfold Parameter.ofScalar
  simp only [ScalarType.ofName?_name]
  rw [if_pos hholds]
  rfl

/-- A parameter reads back to what it declares; its data are not written. The type is written with
the parameter, and the fields that are empty are left out, for they are read as empty again. -/
theorem parameter_encodeParameter {p : Parameter} (hp : p.WellFormed) (path : String) :
    parameter (encodeParameter p) path = .ok p.withoutData := by
  cases p with
  | table schema s data =>
      obtain ⟨hschema, hs⟩ := hp
      have hcolumns : (schema.map Value.str).mapM textOf = .ok schema := mapM_str_eq_ok textOf_str
      have hgiven : (Value.ofTexts schema).isAbsent = false := by
        cases schema with
        | nil => exact absurd rfl hschema
        | cons column schema => rfl
      unfold parameter encodeParameter
      rw [mapping_ofFields]
      refine bind_eq_ok.mpr ⟨_, rfl, ?_⟩
      simp only [declaredType_ofFields]
      refine reportValues_eq_ok.mpr ?_
      unfold tableParameter
      refine bind_eq_ok.mpr ⟨Value.ofTexts schema, asConfig_eq_ok.mpr (required_eq_ok.mpr
        ⟨by rw [Entries.field_ofFields]; rfl, hgiven⟩), ?_⟩
      refine bind_eq_ok.mpr ⟨s, requiredSource_encodeSource hs path ?_, ?_⟩
      · rw [Entries.field_ofFields]
        rfl
      · exact bind_eq_ok.mpr ⟨schema, hcolumns, rfl⟩
  | mapping key s data =>
      obtain ⟨hkey, hs⟩ := hp
      unfold parameter encodeParameter
      rw [mapping_ofFields]
      refine bind_eq_ok.mpr ⟨_, rfl, ?_⟩
      simp only [declaredType_ofFields]
      refine reportValues_eq_ok.mpr ?_
      unfold mappingParameter
      refine bind_eq_ok.mpr ⟨_, asConfig_eq_ok.mpr (required_str path rfl hkey), ?_⟩
      refine bind_eq_ok.mpr ⟨s, requiredSource_encodeSource hs path ?_, ?_⟩
      · rw [Entries.field_ofFields]
        rfl
      · exact bind_eq_ok.mpr ⟨key, textOf_str key, rfl⟩
  | scalar value type =>
      let written := [("type", Value.str "scalar"), ("value", value)]
      have hvalue : Entries.field? (Entries.ofFields
          (written ++ nonEmptyField "value_type" (type = .any) (.str type.name))) "value"
            = some value := by
        rw [Entries.field?_ofFields, List.lookup_append]
        rfl
      -- the type that may be left out is the one that is assumed where none is given
      have htype : (Entries.field? (Entries.ofFields
          (written ++ nonEmptyField "value_type" (type = .any) (.str type.name)))
            "value_type").getD (.str "any") = .str type.name := by
        rw [field?_lastField rfl]
        cases type <;> rfl
      exact parameter_scalar path (declaredType_ofFields _ _) hvalue htype hp

/-! ## Overrides -/

/-- An override is read back as it was. Its name and its arguments are left out if they are empty,
so each field is found behind others that may be missing. -/
theorem override_encodeOverride {o : Override} (ho : o.WellFormed) (path : String) :
    override (encodeOverride o) path = .ok o := by
  obtain ⟨name, target, args⟩ := o
  -- the fields in the order in which they are written
  let fields := nonEmptyField "name" name.isEmpty (.str name) ++ [("function", .str target)]
    ++ nonEmptyField "args" args.isEmpty (.map (Entries.ofFields args.entries))
  have htarget : fields.lookup "function" = some (.str target) := by
    rw [List.lookup_append, List.lookup_append, lookup_nonEmptyField]
    rfl
  have hargs : Entries.field? (Entries.ofFields fields) "args"
      = if (Entries.ofFields args.entries).isEmpty then none
        else some (.map (Entries.ofFields args.entries)) := by
    have hempty : (Entries.ofFields args.entries).isEmpty = args.isEmpty := List.isEmpty_map
    rw [hempty]
    refine field?_lastField ?_ _ _
    rw [List.lookup_append, lookup_nonEmptyField]
    rfl
  -- a name that is not there is read as an empty one
  have hname : ∃ read, optionalText (Entries.field (Entries.ofFields fields) "name") = .ok read
      ∧ read.getD "" = name := by
    have hlookup : fields.lookup "name" = if name.isEmpty then none else some (.str name) := by
      show ([] ++ nonEmptyField "name" _ _ ++ [("function", Value.str target)]
        ++ nonEmptyField "args" _ _).lookup "name" = _
      rw [List.append_assoc]
      refine lookup_optionalField rfl ?_ _ _
      rw [List.lookup_append, lookup_nonEmptyField]
      rfl
    rw [Entries.field_ofFields, hlookup]
    cases hempty : name.isEmpty with
    | true => exact ⟨none, rfl, (String.isEmpty_iff.mp hempty).symm⟩
    | false => exact ⟨some name, by simp [optionalText, Value.isTrue, hempty, Except.map], rfl⟩
  have hread : namedValues (Entries.ofFields args.entries) = .ok args := by
    have hwritten := namedValues_written id args
    rw [Named.map_id] at hwritten
    simpa using hwritten
  -- now the stages of the reader in their order
  obtain ⟨read, hread?, hname⟩ := hname
  unfold override encodeOverride Override.argEntries
  rw [mapping_ofFields]
  refine bind_eq_ok.mpr ⟨_, rfl, ?_⟩
  refine bind_eq_ok.mpr ⟨_, asConfig_eq_ok.mpr (required_str path htarget ho), ?_⟩
  refine bind_eq_ok.mpr ⟨_, asConfig_eq_ok.mpr (optionalMapping_written path hargs), ?_⟩
  refine bind_eq_ok.mpr ⟨_, hread?, ?_⟩
  refine bind_eq_ok.mpr ⟨_, textOf_str target, ?_⟩
  refine bind_eq_ok.mpr ⟨_, hread, ?_⟩
  exact congrArg (fun n => Except.ok (Override.mk n target args)) hname

/-- Overrides read back one after the other, wherever the count begins. -/
theorem overridesFrom_encodeOverride {l : List Override} (hl : ∀ o ∈ l, o.WellFormed)
    (path : String) (position : Nat) :
    overridesFrom path position (l.map encodeOverride) = .ok l := by
  induction l generalizing position with
  | nil => rfl
  | cons o l ih =>
      have hrest := ih (fun o' ho' => hl o' (List.mem_cons_of_mem o ho')) (position + 1)
      rw [List.map_cons, overridesFrom]
      refine bind_eq_ok.mpr ⟨o, override_encodeOverride (hl o List.mem_cons_self) _, ?_⟩
      exact bind_eq_ok.mpr ⟨l, hrest, rfl⟩

/-! ## Whole specifications -/

/-- What a specification is written as: its template, and each section that has entries. -/
def writtenFields (s : Specification) : List (String × Value) :=
  [("template", .str s.template)]
    ++ nonEmptyField "indexes" s.indexes.isEmpty (encodeSection encodeIndex s.indexes)
    ++ nonEmptyField "parameters" s.parameters.isEmpty (encodeSection encodeParameter s.parameters)
    ++ nonEmptyField "options" s.options.isEmpty (encodeSection id s.options)
    ++ nonEmptyField "overrides" s.overrides.isEmpty
      (encodeSection (fun l => .list (l.map encodeOverride)) s.overrides)

/-- Each section is found under its key, if it has entries. -/
theorem lookup_writtenFields (s : Specification) :
    (writtenFields s).lookup "indexes"
        = (if s.indexes.isEmpty then none else some (encodeSection encodeIndex s.indexes))
      ∧ (writtenFields s).lookup "parameters"
        = (if s.parameters.isEmpty then none
          else some (encodeSection encodeParameter s.parameters))
      ∧ (writtenFields s).lookup "options"
        = (if s.options.isEmpty then none else some (encodeSection id s.options))
      ∧ (writtenFields s).lookup "overrides"
        = (if s.overrides.isEmpty then none
          else some (encodeSection (fun l => .list (l.map encodeOverride)) s.overrides)) := by
  unfold writtenFields
  simp only [List.lookup_append, lookup_nonEmptyField]
  -- whether a section is there depends on itself only, since the keys are distinct
  refine ⟨?_, ?_, ?_, ?_⟩
  · cases s.indexes.isEmpty <;> rfl
  · cases s.parameters.isEmpty <;> rfl
  · cases s.options.isEmpty <;> rfl
  · cases s.overrides.isEmpty <;> rfl

theorem encode_eq (s : Specification) :
    encode s = .map (Entries.ofFields (writtenFields s)) := rfl

theorem fst_of_mem_nonEmptyField {key : String} {isEmpty : Bool} {v : Value}
    {e : String × Value} (he : e ∈ nonEmptyField key isEmpty v) : e.1 = key := by
  unfold nonEmptyField at he
  split at he
  · exact absurd he List.not_mem_nil
  · rw [List.mem_singleton.mp he]

/-- No key that is written is unknown. -/
theorem unknownSections_writtenFields (s : Specification) :
    unknownSections (Entries.ofFields (writtenFields s)) = [] := by
  have hknown : ∀ e ∈ writtenFields s, e.1 ∈ sections := by
    intro e he
    unfold writtenFields at he
    simp only [List.mem_append, List.mem_singleton, or_assoc] at he
    rcases he with rfl | he | he | he | he
    · exact List.mem_cons_self
    -- the four sections, each under its own key if it was written at all
    all_goals
      rw [fst_of_mem_nonEmptyField he]
      decide
  exact unknownSections_ofFields hknown

theorem warnings_writtenFields (s : Specification) :
    warnings (Entries.ofFields (writtenFields s)) = [] := by
  unfold warnings
  rw [unknownSections_writtenFields]
  rfl

/-- A section that is written only when it has entries is read back either way. -/
theorem sectionEntries_written {α : Type} {l : List (String × Value)} {name : String}
    {f : α → Value} {m : Named α}
    (hlookup : l.lookup name = if m.isEmpty then none else some (encodeSection f m)) :
    sectionEntries (Entries.ofFields l) name
      = .ok (Entries.ofFields (m.entries.map fun e => (e.1, f e.2))) := by
  unfold sectionEntries
  rw [Entries.field_ofFields, hlookup]
  cases hempty : m.isEmpty with
  | true =>
      have hnone : m.entries = [] := List.isEmpty_iff.mp hempty
      rw [hnone]
      rfl
  | false => rfl

/-- A well-formed specification reads back to what it declares. What it declares is all of it but
the data, which are loaded again when they are needed. -/
theorem decode_writtenFields {s : Specification} (hs : s.WellFormed) :
    decode (Entries.ofFields (writtenFields s)) = .ok s.withoutData := by
  -- the template comes first in every document and is not blank
  have htemplate : template (Entries.ofFields (writtenFields s)) = .ok s.template := by
    have hfield : Entries.field (Entries.ofFields (writtenFields s)) "template"
        = .str s.template := by
      rw [Entries.field_ofFields]
      rfl
    unfold template
    rw [hfield]
    simp only [hs.template, Bool.false_eq_true, if_false]
    rfl
  obtain ⟨hindexes, hparameters, hoptions, hoverrides⟩ := lookup_writtenFields s
  unfold decode
  refine bind_eq_ok.mpr ⟨_, asConfig_eq_ok.mpr htemplate, ?_⟩
  rw [unknownSections_writtenFields]
  refine bind_eq_ok.mpr ⟨(), rfl, ?_⟩
  refine bind_eq_ok.mpr ⟨_, asConfig_eq_ok.mpr (sectionEntries_written hindexes), ?_⟩
  refine bind_eq_ok.mpr ⟨_, asConfig_eq_ok.mpr (sectionEntries_written hparameters), ?_⟩
  refine bind_eq_ok.mpr ⟨_, asConfig_eq_ok.mpr (sectionEntries_written hoptions), ?_⟩
  refine bind_eq_ok.mpr ⟨_, asConfig_eq_ok.mpr (sectionEntries_written hoverrides), ?_⟩
  -- the entries of all sections have been found; here they are read, section by section
  refine bind_eq_ok.mpr ⟨s.indexes.map fun _ => id, namedSection_encodeSection fun e he =>
    index_encodeIndex (hs.indexes e he) _, ?_⟩
  refine bind_eq_ok.mpr ⟨s.parameters.map fun _ => Parameter.withoutData,
    namedSection_encodeSection fun e he =>
      parameter_encodeParameter (hs.parameters e he) _, ?_⟩
  refine bind_eq_ok.mpr ⟨s.options.map fun _ => id, namedValues_written id s.options, ?_⟩
  refine bind_eq_ok.mpr ⟨s.overrides.map fun _ => id,
    namedSection_encodeSection (f := fun l => .list (l.map encodeOverride)) fun e he =>
      overridesFrom_encodeOverride (hs.overrides e he).2 _ 0, ?_⟩
  have hphases : unknownPhase? s.overrides = none :=
    unknownPhase?_eq_none.mpr fun e he => (hs.overrides e he).1
  rw [Named.map_id, Named.map_id, Named.map_id, hphases]
  rfl

/-- Data are not written. -/
theorem encode_withoutData (s : Specification) : encode s.withoutData = encode s := by
  have hparameter : ∀ p : Parameter, encodeParameter p.withoutData = encodeParameter p := by
    intro p
    cases p <;> rfl
  have hempty : (s.parameters.map fun _ => Parameter.withoutData).isEmpty = s.parameters.isEmpty :=
    List.isEmpty_map
  -- only parameters have data, and what is written of them does not mention it
  have hsection : encodeSection encodeParameter (s.parameters.map fun _ => Parameter.withoutData)
      = encodeSection encodeParameter s.parameters := by
    unfold encodeSection Named.map
    rw [List.map_map]
    exact congrArg Value.ofFields
      (List.map_congr_left fun e _ => congrArg (Prod.mk e.1) (hparameter e.2))
  rw [encode_eq, encode_eq]
  unfold writtenFields Specification.withoutData
  simp only [hempty, hsection]

/-! ## Reachable specifications -/

/-- What was read from a configuration and changed by patches is written in such a way that it reads
back to what it declares, without a warning, and is then written the same way. -/
theorem round_trip_of_reachable {es : Entries} {read s : Specification} {ps : List Patch}
    (hread : decode es = .ok read) (hpatch : Patch.applyAll ps read = .ok s) :
    ∃ written, encode s = .map written ∧ warnings written = []
      ∧ decode written = .ok s.withoutData ∧ encode s.withoutData = encode s := by
  have hs : s.WellFormed := Patch.applyAll_wellFormed ps (decode_wellFormed hread) hpatch
  exact ⟨_, encode_eq s, warnings_writtenFields s, decode_writtenFields hs, encode_withoutData s⟩

/-- A range with two spellings of days, a scalar and no option; the scalar is replaced and an option
is set to the empty text. Nothing of it is lost. -/
theorem round_trip_of_patched_option :
    let es := Entries.ofFields [("template", .str "work_scheduling"),
      ("indexes", Value.ofFields [("days", Value.ofFields [("type", .str "date_range"),
        ("start", .str "20240228"), ("end", .str "2024-W09-5")])]),
      ("parameters", Value.ofFields [("limit", Value.ofFields [("type", .str "scalar"),
        ("value", .int 2), ("value_type", .str "int")])])]
    let ps : List Patch := [⟨.str "merge", ["parameters", "limit"], .int 3⟩,
      ⟨.str "merge", ["options", "note"], .str ""⟩]
    ∃ read s, decode es = .ok read ∧ Patch.applyAll ps read = .ok s
      ∧ s.parameters.names = ["limit"] ∧ s.options.names = ["note"]
      ∧ ∃ written, encode s = .map written ∧ warnings written = []
        ∧ decode written = .ok s.withoutData ∧ encode s.withoutData = encode s := by
  intro es ps
  have hshape : (decode es).toOption.bind (fun read => (Patch.applyAll ps read).toOption.map
      fun s => (s.parameters.names, s.options.names)) = some (["limit"], ["note"]) := by
    subst es ps
    decide +kernel
  obtain ⟨read, hread, hshape⟩ := Option.bind_eq_some_iff.mp hshape
  obtain ⟨s, hs, hshape⟩ := Option.map_eq_some_iff.mp hshape
  obtain ⟨hlimit, hnote⟩ := Prod.mk.inj hshape
  have hread : decode es = .ok read := eq_ok_of_toOption hread
  have hs : Patch.applyAll ps read = .ok s := eq_ok_of_toOption hs
  exact ⟨read, s, hread, hs, hlimit, hnote, round_trip_of_reachable hread hs⟩

end Rostering.Config
