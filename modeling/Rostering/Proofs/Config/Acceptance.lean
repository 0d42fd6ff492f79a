import Rostering.Proofs.Config.Grammar
import Rostering.Proofs.Config.WellFormed

/-!
# Reading accepts exactly the grammar

A reader succeeds on a value if and only if the value is of the form that the grammar gives to the
part, wherever in a configuration it stands.

## The architecture

* **`required_iff_given`**, **`optionalMapping_iff`** — the two kinds of fields; **`requiredText_iff`**
  and **`optionalText_iff`** are about those that are taken as texts.
* **`index_iff_isIndex`**, **`source_iff_isSource`**, **`parameter_iff_isParameter`**,
  **`override_iff_isOverride`** — the parts. In one direction a successful run is taken apart along
  the declared type, in the other one is put together along the constructor of the grammar.
* **`namedSection_succeeds_iff`**, **`namedSection_phases_iff`** — a section is read when all its
  entries are, even of those whose keys show as the same name.
* **`decode_succeeds_iff`** — a configuration is read exactly if it is one.
-/

namespace Rostering.Config

/-! ## Fields -/

theorem isAbsent_eq_false {v : Value} :
    v.isAbsent = false ↔ v ≠ .null ∧ v ≠ .str "" ∧ v ≠ .list [] ∧ v ≠ .map [] := by
  cases v <;> simp [Value.isAbsent]

/-- A field that has to be there is read if it is given. -/
theorem required_iff_given {es : Entries} {key path : String} {v : Value} :
    required es key path = .ok v ↔ Given es key v := by
  rw [required_eq_ok, isAbsent_eq_false]
  constructor
  · rintro ⟨hfield, hnull, htext, hlist, hmap⟩
    exact ⟨Entries.field?_of_field hfield hnull, hnull, htext, hlist, hmap⟩
  · intro h
    exact ⟨Entries.field_of_field? h.found, h.ne_null, h.ne_text, h.ne_list, h.ne_map⟩

theorem mapping_eq_ok {v : Value} {path : String} {es : Entries} :
    mapping v path = .ok es ↔ v = .map es := by
  cases v with
  | map entries => simp [mapping, pure, Except.pure]
  | _ => simp [mapping, reject, throw, throwThe, MonadExceptOf.throw]

/-- What is asked of a field that may be left out is asked of its value if that counts as true. -/
theorem optionally_iff {es : Entries} {key : String} {form : Value → Prop} :
    Optionally es key form ↔ ((es.field key).isTrue = true → form (es.field key)) := by
  unfold Optionally
  cases hfound : es.field? key with
  | none =>
      have hfield : es.field key = .null := by
        unfold Entries.field
        rw [hfound]
        rfl
      simp [hfield, Value.isTrue]
  | some v => simp [Entries.field_of_field? hfound]

theorem optionalMapping_eq_ok {es m : Entries} {key path : String} :
    optionalMapping es key path = .ok m ↔ (es.field key).isTrue = false ∧ m = []
      ∨ (es.field key).isTrue = true ∧ es.field key = .map m := by
  unfold optionalMapping
  cases htrue : (es.field key).isTrue with
  | false => simp [htrue, pure_eq_ok, @eq_comm _ []]
  | true => simp [htrue, mapping_eq_ok]

/-- What is asked of a mapping that may be left out is asked of the entries that it is read as, and is
true of none. -/
theorem optionalMapping_iff {es : Entries} {key path : String} {form : Entries → Prop}
    (hnone : form []) : (∃ m, optionalMapping es key path = .ok m ∧ form m)
      ↔ Optionally es key fun v => ∃ m, v = .map m ∧ form m := by
  rw [optionally_iff]
  simp only [optionalMapping_eq_ok]
  cases htrue : (es.field key).isTrue with
  | false => simp [hnone]
  | true => simp

theorem optionalMapping_succeeds_iff {es : Entries} {key path : String} :
    (∃ m, optionalMapping es key path = .ok m)
      ↔ Optionally es key fun v => ∃ m, v = .map m := by
  have h := @optionalMapping_iff es key path (fun _ => True) trivial
  simpa only [and_true] using h

/-! ## Fields that are taken as texts -/

theorem textOf_succeeds_iff {v : Value} : (∃ s, textOf v = .ok s) ↔ v.hasText := by
  simp [textOf_eq_ok]

theorem requiredText_iff {es : Entries} {key path : String} :
    (∃ s, requiredText es key path = .ok s) ↔ ∃ v, Given es key v ∧ v.hasText := by
  have hgiven : ∀ v, Given es key v ↔ es.field key = v ∧ v.isAbsent = false := fun v => by
    rw [← @required_iff_given es key path v, required_eq_ok]
  simp only [requiredText_eq_ok, hgiven, ← textOf_succeeds_iff]
  constructor
  · rintro ⟨s, habsent, hs⟩
    exact ⟨_, ⟨rfl, habsent⟩, s, hs⟩
  · rintro ⟨_, ⟨rfl, habsent⟩, s, hs⟩
    exact ⟨s, habsent, hs⟩

theorem optionalText_iff {es : Entries} {key : String} :
    (∃ t, optionalText (es.field key) = .ok t) ↔ Optionally es key fun v => v.hasText := by
  rw [optionally_iff]
  simp only [optionalText_eq_ok, ← textOf_succeeds_iff]
  cases (es.field key).isTrue with
  | false => simp
  | true => simp

/-- A section is read exactly if each of its entries is, whatever names their keys show as. That two
keys show as one name is no failure: the later entry counts then. -/
theorem namedSection_succeeds_iff {α : Type} {es : Entries}
    {read : String → Value → Except Failure α} : (∃ m, namedSection es read = .ok m)
      ↔ ∀ e ∈ es, e.1.hasText ∧ ∃ a, read e.1.shown e.2 = .ok a := by
  -- what is run for one entry: its key is taken as a text, and then the entry is read under it
  have hentry : ∀ e : Value × Value,
      (∃ b, (do
          let name ← textOf e.1
          let v ← read name e.2
          pure (name, v) : Except Failure (String × α)) = .ok b)
        ↔ e.1.hasText ∧ ∃ a, read e.1.shown e.2 = .ok a := by
    intro e
    simp only [bind_eq_ok, textOf_eq_ok, pure_eq_ok]
    constructor
    · rintro ⟨_, _, ⟨htext, rfl⟩, a, ha, -⟩
      exact ⟨htext, a, ha⟩
    · rintro ⟨htext, a, ha⟩
      exact ⟨_, _, ⟨htext, rfl⟩, a, ha, rfl⟩
  unfold namedSection
  simp only [← hentry, ← mapM_succeeds_iff]
  constructor
  · rintro ⟨m, hm⟩
    obtain ⟨entries, hentries, -⟩ := bind_eq_ok.mp hm
    exact ⟨entries, hentries⟩
  · rintro ⟨entries, hentries⟩
    exact bind_succeeds hentries ⟨_, rfl⟩

theorem namedValues_succeeds_iff {es : Entries} :
    (∃ m, namedValues es = .ok m) ↔ ∀ e ∈ es, e.1.hasText := by
  unfold namedValues
  rw [namedSection_succeeds_iff]
  simp [pure_eq_ok]

theorem Declares.declaredType_eq {es : Entries} {type : String} (h : Declares es type) :
    declaredType es = .str type := by
  unfold declaredType
  rw [h]
  rfl

/-- A part without a type counts as one of the empty type, which none of the parts has. -/
theorem declares_of_declaredType {es : Entries} {type : String} (h : declaredType es = .str type)
    (htype : type ≠ "") : Declares es type := by
  unfold declaredType at h
  unfold Declares
  cases hfound : es.field? "type" with
  | none =>
      rw [hfound] at h
      exact absurd (Value.str.inj h).symm htype
  | some v =>
      rw [hfound] at h
      exact congrArg some h

/-! ## Indexes -/

/-- A date is read of a day as it is, and of any other value by the text that it shows as. -/
theorem date_iff_givesDate {v : Value} {path : String} {d : Date} :
    date v path = .ok d ↔ GivesDate v d := by
  -- whether the value is a day decides which constructor can apply, in both directions
  by_cases hday : ∃ day, v = .day day
  · obtain ⟨day, rfl⟩ := hday
    rw [date, pure_eq_ok]
    constructor
    · rintro rfl
      cases day with
      | date d => exact .date d
      | moment m => exact .moment m
    · intro h
      cases h with
      | date => rfl
      | moment => rfl
      | written hno => exact absurd rfl (hno day)
  · have hno : ∀ day, v ≠ .day day := fun day h => hday ⟨day, h⟩
    unfold date
    split
    · next day => exact absurd rfl (hno day)
    · constructor
      · intro h
        obtain ⟨s, hs, h⟩ := bind_eq_ok.mp h
        obtain ⟨htext, rfl⟩ := textOf_eq_ok.mp hs
        split at h
        · next hiso =>
            rw [pure_eq_ok] at h
            exact .written hno htext (h ▸ hiso)
        · exact absurd (asConfig_eq_ok.mp h) throw_ne_ok
      · intro h
        cases h with
        | date d => exact absurd rfl (hno _)
        | moment m => exact absurd rfl (hno _)
        | written _ htext hiso =>
            refine bind_eq_ok.mpr ⟨_, textOf_eq_ok.mpr ⟨htext, rfl⟩, ?_⟩
            rw [hiso]
            rfl

/-- What is read as an index is one. The run is taken apart along the declared type. -/
theorem isIndex_of_index {v : Value} {path : String} {i : Index} (hi : index v path = .ok i) :
    IsIndex v := by
  unfold index at hi
  obtain ⟨es, hes, hi⟩ := bind_eq_ok.mp hi
  rw [mapping_eq_ok.mp (asConfig_eq_ok.mp hes)]
  split at hi
  · -- a range
    next htype =>
      rw [reportValues_eq_ok] at hi
      obtain ⟨start, hstart, hi⟩ := bind_eq_ok.mp hi
      obtain ⟨first, hfirst, hi⟩ := bind_eq_ok.mp hi
      obtain ⟨stop, hstop, hi⟩ := bind_eq_ok.mp hi
      obtain ⟨last, hlast, hi⟩ := bind_eq_ok.mp hi
      split at hi
      · next hforward =>
          exact .range (declares_of_declaredType htype (by decide))
            (required_iff_given.mp (asConfig_eq_ok.mp hstart)) (date_iff_givesDate.mp hfirst)
            (required_iff_given.mp (asConfig_eq_ok.mp hstop)) (date_iff_givesDate.mp hlast) hforward
      · exact absurd (asConfig_eq_ok.mp hi) throw_ne_ok
  · -- a list
    next htype =>
      obtain ⟨values, hvalues, hi⟩ := bind_eq_ok.mp (asConfig_eq_ok.mp hi)
      have hgiven := required_iff_given.mp hvalues
      split at hi
      · next members hmembers =>
          rw [texts?_eq_some hmembers] at hgiven
          refine .listed (declares_of_declaredType htype (by decide)) hgiven.found ?_
          rintro rfl
          exact hgiven.ne_list rfl
      · exact absurd hi throw_ne_ok
  · exact absurd hi rejectType_ne_ok

/-- An index is read exactly if it is one. The grammar knows the two types of an index; a field that
a type does not have may hold anything. -/
theorem index_iff_isIndex {v : Value} {path : String} :
    (∃ i, index v path = .ok i) ↔ IsIndex v := by
  constructor
  · rintro ⟨i, hi⟩
    exact isIndex_of_index hi
  · intro hv
    -- put together along the constructor, each field in the order in which it is read
    unfold index
    cases hv with
    | @range es start stop first last htype hstart hfirst hstop hlast hforward =>
        refine bind_succeeds (asConfig_eq_ok.mpr (mapping_eq_ok.mpr rfl)) ?_
        rw [htype.declaredType_eq]
        simp only [reportValues_eq_ok]
        refine bind_succeeds (asConfig_eq_ok.mpr (required_iff_given.mpr hstart)) ?_
        refine bind_succeeds (date_iff_givesDate.mpr hfirst) ?_
        refine bind_succeeds (asConfig_eq_ok.mpr (required_iff_given.mpr hstop)) ?_
        refine bind_succeeds (date_iff_givesDate.mpr hlast) ?_
        rw [if_pos hforward]
        exact ⟨_, rfl⟩
    | @listed es members htype hmembers hsome =>
        have hgiven : Given es "values" (.list (members.map .str)) :=
          ⟨hmembers, by simp, by simp, by simpa using hsome, by simp⟩
        refine bind_succeeds (asConfig_eq_ok.mpr (mapping_eq_ok.mpr rfl)) ?_
        rw [htype.declaredType_eq]
        simp only [asConfig_eq_ok]
        refine bind_succeeds (required_iff_given.mpr hgiven) ?_
        rw [texts?_ofTexts]
        exact ⟨_, rfl⟩

/-! ## Sources -/

theorem isIterable_iff {v : Value} : IsIterable v ↔ ∃ items, v.items? = some items := by
  constructor
  · intro h
    cases h <;> exact ⟨_, rfl⟩
  · rintro ⟨items, hitems⟩
    cases v with
    | str s => exact .text s
    | bytes bs => exact .bytes bs
    | list xs => exact .list xs
    | tuple xs => exact .tuple xs
    | set xs => exact .set xs
    | map es => exact .map es
    | table columns rows => exact .table columns rows
    | _ => cases hitems

/-- Steps are read of anything that counts as false, and else of texts that can be run through. -/
theorem keyPath_iff {v : Value} :
    (∃ steps, keyPath v = .ok steps) ↔ (v.isTrue = true → IsSteps v) := by
  unfold IsSteps
  rw [isIterable_iff]
  unfold keyPath
  cases htrue : v.isTrue with
  | false => simp [pure_eq_ok]
  | true =>
      simp only [if_true, forall_const]
      split
      · -- a text is cut; what is met by running through it are texts as well
        next s =>
          refine ⟨fun _ => ⟨⟨_, rfl⟩, fun items hitems => ?_⟩, fun _ => ⟨_, rfl⟩⟩
          cases hitems
          exact List.forall_mem_map.mpr fun c _ => Value.hasText_str _
      · cases v.items? with
        | some items =>
            simp only [mapM_succeeds_iff, Value.text_eq_ok, Option.some.injEq, exists_eq',
              forall_eq', true_and, exists_and_left, and_true]
        | none => simp [throw_ne_ok]

/-- The arguments of a function are a list, unless they count as false. -/
theorem callArguments_iff {v : Value} {path : String} :
    (∃ items, callArguments v path = .ok items) ↔ (v.isTrue = true → IsList v) := by
  unfold callArguments
  split
  · next hfalse => simp [hfalse, pure_eq_ok]
  · next items htrue => exact ⟨fun _ _ => ⟨items, rfl⟩, fun _ => ⟨items, rfl⟩⟩
  · next v hother htrue =>
      constructor
      · rintro ⟨items, hitems⟩
        exact absurd hitems throw_ne_ok
      · intro h
        obtain ⟨items, rfl⟩ := h htrue
        exact absurd rfl (hother items)

/-- Headers are read exactly if they are texts, or left out. -/
theorem headers_iff {es : Entries} {path : String} :
    (∃ m, optionalMapping es "headers" path = .ok m
        ∧ ∃ headers, namedSection m (fun _ v => textOf v) = .ok headers)
      ↔ Optionally es "headers" IsTexts := by
  simp only [namedSection_succeeds_iff, textOf_succeeds_iff]
  exact optionalMapping_iff fun e he => absurd he List.not_mem_nil

/-- What is read as a source is one, by the same argument as for an index. -/
theorem isSource_of_source {v : Value} {path : String} {s : Source} (hs : source v path = .ok s) :
    IsSource v := by
  unfold source at hs
  obtain ⟨es, hes, hs⟩ := bind_eq_ok.mp hs
  rw [mapping_eq_ok.mp (asConfig_eq_ok.mp hes)]
  split at hs
  · -- rows of text
    next htype =>
      obtain ⟨file, hfile, hs⟩ := bind_eq_ok.mp hs
      obtain ⟨options, hoptions, -⟩ := bind_eq_ok.mp hs
      obtain ⟨v, hgiven, htext⟩ := requiredText_iff.mp ⟨file, hfile⟩
      exact .csv (declares_of_declaredType htype (by decide)) hgiven htext
        (optionalMapping_succeeds_iff.mp ⟨options, asConfig_eq_ok.mp hoptions⟩)
  · -- a document
    next htype =>
      obtain ⟨file, hfile, hs⟩ := bind_eq_ok.mp hs
      obtain ⟨steps, hsteps, -⟩ := bind_eq_ok.mp hs
      obtain ⟨v, hgiven, htext⟩ := requiredText_iff.mp ⟨file, hfile⟩
      exact .json (declares_of_declaredType htype (by decide)) hgiven htext
        (optionally_iff.mpr (keyPath_iff.mp ⟨steps, mapError_eq_ok.mp hsteps⟩))
  · -- the network
    next htype =>
      obtain ⟨m, hm, hs⟩ := bind_eq_ok.mp hs
      obtain ⟨url, hurl, hs⟩ := bind_eq_ok.mp hs
      obtain ⟨headers, hheaders, hs⟩ := bind_eq_ok.mp hs
      obtain ⟨transform, htransform, -⟩ := bind_eq_ok.mp hs
      obtain ⟨v, hgiven, htext⟩ := requiredText_iff.mp ⟨url, hurl⟩
      exact .api (declares_of_declaredType htype (by decide)) hgiven htext
        (headers_iff.mp ⟨m, asConfig_eq_ok.mp hm, headers, hheaders⟩)
        (optionalText_iff.mp ⟨transform, htransform⟩)
  · -- a function
    next htype =>
      obtain ⟨args, hargs, hs⟩ := bind_eq_ok.mp hs
      obtain ⟨name, hname, -⟩ := bind_eq_ok.mp hs
      obtain ⟨v, hgiven, htext⟩ := requiredText_iff.mp ⟨name, hname⟩
      exact .function (declares_of_declaredType htype (by decide)) hgiven htext
        (optionally_iff.mpr (callArguments_iff.mp ⟨args, asConfig_eq_ok.mp hargs⟩))
  · -- data that are written out
    next htype => exact .literal (declares_of_declaredType htype (by decide))
  · exact absurd hs rejectType_ne_ok

/-- A source is read exactly if it is one. Paths, urls and names of functions are made texts of
whatever stands there, so that the grammar asks for a text and not for a string. -/
theorem source_iff_isSource {v : Value} {path : String} :
    (∃ s, source v path = .ok s) ↔ IsSource v := by
  constructor
  · rintro ⟨s, hs⟩
    exact isSource_of_source hs
  · intro hv
    -- texts are read before the fields that may be left out, or after them, as the reader has it
    unfold source
    cases hv with
    | csv htype hgiven htext hoptions =>
        obtain ⟨file, hfile⟩ := requiredText_iff.mpr ⟨_, hgiven, htext⟩
        obtain ⟨options, hoptions⟩ := optionalMapping_succeeds_iff.mpr hoptions
        refine bind_succeeds (asConfig_eq_ok.mpr (mapping_eq_ok.mpr rfl)) ?_
        rw [htype.declaredType_eq]
        refine bind_succeeds hfile ?_
        exact bind_succeeds (asConfig_eq_ok.mpr hoptions) ⟨_, rfl⟩
    | json htype hgiven htext hsteps =>
        obtain ⟨file, hfile⟩ := requiredText_iff.mpr ⟨_, hgiven, htext⟩
        obtain ⟨steps, hsteps⟩ := keyPath_iff.mpr (optionally_iff.mp hsteps)
        refine bind_succeeds (asConfig_eq_ok.mpr (mapping_eq_ok.mpr rfl)) ?_
        rw [htype.declaredType_eq]
        refine bind_succeeds hfile ?_
        exact bind_succeeds (mapError_eq_ok.mpr hsteps) ⟨_, rfl⟩
    | api htype hgiven htext hheaders htransform =>
        obtain ⟨url, hurl⟩ := requiredText_iff.mpr ⟨_, hgiven, htext⟩
        obtain ⟨m, hm, headers, hheaders⟩ := headers_iff.mpr hheaders
        obtain ⟨transform, htransform⟩ := optionalText_iff.mpr htransform
        refine bind_succeeds (asConfig_eq_ok.mpr (mapping_eq_ok.mpr rfl)) ?_
        rw [htype.declaredType_eq]
        refine bind_succeeds (asConfig_eq_ok.mpr hm) ?_
        refine bind_succeeds hurl ?_
        refine bind_succeeds hheaders ?_
        exact bind_succeeds htransform ⟨_, rfl⟩
    | function htype hgiven htext hargs =>
        obtain ⟨args, hargs⟩ := callArguments_iff.mpr (optionally_iff.mp hargs)
        obtain ⟨name, hname⟩ := requiredText_iff.mpr ⟨_, hgiven, htext⟩
        refine bind_succeeds (asConfig_eq_ok.mpr (mapping_eq_ok.mpr rfl)) ?_
        rw [htype.declaredType_eq]
        refine bind_succeeds (asConfig_eq_ok.mpr hargs) ?_
        exact bind_succeeds hname ⟨_, rfl⟩
    | literal htype =>
        refine bind_succeeds (asConfig_eq_ok.mpr (mapping_eq_ok.mpr rfl)) ?_
        rw [htype.declaredType_eq]
        exact ⟨_, rfl⟩

/-- A source that has to be there is read exactly if there is one. -/
theorem requiredSource_iff {es : Entries} {path : String} :
    (∃ s, requiredSource es path = .ok s) ↔ ∃ v, es.field? "source" = some v ∧ IsSource v := by
  unfold requiredSource
  simp only [bind_eq_ok, asConfig_eq_ok, required_iff_given]
  constructor
  · rintro ⟨s, v, hgiven, hs⟩
    exact ⟨v, hgiven.found, isSource_of_source hs⟩
  · rintro ⟨v, hfound, hsource⟩
    obtain ⟨s, hs⟩ := source_iff_isSource.mpr hsource
    have hgiven : Given es "source" v := by
      -- a source declares its type, so it is not empty
      refine ⟨hfound, ?_, ?_, ?_, ?_⟩ <;> rintro rfl <;> cases hsource <;> contradiction
    exact ⟨s, v, hgiven, hs⟩

/-! ## Parameters -/

theorem isKeyword_name (t : ScalarType) : IsKeyword t.name := by
  cases t <;> exact ⟨by simp [ScalarType.name], by decide, by decide⟩

theorem isOfType_iff {t : ScalarType} {v : Value} : IsOfType t v ↔ t.holds v = true := by
  constructor
  · intro h
    cases h <;> rfl
  · intro h
    cases t <;> cases v <;> first | constructor | cases h

/-- A single value of a type that is named is read exactly if it is of that type. -/
theorem ofScalar_iff {value : Value} {name : String} :
    (∃ p, Parameter.ofScalar value name = .ok p)
      ↔ ∃ t : ScalarType, name = t.name ∧ IsOfType t value := by
  constructor
  · rintro ⟨p, hp⟩
    obtain ⟨t, hname, hholds, -⟩ := Parameter.ofScalar_eq_ok hp
    exact ⟨t, ScalarType.ofName?_eq_some.mp hname, isOfType_iff.mpr hholds⟩
  · rintro ⟨t, rfl, hof⟩
    refine ⟨.scalar value t, ?_⟩
    unfold Parameter.ofScalar
    rw [ScalarType.ofName?_name]
    exact if_pos (isOfType_iff.mp hof)

/-- What is read as a table is one: its columns have texts, and its source is a source. -/
theorem isParameter_of_table {es : Entries} {path : String} (htype : Declares es "table") :
    (∃ p, tableParameter es path = .ok p) → IsParameter (.map es) := by
  rintro ⟨p, hp⟩
  obtain ⟨schema, hschema, hp⟩ := bind_eq_ok.mp hp
  have hgiven := required_iff_given.mp (asConfig_eq_ok.mp hschema)
  split at hp
  · next columns =>
      obtain ⟨s, hs, hp⟩ := bind_eq_ok.mp hp
      obtain ⟨names, hnames, -⟩ := bind_eq_ok.mp hp
      obtain ⟨found, hfound, hsource⟩ := requiredSource_iff.mp ⟨s, hs⟩
      refine .table htype hgiven.found ?_ ?_ hfound hsource
      · rintro rfl
        exact hgiven.ne_list rfl
      · exact fun c hc => textOf_succeeds_iff.mp (mapM_succeeds_iff.mp ⟨names, hnames⟩ c hc)
  · exact absurd (asConfig_eq_ok.mp hp) throw_ne_ok

theorem isParameter_of_mapping {es : Entries} {path : String} (htype : Declares es "dict") :
    (∃ p, mappingParameter es path = .ok p) → IsParameter (.map es) := by
  rintro ⟨p, hp⟩
  obtain ⟨v, hv, hp⟩ := bind_eq_ok.mp hp
  obtain ⟨s, hs, hp⟩ := bind_eq_ok.mp hp
  obtain ⟨key, hkey, -⟩ := bind_eq_ok.mp hp
  obtain ⟨found, hfound, hsource⟩ := requiredSource_iff.mp ⟨s, hs⟩
  exact .mapping htype (required_iff_given.mp (asConfig_eq_ok.mp hv))
    (textOf_succeeds_iff.mp ⟨key, hkey⟩) hfound hsource

theorem isParameter_of_scalar {es : Entries} {path : String} (htype : Declares es "scalar") :
    (∃ p, scalarParameter es path = .ok p) → IsParameter (.map es) := by
  rintro ⟨p, hp⟩
  unfold scalarParameter at hp
  split at hp
  · exact absurd (asConfig_eq_ok.mp hp) throw_ne_ok
  · next value hvalue =>
      obtain ⟨name, hname, hp⟩ := bind_eq_ok.mp hp
      have hscalar := mapError_eq_ok.mp (asConfig_eq_ok.mp hp)
      obtain ⟨t, rfl, hof⟩ := ofScalar_iff.mp ⟨p, hscalar⟩
      -- only the name itself shows as the name of a type
      have htext := Value.eq_str_of_shown (isKeyword_name t) (textOf_eq_ok.mp hname).2
      cases hdeclared : es.field? "value_type" with
      | none => exact .untyped htype hvalue hdeclared
      | some declared =>
          have hdeclares : es.field? "value_type" = some (.str t.name) := by
            rw [hdeclared] at htext ⊢
            exact congrArg some htext
          exact .typed htype hvalue hdeclares hof

/-- A parameter is read exactly if it is one. The three types have their own fields, and an inline
value can stand in place of a source. -/
theorem parameter_iff_isParameter {v : Value} {path : String} :
    (∃ p, parameter v path = .ok p) ↔ IsParameter v := by
  -- values that are rejected are reported, which does not change what is read
  unfold parameter
  constructor
  · rintro ⟨p, hp⟩
    obtain ⟨es, hes, hp⟩ := bind_eq_ok.mp hp
    rw [mapping_eq_ok.mp (asConfig_eq_ok.mp hes)]
    split at hp
    · next htype =>
        exact isParameter_of_table (declares_of_declaredType htype (by decide))
          ⟨p, reportValues_eq_ok.mp hp⟩
    · next htype =>
        exact isParameter_of_mapping (declares_of_declaredType htype (by decide))
          ⟨p, reportValues_eq_ok.mp hp⟩
    · next htype =>
        exact isParameter_of_scalar (declares_of_declaredType htype (by decide))
          ⟨p, reportValues_eq_ok.mp hp⟩
    · exact absurd hp rejectType_ne_ok
  · intro hv
    cases hv with
    | @table es columns found htype hschema hsome htexts hfound hsource =>
        have hgiven : Given es "schema" (.list columns) :=
          ⟨hschema, by simp, by simp, by simpa using hsome, by simp⟩
        obtain ⟨s, hs⟩ := requiredSource_iff.mpr ⟨found, hfound, hsource⟩
        obtain ⟨names, hnames⟩ := mapM_succeeds_iff.mpr fun c hc =>
          textOf_succeeds_iff.mpr (htexts c hc)
        refine bind_succeeds (asConfig_eq_ok.mpr (mapping_eq_ok.mpr rfl)) ?_
        rw [htype.declaredType_eq]
        simp only [reportValues_eq_ok]
        refine bind_succeeds (asConfig_eq_ok.mpr (required_iff_given.mpr hgiven)) ?_
        refine bind_succeeds hs ?_
        exact bind_succeeds hnames ⟨_, rfl⟩
    | @mapping es key found htype hkey htext hfound hsource =>
        obtain ⟨s, hs⟩ := requiredSource_iff.mpr ⟨found, hfound, hsource⟩
        obtain ⟨name, hname⟩ := textOf_succeeds_iff.mpr htext
        refine bind_succeeds (asConfig_eq_ok.mpr (mapping_eq_ok.mpr rfl)) ?_
        rw [htype.declaredType_eq]
        simp only [reportValues_eq_ok]
        refine bind_succeeds (asConfig_eq_ok.mpr (required_iff_given.mpr hkey)) ?_
        refine bind_succeeds hs ?_
        exact bind_succeeds hname ⟨_, rfl⟩
    | @untyped es value htype hvalue hnone =>
        obtain ⟨p, hp⟩ := ofScalar_iff.mpr ⟨ScalarType.any, rfl, IsOfType.any value⟩
        refine bind_succeeds (asConfig_eq_ok.mpr (mapping_eq_ok.mpr rfl)) ?_
        rw [htype.declaredType_eq]
        simp only [reportValues_eq_ok, scalarParameter, hvalue, hnone]
        refine bind_succeeds (textOf_str "any") ?_
        exact ⟨p, asConfig_eq_ok.mpr (mapError_eq_ok.mpr hp)⟩
    | @typed es value type htype hvalue hname hof =>
        obtain ⟨p, hp⟩ := ofScalar_iff.mpr ⟨type, rfl, hof⟩
        refine bind_succeeds (asConfig_eq_ok.mpr (mapping_eq_ok.mpr rfl)) ?_
        rw [htype.declaredType_eq]
        simp only [reportValues_eq_ok, scalarParameter, hvalue, hname]
        refine bind_succeeds (textOf_str type.name) ?_
        exact ⟨p, asConfig_eq_ok.mpr (mapError_eq_ok.mpr hp)⟩

/-! ## Overrides -/

/-- Arguments are read exactly if they have names, or are left out. -/
theorem arguments_iff {es : Entries} {path : String} :
    (∃ m, optionalMapping es "args" path = .ok m ∧ ∃ args, namedValues m = .ok args)
      ↔ Optionally es "args" IsNamed := by
  simp only [namedValues_succeeds_iff]
  exact optionalMapping_iff fun e he => absurd he List.not_mem_nil

/-- An override is read exactly if it is one. Its arguments are a mapping of any values, under texts
of their keys. -/
theorem override_iff_isOverride {v : Value} {path : String} :
    (∃ o, override v path = .ok o) ↔ IsOverride v := by
  unfold override
  constructor
  · rintro ⟨o, ho⟩
    obtain ⟨es, hes, ho⟩ := bind_eq_ok.mp ho
    obtain ⟨v, hv, ho⟩ := bind_eq_ok.mp ho
    obtain ⟨m, hm, ho⟩ := bind_eq_ok.mp ho
    obtain ⟨name, hname, ho⟩ := bind_eq_ok.mp ho
    obtain ⟨target, htarget, ho⟩ := bind_eq_ok.mp ho
    obtain ⟨args, hargs, -⟩ := bind_eq_ok.mp ho
    rw [mapping_eq_ok.mp (asConfig_eq_ok.mp hes)]
    exact ⟨required_iff_given.mp (asConfig_eq_ok.mp hv), textOf_succeeds_iff.mp ⟨target, htarget⟩,
      arguments_iff.mp ⟨m, asConfig_eq_ok.mp hm, args, hargs⟩, optionalText_iff.mp ⟨name, hname⟩⟩
  · rintro ⟨hgiven, htext, hargs, hname⟩
    obtain ⟨m, hm, args, hargs⟩ := arguments_iff.mpr hargs
    obtain ⟨name, hname⟩ := optionalText_iff.mpr hname
    obtain ⟨target, htarget⟩ := textOf_succeeds_iff.mpr htext
    refine bind_succeeds (asConfig_eq_ok.mpr (mapping_eq_ok.mpr rfl)) ?_
    refine bind_succeeds (asConfig_eq_ok.mpr (required_iff_given.mpr hgiven)) ?_
    refine bind_succeeds (asConfig_eq_ok.mpr hm) ?_
    refine bind_succeeds hname ?_
    refine bind_succeeds htarget ?_
    exact bind_succeeds hargs ⟨_, rfl⟩

/-- Overrides are read one after the other exactly if each of them is one. Induction on what is
still to be read. -/
theorem overridesFrom_iff {path : String} (vs : List Value) :
    ∀ {position : Nat},
      (∃ l, overridesFrom path position vs = .ok l) ↔ ∀ o ∈ vs, IsOverride o := by
  induction vs with
  | nil => simp [overridesFrom, pure_eq_ok]
  | cons v vs ih =>
      intro position
      rw [List.forall_mem_cons, ← @ih (position + 1), overridesFrom]
      simp only [bind_eq_ok, pure_eq_ok]
      constructor
      · rintro ⟨_, o, ho, os, hos, -⟩
        exact ⟨override_iff_isOverride.mp ⟨o, ho⟩, os, hos⟩
      · rintro ⟨hv, os, hos⟩
        obtain ⟨o, ho⟩ := override_iff_isOverride.mpr hv
        exact ⟨_, o, ho, os, hos, rfl⟩

theorem overrideList_iff {v : Value} {path : String} :
    (∃ l, overrideList v path = .ok l) ↔ ∃ items, v = .list items ∧ ∀ o ∈ items, IsOverride o := by
  unfold overrideList
  split
  · next items =>
      rw [overridesFrom_iff]
      constructor
      · exact fun h => ⟨items, rfl, h⟩
      · rintro ⟨_, hlist, h⟩
        cases hlist
        exact h
  · next hother =>
      constructor
      · rintro ⟨l, hl⟩
        exact absurd (asConfig_eq_ok.mp hl) throw_ne_ok
      · rintro ⟨items, rfl, -⟩
        exact absurd rfl (hother items)

/-! ## Sections -/

/-- The entries of a section, as it stands in a configuration. -/
theorem sectionEntries_eq_ok {es : Entries} {name : String} {entries : Entries} :
    sectionEntries es name = .ok entries
      ↔ (es.field name = .null ∧ entries = []) ∨ es.field name = .map entries := by
  unfold sectionEntries
  -- three cases: nothing there or nothing in it, a mapping, and anything else, which is rejected
  split
  · next hnull =>
      rw [pure_eq_ok, hnull]
      simp [eq_comm]
  · next found hmap =>
      rw [pure_eq_ok, hmap]
      simp
  · next hnull hmap =>
      constructor
      · intro h
        exact absurd h throw_ne_ok
      · rintro (⟨h, -⟩ | h)
        · exact absurd h hnull
        · exact absurd h (hmap entries)

/-- A section is of a form exactly if its entries are found and all of them are of the form. A
section may be left out, and one that stands there has to be a mapping. -/
theorem isSection_iff {es : Entries} {name : String} {form : (key v : Value) → Prop} :
    IsSection es name form
      ↔ ∃ entries, sectionEntries es name = .ok entries ∧ ∀ e ∈ entries, form e.1 e.2 := by
  simp only [sectionEntries_eq_ok]
  unfold IsSection
  -- a section that is left out and one that is null are both read as empty
  cases hfound : es.field? name with
  | none =>
      have hfield : es.field name = .null := by
        unfold Entries.field
        rw [hfound]
        rfl
      simp [hfield]
  | some v =>
      rw [Entries.field_of_field? hfound]
      constructor
      · rintro (h | h | ⟨entries, h, hall⟩)
        · cases h
        · cases h
          exact ⟨[], Or.inl ⟨rfl, rfl⟩, by simp⟩
        · cases h
          exact ⟨entries, Or.inr rfl, hall⟩
      · rintro ⟨entries, ⟨rfl, -⟩ | rfl, hall⟩
        · exact Or.inr (Or.inl rfl)
        · exact Or.inr (Or.inr ⟨entries, rfl, hall⟩)

/-- A section that was read has the names that its keys show as. -/
theorem mem_names_namedSection {α : Type} {es : Entries}
    {read : String → Value → Except Failure α} {m : Named α} (hm : namedSection es read = .ok m)
    {name : String} : name ∈ m.names ↔ ∃ e ∈ es, e.1.shown = name := by
  unfold namedSection at hm
  obtain ⟨entries, hentries, hfill⟩ := bind_eq_ok.mp hm
  rw [pure_eq_ok] at hfill
  have hnames : entries.map Prod.fst = es.map fun e => e.1.shown := by
    rw [← List.forall₂_eq_eq_eq, List.forall₂_map_left_iff, List.forall₂_map_right_iff]
    refine (mapM_eq_ok.mp hentries).flip.imp fun entry e hentry => ?_
    obtain ⟨shown, hshown, hentry⟩ := bind_eq_ok.mp hentry
    obtain ⟨a, -, ha⟩ := bind_eq_ok.mp hentry
    rw [pure_eq_ok] at ha
    rw [← ha, (textOf_eq_ok.mp hshown).2]
  rw [← hfill, Named.mem_names_ofList, hnames, List.mem_map]

theorem isKeyword_of_mem_overridePhases {phase : String} (h : phase ∈ overridePhases) :
    IsKeyword phase := by
  simp only [overridePhases, List.mem_cons, List.not_mem_nil, or_false] at h
  rcases h with rfl | rfl <;> exact ⟨by simp, by decide, by decide⟩

/-- The overrides of a configuration are read, and none of their phases is unknown, exactly if every
entry is a list of overrides under a known phase. -/
theorem namedSection_phases_iff {es : Entries} {path : String → String} :
    (∃ m, namedSection es (fun phase v => overrideList v (path phase)) = .ok m
      ∧ unknownPhase? m = none) ↔ ∀ e ∈ es, IsPhase e.1 e.2 := by
  constructor
  · rintro ⟨m, hm, hknown⟩ e he
    obtain ⟨-, l, hl⟩ := namedSection_succeeds_iff.mp ⟨m, hm⟩ e he
    refine ⟨?_, overrideList_iff.mp ⟨l, hl⟩⟩
    -- phases are checked on the names that were read, of which the key of this entry is one
    have hname : e.1.shown ∈ m.names := (mem_names_namedSection hm).mpr ⟨e, he, rfl⟩
    obtain ⟨entry, hentry, hshown⟩ := List.mem_map.mp hname
    have hphase : e.1.shown ∈ overridePhases := by
      rw [← hshown]
      exact unknownPhase?_eq_none.mp hknown entry hentry
    -- no other value shows as the name of a phase, so the key is this text
    exact ⟨_, hphase, Value.eq_str_of_shown (isKeyword_of_mem_overridePhases hphase) rfl⟩
  · intro h
    have hread : ∀ e ∈ es, e.1.hasText ∧ ∃ l, overrideList e.2 (path e.1.shown) = .ok l := by
      intro e he
      obtain ⟨⟨phase, -, hkey⟩, hlist⟩ := h e he
      exact ⟨hkey ▸ Value.hasText_str phase, overrideList_iff.mpr hlist⟩
    have hsection : ∃ m, namedSection es (fun phase v => overrideList v (path phase))
        = .ok m := namedSection_succeeds_iff.mpr hread
    obtain ⟨m, hm⟩ := hsection
    refine ⟨m, hm, unknownPhase?_eq_none.mpr fun entry hentry => ?_⟩
    obtain ⟨e, he, hshown⟩ := (mem_names_namedSection hm).mp (List.mem_map_of_mem hentry)
    obtain ⟨⟨phase, hphase, hkey⟩, -⟩ := h e he
    rw [← hshown, hkey]
    exact hphase

/-! ## Whole configurations -/

/-- A text is stripped to nothing exactly if all of it is white space. -/
theorem stripped_isEmpty_eq_false {s : String} :
    (Text.stripped s).isEmpty = false ↔ IsNotBlank s := by
  have hblank : ∀ l : List Char,
      l.dropWhile Text.isBlank = [] ↔ ¬ ∃ c ∈ l, Text.isBlank c = false := by
    intro l
    rw [List.dropWhile_eq_nil_iff]
    simp
  unfold Text.stripped IsNotBlank
  rw [String.isEmpty_eq_false_iff, Ne, String.ofList_eq_empty_iff, List.reverse_eq_nil_iff, hblank,
    not_not]
  constructor
  · rintro ⟨c, hc, hnot⟩
    rw [List.mem_reverse] at hc
    exact ⟨c, List.dropWhile_subset _ hc, hnot⟩
  · rintro ⟨c, hc, hnot⟩
    -- what stands first after the white space is still there
    have hrest : s.toList.dropWhile Text.isBlank ≠ [] := fun h => (hblank _).mp h ⟨c, hc, hnot⟩
    exact ⟨_, List.mem_reverse.mpr (List.head_mem hrest), List.head_dropWhile_not _ hrest⟩

/-- A template is read exactly if there is a text for it that is not blank. Blanks around the text
are taken away before it is asked whether anything is left. -/
theorem template_iff {es : Entries} :
    (∃ name, template es = .ok name)
      ↔ ∃ name, es.field? "template" = some (.str name) ∧ IsNotBlank name := by
  constructor
  · rintro ⟨name, hname⟩
    refine ⟨name, ?_, stripped_isEmpty_eq_false.mp (template_eq_ok hname)⟩
    -- of the three ways to be rejected none was taken, so a text was found
    have hfield : es.field "template" = .str name := by
      unfold template at hname
      split at hname
      · exact absurd hname throw_ne_ok
      · next found hfound =>
          split at hname
          · exact absurd hname throw_ne_ok
          · rw [pure_eq_ok] at hname
            rw [hfound, hname]
      · exact absurd hname throw_ne_ok
    exact Entries.field?_of_field hfield (by simp)
  · rintro ⟨name, hfound, hnot⟩
    refine ⟨name, ?_⟩
    unfold template
    rw [Entries.field_of_field? hfound]
    simp only [stripped_isEmpty_eq_false.mpr hnot]
    rfl

/-- A configuration is read exactly if it is one. The reader goes through the sections in one order
and stops at the first failure; the grammar knows no order, so that everything it asks for has to
hold at once. -/
theorem decode_succeeds_iff (es : Entries) : (∃ s, decode es = .ok s) ↔ IsConfiguration es := by
  constructor
  · rintro ⟨s, hs⟩
    unfold decode at hs
    -- the run is taken apart into its stages, and each stage gives one clause of the grammar
    obtain ⟨name, hname, hs⟩ := bind_eq_ok.mp hs
    obtain ⟨_, hothers, hs⟩ := bind_eq_ok.mp hs
    obtain ⟨indexEntries, hindexEntries, hs⟩ := bind_eq_ok.mp hs
    obtain ⟨parameterEntries, hparameterEntries, hs⟩ := bind_eq_ok.mp hs
    obtain ⟨optionEntries, hoptionEntries, hs⟩ := bind_eq_ok.mp hs
    obtain ⟨overrideEntries, hoverrideEntries, hs⟩ := bind_eq_ok.mp hs
    obtain ⟨indexes, hindexes, hs⟩ := bind_eq_ok.mp hs
    obtain ⟨parameters, hparameters, hs⟩ := bind_eq_ok.mp hs
    obtain ⟨options, hoptions, hs⟩ := bind_eq_ok.mp hs
    obtain ⟨overrides, hoverrides, hs⟩ := bind_eq_ok.mp hs
    refine ⟨template_iff.mp ⟨name, asConfig_eq_ok.mp hname⟩,
      Value.checkTexts_eq_ok.mp (mapError_eq_ok.mp hothers), ?_, ?_, ?_, ?_⟩
    · refine isSection_iff.mpr ⟨indexEntries, asConfig_eq_ok.mp hindexEntries, fun e he => ?_⟩
      obtain ⟨hkey, hindex⟩ := namedSection_succeeds_iff.mp ⟨indexes, hindexes⟩ e he
      exact ⟨hkey, index_iff_isIndex.mp hindex⟩
    · refine isSection_iff.mpr ⟨parameterEntries, asConfig_eq_ok.mp hparameterEntries,
        fun e he => ?_⟩
      obtain ⟨hkey, hparameter⟩ := namedSection_succeeds_iff.mp ⟨parameters, hparameters⟩ e he
      exact ⟨hkey, parameter_iff_isParameter.mp hparameter⟩
    · exact isSection_iff.mpr ⟨optionEntries, asConfig_eq_ok.mp hoptionEntries,
        namedValues_succeeds_iff.mp ⟨options, hoptions⟩⟩
    · -- phases are checked after their entries have been read, and both are one clause of the
      -- grammar
      refine isSection_iff.mpr ⟨overrideEntries, asConfig_eq_ok.mp hoverrideEntries, ?_⟩
      split at hs
      · exact absurd (asConfig_eq_ok.mp hs) throw_ne_ok
      · next hknown => exact namedSection_phases_iff.mp ⟨overrides, hoverrides, hknown⟩
  · intro h
    -- the other way round, the clauses give the result of each stage before the run is put together
    obtain ⟨name, hname⟩ := template_iff.mpr h.template
    have hothers : (Value.checkTexts (unknownSections es)).mapError Failure.fault = .ok () :=
      mapError_eq_ok.mpr (Value.checkTexts_eq_ok.mpr h.others)
    obtain ⟨indexEntries, hindexEntries, hindexes⟩ := isSection_iff.mp h.indexes
    obtain ⟨parameterEntries, hparameterEntries, hparameters⟩ := isSection_iff.mp h.parameters
    obtain ⟨optionEntries, hoptionEntries, hoptions⟩ := isSection_iff.mp h.options
    obtain ⟨overrideEntries, hoverrideEntries, hphases⟩ := isSection_iff.mp h.overrides
    have hreadIndexes : ∃ m, namedSection indexEntries
        (fun name v => index v ("indexes." ++ name)) = .ok m :=
      namedSection_succeeds_iff.mpr fun e he =>
        (hindexes e he).imp_right index_iff_isIndex.mpr
    have hreadParameters : ∃ m, namedSection parameterEntries
        (fun name v => parameter v ("parameters." ++ name)) = .ok m :=
      namedSection_succeeds_iff.mpr fun e he =>
        (hparameters e he).imp_right parameter_iff_isParameter.mpr
    obtain ⟨indexes, hindexes⟩ := hreadIndexes
    obtain ⟨parameters, hparameters⟩ := hreadParameters
    obtain ⟨options, hoptions⟩ := namedValues_succeeds_iff.mpr hoptions
    obtain ⟨overrides, hoverrides, hknown⟩ := namedSection_phases_iff.mpr hphases
    unfold decode
    refine bind_succeeds (asConfig_eq_ok.mpr hname) ?_
    refine bind_succeeds hothers ?_
    refine bind_succeeds (asConfig_eq_ok.mpr hindexEntries) ?_
    refine bind_succeeds (asConfig_eq_ok.mpr hparameterEntries) ?_
    refine bind_succeeds (asConfig_eq_ok.mpr hoptionEntries) ?_
    refine bind_succeeds (asConfig_eq_ok.mpr hoverrideEntries) ?_
    refine bind_succeeds hindexes ?_
    refine bind_succeeds hparameters ?_
    refine bind_succeeds hoptions ?_
    refine bind_succeeds hoverrides ?_
    rw [hknown]
    exact ⟨_, rfl⟩

/-- The key of an option is a whole number of too many digits. All sections are as they have to be, and
still the configuration is not read, since the number has no text. -/
theorem decode_eq_error_of_long_option :
    let options : Entries := [(.int integerLimit, .int 1)]
    let es := Entries.ofFields [("template", .str "t"), ("options", .map options)]
    es.field? "template" = some (.str "t") ∧ IsNotBlank "t"
      ∧ es.field? "options" = some (.map options)
      ∧ (∀ name ∈ ["indexes", "parameters", "overrides"], es.field? name = none)
      ∧ unknownSections es = [] ∧ decode es = .error (.fault .overlong) := by
  intro options es
  have hfields : ∀ name, es.field? name
      = List.lookup name [("template", Value.str "t"), ("options", .map options)] :=
    Entries.field?_ofFields _
  have hblank : IsNotBlank "t" := ⟨'t', by decide, by decide⟩
  have hothers : ∀ name ∈ ["indexes", "parameters", "overrides"], es.field? name = none := by
    intro name hname
    rw [hfields]
    fin_cases hname <;> rfl
  have hknown : unknownSections es = [] := unknownSections_ofFields (by decide)
  -- the sections that are left out are read as empty ones
  have hnone : ∀ name ∈ ["indexes", "parameters", "overrides"],
      asConfig (sectionEntries es name) = .ok [] := by
    intro name hname
    refine asConfig_eq_ok.mpr (sectionEntries_eq_ok.mpr (Or.inl ⟨?_, rfl⟩))
    unfold Entries.field
    rw [hothers name hname]
    rfl
  have hoptions : asConfig (sectionEntries es "options") = .ok options :=
    asConfig_eq_ok.mpr (sectionEntries_eq_ok.mpr (Or.inr (Entries.field_of_field? (hfields _))))
  -- the key of the option is asked for its text and has none
  have hlong : namedValues options = .error (.fault .overlong) :=
    namedValues_eq_error (by decide +kernel)
  obtain ⟨name, hname⟩ := template_iff.mpr ⟨"t", hfields _, hblank⟩
  refine ⟨hfields _, hblank, hfields _, hothers, hknown, ?_⟩
  -- all stages before the options succeed, so the failure of the options is that of the whole
  have hafter : ∀ {α β : Type} {x : Except Failure α} {f : α → Except Failure β} {a : α} {e : Failure},
      x = .ok a → f a = .error e → x >>= f = .error e :=
    fun ha hf => bind_eq_error.mpr (Or.inr ⟨_, ha, hf⟩)
  unfold decode
  rw [hknown]
  refine hafter (asConfig_eq_ok.mpr hname) (hafter rfl ?_)
  refine hafter (hnone "indexes" (by simp)) (hafter (hnone "parameters" (by simp)) ?_)
  refine hafter hoptions (hafter (hnone "overrides" (by simp)) ?_)
  refine hafter (a := .empty) rfl (hafter (a := .empty) rfl ?_)
  exact bind_eq_error.mpr (Or.inl hlong)

end Rostering.Config
