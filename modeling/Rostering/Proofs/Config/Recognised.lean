import Rostering.Proofs.Config.Acceptance

/-!
# Fields that nobody reads

A configuration may hold more than its readers know: keys that are no section, and in each part
fields that parts of its type do not have. None of them is seen, neither by what is read nor by what
a failure says (`decode_eq_of_recognised`). Keys that are no section are warned of, each once and in
their order. A warning has the text of its key in it, so that a key without a text is a fault, even
though nobody reads what stands under it (`decode_ne_of_numbered`).

There is one place where more fields than are known could be noticed: a source without any field
counts as missing, and a source with unknown fields only does not. Sources that declare a type, as
all of them have to, are safe from that.

## The architecture

The two runs are not compared with each other. Each is that of the recognised fields alone.

* **`onlyFields`** — the fields of given names, in the order of the names, so that it does not
  matter in which order an object has them; **`recognised`** keeps these in every part.
* **`index_congr`**, **`source_congr`**, **`parameter_congr`**, **`override_congr`** — a reader
  gives the same on parts that have the same fields of their type, one case for each type.
* **`HasTypedSources`**, **`HasShownKeys`** — what keeps the readers from noticing the rest: sources
  declare a type, and keys that are no section can be warned of.
* **`decode_recognised`** — reading a configuration is reading what is recognised of it.
-/

namespace Rostering.Config

/-! ## What is recognised -/

/-- The fields of the given names that are there, cleaned, in the order of the names. -/
def onlyFields (names : List String) (clean : String → Value → Value) (es : Entries) : Entries :=
  names.filterMap fun name => (es.field? name).map fun v => (.str name, clean name v)

/-- The fields that an index of this type is read from; without a known type it is only the type
itself. -/
def indexFields : (type : Value) → List String
  | .str "date_range" => ["type", "start", "end"]
  | .str "list" => ["type", "values"]
  | _ => ["type"]

/-- The fields that a source of this type is read from. -/
def sourceFields : (type : Value) → List String
  | .str "csv" => ["type", "path", "options"]
  | .str "json" => ["type", "path", "key_path"]
  | .str "api" => ["type", "url", "headers", "transform"]
  | .str "function" => ["type", "function", "args"]
  | .str "literal" => ["type", "data"]
  | _ => ["type"]

/-- The fields that a parameter of this type is read from. -/
def parameterFields : (type : Value) → List String
  | .str "table" => ["type", "schema", "source"]
  | .str "dict" => ["type", "key", "source"]
  | .str "scalar" => ["type", "value", "value_type"]
  | _ => ["type"]

def overrideFields : List String := ["function", "args", "name"]

/-- An index with the fields of its type only. What is no mapping is left as it is. -/
def recognisedIndex : Value → Value
  | .map es => .map (onlyFields (indexFields (declaredType es)) (fun _ v => v) es)
  | v => v

/-- A source with the fields of its type only. -/
def recognisedSource : Value → Value
  | .map es => .map (onlyFields (sourceFields (declaredType es)) (fun _ v => v) es)
  | v => v

/-- A parameter with the fields of its type only, and so is the source in it. -/
def recognisedParameter : Value → Value
  | .map es => .map (onlyFields (parameterFields (declaredType es))
      (fun name v => if name = "source" then recognisedSource v else v) es)
  | v => v

/-- An override with its fields only. -/
def recognisedOverride : Value → Value
  | .map es => .map (onlyFields overrideFields (fun _ v => v) es)
  | v => v

/-- All overrides of a list with their fields only. -/
def recognisedOverrides : Value → Value
  | .list items => .list (items.map recognisedOverride)
  | v => v

/-- What is recognised of the parts that a section holds. -/
def recognisedPart (name : String) : Value → Value :=
  match name with
  | "indexes" => recognisedIndex
  | "parameters" => recognisedParameter
  | "overrides" => recognisedOverrides
  | _ => id

/-- A section has all its entries, in their order, with what is recognised of each. -/
def recognisedSection (name : String) : Value → Value
  | .map entries => .map (entries.map fun e => (e.1, recognisedPart name e.2))
  | v => v

/-- The configuration without the keys and fields that are not recognised. -/
def recognised (es : Entries) : Entries := onlyFields sections recognisedSection es

/-- A mapping that stands for the source of a parameter declares a type. -/
def HasTypedSource (v : Value) : Prop :=
  ∀ es s : Entries, v = .map es → "source" ∈ parameterFields (declaredType es) →
    es.field? "source" = some (.map s) → (s.field? "type").isSome

/-- All sources of the configuration declare a type. -/
def HasTypedSources (es : Entries) : Prop :=
  ∀ entries, es.field? "parameters" = some (.map entries) → ∀ e ∈ entries, HasTypedSource e.2

/-- The keys that are no section have texts, so that they can be warned of. -/
def HasShownKeys (es : Entries) : Prop := ∀ key ∈ unknownSections es, key.hasText = true

/-! ## Looking fields up -/

/-- The recognised fields are the ones of the names, and are found under them. Induction on the
names. -/
theorem lookup_onlyFields (names : List String) (clean : String → Value → Value) (es : Entries)
    (name : String) :
    (names.filterMap fun key => (es.field? key).map fun v => (key, clean key v)).lookup name
      = if name ∈ names then (es.field? name).map (clean name) else none := by
  induction names with
  | nil => rfl
  | cons first names ih =>
      -- the first name is looked up and either is found, with its value made clean, or adds nothing
      cases hfirst : es.field? first with
      | none =>
          rw [List.filterMap_cons_none (by rw [hfirst]; rfl), ih]
          by_cases hname : name = first
          · simp [hname, hfirst]
          · simp [hname]
      | some v =>
          rw [List.filterMap_cons_some (by rw [hfirst]; rfl), List.lookup_cons, ih]
          by_cases hname : name = first
          · simp [hname, hfirst]
          · have hother : (name == first) = false := beq_eq_false_iff_ne.mpr hname
            simp [hname, hother]

/-- A number is no name, so it is passed over by every look-up. -/
theorem field?_cons_int (n : Int) (v : Value) (es : Entries) (name : String) :
    Entries.field? ((.int n, v) :: es) name = es.field? name := by
  have hkey : (Value.str name).same (.int n) = false := by simp [Value.same]
  unfold Entries.field? Entries.find?
  rw [List.find?_cons_of_neg (by simp [hkey])]

theorem onlyFields_eq_ofFields (names : List String) (clean : String → Value → Value)
    (es : Entries) : onlyFields names clean es = Entries.ofFields
      (names.filterMap fun key => (es.field? key).map fun v => (key, clean key v)) := by
  unfold onlyFields Entries.ofFields
  rw [List.map_filterMap]
  simp only [Option.map_map, Function.comp_def]

theorem field?_onlyFields {names : List String} {clean : String → Value → Value} {es : Entries}
    {name : String} (hname : name ∈ names) :
    (onlyFields names clean es).field? name = (es.field? name).map (clean name) := by
  rw [onlyFields_eq_ofFields, Entries.field?_ofFields, lookup_onlyFields, if_pos hname]

/-- Two objects have the same fields of the given names. -/
def AgreeOn (names : List String) (es es' : Entries) : Prop :=
  ∀ name ∈ names, es'.field? name = es.field? name

theorem agreeOn_onlyFields (names : List String) (es : Entries) :
    AgreeOn names es (onlyFields names (fun _ v => v) es) :=
  fun _ hname => (field?_onlyFields hname).trans Option.map_id'

namespace AgreeOn

variable {names : List String} {es es' : Entries}

theorem field (h : AgreeOn names es es') (name : String) (hname : name ∈ names) :
    es'.field name = es.field name := by
  unfold Entries.field
  rw [h name hname]

theorem declaredType (h : AgreeOn names es es') (hname : "type" ∈ names) :
    declaredType es' = declaredType es := by
  unfold Config.declaredType
  rw [h "type" hname]

theorem required (h : AgreeOn names es es') (name : String) (hname : name ∈ names) (path : String) :
    required es' name path = required es name path := by
  unfold Config.required
  rw [h.field name hname]

theorem requiredText (h : AgreeOn names es es') (name : String) (hname : name ∈ names)
    (path : String) : requiredText es' name path = requiredText es name path := by
  unfold Config.requiredText
  rw [h.required name hname]

theorem optionalMapping (h : AgreeOn names es es') (name : String) (hname : name ∈ names)
    (path : String) : optionalMapping es' name path = optionalMapping es name path := by
  unfold Config.optionalMapping
  rw [h.field name hname]

end AgreeOn

/-! ## Parts -/

theorem type_mem_indexFields (type : Value) : "type" ∈ indexFields type := by
  unfold indexFields
  split <;> exact List.mem_cons_self

theorem type_mem_sourceFields (type : Value) : "type" ∈ sourceFields type := by
  unfold sourceFields
  split <;> exact List.mem_cons_self

theorem type_mem_parameterFields (type : Value) : "type" ∈ parameterFields type := by
  unfold parameterFields
  split <;> exact List.mem_cons_self

theorem asConfig_pure {α : Type} (a : α) : asConfig (pure a) = pure a := rfl

/-- An index is read alike from entries that agree on the fields of its type. Once the type is
known, only the fields of that case are looked at. -/
theorem index_congr {es es' : Entries} (h : AgreeOn (indexFields (declaredType es)) es es')
    (path : String) : index (.map es') path = index (.map es) path := by
  have htype := h.declaredType (type_mem_indexFields _)
  simp only [index, mapping, asConfig_pure, pure_bind]
  rw [htype]
  -- the type is one of the fields, so both runs take the same case
  split
  · next hrange =>
      rw [hrange] at h
      unfold range
      rw [h.required "start" (by decide), h.required "end" (by decide)]
  · next hlist =>
      rw [hlist] at h
      unfold listing
      rw [h.required "values" (by decide)]
  · rfl

theorem index_recognised (v : Value) (path : String) :
    index (recognisedIndex v) path = index v path := by
  cases v with
  | map es => exact index_congr (agreeOn_onlyFields _ es) path
  | _ => rfl

/-- A source is read alike from entries that agree on the fields of its type. The type itself is one
of these fields, which is why both runs take the same branch. -/
theorem source_congr {es es' : Entries} (h : AgreeOn (sourceFields (declaredType es)) es es')
    (path : String) : source (.map es') path = source (.map es) path := by
  have htype := h.declaredType (type_mem_sourceFields _)
  simp only [source, mapping, asConfig_pure, pure_bind]
  rw [htype]
  split
  · next hcsv =>
      rw [hcsv] at h
      rw [h.requiredText "path" (by decide), h.optionalMapping "options" (by decide)]
  · next hjson =>
      rw [hjson] at h
      rw [h.requiredText "path" (by decide), h.field "key_path" (by decide)]
  · next hapi =>
      rw [hapi] at h
      rw [h.optionalMapping "headers" (by decide), h.requiredText "url" (by decide),
        h.field "transform" (by decide)]
  · next hfunction =>
      rw [hfunction] at h
      rw [h.field "args" (by decide), h.requiredText "function" (by decide)]
  · next hliteral =>
      rw [hliteral] at h
      rw [h.field "data" (by decide)]
  · rfl

theorem source_recognised (v : Value) (path : String) :
    source (recognisedSource v) path = source v path := by
  cases v with
  | map es => exact source_congr (agreeOn_onlyFields _ es) path
  | _ => rfl

/-- With a type there is a field that is recognised, so leaving out the others does not leave the
source empty. An empty one would count as missing. -/
theorem isAbsent_recognisedSource {v : Value}
    (hv : ∀ s : Entries, v = .map s → (s.field? "type").isSome) :
    (recognisedSource v).isAbsent = v.isAbsent := by
  have hnonempty : ∀ es : Entries, (es.field? "type").isSome → es.isEmpty = false := by
    intro es hes
    cases es with
    | nil => cases hes
    | cons e es => rfl
  cases v with
  | map s =>
      have htype := hv s rfl
      have hfound := agreeOn_onlyFields _ s "type" (type_mem_sourceFields (declaredType s))
      simp only [recognisedSource, Value.isAbsent]
      rw [hnonempty s htype, hnonempty _ (hfound ▸ htype)]
  | _ => rfl

/-- A required source gives the same with and without the fields that are not recognised. -/
theorem requiredSource_recognised {es es' : Entries}
    (hfield : es'.field? "source" = (es.field? "source").map recognisedSource)
    (htyped : ∀ s : Entries, es.field? "source" = some (.map s) → (s.field? "type").isSome)
    (path : String) : requiredSource es' path = requiredSource es path := by
  -- what is found for the source is recognised of what was found before
  have hrequired : asConfig (required es' "source" path)
      = (asConfig (required es "source" path)).map recognisedSource := by
    unfold required Entries.field
    rw [hfield]
    cases hfound : es.field? "source" with
    | none => rfl
    | some v =>
        have habsent := isAbsent_recognisedSource (v := v) fun s hs => htyped s (hs ▸ hfound)
        simp only [Option.map_some, Option.getD_some, habsent]
        split <;> rfl
  unfold requiredSource
  rw [hrequired, map_bind_eq]
  simp only [source_recognised]

/-- A parameter is read alike from entries that agree on the fields of its type other than the
source, if the source is read alike as well. -/
theorem parameter_congr {es es' : Entries}
    (h : AgreeOn ((parameterFields (declaredType es)).filter (· ≠ "source")) es es')
    (hsource : "source" ∈ parameterFields (declaredType es) → ∀ path,
      requiredSource es' path = requiredSource es path) (path : String) :
    parameter (.map es') path = parameter (.map es) path := by
  have htype := h.declaredType
    (List.mem_filter.mpr ⟨type_mem_parameterFields _, by decide⟩)
  simp only [parameter, mapping, asConfig_pure, pure_bind]
  rw [htype]
  split
  · next htable =>
      rw [htable] at h hsource
      unfold tableParameter
      rw [h.required "schema" (by decide), hsource (by decide)]
  · next hdict =>
      rw [hdict] at h hsource
      unfold mappingParameter
      rw [h.required "key" (by decide), hsource (by decide)]
  · next hscalar =>
      rw [hscalar] at h
      unfold scalarParameter
      rw [h "value" (by decide), h "value_type" (by decide)]
  · rfl

theorem parameter_recognised {v : Value} (hv : HasTypedSource v) (path : String) :
    parameter (recognisedParameter v) path = parameter v path := by
  cases v with
  | map es =>
      refine parameter_congr ?_ ?_ path
      · intro name hname
        obtain ⟨hname, hother⟩ := List.mem_filter.mp hname
        rw [field?_onlyFields hname]
        simp only [if_neg (of_decide_eq_true hother), Option.map_id']
      · intro hname
        refine requiredSource_recognised ?_ fun s hs => hv es s rfl hname hs
        rw [field?_onlyFields hname]
        simp only [if_true]
  | _ => rfl

theorem override_congr {es es' : Entries} (h : AgreeOn overrideFields es es') (path : String) :
    override (.map es') path = override (.map es) path := by
  simp only [override, mapping, asConfig_pure, pure_bind]
  rw [h.required "function" (by decide), h.optionalMapping "args" (by decide),
    h.field "name" (by decide)]

theorem override_recognised (v : Value) (path : String) :
    override (recognisedOverride v) path = override v path := by
  cases v with
  | map es => exact override_congr (agreeOn_onlyFields _ es) path
  | _ => rfl

/-- Induction on the list, for any position. -/
theorem overridesFrom_recognised (path : String) (items : List Value) (position : Nat) :
    overridesFrom path position (items.map recognisedOverride)
      = overridesFrom path position items := by
  induction items generalizing position with
  | nil => rfl
  | cons v items ih =>
      simp only [List.map_cons, overridesFrom, override_recognised, ih]

theorem overrideList_recognised (v : Value) (path : String) :
    overrideList (recognisedOverrides v) path = overrideList v path := by
  cases v with
  | list items => exact overridesFrom_recognised path items 0
  | _ => rfl

/-! ## Whole configurations -/

theorem recognisedSection_of_whole {name : String} (h : recognisedPart name = id) (v : Value) :
    recognisedSection name v = v := by
  cases v with
  | map entries => simp [recognisedSection, h]
  | _ => rfl

theorem template_recognised (es : Entries) : template (recognised es) = template es := by
  have hfield : (recognised es).field "template" = es.field "template" := by
    unfold Entries.field recognised
    rw [field?_onlyFields (by decide)]
    cases es.field? "template" with
    | none => rfl
    | some v => exact recognisedSection_of_whole rfl v
  unfold template
  rw [hfield]

/-- A section is there, or is none, with and without the fields that are not recognised. -/
theorem sectionEntries_recognised {name : String} (hname : name ∈ sections) (es : Entries) :
    asConfig (sectionEntries (recognised es) name) = (asConfig (sectionEntries es name)).map
      (List.map fun e => (e.1, recognisedPart name e.2)) := by
  unfold sectionEntries Entries.field recognised
  rw [field?_onlyFields hname]
  cases es.field? name with
  | none => rfl
  | some v => cases v <;> rfl

/-- Entries read the same as with what is recognised of them, if each of them does. -/
theorem namedSection_recognised {α : Type} {clean : Value → Value} {entries : Entries}
    {read : String → Value → Except Failure α}
    (hread : ∀ e ∈ entries, ∀ name, read name (clean e.2) = read name e.2) :
    namedSection (entries.map fun e => (e.1, clean e.2)) read = namedSection entries read := by
  unfold namedSection
  rw [List.mapM_map, mapM_congr fun e he => ?_]
  simp only [Function.comp_apply, hread e he]

/-- What is recognised are sections only. -/
theorem unknownSections_recognised (es : Entries) : unknownSections (recognised es) = [] := by
  unfold recognised
  rw [onlyFields_eq_ofFields]
  refine unknownSections_ofFields fun e he => ?_
  obtain ⟨name, hname, hfield⟩ := List.mem_filterMap.mp he
  obtain ⟨v, -, rfl⟩ := Option.map_eq_some_iff.mp hfield
  exact hname

/-- Reading a configuration is reading what is recognised of it, if all that is not can be warned
of. -/
theorem decode_recognised {es : Entries} (htyped : HasTypedSources es) (hshown : HasShownKeys es) :
    decode (recognised es) = decode es := by
  have hwarned : Value.checkTexts (unknownSections (recognised es))
      = Value.checkTexts (unknownSections es) := by
    rw [unknownSections_recognised, Value.checkTexts_eq_ok.mpr hshown]
    rfl
  unfold decode
  simp only [template_recognised, hwarned, map_bind_eq,
    sectionEntries_recognised (show "indexes" ∈ sections by decide),
    sectionEntries_recognised (show "parameters" ∈ sections by decide),
    sectionEntries_recognised (show "options" ∈ sections by decide),
    sectionEntries_recognised (show "overrides" ∈ sections by decide)]
  -- the two runs part only where the entries of a section are read
  refine bind_congr_ok fun name _ => bind_congr_ok fun _ _ => bind_congr_ok fun indexes _ =>
    bind_congr_ok fun parameters hentries => bind_congr_ok fun options _ =>
      bind_congr_ok fun overrides _ => ?_
  have htypedEntry : ∀ e ∈ parameters, HasTypedSource e.2 := by
    intro e he
    rcases sectionEntries_eq_ok.mp (asConfig_eq_ok.mp hentries) with ⟨-, rfl⟩ | hfield
    · cases he
    · exact htyped parameters (Entries.field?_of_field hfield nofun) e he
  have hindexes : namedSection (indexes.map fun e => (e.1, recognisedPart "indexes" e.2))
      (fun name v => index v ("indexes." ++ name)) = namedSection indexes _ :=
    namedSection_recognised fun e _ name => index_recognised e.2 _
  have hparameters : namedSection (parameters.map fun e => (e.1, recognisedPart "parameters" e.2))
      (fun name v => parameter v ("parameters." ++ name)) = namedSection parameters _ :=
    namedSection_recognised fun e he name => parameter_recognised (htypedEntry e he) _
  have hoverrides : namedSection (overrides.map fun e => (e.1, recognisedPart "overrides" e.2))
      (fun phase v => overrideList v ("overrides." ++ phase)) = namedSection overrides _ :=
    namedSection_recognised fun e _ phase => overrideList_recognised e.2 _
  have hoptions : options.map (fun e => (e.1, recognisedPart "options" e.2)) = options :=
    List.map_id _
  rw [hindexes, hparameters, hoverrides, hoptions]

/-! ## Warnings -/

/-- Keys that are the name of a section. -/
def namesSection : Value → Bool
  | .str name => sections.contains name
  | _ => false

theorem any_same_sections (key : Value) :
    (sections.any fun name => key.same (.str name)) = namesSection key := by
  rw [Bool.eq_iff_iff, List.any_eq_true]
  simp only [Value.same_str_iff]
  constructor
  · rintro ⟨name, hname, rfl⟩
    exact List.contains_iff_mem.mpr hname
  · intro h
    cases key with
    | str name => exact ⟨name, List.contains_iff_mem.mp h, rfl⟩
    | _ => cases h

theorem unknownSections_eq_filter (es : Entries) :
    unknownSections es = (es.map Prod.fst).filter fun key => !namesSection key := by
  unfold unknownSections
  simp only [any_same_sections]

theorem decodeWithWarnings_snd (es : Entries) : (decodeWithWarnings es).2 = decode es := by
  unfold decodeWithWarnings decode
  cases template es <;> rfl

/-- Once the template is one, each key that is no section is warned of if all of them have texts. -/
theorem decodeWithWarnings_fst {es : Entries} {name : String} (hname : template es = .ok name)
    (hshown : HasShownKeys es) : (decodeWithWarnings es).1
      = (unknownSections es).map fun key => "Unknown config section: " ++ key.shown := by
  unfold decodeWithWarnings
  rw [hname]
  simp only [warnings]
  rw [List.takeWhile_eq_self_iff.mpr hshown]

/-- A key that is no section and has no text ends the reading, before anything but the template was
looked at. -/
theorem decode_eq_error_of_not_hasShownKeys {es : Entries} {name : String}
    (hname : template es = .ok name) (hshown : ¬ HasShownKeys es) :
    decode es = .error (.fault .overlong) := by
  have hlong : Value.checkTexts (unknownSections es) = .error .overlong := by
    unfold Value.checkTexts
    rw [if_neg fun h => hshown (Value.haveText_iff.mp h)]
    rfl
  unfold decode
  rw [hname, hlong]
  rfl

/-- Two configurations of which the same is recognised give the same, be it a specification or a
failure; and what is warned of, if the template is one, are the keys that are no section. Both need
the keys that are no section to have texts. If one has none, there is no result. The order of fields
within a part does not matter, since what is recognised is put into one order. -/
theorem decode_eq_of_recognised (es : Entries) :
    (∀ es' : Entries, HasTypedSources es → HasTypedSources es' → HasShownKeys es →
      HasShownKeys es' → recognised es = recognised es' →
      (decodeWithWarnings es).2 = (decodeWithWarnings es').2) ∧
    ∀ name : String, es.field? "template" = some (.str name) → IsNotBlank name →
      (HasShownKeys es → (decodeWithWarnings es).1
        = ((es.map Prod.fst).filter fun key => !namesSection key).map
          fun key => "Unknown config section: " ++ key.shown) ∧
      (¬ HasShownKeys es → (decodeWithWarnings es).2 = .error (.fault .overlong)) := by
  refine ⟨fun es' htyped htyped' hshown hshown' hsame => ?_, fun name hfield hname => ?_⟩
  · -- both runs are those of what is recognised, and this is the same
    rw [decodeWithWarnings_snd, decodeWithWarnings_snd, ← decode_recognised htyped hshown, hsame,
      decode_recognised htyped' hshown']
  · obtain ⟨found, hfound⟩ := template_iff.mpr ⟨name, hfield, hname⟩
    refine ⟨fun hshown => ?_, fun hshown => ?_⟩
    · rw [decodeWithWarnings_fst hfound hshown, unknownSections_eq_filter]
    · rw [decodeWithWarnings_snd, decode_eq_error_of_not_hasShownKeys hfound hshown]

/-- A rota with one index, one parameter and one override. -/
def rotaConfig : Entries :=
  Entries.ofFields [
    ("template", .str "rota"),
    ("indexes", .ofFields [
      ("crew", .ofFields [("type", .str "list"), ("values", .list [.str "ann"])])]),
    ("parameters", .ofFields [
      ("pay", .ofFields [("type", .str "dict"), ("key", .str "crew"),
        ("source", .ofFields [("type", .str "csv"), ("path", .str "pay.csv")])])]),
    ("overrides", .ofFields [
      ("constraints", .list [.ofFields [("function", .str "rest_days")]])])]

/-- The rota with its fields in another order and with a field more at every level. -/
def notedRotaConfig : Entries :=
  Entries.ofFields [
    ("author", .str "ann"),
    ("overrides", .ofFields [
      ("constraints", .list [.ofFields [("why", .str "law"), ("function", .str "rest_days")]])]),
    ("parameters", .ofFields [
      ("pay", .ofFields [("unit", .str "EUR"), ("value", .int 3),
        ("source", .ofFields [("path", .str "pay.csv"), ("url", .str ""), ("type", .str "csv")]),
        ("key", .str "crew"), ("type", .str "dict")])]),
    ("indexes", .ofFields [
      ("crew", .ofFields [("values", .list [.str "ann"]), ("start", .null),
        ("type", .str "list")])]),
    ("template", .str "rota")]

theorem hasTypedSources_of_single {es : Entries} {name : Value} {parameter s : Entries}
    (hparameters : es.field? "parameters" = some (.map [(name, .map parameter)]))
    (hsource : parameter.field? "source" = some (.map s)) (htype : (s.field? "type").isSome) :
    HasTypedSources es := by
  intro entries hentries e he es' s' hmap _ hsource'
  rw [hparameters] at hentries
  cases hentries
  obtain rfl := List.mem_singleton.mp he
  cases hmap
  rw [hsource] at hsource'
  cases hsource'
  exact htype

/-- Nothing but a template, and that with a key that is a whole number of too many digits. -/
def bareConfig : Entries := Entries.ofFields [("template", .str "rota")]

def numberedConfig : Entries := (.int integerLimit, .null) :: bareConfig

theorem hasShownKeys_notedRotaConfig : HasShownKeys notedRotaConfig := by
  have hunknown : unknownSections notedRotaConfig = [.str "author"] := by
    rw [unknownSections_eq_filter]
    cbv
  intro key hkey
  rw [hunknown] at hkey
  rw [List.mem_singleton.mp hkey]
  exact Value.hasText_str _

theorem hasShownKeys_rotaConfig : HasShownKeys rotaConfig := by
  have hunknown : unknownSections rotaConfig = [] := by
    rw [unknownSections_eq_filter]
    cbv
  intro key hkey
  rw [hunknown] at hkey
  cases hkey

theorem not_hasShownKeys_numberedConfig : ¬ HasShownKeys numberedConfig := by
  intro h
  have hunknown : Value.int integerLimit ∈ unknownSections numberedConfig := by
    rw [unknownSections_eq_filter]
    exact List.mem_filter.mpr ⟨List.mem_cons_self, rfl⟩
  exact absurd (h _ hunknown) (by decide +kernel)

theorem hasTypedSources_rotaConfig : HasTypedSources rotaConfig :=
  hasTypedSources_of_single (by cbv) (by cbv) (by cbv)

/-- A rota, and the same rota with a note in every part, its fields in another order and an author
at the top. Both are read alike, and of the author there is one warning. With a key that has no text
there is no result. -/
theorem decode_eq_of_recognised_of_noted :
    HasTypedSources rotaConfig ∧ HasTypedSources notedRotaConfig
      ∧ recognised rotaConfig = recognised notedRotaConfig
      ∧ (decodeWithWarnings rotaConfig).2 = (decodeWithWarnings notedRotaConfig).2
      ∧ (decodeWithWarnings notedRotaConfig).1 = ["Unknown config section: author"]
      ∧ (decodeWithWarnings numberedConfig).2 = .error (.fault .overlong) := by
  have htyped' : HasTypedSources notedRotaConfig :=
    hasTypedSources_of_single (by cbv) (by cbv) (by cbv)
  have hsame : recognised rotaConfig = recognised notedRotaConfig := by cbv
  have hblank : IsNotBlank "rota" := ⟨'r', by decide, by decide⟩
  have htemplate : numberedConfig.field? "template" = some (.str "rota") := by
    rw [numberedConfig, field?_cons_int]
    cbv
  refine ⟨hasTypedSources_rotaConfig, htyped', hsame,
    (decode_eq_of_recognised rotaConfig).1 _ hasTypedSources_rotaConfig htyped'
      hasShownKeys_rotaConfig hasShownKeys_notedRotaConfig hsame, ?_,
    ((decode_eq_of_recognised numberedConfig).2 "rota" htemplate hblank).2
      not_hasShownKeys_numberedConfig⟩
  rw [((decode_eq_of_recognised notedRotaConfig).2 "rota" (by cbv) hblank).1
    hasShownKeys_notedRotaConfig]
  cbv

/-- A configuration is read, and with a key that has no text it is not, though nothing else is
recognised of it. -/
theorem decode_ne_of_numbered :
    HasTypedSources bareConfig ∧ HasTypedSources numberedConfig
      ∧ recognised bareConfig = recognised numberedConfig
      ∧ (decodeWithWarnings bareConfig).2.toOption.isSome
      ∧ (decodeWithWarnings numberedConfig).2 = .error (.fault .overlong) := by
  -- the added key is a number, so no section is found under it and all others are found as before
  have hfields : ∀ name, numberedConfig.field? name = bareConfig.field? name :=
    field?_cons_int _ _ _
  have hnone : bareConfig.field? "parameters" = none := by cbv
  have htyped : HasTypedSources bareConfig := by
    intro entries hentries
    rw [hnone] at hentries
    cases hentries
  have htyped' : HasTypedSources numberedConfig := by
    intro entries hentries
    rw [hfields] at hentries
    exact htyped entries hentries
  have hsame : recognised bareConfig = recognised numberedConfig := by
    unfold recognised onlyFields
    simp only [hfields]
  have hfield : bareConfig.field? "template" = some (.str "rota") := by cbv
  have hblank : IsNotBlank "rota" := ⟨'r', by decide, by decide⟩
  rw [decodeWithWarnings_snd, decodeWithWarnings_snd]
  refine ⟨htyped, htyped', hsame, ?_, ?_⟩
  · obtain ⟨name, hname⟩ := template_iff.mpr ⟨"rota", hfield, hblank⟩
    have hunknown : unknownSections bareConfig = [] := by cbv
    unfold decode
    rw [hname, hunknown]
    cbv
  · obtain ⟨name, hname⟩ := template_iff.mpr ⟨"rota", (hfields _).trans hfield, hblank⟩
    exact decode_eq_error_of_not_hasShownKeys hname not_hasShownKeys_numberedConfig

end Rostering.Config
