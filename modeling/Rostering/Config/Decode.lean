import Rostering.Specification

/-!
# Config.Decode — specifications from decoded configurations

`Config.decode` reads a whole configuration; `Config.index`, `parameter`, `source`, `override` and
`overrideList` read one part each, given the path to it for messages. A field counts as missing if
it is null or empty (`required`), and fields that a part does not know are passed over. Parts are
read in the order indexes, parameters, options, overrides, each section in its own order, and the
first fault ends the reading.

Names, columns and the like are taken as texts (`textOf`), whatever they were written as. A whole
number of too many digits has no text. Inside of a parameter or a range of days that is reported as
an error of the part; anywhere else the fault goes through as it is.
-/

namespace Rostering.Config

/-! ## Fields -/

def reject {α : Type} (fault : ConfigFault) (path : String) : Except ConfigError α :=
  throw ⟨fault, some path⟩

/-- The entries of what has to be a mapping. -/
def mapping (v : Value) (path : String) : Except ConfigError Entries :=
  match v with
  | .map es => pure es
  | v => reject (.notMapping v) path

/-- The entries of a field that may be left out, null or empty. -/
def optionalMapping (es : Entries) (key path : String) : Except ConfigError Entries :=
  let v := es.field key
  if v.isTrue then mapping v (path ++ "." ++ key) else pure []

/-- A field that has to be there. -/
def required (es : Entries) (key path : String) : Except ConfigError Value :=
  let v := es.field key
  if v.isAbsent then reject (.fieldMissing key) (path ++ "." ++ key) else pure v

/-- The type that a part declares, the empty text if none. -/
def declaredType (es : Entries) : Value := (es.field? "type").getD (.str "")

/-- A result of reading as one of the service. -/
def asConfig {α : Type} (r : Except ConfigError α) : Except Failure α := r.mapError .config

/-- The text of a value. A value that has none fails here with a bare fault, which is an error of
the configuration only where some part reports it as one (`reportValues`). -/
def textOf (v : Value) : Except Failure String := v.text.mapError .fault

/-- A bad value that comes up while a part is read is an error of the part as a whole. Faults of any
other class are passed on. -/
def reportValues {α : Type} (path : String) (r : Except Failure α) : Except Failure α :=
  match r with
  | .error (.fault f) => if f.cls = .badValue then asConfig (reject (.fault f) path) else r
  | r => r

/-- Rejects the type that a part declares. The message shows it, so it has to have a text. -/
def rejectType {α : Type} (fault : Value → ConfigFault) (type : Value) (path : String) :
    Except Failure α := do
  let _ ← textOf type
  asConfig (reject (fault type) (path ++ ".type"))

/-- Entries with their keys as texts, read one after the other. -/
def namedSection {α : Type} (es : Entries) (read : (name : String) → Value → Except Failure α) :
    Except Failure (Named α) := do
  let entries ← es.mapM fun e => do
    let name ← textOf e.1
    let v ← read name e.2
    pure (name, v)
  pure (Named.ofList entries)

/-- Entries with their keys as texts and their values as they are. -/
def namedValues (es : Entries) : Except Failure (Named Value) := namedSection es fun _ v => pure v

/-- A date as such, as part of a moment, or written in one of the forms of the standard. -/
def date (v : Value) (path : String) : Except Failure Date :=
  match v with
  | .day d => pure d.toDate
  | v => do
    -- without a text there is no message either, since it would have to show the value
    match Date.ofIso? (← textOf v) with
    | some d => pure d
    | none => asConfig (reject (.badDate v) path)

/-! ## Indexes -/

/-- The texts of a list, if it is one of texts. -/
def texts? : Value → Option (List String)
  | .list items => items.mapM fun
    | .str s => some s
    | _ => none
  | _ => none

/-- A range of days from its two ends. -/
def range (es : Entries) (path : String) : Except Failure Index := do
  let first ← date (← asConfig (required es "start" path)) (path ++ ".start")
  let last ← date (← asConfig (required es "end" path)) (path ++ ".end")
  if first.index ≤ last.index then pure (.range (.date first) (.date last))
  else asConfig (reject (.part (.reversedRange (.date first) (.date last))) path)

/-- A list of members that are texts. -/
def listing (es : Entries) (path : String) : Except ConfigError Index := do
  match texts? (← required es "values" path) with
  | some members => pure (.listed (members.map .str))
  | none => reject .membersNotTexts (path ++ ".values")

def index (v : Value) (path : String) : Except Failure Index := do
  let es ← asConfig (mapping v path)
  match declaredType es with
  | .str "date_range" => reportValues path (range es path)
  | .str "list" => asConfig (listing es path)
  | type => rejectType .unknownIndexType type path

/-! ## Sources -/

/-- The steps of a key path: a text is cut at its points, anything else is run through. -/
def keyPath (v : Value) : Except Fault (List String) :=
  if v.isTrue then
    match v with
    | .str s => pure (s.splitOn ".")
    | v =>
      match v.items? with
      | some items => items.mapM Value.text
      | none => throw .mistyped
  else pure []

/-- The arguments of a function: a list, unless they count as false. -/
def callArguments (v : Value) (path : String) : Except ConfigError (List Value) :=
  match v.isTrue, v with
  | false, _ => pure []
  | true, .list items => pure items
  | true, _ => reject .argsNotList path

/-- A field that has to be there, as text. -/
def requiredText (es : Entries) (key path : String) : Except Failure String := do
  textOf (← asConfig (required es key path))

/-- The text of a field that may be left out or count as false. -/
def optionalText (v : Value) : Except Failure (Option String) :=
  if v.isTrue then (textOf v).map some else pure none

def source (v : Value) (path : String) : Except Failure Source := do
  let es ← asConfig (mapping v path)
  match declaredType es with
  | .str "csv" =>
    let file ← requiredText es "path" path
    let options ← asConfig (optionalMapping es "options" path)
    pure (.csv file options)
  | .str "json" =>
    let file ← requiredText es "path" path
    let steps ← (keyPath (es.field "key_path")).mapError .fault
    pure (.json file steps)
  | .str "api" =>
    let headers ← asConfig (optionalMapping es "headers" path)
    let url ← requiredText es "url" path
    let headers ← namedSection headers fun _ v => textOf v
    let transform ← optionalText (es.field "transform")
    pure (.api url headers transform)
  | .str "function" =>
    let args ← asConfig (callArguments (es.field "args") (path ++ ".args"))
    let name ← requiredText es "function" path
    pure (.function name args)
  | .str "literal" => pure (.literal (es.field "data"))
  | type => rejectType .unknownSourceType type path

/-! ## Parameters -/

/-- A source that has to be there. -/
def requiredSource (es : Entries) (path : String) : Except Failure Source := do
  source (← asConfig (required es "source" path)) (path ++ ".source")

def tableParameter (es : Entries) (path : String) : Except Failure Parameter := do
  match ← asConfig (required es "schema" path) with
  | .list columns =>
    let s ← requiredSource es path
    let schema ← columns.mapM textOf
    pure (.table schema s none)
  | _ => asConfig (reject .schemaNotList (path ++ ".schema"))

def mappingParameter (es : Entries) (path : String) : Except Failure Parameter := do
  let key ← asConfig (required es "key" path)
  let s ← requiredSource es path
  let key ← textOf key
  pure (.mapping key s none)

def scalarParameter (es : Entries) (path : String) : Except Failure Parameter := do
  match es.field? "value" with
  | none => asConfig (reject (.fieldMissing "value") (path ++ ".value"))
  | some value =>
    let type ← textOf ((es.field? "value_type").getD (.str "any"))
    asConfig ((Parameter.ofScalar value type).mapError fun f => ⟨.part f, some path⟩)

def parameter (v : Value) (path : String) : Except Failure Parameter := do
  let es ← asConfig (mapping v path)
  match declaredType es with
  | .str "table" => reportValues path (tableParameter es path)
  | .str "dict" => reportValues path (mappingParameter es path)
  | .str "scalar" => reportValues path (scalarParameter es path)
  | type => rejectType .unknownParameterType type path

/-! ## Overrides -/

def override (v : Value) (path : String) : Except Failure Override := do
  let es ← asConfig (mapping v path)
  let target ← asConfig (required es "function" path)
  let args ← asConfig (optionalMapping es "args" path)
  let name ← optionalText (es.field "name")
  let target ← textOf target
  let args ← namedValues args
  pure ⟨name.getD "", target, args⟩

/-- Reads overrides one after the other, counting from `position`. -/
def overridesFrom (path : String) : (position : Nat) → List Value →
    Except Failure (List Override)
  | _, [] => pure []
  | position, v :: vs => do
    let o ← override v (path ++ "[" ++ toString position ++ "]")
    let os ← overridesFrom path (position + 1) vs
    pure (o :: os)

def overrideList (v : Value) (path : String) : Except Failure (List Override) :=
  match v with
  | .list items => overridesFrom path 0 items
  | _ => asConfig (reject .phaseNotList path)

/-! ## Whole configurations -/

def sections : List String := ["template", "indexes", "parameters", "options", "overrides"]

/-- The name of the template, which has to be a text that is not blank. -/
def template (es : Entries) : Except ConfigError String :=
  match es.field "template" with
  | .null => reject .templateMissing "template"
  | .str name =>
    if (Text.stripped name).isEmpty then reject .templateMissing "template" else pure name
  | v => reject (.templateNotText v) "template"

/-- A section as entries; it may be left out or null. -/
def sectionEntries (es : Entries) (name : String) : Except ConfigError Entries :=
  match es.field name with
  | .null => pure []
  | .map entries => pure entries
  | _ => reject (.sectionNotMapping name) name

/-- The keys that are no section, in their order. -/
def unknownSections (es : Entries) : List Value :=
  (es.map Prod.fst).filter fun key => !(sections.any fun name => key.same (.str name))

/-- One warning for each key that is no section. They end before the first key that has no text,
which cannot be warned of. -/
def warnings (es : Entries) : List String :=
  ((unknownSections es).takeWhile Value.hasText).map fun key =>
    "Unknown config section: " ++ key.shown

/-- The first phase that is not known. -/
def unknownPhase? (overrides : Named (List Override)) : Option String :=
  overrides.names.find? fun phase => !overridePhases.contains phase

/-- The entries of a configuration. Only a mapping can be asked for its sections. -/
def entriesOf : Value → Except Failure Entries
  | .map es => pure es
  | _ => throw (.fault (.noField "get"))

/-- Reads a configuration. All keys that are no section are warned of before any section is looked
at, so a key without a text ends the reading. -/
def decode (es : Entries) : Except Failure Specification := do
  let name ← asConfig (template es)
  (Value.checkTexts (unknownSections es)).mapError Failure.fault
  let indexes ← asConfig (sectionEntries es "indexes")
  let parameters ← asConfig (sectionEntries es "parameters")
  let options ← asConfig (sectionEntries es "options")
  let overrides ← asConfig (sectionEntries es "overrides")
  let indexes ← namedSection indexes fun name v => index v ("indexes." ++ name)
  let parameters ← namedSection parameters fun name v => parameter v ("parameters." ++ name)
  let options ← namedValues options
  let overrides ← namedSection overrides fun phase v => overrideList v ("overrides." ++ phase)
  match unknownPhase? overrides with
  | some phase => asConfig (reject (.unknownPhase phase) ("overrides." ++ phase))
  | none => pure ⟨name, indexes, parameters, options, overrides⟩

/-- Reads a configuration, and tells what was warned of on the way. Keys that are no section are
warned of once the template is known to be one. -/
def decodeWithWarnings (es : Entries) : List String × Except Failure Specification :=
  match template es with
  | .ok _ => (warnings es, decode es)
  | .error e => ([], .error (.config e))

end Rostering.Config
