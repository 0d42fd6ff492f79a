import Rostering.Text.Case
import Rostering.Value.Text

/-!
# Failure — everything that can go wrong, as data

Each kind of failure is an inductive type of causes; its wording is one function of the cause. A
`Failure` is one of these with the place where it happened, and `Failure.report` is the mapping
that callers of the service get to see.

Where a text includes the diagnosis of some reader or library, which is not part of this
specification, it shows `undisclosed` instead.
-/

namespace Rostering

/-- Stands for a reason that comes from outside and is not specified. -/
def undisclosed : String := "<detail>"

/-! ## Parts of a specification -/

/-- Why a part of a specification cannot be what it was declared as. -/
inductive PartFault where
  | blankTemplate
  | notDates
  | reversedRange (first last : Day)
  | noMembers
  | noColumns
  | noKey
  | unknownScalarType (name : String)
  | scalarMismatch (value : Value) (type : String)

/-- Names of the scalar types, as messages list them. -/
def scalarTypeNames : List String := ["any", "bool", "float", "int", "str"]

namespace PartFault

def text : PartFault → String
  | .blankTemplate => "Template name cannot be empty"
  | .notDates => "Date range index requires start and end dates"
  | .reversedRange first last =>
    "Start date must be <= end date (got " ++ (Value.day first).shown ++ " > "
      ++ (Value.day last).shown ++ ")"
  | .noMembers => "Index values cannot be empty"
  | .noColumns => "Table parameter requires a non-empty schema"
  | .noKey => "Mapping parameter requires a key"
  | .unknownScalarType name =>
    "Unknown scalar type '" ++ name ++ "'. Use one of " ++ quotedTexts scalarTypeNames
  | .scalarMismatch value type =>
    if value.hasText then "Scalar value " ++ value.quoted ++ " is not of type " ++ type
    else undisclosed

end PartFault

/-! ## Tables and mappings made from data -/

/-- Why data cannot be made into a table or a mapping. -/
inductive TableFault where
  | notTable (v : Value)
  | notMapping (v : Value)
  | rowNotSequence (position : Nat) (row : Value)
  | rowLength (expected position actual : Nat)
  | fieldsMissing (columns : List String)
  | columnsMissing (missing : List String) (present : List Value)
  | tooFewColumns (present : List Value)
  | unequalColumns

namespace TableFault

def columnList (names : List Value) : String :=
  "[" ++ String.intercalate ", " (Value.quotedCells names) ++ "]"

/-- The wording, where it is specified. A row or a column name that cannot be written leaves the
message to whatever stopped the writing. -/
def text? : TableFault → Option String
  | .notTable v => some ("Cannot build a table from " ++ v.typeName)
  | .notMapping v => some ("Cannot build a mapping from " ++ v.typeName)
  | .rowNotSequence position row =>
    if row.hasText then
      some ("Row " ++ toString position ++ " is not a sequence: " ++ row.quoted)
    else none
  | .rowLength expected position actual =>
    some ("Schema length (" ++ toString expected ++ ") doesn't match row " ++ toString position
      ++ " length (" ++ toString actual ++ ")")
  | .fieldsMissing columns => some ("Rows are missing schema columns: " ++ quotedTexts columns)
  | .columnsMissing missing present =>
    if Value.haveText present then
      some ("Missing expected columns " ++ quotedTexts missing ++ " in " ++ columnList present)
    else none
  | .tooFewColumns present =>
    if Value.haveText present then
      some ("Mapping data needs at least two columns, got " ++ columnList present)
    else none
  | .unequalColumns => none

end TableFault

/-! ## Faults while something runs -/

/-- The class of a fault, by which callers tell faults apart. -/
inductive FaultClass where
  | missingKey
  | badValue
  | badType
  | crash
  | exhausted
  | outOfRange
  | noField
  | overflow
  | arithmetic
  | recursion
  /-- The system refused. -/
  | system
  /-- A model of an answer could not be written. -/
  | unsendable
  /-- A text has no bytes. -/
  | unencodable
  deriving DecidableEq

/-- Why a conversion, a source function, a template or a rule stopped. -/
inductive Fault where
  | noIndex (name : String)
  | noParameter (name : String)
  | noFamily (name : String) (available : List String)
  | familyExists (name : String)
  | noKey (key : String)
  | part (f : PartFault)
  | table (f : TableFault)
  | demandNotNumber (day skill shown : String)
  | demandNegative (day skill shown : String)
  | badDailyLimit (value : Value)
  | noted (cls : FaultClass) (reason : String)
  | notSolvable (kind : String)
  | mistyped
  | malformed
  | exhausted
  | outOfRange
  | noField (name : String)
  | overflow
  | noBound
  | endless
  /-- A whole number has too many digits to be written. -/
  | overlong
  /-- A file is asked for by a name that is longer than names may be. -/
  | overlongName
  /-- A text in an answer that is to be sent has no bytes. -/
  | unsendable
  /-- A text in a report of a failure that is to be sent has no bytes. -/
  | unencodable

namespace Fault

def cls : Fault → FaultClass
  | .noIndex _ | .noParameter _ | .noFamily _ _ | .noKey _ => .missingKey
  | .familyExists _ | .part _ | .table _ | .demandNotNumber _ _ _ | .demandNegative _ _ _
  | .badDailyLimit _ | .malformed | .overlong => .badValue
  | .noted cls _ => cls
  | .notSolvable _ | .mistyped => .badType
  | .exhausted => .exhausted
  | .outOfRange => .outOfRange
  | .noField _ => .noField
  | .overflow => .overflow
  | .noBound => .arithmetic
  | .endless => .recursion
  | .overlongName => .system
  | .unsendable => .unsendable
  | .unencodable => .unencodable

/-- The wording, where it is specified. -/
def text? : Fault → Option String
  -- look-ups that fail show their message in quotes, like a key
  | .noIndex name => some (quotedText ("Index '" ++ name ++ "' not found"))
  | .noParameter name => some (quotedText ("Parameter '" ++ name ++ "' not found"))
  | .noFamily name available =>
    some (quotedText ("Variable family '" ++ name ++ "' not found. Available: "
      ++ quotedTexts (sortedTexts available)))
  | .familyExists name => some ("Variable family '" ++ name ++ "' already exists")
  | .noKey key => some key
  | .part f => some f.text
  | .table f => f.text?
  | .demandNotNumber day skill shown =>
    some ("Demand for (" ++ day ++ ", " ++ skill ++ ") must be numeric, got " ++ shown)
  | .demandNegative day skill shown =>
    some ("Demand for (" ++ day ++ ", " ++ skill ++ ") must be a non-negative number, got "
      ++ shown)
  | .badDailyLimit value =>
    if value.hasText then
      some ("Option 'max_daily_assignments' must be a non-negative integer, got " ++ value.quoted)
    else none
  | .noted _ reason => some reason
  | .notSolvable kind => some ("Cannot solve " ++ kind ++ "; expected a ModelHandle")
  | .mistyped | .malformed | .exhausted | .outOfRange | .noField _ | .overflow | .noBound
  | .endless | .overlong | .overlongName | .unsendable | .unencodable => none

def text (f : Fault) : String := f.text?.getD undisclosed

end Fault

/-- The value counts as true. -/
def Value.truth : Value → Except Fault Bool
  -- of a table it cannot be said
  | .table _ _ => throw .malformed
  | v => pure v.isTrue

/-- The text of a value, if it has one. -/
def Value.text (v : Value) : Except Fault String :=
  if v.hasText then pure v.shown else throw .overlong

/-- Every one of some values has a text. -/
def Value.checkTexts (l : List Value) : Except Fault Unit :=
  if Value.haveText l then pure () else throw .overlong

/-! ## Arguments of overrides -/

/-- Why a rule or a goal rejects its arguments. -/
inductive ArgumentFault where
  | missing (key : String)
  | wrongType (key expected actual : String)
  | negative (key : String) (n : Int)
  | unknownCandidate (name : String) (candidates : List Value)
  | noted (text : String)

namespace ArgumentFault

def text : ArgumentFault → String
  | .missing key => "Missing required arg '" ++ key ++ "'"
  | .wrongType key expected actual =>
    "Arg '" ++ key ++ "' must be " ++ expected ++ ", got " ++ actual
  | .negative key n => "Arg '" ++ key ++ "' must be >= 0, got " ++ toString n
  | .unknownCandidate name candidates =>
    "Unknown candidate '" ++ name ++ "'. Available candidates: "
      ++ (Value.list candidates).quoted
  | .noted text => text

end ArgumentFault

/-! ## Configurations -/

/-- Classes of configuration errors. -/
inductive ConfigKind where
  | missingField
  | invalidValue
  | unknownVariant
  | unsupportedFormat
  | parseFailure
  | notFound
  deriving DecidableEq

def ConfigKind.name : ConfigKind → String
  | .missingField => "missing_field"
  | .invalidValue => "invalid_value"
  | .unknownVariant => "unknown_variant"
  | .unsupportedFormat => "unsupported_format"
  | .parseFailure => "parse_failure"
  | .notFound => "not_found"

/-- Why a configuration is rejected. -/
inductive ConfigFault where
  | templateMissing
  | templateNotText (value : Value)
  | sectionNotMapping (name : String)
  | notMapping (value : Value)
  | fieldMissing (name : String)
  | badDate (value : Value)
  | membersNotTexts
  | schemaNotList
  | argsNotList
  | phaseNotList
  | unknownIndexType (type : Value)
  | unknownParameterType (type : Value)
  | unknownSourceType (type : Value)
  | unknownPhase (name : String)
  | part (f : PartFault)
  | fileMissing (path : String)
  | unsupportedFile (suffix : String)
  | unsupportedText (format : String)
  | unreadable (format : String)
  | rootNotMapping
  /-- A bad value came up while the part was read. -/
  | fault (f : Fault)
  | noted (kind : ConfigKind) (text : String)

def overridePhases : List String := ["constraints", "objective"]

namespace ConfigFault

def kind : ConfigFault → ConfigKind
  | .templateMissing | .fieldMissing _ => .missingField
  | .unknownIndexType _ | .unknownParameterType _ | .unknownSourceType _ => .unknownVariant
  | .fileMissing _ => .notFound
  | .unsupportedFile _ | .unsupportedText _ => .unsupportedFormat
  | .unreadable _ | .rootNotMapping => .parseFailure
  | .noted kind _ => kind
  | _ => .invalidValue

def text : ConfigFault → String
  | .templateMissing => "Template must be specified"
  | .templateNotText value => "Template must be a string, got " ++ value.typeName
  | .sectionNotMapping name => "Section '" ++ name ++ "' must be a mapping"
  | .notMapping value => "Expected a mapping, got " ++ value.typeName
  | .fieldMissing name => "Missing required field '" ++ name ++ "'"
  | .badDate value => "Invalid date " ++ value.quoted ++ ": " ++ undisclosed
  | .membersNotTexts => "List index values must be a list of strings"
  | .schemaNotList => "Table schema must be a list"
  | .argsNotList => "Function args must be a list"
  | .phaseNotList => "Override phase must be a list"
  | .unknownIndexType type => "Unknown index type: " ++ type.quoted
  | .unknownParameterType type => "Unknown parameter type: " ++ type.quoted
  | .unknownSourceType type => "Unknown source type: " ++ type.quoted
  | .unknownPhase name =>
    "Unknown override phase '" ++ name ++ "'. Use one of " ++ quotedTexts overridePhases
  | .part f => f.text
  | .fileMissing path => "Config file not found: " ++ path
  | .unsupportedFile suffix =>
    "Unsupported config file type '" ++ suffix ++ "'. Use .yaml, .yml, or .json"
  | .unsupportedText format =>
    "Unsupported config format '" ++ format ++ "'. Use yaml or json"
  | .unreadable format => "Failed to parse " ++ format ++ " config: " ++ undisclosed
  | .rootNotMapping => "Configuration root must be a mapping"
  | .fault f => f.text
  | .noted _ text => text

end ConfigFault

/-- A rejected configuration: the cause, and the path to the entry at fault. -/
structure ConfigError where
  fault : ConfigFault
  path : Option String

/-- The wording with the place, if there is one to name. -/
def ConfigError.message (e : ConfigError) : String :=
  match e.path with
  | some path => e.fault.text ++ (if path.isEmpty then "" else " (at " ++ path ++ ")")
  | none => e.fault.text

/-! ## Patches -/

/-- Classes of patch errors. -/
inductive PatchKind where
  | invalidPath
  | schemaMismatch
  | unsupportedOperation
  | invalidValue
  deriving DecidableEq

def PatchKind.name : PatchKind → String
  | .invalidPath => "invalid_path"
  | .schemaMismatch => "schema_mismatch"
  | .unsupportedOperation => "unsupported_operation"
  | .invalidValue => "invalid_value"

/-- Why a patch cannot be applied. -/
inductive PatchFault where
  | unsupportedOperation (operation : Value)
  | pathLength
  | unknownSection (name : String)
  | unknownPhase (name : String)
  | noParameter (name : String) (available : List String)
  | rowsExpected (name : String) (schema : List String)
  | rowsMismatch (name : String) (schema : List String) (cause : TableFault)
  | mappingExpected (name : String)
  | part (f : PartFault)
  | config (e : ConfigError)
  | noted (kind : PatchKind) (text : String)

def patchOperations : List String := ["merge"]

namespace PatchFault

def kind : PatchFault → PatchKind
  | .unsupportedOperation _ => .unsupportedOperation
  | .pathLength | .unknownSection _ | .unknownPhase _ | .noParameter _ _ => .invalidPath
  | .rowsExpected _ _ | .rowsMismatch _ _ _ | .mappingExpected _ | .part _ => .schemaMismatch
  | .config _ => .invalidValue
  | .noted kind _ => kind

def text : PatchFault → String
  | .unsupportedOperation operation =>
    "Patch operation '" ++ operation.shown ++ "' is not supported. Supported operations: "
      ++ quotedTexts patchOperations
  | .pathLength => "Patch path must have exactly two segments: <section>, <name>"
  | .unknownSection name =>
    "Unsupported patch section '" ++ name ++ "'. Use parameters, options, indexes or overrides"
  | .unknownPhase name =>
    "Unknown override phase '" ++ name ++ "'. Use one of " ++ quotedTexts overridePhases
  | .noParameter name available =>
    "Parameter '" ++ name ++ "' not found. Available parameters: "
      ++ quotedTexts (sortedTexts available)
  | .rowsExpected name schema =>
    "Table parameter '" ++ name ++ "' expects a list of rows matching schema "
      ++ quotedTexts schema
  | .rowsMismatch name schema cause =>
    "Rows for '" ++ name ++ "' do not match schema " ++ quotedTexts schema ++ ": "
      ++ cause.text?.getD undisclosed
  | .mappingExpected name =>
    "Mapping parameter '" ++ name ++ "' expects a key -> value mapping"
  | .part f => f.text
  | .config e => e.message
  | .noted _ text => text

end PatchFault

/-- A rejected patch: the cause and the path of the patch. -/
structure PatchError where
  fault : PatchFault
  path : Option (List String)

/-- The wording with the path, unless it is empty. -/
def PatchError.message (e : PatchError) : String :=
  match e.path with
  | none | some [] => e.fault.text
  | some path => e.fault.text ++ " (path: " ++ String.intercalate "." path ++ ")"

/-! ## Sources -/

/-- Classes of source errors. -/
inductive SourceKind where
  | notFound
  | parseFailure
  | keyPathMissing
  | unreachable
  | callableFailed
  deriving DecidableEq

def SourceKind.name : SourceKind → String
  | .notFound => "not_found"
  | .parseFailure => "parse_failure"
  | .keyPathMissing => "key_path_missing"
  | .unreachable => "unreachable"
  | .callableFailed => "callable_failed"

/-- Why data cannot be loaded. -/
inductive SourceFault where
  | csvMissing (path : String)
  | csvUnreadable (path : String)
  | jsonMissing (path : String)
  | jsonUnreadable (path : String)
  | keyPathMissing (path : String) (walked : List String)
  | noAnswer (url reason : String)
  | badStatus (url : String) (status : Nat)
  | bodyUnreadable (url : String)
  | noFunction (name : String) (available : List String)
  | functionFailed (name : String) (cause : Fault)
  | notTable (label : String) (schema : List String) (cause : TableFault)
  | notMapping (label key : String) (cause : TableFault)
  | noted (kind : SourceKind) (text : String)

namespace SourceFault

def kind : SourceFault → SourceKind
  | .csvMissing _ | .jsonMissing _ => .notFound
  | .csvUnreadable _ | .jsonUnreadable _ | .bodyUnreadable _ | .notTable _ _ _
  | .notMapping _ _ _ => .parseFailure
  | .keyPathMissing _ _ => .keyPathMissing
  | .noAnswer _ _ | .badStatus _ _ => .unreachable
  | .noFunction _ _ | .functionFailed _ _ => .callableFailed
  | .noted kind _ => kind

def text : SourceFault → String
  | .csvMissing path => "CSV file not found: " ++ path
  | .csvUnreadable path => "Failed to load CSV file " ++ path ++ ": " ++ undisclosed
  | .jsonMissing path => "JSON file not found: " ++ path
  | .jsonUnreadable path => "Failed to load JSON file " ++ path ++ ": " ++ undisclosed
  | .keyPathMissing path walked =>
    "Key path not found in JSON " ++ path ++ ": " ++ String.intercalate "." walked
  | .noAnswer url reason => "Failed to load data from API " ++ url ++ ": " ++ reason
  | .badStatus url status =>
    "API request to " ++ url ++ " failed with status " ++ toString status
  | .bodyUnreadable url =>
    "API response from " ++ url ++ " is not valid JSON: " ++ undisclosed
  | .noFunction name available =>
    "Function '" ++ name ++ "' is not registered. Available functions: "
      ++ quotedTexts (sortedTexts available)
  | .functionFailed name cause =>
    "Failed to load data from function '" ++ name ++ "': " ++ cause.text
  | .notTable label schema cause =>
    "Data from " ++ label ++ " does not match schema " ++ quotedTexts schema ++ ": "
      ++ cause.text?.getD undisclosed
  | .notMapping label key cause =>
    "Data from " ++ label ++ " cannot be keyed on '" ++ key ++ "': "
      ++ cause.text?.getD undisclosed
  | .noted _ text => text

end SourceFault

/-- A source that could not be loaded: the cause and the label of the source. -/
structure SourceError where
  fault : SourceFault
  source : Option String

/-! ## Registered capabilities -/

/-- A name that is not registered: the kind of capability, the name, and the names there are in
order of registration. -/
structure MissingCapability where
  space : String
  requested : String
  available : List String

/-- The wording; the names are sorted. -/
def MissingCapability.message (e : MissingCapability) : String :=
  Text.capitalized e.space ++ " '" ++ e.requested ++ "' not found. Available " ++ e.space ++ "s: "
    ++ quotedTexts (sortedTexts e.available)

/-! ## Building -/

/-- Classes of build errors. -/
inductive BuildKind where
  | missingCapability
  | invalidOverrideArgs
  | sourceLoad
  | templateFailed
  deriving DecidableEq

def BuildKind.name : BuildKind → String
  | .missingCapability => "missing_capability"
  | .invalidOverrideArgs => "invalid_override_args"
  | .sourceLoad => "source_load"
  | .templateFailed => "template_failed"

/-- Whatever the service can fail with. -/
inductive Failure where
  | config (e : ConfigError)
  | patch (e : PatchError)
  | source (e : SourceError)
  | capability (e : MissingCapability)
  | argument (f : ArgumentFault)
  | fault (f : Fault)
  | noSession (id : String)
  | noSolution (id : String)
  /-- Building stopped: the class, the wording, whose fault it was, and what was behind it. -/
  | build (kind : BuildKind) (text : String) (name : Option String) (cause : Option Failure)

instance : Inhabited Failure := ⟨.noSession ""⟩

namespace Failure

/-! ## Reports -/

/-- The name of a class of faults in reports. -/
def faultName : FaultClass → String
  | .missingKey => "KeyError"
  | .badValue => "ValueError"
  | .badType => "TypeError"
  | .crash => "RuntimeError"
  | .exhausted => "StopIteration"
  | .outOfRange => "IndexError"
  | .noField => "AttributeError"
  | .overflow => "OverflowError"
  | .arithmetic => "ArithmeticError"
  | .recursion => "RecursionError"
  | .system => "OSError"
  | .unsendable => "PydanticSerializationError"
  | .unencodable => "UnicodeEncodeError"

/-- The name of a kind of failure in reports. -/
def name : Failure → String
  | .config _ => "ConfigError"
  | .patch _ => "PatchError"
  | .source _ => "SourceLoadError"
  | .capability _ => "RegistryError"
  | .argument _ => "OverrideArgsError"
  | .fault f => faultName f.cls
  | .noSession _ => "SessionNotFoundError"
  | .noSolution _ => "SolutionNotFoundError"
  | .build _ _ _ _ => "BuildError"

def message : Failure → String
  | .config e => e.message
  | .patch e => e.message
  | .source e => e.fault.text
  | .capability e => e.message
  | .argument f => f.text
  | .fault f => f.text
  | .noSession id => "Model '" ++ id ++ "' not found"
  | .noSolution id => "No solution available for model '" ++ id ++ "'. Run solve first."
  | .build _ text _ _ => text

/-- A field of a report that is left out when there is nothing to say. -/
def optionalField (key : String) (v : Option Value) : List (String × Value) :=
  match v with
  | some v => [(key, v)]
  | none => []

/-- What a failure has to say besides its name and wording, save for its cause. -/
def context : Failure → List (String × Value)
  | .config e =>
    ("kind", .str e.fault.kind.name) :: optionalField "path" (e.path.map .str)
  | .patch e =>
    ("kind", .str e.fault.kind.name) :: optionalField "path" (e.path.map Value.ofTexts)
  | .source e =>
    ("kind", .str e.fault.kind.name) :: optionalField "source" (e.source.map .str)
  | .capability e =>
    [("kind", .str "not_found"), ("namespace", .str e.space), ("requested", .str e.requested),
      ("available", Value.ofTexts e.available)]
  | .build kind _ name _ =>
    ("kind", .str kind.name) :: optionalField "name" (name.map .str)
  | .fault (.noField name) => [("name", .str name)]
  | _ => []

/-- A failure as a mapping: name, wording, context, and the report of its cause. -/
def report : Failure → Value
  | e@(.build _ _ _ (some cause)) =>
    Value.ofFields ([("error", .str e.name), ("message", .str e.message)] ++ e.context
      ++ [("cause", report cause)])
  | e =>
    Value.ofFields ([("error", .str e.name), ("message", .str e.message)] ++ e.context)

/-- The status with which the request layer answers a failure of its own kinds. -/
def status? : Failure → Option Nat
  | .config _ | .patch _ => some 400
  | .noSession _ | .noSolution _ => some 404
  | .build _ _ _ _ | .source _ | .capability _ => some 500
  | .argument _ | .fault _ => none

end Failure

end Rostering
