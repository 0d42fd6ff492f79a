import Rostering.Patch

/-!
# Assembly — parts made of loose values

The parts of a specification can be made of values that are given by name, with no configuration
around them. `PartKind.required` and `PartKind.optional` say which names a kind of part takes, and
`PartKind.assemble` makes the part, or says what is wrong with the first value that does not fit.
Values that nothing is asked of are kept as they are.
-/

namespace Rostering

/-! ## Values that may be left out -/

/-- The items of a value; one that is null or empty has none. -/
def Value.itemsOrNone (v : Value) : Except Fault (List Value) := do
  if ← v.truth then
    match v.items? with
    | some items => pure items
    | none => throw .mistyped
  else pure []

/-- The entries of a value; one that is null or empty has none. -/
def Value.entriesOrNone (v : Value) : Except Fault Entries := do
  if ← v.truth then Entries.ofValue v else pure []

/-! ## Specifications -/

namespace Specification

def loosePhases (v : Value) : Except Fault (List (Value × List Value)) := do
  if !(← v.truth) then return []
  let es ← match v with
    | .map es => pure es
    | _ => throw (.noField "items")
  es.mapM fun (phase, l) =>
    match l.items? with
    | some items => pure (phase, items)
    | none => throw Fault.mistyped

def looseSection (name : String) (es : Entries) : List (String × Value) :=
  if es.isEmpty then [] else [(name, .map es)]

/-- The mapping of a specification of loose values: options may be any, while the other sections
have to be without parts, since a loose value is none. -/
def ofLoose (es : Entries) : Except Fault Value := do
  let s ← (ofTemplate (es.field "template")).mapError Fault.part
  let indexes ← (es.field "indexes").entriesOrNone
  let parameters ← (es.field "parameters").entriesOrNone
  let options ← (es.field "options").entriesOrNone
  let phases ← loosePhases (es.field "overrides")
  if !parameters.isEmpty then throw (.noField "data")
  match indexes with
  | (_, v) :: _ => throw (.noted .badType ("Unknown index type: " ++ v.typeName))
  | [] => pure ()
  if phases.any fun p => !p.2.isEmpty then throw (.noField "name")
  pure (.ofFields
    (("template", .str s.template) :: looseSection "options" options
      ++ looseSection "overrides" (phases.map fun (phase, _) => (phase, .list []))))

end Specification

/-! ## Kinds of parts -/

/-- What can be made of loose values. -/
inductive PartKind where
  | rangeIndex
  | listIndex
  | csvSource
  | jsonSource
  | apiSource
  | functionSource
  | literalSource
  | tableParameter
  | mappingParameter
  | scalarParameter
  | override
  | specification
  | patch
  deriving DecidableEq

/-- A part that was made: an index, a specification, a patch, or else the values of its fields. -/
inductive Assembled where
  | index (i : Index)
  | specification (v : Value)
  | patch (p : Patch)
  | fields (values : List (String × Value))

namespace PartKind

def required : PartKind → List String
  | .rangeIndex => ["start", "end"]
  | .listIndex => ["values"]
  | .csvSource | .jsonSource => ["path"]
  | .apiSource => ["url"]
  | .functionSource => ["function"]
  | .literalSource => []
  | .tableParameter => ["schema"]
  | .mappingParameter => ["key"]
  | .scalarParameter => ["value"]
  | .override => ["name", "target"]
  | .specification => ["template"]
  | .patch => ["operation", "path"]

def optional : PartKind → List String
  | .rangeIndex | .listIndex => []
  | .csvSource => ["options"]
  | .jsonSource => ["key_path"]
  | .apiSource => ["headers", "transform"]
  | .functionSource | .override => ["args"]
  | .literalSource => ["data"]
  | .tableParameter | .mappingParameter => ["source", "data"]
  | .scalarParameter => ["value_type"]
  | .specification => ["indexes", "parameters", "options", "overrides"]
  | .patch => ["value"]

/-- All required names are given, and no other ones than the kind knows. -/
def accepts (k : PartKind) (es : Entries) : Bool :=
  (k.required.all fun name => (es.field? name).isSome)
    && es.all fun e => (k.required ++ k.optional).any fun name => e.1.same (.str name)

/-- The values of fields of a kind of part whose names are accepted. -/
def fieldValues (k : PartKind) (es : Entries) : Except Fault (List (String × Value)) := do
  let v := es.field
  match k with
  | .csvSource => pure [("path", v "path"), ("options", .map (← (v "options").entriesOrNone))]
  | .jsonSource => pure [("path", v "path"), ("key_path", .list (← (v "key_path").itemsOrNone))]
  | .apiSource =>
    pure [("url", v "url"), ("headers", .map (← (v "headers").entriesOrNone)),
      ("transform", v "transform")]
  | .functionSource =>
    pure [("function", v "function"), ("args", .list (← (v "args").itemsOrNone))]
  | .tableParameter =>
    pure [("schema", .list (← Parameter.schemaItems (v "schema"))), ("data", v "data")]
  | .mappingParameter =>
    if !(← (v "key").truth) then throw (.part .noKey)
    let data ← match v "data" with
      | .null => pure .null
      | data => (data.entriesOrNone).map .map
    pure [("key", v "key"), ("data", data)]
  | .scalarParameter =>
    let type := (es.field? "value_type").getD (.str ScalarType.any.name)
    if !type.isKey then throw .mistyped
    let name ← type.text
    let _ ← (Parameter.ofScalar (v "value") name).mapError Fault.part
    pure [("value", v "value"), ("value_type", type)]
  | .override =>
    pure [("name", v "name"), ("target", v "target"),
      ("args", .map (← (v "args").entriesOrNone))]
  | k => pure ((k.required ++ k.optional).map fun name => (name, v name))

def assemble (k : PartKind) (es : Entries) : Except Fault Assembled :=
  if !k.accepts es then throw .mistyped
  else
    match k with
    | .rangeIndex => (Index.ofDays (es.field "start") (es.field "end")).map .index
    | .listIndex => (Index.ofItems (es.field "values")).map .index
    | .specification => (Specification.ofLoose es).map .specification
    | .patch =>
      (Patch.ofParts (es.field "operation") (es.field "path") (es.field "value")).map .patch
    | k => (k.fieldValues es).map .fields

end PartKind

end Rostering
