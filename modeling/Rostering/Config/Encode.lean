import Rostering.Specification

/-!
# Config.Encode — specifications as configurations

The inverse of reading: `Config.encode` gives the mapping that reads back to the same
specification. Fields that are empty, or that say what holds without them, are left out, just as
they may be left out of a configuration. Loaded data are not part of it.
-/

namespace Rostering.Config

/-- A field, unless its value is empty. -/
def nonEmptyField (key : String) (isEmpty : Bool) (v : Value) : List (String × Value) :=
  if isEmpty then [] else [(key, v)]

def encodeIndex : Index → Value
  | .range first last =>
    Value.ofFields
      [("type", .str "date_range"), ("start", .str first.iso), ("end", .str last.iso)]
  | .listed members => Value.ofFields [("type", .str "list"), ("values", .list members)]

def encodeSource : Source → Value
  | .csv path options => Value.ofFields
      ([("type", .str "csv"), ("path", .str path)]
        ++ nonEmptyField "options" options.isEmpty (.map options))
  | .json path keyPath => Value.ofFields
      ([("type", .str "json"), ("path", .str path)]
        ++ nonEmptyField "key_path" keyPath.isEmpty (Value.ofTexts keyPath))
  | .api url headers transform => Value.ofFields
      ([("type", .str "api"), ("url", .str url)]
        ++ nonEmptyField "headers" headers.isEmpty (.map (Source.textEntries headers))
        ++ nonEmptyField "transform" ((transform.getD "").isEmpty) (.str (transform.getD "")))
  | .function name args => Value.ofFields
      ([("type", .str "function"), ("function", .str name)]
        ++ nonEmptyField "args" args.isEmpty (.list args))
  | .literal data => Value.ofFields [("type", .str "literal"), ("data", data)]

def encodeParameter : Parameter → Value
  | .table schema source _ => Value.ofFields
      [("type", .str "table"), ("schema", Value.ofTexts schema), ("source", encodeSource source)]
  | .mapping key source _ => Value.ofFields
      [("type", .str "dict"), ("key", .str key), ("source", encodeSource source)]
  | .scalar value type => Value.ofFields
      ([("type", .str "scalar"), ("value", value)]
        ++ nonEmptyField "value_type" (type = .any) (.str type.name))

def encodeOverride (o : Override) : Value :=
  Value.ofFields
    (nonEmptyField "name" o.name.isEmpty (.str o.name) ++ [("function", .str o.target)]
      ++ nonEmptyField "args" o.args.isEmpty (.map o.argEntries))

def encodeSection {α : Type} (f : α → Value) (m : Named α) : Value :=
  Value.ofFields (m.entries.map fun (name, v) => (name, f v))

def encode (s : Specification) : Value :=
  Value.ofFields
    ([("template", .str s.template)]
      ++ nonEmptyField "indexes" s.indexes.isEmpty (encodeSection encodeIndex s.indexes)
      ++ nonEmptyField "parameters" s.parameters.isEmpty
        (encodeSection encodeParameter s.parameters)
      ++ nonEmptyField "options" s.options.isEmpty (encodeSection id s.options)
      ++ nonEmptyField "overrides" s.overrides.isEmpty
        (encodeSection (fun l => .list (l.map encodeOverride)) s.overrides))

end Rostering.Config
