import Rostering.Config.Decode

/-!
# The grammar of configurations

Which values are a configuration, said without reference to any reader: what fields each part has,
which of them may be left out, and what may stand in them. A field that is required has to be
*given*: null, the empty text, the empty list and the empty mapping do not count. A field that may
be left out may also be anything that counts as false.

Where a value stands for a name, anything may stand that has a text (`Value.hasText`). All that has
none are whole numbers of very many digits, and lists and mappings that hold such a number.

* **`IsIndex`**, **`IsSource`**, **`IsParameter`**, **`IsOverride`** — the parts, one constructor
  for each declared type.
* **`IsConfiguration`** — a whole configuration.
-/

namespace Rostering.Config

/-! ## Fields -/

/-- The field is there and has a value that counts as given. -/
structure Given (es : Entries) (key : String) (v : Value) : Prop where
  found : es.field? key = some v
  ne_null : v ≠ .null
  ne_text : v ≠ .str ""
  ne_list : v ≠ .list []
  ne_map : v ≠ .map []

/-- The field is left out, counts as false or has a value of the form. -/
def Optionally (es : Entries) (key : String) (form : Value → Prop) : Prop :=
  ∀ v, es.field? key = some v → v.isTrue = true → form v

/-- The part declares a type. -/
def Declares (es : Entries) (type : String) : Prop := es.field? "type" = some (.str type)

/-! ## Forms of values -/

def IsMapping (v : Value) : Prop := ∃ es, v = .map es

/-- A mapping whose keys are names. -/
def IsNamed (v : Value) : Prop := ∃ es, v = .map es ∧ ∀ e ∈ es, e.1.hasText

/-- A mapping from names to texts. -/
def IsTexts (v : Value) : Prop := ∃ es, v = .map es ∧ ∀ e ∈ es, e.1.hasText ∧ e.2.hasText

def IsList (v : Value) : Prop := ∃ items, v = .list items

/-- What can be run through from one end to the other. -/
inductive IsIterable : Value → Prop where
  | text (s : String) : IsIterable (.str s)
  | bytes (bs : List UInt8) : IsIterable (.bytes bs)
  | list (items : List Value) : IsIterable (.list items)
  | tuple (items : List Value) : IsIterable (.tuple items)
  | set (items : List Value) : IsIterable (.set items)
  | map (es : Entries) : IsIterable (.map es)
  | table (columns : List Value) (rows : List (List Value)) : IsIterable (.table columns rows)

/-- What can be run through, with nothing but texts on the way. -/
def IsSteps (v : Value) : Prop :=
  IsIterable v ∧ ∀ items, v.items? = some items → ∀ item ∈ items, item.hasText

/-- The date that a value gives: a date itself, that of a moment, or one written in one of the forms
of the standard. -/
inductive GivesDate : Value → Date → Prop where
  | date (d : Date) : GivesDate (.day (.date d)) d
  | moment (m : Moment) : GivesDate (.day (.moment m)) m.date
  | written {v : Value} {d : Date} (hday : ∀ day, v ≠ .day day) (htext : v.hasText)
      (hiso : Date.ofIso? v.shown = some d) : GivesDate v d

/-- A value is of a scalar type. Truth values are of no type for numbers. -/
inductive IsOfType : ScalarType → Value → Prop where
  | any (v : Value) : IsOfType .any v
  | int (n : Int) : IsOfType .int (.int n)
  | float (x : Float) : IsOfType .float (.float x)
  | wholeFloat (n : Int) : IsOfType .float (.int n)
  | str (s : String) : IsOfType .str (.str s)
  | bool (b : Bool) : IsOfType .bool (.bool b)

/-! ## Parts -/

inductive IsIndex : Value → Prop where
  | range {es : Entries} {start stop : Value} {first last : Date} (htype : Declares es "date_range")
      (hstart : Given es "start" start) (hfirst : GivesDate start first)
      (hstop : Given es "end" stop) (hlast : GivesDate stop last)
      (hforward : first.index ≤ last.index) : IsIndex (.map es)
  | listed {es : Entries} {members : List String} (htype : Declares es "list")
      (hmembers : es.field? "values" = some (.list (members.map .str))) (hsome : members ≠ []) :
      IsIndex (.map es)

inductive IsSource : Value → Prop where
  | csv {es : Entries} {file : Value} (htype : Declares es "csv") (hfile : Given es "path" file)
      (htext : file.hasText) (hoptions : Optionally es "options" IsMapping) : IsSource (.map es)
  | json {es : Entries} {file : Value} (htype : Declares es "json") (hfile : Given es "path" file)
      (htext : file.hasText) (hsteps : Optionally es "key_path" IsSteps) : IsSource (.map es)
  | api {es : Entries} {url : Value} (htype : Declares es "api") (hurl : Given es "url" url)
      (htext : url.hasText) (hheaders : Optionally es "headers" IsTexts)
      (htransform : Optionally es "transform" fun v => v.hasText) : IsSource (.map es)
  | function {es : Entries} {name : Value} (htype : Declares es "function")
      (hname : Given es "function" name) (htext : name.hasText)
      (hargs : Optionally es "args" IsList) : IsSource (.map es)
  | literal {es : Entries} (htype : Declares es "literal") : IsSource (.map es)

inductive IsParameter : Value → Prop where
  | table {es : Entries} {columns : List Value} {source : Value} (htype : Declares es "table")
      (hschema : es.field? "schema" = some (.list columns)) (hsome : columns ≠ [])
      (htexts : ∀ c ∈ columns, c.hasText) (hfound : es.field? "source" = some source)
      (hsource : IsSource source) : IsParameter (.map es)
  | mapping {es : Entries} {key source : Value} (htype : Declares es "dict")
      (hkey : Given es "key" key) (htext : key.hasText) (hfound : es.field? "source" = some source)
      (hsource : IsSource source) : IsParameter (.map es)
  | untyped {es : Entries} {value : Value} (htype : Declares es "scalar")
      (hvalue : es.field? "value" = some value) (hnone : es.field? "value_type" = none) :
      IsParameter (.map es)
  | typed {es : Entries} {value : Value} {type : ScalarType} (htype : Declares es "scalar")
      (hvalue : es.field? "value" = some value)
      (hname : es.field? "value_type" = some (.str type.name)) (hof : IsOfType type value) :
      IsParameter (.map es)

/-- An override names its target, and may have a name itself. -/
inductive IsOverride : Value → Prop where
  | mk {es : Entries} {target : Value} (htarget : Given es "function" target)
      (htext : target.hasText) (hargs : Optionally es "args" IsNamed)
      (hname : Optionally es "name" fun v => v.hasText) : IsOverride (.map es)

/-- The overrides of one of the known phases. -/
def IsPhase (key v : Value) : Prop :=
  (∃ phase ∈ overridePhases, key = .str phase)
    ∧ ∃ items, v = .list items ∧ ∀ o ∈ items, IsOverride o

/-! ## Whole configurations -/

/-- A section is left out, null, or a mapping whose entries are of a form. -/
def IsSection (es : Entries) (name : String) (form : (key v : Value) → Prop) : Prop :=
  es.field? name = none ∨ es.field? name = some .null
    ∨ ∃ entries, es.field? name = some (.map entries) ∧ ∀ e ∈ entries, form e.1 e.2

/-- Some character of the text is no white space. -/
def IsNotBlank (s : String) : Prop := ∃ c ∈ s.toList, Text.isBlank c = false

/-- The entries are a configuration. Keys that name no section have to have a text, and so have the
keys of indexes, parameters and options; otherwise they do not matter. -/
structure IsConfiguration (es : Entries) : Prop where
  template : ∃ name, es.field? "template" = some (.str name) ∧ IsNotBlank name
  others : ∀ key ∈ unknownSections es, key.hasText
  indexes : IsSection es "indexes" fun key v => key.hasText ∧ IsIndex v
  parameters : IsSection es "parameters" fun key v => key.hasText ∧ IsParameter v
  options : IsSection es "options" fun key _ => key.hasText
  overrides : IsSection es "overrides" IsPhase

end Rostering.Config
