import Rostering.Named
import Rostering.Table

/-!
# Specification — what a planning problem is declared as

A specification names a template and gives it indexes, parameters, options and overrides. It is a
value: every change (`withIndex`, `withParameter`, `withOption`, `withOverrides`) gives a new one
that differs in one entry of one section.

A parameter carries the recipe for its data (`Source`) and, once they are loaded or handed in, the
data. Two specifications are the same (`Specification.same`) if they declare the same; loaded data
do not count.
-/

namespace Rostering

/-! ## Indexes -/

/-- An ordered set of members: the days of a range, ends included, or a list as written. -/
inductive Index where
  | range (first last : Day)
  | listed (members : List Value)

namespace Index

def ofDays (first last : Value) : Except Fault Index :=
  match first, last with
  | .day first, .day last =>
    match first.distance? last with
    | none => throw .mistyped
    | some distance =>
      if distance < 0 then throw (.part (.reversedRange first last))
      else pure (.range first last)
  | _, _ => throw (.part .notDates)

def ofItems (v : Value) : Except Fault Index := do
  if ← v.truth then
    match v.items? with
    | some items => pure (.listed items)
    | none => throw .mistyped
  else throw (.part .noMembers)

def members : Index → List Value
  | .range first last => (Day.through first last).map .day
  | .listed members => members

/-- Both list the same members in the same way. -/
def same : Index → Index → Bool
  | .range a b, .range c d => (Value.day a).same (.day c) && (Value.day b).same (.day d)
  | .listed a, .listed b => Value.sameItems a b
  | _, _ => false

end Index

/-! ## Sources -/

/-- Where the data of a parameter come from. -/
inductive Source where
  | csv (path : String) (options : Entries)
  | json (path : String) (keyPath : List String)
  | api (url : String) (headers : Named String) (transform : Option String)
  | function (name : String) (args : List Value)
  | literal (data : Value)

namespace Source

def label : Source → String
  | .csv path _ => "csv:" ++ path
  | .json path [] => "json:" ++ path
  | .json path keyPath => "json:" ++ path ++ "#" ++ String.intercalate "." keyPath
  | .api url _ _ => "api:" ++ url
  | .function name _ => "function:" ++ name
  | .literal _ => "literal"

def textEntries (m : Named String) : Entries := m.entries.map fun (k, v) => (.str k, .str v)

def same : Source → Source → Bool
  | .csv p a, .csv q b => p == q && (Value.map a).same (.map b)
  | .json p a, .json q b => p == q && a == b
  | .api u a s, .api v b t =>
    u == v && (Value.map (textEntries a)).same (.map (textEntries b)) && s == t
  | .function f a, .function g b => f == g && Value.sameItems a b
  | .literal a, .literal b => a.same b
  | _, _ => false

end Source

/-! ## Parameters -/

/-- Declared types of scalars. -/
inductive ScalarType where
  | int
  | float
  | str
  | bool
  | any
  deriving DecidableEq

namespace ScalarType

def name : ScalarType → String
  | .int => "int"
  | .float => "float"
  | .str => "str"
  | .bool => "bool"
  | .any => "any"

def ofName? : String → Option ScalarType
  | "int" => some .int
  | "float" => some .float
  | "str" => some .str
  | "bool" => some .bool
  | "any" => some .any
  | _ => none

/-- A value is of a type. -/
def holds : ScalarType → Value → Bool
  | .any, _ => true
  | .int, .int _ => true
  -- whole numbers are floats, and truth values are no numbers at all
  | .float, .int _ => true
  | .float, .float _ => true
  | .str, .str _ => true
  | .bool, .bool _ => true
  | _, _ => false

end ScalarType

/-- A table, a mapping or a single value that a template reads. -/
inductive Parameter where
  | table (schema : List String) (source : Source) (data : Option Table)
  | mapping (key : String) (source : Source) (data : Option Entries)
  | scalar (value : Value) (type : ScalarType)

namespace Parameter

def schemaItems (v : Value) : Except Fault (List Value) := do
  if ← v.truth then
    match v.items? with
    | some [] => throw (.part .noColumns)
    | some items => pure items
    | none => throw .mistyped
  else throw (.part .noColumns)

def ofScalar (value : Value) (type : String) : Except PartFault Parameter :=
  match ScalarType.ofName? type with
  | none => throw (.unknownScalarType type)
  | some t => if t.holds value then pure (.scalar value t) else throw (.scalarMismatch value type)

/-- The data of a parameter, where there are any: a scalar is its own. -/
def data? : Parameter → Option Value
  | .table _ _ data => data.map Table.toValue
  | .mapping _ _ data => data.map .map
  | .scalar value _ => some value

/-- Both declare the same; data do not count. -/
def same : Parameter → Parameter → Bool
  | .table s a _, .table t b _ => s == t && a.same b
  | .mapping k a _, .mapping l b _ => k == l && a.same b
  | .scalar v s, .scalar w t => v.same w && s == t
  | _, _ => false

end Parameter

/-! ## Overrides -/

/-- A capability to apply on top of the template. -/
structure Override where
  name : String
  target : String
  args : Named Value

namespace Override

/-- The name, or the target if it has none. -/
def label (o : Override) : String := if o.name.isEmpty then o.target else o.name

def argEntries (o : Override) : Entries := Entries.ofFields o.args.entries

def same (a b : Override) : Bool :=
  a.name == b.name && a.target == b.target && (Value.map a.argEntries).same (.map b.argEntries)

end Override

/-! ## Specifications -/

/-- A declared planning problem. -/
structure Specification where
  template : String
  indexes : Named Index
  parameters : Named Parameter
  options : Named Value
  overrides : Named (List Override)

namespace Specification

/-- A specification without entries. The template has to have a name. -/
def ofTemplate (template : Value) : Except PartFault Specification :=
  match template with
  | .str name =>
    if (Text.stripped name).isEmpty then throw .blankTemplate
    else pure ⟨name, .empty, .empty, .empty, .empty⟩
  | _ => throw .blankTemplate

/-- Adds an index or replaces the one of that name. -/
def withIndex (s : Specification) (name : String) (index : Index) : Specification :=
  { s with indexes := s.indexes.insert name index }

/-- Adds a parameter or replaces the one of that name. -/
def withParameter (s : Specification) (name : String) (p : Parameter) : Specification :=
  { s with parameters := s.parameters.insert name p }

/-- Adds an option or replaces the one of that name. -/
def withOption (s : Specification) (name : String) (value : Value) : Specification :=
  { s with options := s.options.insert name value }

def withOverrides (s : Specification) (phase : String) (l : List Override) : Specification :=
  { s with overrides := s.overrides.insert phase l }

def hasIndex (s : Specification) (name : String) : Bool := s.indexes.contains name

def indexValues (s : Specification) (name : String) : Except Fault (List Value) :=
  match s.indexes.find? name with
  | some index => pure index.members
  | none => throw (.noIndex name)

/-- The members of an index, or others if there is none of that name. -/
def indexOrDefault (s : Specification) (name : String) (others : List Value) :
    Except Fault (List Value) :=
  if s.hasIndex name then s.indexValues name else pure others

def overridesFor (s : Specification) (phase : String) : List Override :=
  (s.overrides.find? phase).getD []

/-- The data of a parameter that has been loaded. -/
def loadedData (s : Specification) (name : String) : Except Fault Value :=
  match s.parameters.find? name with
  | none => throw (.noParameter name)
  | some p =>
    match p.data? with
    | some v => pure v
    | none => throw .mistyped

/-- Two sections have the same names, with values that are the same. -/
def sameSection {α : Type} (same : α → α → Bool) (a b : Named α) : Bool :=
  a.size == b.size && a.entries.all fun (name, v) =>
    match b.find? name with
    | some w => same v w
    | none => false

def sameOverrides : List Override → List Override → Bool
  | [], [] => true
  | a :: as, b :: bs => a.same b && sameOverrides as bs
  | _, _ => false

def same (a b : Specification) : Bool :=
  a.template == b.template && sameSection Index.same a.indexes b.indexes
    && sameSection Parameter.same a.parameters b.parameters
    && sameSection Value.same a.options b.options
    && sameSection sameOverrides a.overrides b.overrides

end Specification

end Rostering
