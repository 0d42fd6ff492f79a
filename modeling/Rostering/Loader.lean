import Rostering.Config.Encode
import Rostering.Csv.Reader
import Rostering.Json.Printer
import Rostering.Json.Reader
import Rostering.KeyPath
import Rostering.World

/-!
# Loader — data from sources

`Loader.load` turns a source into data. A loader that keeps what it loads remembers the data of
files and literals under the text of their source (`memoKey`); network and functions are live and
asked every time. `Loader.materialize` makes the data of a parameter out of it, and
`Loader.materializeAll` does so for every parameter of a specification that has none, in order,
until one fails.

Failures leave behind what has happened by then, so each function answers a result together with
the loader and the world after it.
-/

namespace Rostering

/-- Functions by name, where to look for files, and what has been kept. -/
structure Loader (σ : Type) where
  functions : Named (SourceFunction σ)
  dataFolder : Path
  timeout : Value
  keeps : Bool
  memo : Named Value

namespace Loader

variable {σ : Type}

def reject {α : Type} (s : Source) (fault : SourceFault) : Except Failure α :=
  throw (.source ⟨fault, some s.label⟩)

/-! ## Files -/

/-- Whether there is anything at a path, if the system tells. -/
def exists? (files : Directory) (p : Path) : Except Fault Bool :=
  if files.denies p then throw .overlongName else pure (files.has p)

/-- The path at which a file is looked for: in the working directory, or else in the folder for
data. -/
def resolve (l : Loader σ) (files : Directory) (path : String) : Except Fault Path := do
  let p := Path.ofText path
  if p.absolute then pure p
  else if ← exists? files p then pure p
  else if ← exists? files (l.dataFolder.under p) then pure (l.dataFolder.under p)
  -- in neither: messages name the path as it was given
  else pure p

/-- The content of the file that a path leads to, if there is one. -/
def content? (l : Loader σ) (files : Directory) (path : String) : Except Fault (Option String) := do
  let p ← l.resolve files path
  -- an absolute path has not been looked for yet
  if files.denies p then throw .overlongName else pure (files.content? p)

/-- The table of a separated text. Options that are not known here are left to the library. -/
def readCsv (l : Loader σ) (w : World σ) (s : Source) (path : String) (options : Entries) :
    Except Failure Value := do
  match ← (l.content? w.files path).mapError .fault with
  | none => reject s (.csvMissing path)
  | some text =>
    match Csv.Options.ofEntries? options with
    | some o =>
      match Csv.table? o text with
      | some t => pure t.toValue
      | none => reject s (.csvUnreadable path)
    | none =>
      match w.tables options text with
      | .table t => pure t.toValue
      | .reader => pure .reader
      | .refused => reject s (.csvUnreadable path)

def readJson (l : Loader σ) (w : World σ) (s : Source) (path : String) (steps : List String) :
    Except Failure Value := do
  match ← (l.content? w.files path).mapError .fault with
  | none => reject s (.jsonMissing path)
  | some text =>
    if !w.stack.reads text then throw (.fault .endless)
    else
      match Json.parse? text with
      | none => reject s (.jsonUnreadable path)
      | some v =>
        match KeyPath.descend steps v with
        | .ok v => pure v
        | .error (.missing tried) => reject s (.keyPathMissing path (steps.take tried))
        | .error (.fault f) => throw (.fault f)

/-! ## Network and functions -/

def call (l : Loader σ) (w : World σ) (s : Source) (name : String) (args : List Value) :
    Except Failure Value × World σ :=
  match l.functions.find? name with
  | none => (reject s (.noFunction name l.functions.names), w)
  | some f =>
    match w.call f args with
    | (.ok v, w) => (.ok v, w)
    | (.error fault, w) => (reject s (.functionFailed name fault), w)

/-- Asks the network, and passes the answer through a function if one is named. -/
def fetch (l : Loader σ) (w : World σ) (s : Source) (url : String) (headers : Named String)
    (transform : Option String) : Except Failure Value × World σ :=
  match w.send ⟨url, headers, l.timeout⟩ with
  | (.lost reason, w) => (reject s (.noAnswer url reason), w)
  | (.failed f, w) => (throw (.fault f), w)
  | (.answered status body, w) =>
    if status ≥ 400 then (reject s (.badStatus url status), w)
    else if !w.stack.reads body then (throw (.fault .endless), w)
    else
      match Json.parse? body, transform with
      | none, _ => (reject s (.bodyUnreadable url), w)
      | some v, none => (.ok v, w)
      | some v, some name => l.call w s name [v]

/-! ## Loading -/

def read (l : Loader σ) (w : World σ) (s : Source) : Except Failure Value × World σ :=
  match s with
  | .csv path options => (l.readCsv w s path options, w)
  | .json path steps => (l.readJson w s path steps, w)
  | .api url headers transform => l.fetch w s url headers transform
  | .function name args => l.call w s name args
  | .literal data => (.ok data, w)

/-- The data of the source may change from one moment to the next. -/
def isLive : Source → Bool
  | .api _ _ _ | .function _ _ => true
  | _ => false

/-- The text under which the data of a source are kept. There is none if mappings in it have keys
that cannot be ordered, if it is nested too deeply or in itself, or if a number in it is too
long. -/
def memoKey (stack : Stack) (s : Source) : Except Fault String :=
  let v := Config.encodeSource s
  if !stack.writes v then throw .endless
  else if v.isEndless then throw .malformed
  else
    match (Json.sortKeys v).bind (Json.print? .spaced) with
    | none => throw .mistyped
    | some text => if v.hasText then pure text else throw .overlong

/-- Loads a source, or takes what has been kept of it. What is kept is a copy, and what is taken is
a copy of that. -/
def load (l : Loader σ) (w : World σ) (s : Source) :
    Except Failure Value × Loader σ × World σ :=
  if !l.keeps || isLive s then
    let (result, w) := l.read w s
    (result, l, w)
  else
    match memoKey w.stack s with
    | .error f => (.error (.fault f), l, w)
    | .ok key =>
      match l.memo.find? key with
      | some v => ((w.copy v).mapError .fault, l, w)
      | none =>
        match l.read w s with
        | (.error e, w) => (.error e, l, w)
        | (.ok v, w) =>
          match w.copy v with
          | .ok kept => (.ok v, { l with memo := l.memo.insert key kept }, w)
          | .error f => (.error (.fault f), l, w)

def clear (l : Loader σ) : Loader σ := { l with memo := .empty }

/-- Adds a function or replaces the one of that name. -/
def register (l : Loader σ) (name : String) (f : SourceFunction σ) : Loader σ :=
  { l with functions := l.functions.insert name f }

/-! ## Parameters -/

/-- A table with the columns of a schema, made from what a source gave. -/
def tableFrom (s : Source) (schema : List String) (v : Value) : Except Failure Table :=
  if Table.isUnordered v then throw (.fault .mistyped)
  else
    match Table.ofData v schema with
    | .ok t => pure t
    | .error f => reject s (.notTable s.label schema f)

/-- A mapping keyed on a column, made from what a source gave. -/
def mappingFrom (s : Source) (key : String) (v : Value) : Except Failure Entries :=
  match Entries.ofData v key with
  | .ok es => pure es
  | .error (.table f) => reject s (.notMapping s.label key f)
  | .error f => throw (.fault f)

/-- Loads the data of a parameter, whether it has some or not. -/
def materialize (l : Loader σ) (w : World σ) (p : Parameter) :
    Except Failure Parameter × Loader σ × World σ :=
  match p with
  | .scalar value type => (.ok (.scalar value type), l, w)
  | .table schema s _ =>
    let (result, l, w) := l.load w s
    (result.bind fun v => (tableFrom s schema v).map fun t => .table schema s (some t), l, w)
  | .mapping key s _ =>
    let (result, l, w) := l.load w s
    (result.bind fun v => (mappingFrom s key v).map fun es => .mapping key s (some es), l, w)

/-- The parameter has no data yet. -/
def isPending : Parameter → Bool
  | .table _ _ none | .mapping _ _ none => true
  | _ => false

/-- Loads the data of parameters that have none, one after the other. -/
def materializeEntries (l : Loader σ) (w : World σ) :
    List (String × Parameter) → Except Failure (List (String × Parameter)) × Loader σ × World σ
  | [] => (.ok [], l, w)
  | (name, p) :: rest =>
    let (result, l, w) := if isPending p then l.materialize w p else (.ok p, l, w)
    match result with
    | .error e => (.error e, l, w)
    | .ok q =>
      let (more, l, w) := materializeEntries l w rest
      (more.map fun rest => (name, q) :: rest, l, w)

/-- Loads the data of all parameters of a specification that have none. -/
def materializeAll (l : Loader σ) (w : World σ) (spec : Specification) :
    Except Failure Specification × Loader σ × World σ :=
  let (result, l, w) := l.materializeEntries w spec.parameters.entries
  (result.map fun entries => { spec with parameters := Named.ofList entries }, l, w)

/-- The data of a parameter: those it has, or else what its source gives, which is not kept in the
specification. -/
def dataOf (l : Loader σ) (w : World σ) (spec : Specification) (name : String) :
    Except Failure Value × Loader σ × World σ :=
  match spec.parameters.find? name with
  | none => (.error (.fault (.noParameter name)), l, w)
  | some p =>
    if isPending p then
      let (result, l, w) := l.materialize w p
      (result.map fun p => p.data?.getD .null, l, w)
    else (.ok (p.data?.getD .null), l, w)

end Loader

end Rostering
