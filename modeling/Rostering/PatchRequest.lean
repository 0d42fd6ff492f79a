import Rostering.Patch

/-!
# PatchRequest — requests for patches

A request holds either the fields of a single patch or a list of patches. `PatchRequest.ofValue?`
accepts exactly the mappings of this form; texts have to be texts, and fields of the request
itself have to be known. A single patch may leave out its operation, or leave it empty.
-/

namespace Rostering

/-- A path as it is spelled: with points, or step by step. -/
inductive PathSpelling where
  | dotted (path : String)
  | steps (path : List String)
  deriving DecidableEq

namespace PathSpelling

def toSteps : PathSpelling → List String
  | .dotted path => path.splitOn "."
  | .steps path => path

def toValue : PathSpelling → Value
  | .dotted path => .str path
  | .steps path => .ofTexts path

def text? : Value → Option String
  | .str s => some s
  | _ => none

/-- Reads a path: a text or a list of texts. -/
def ofValue? : Value → Option PathSpelling
  | .str path => some (.dotted path)
  | .list items => (items.mapM text?).map .steps
  | _ => none

end PathSpelling

/-- A patch as it is requested. -/
structure RequestedPatch where
  operation : String
  path : PathSpelling
  value : Value

namespace RequestedPatch

def toPatch (r : RequestedPatch) : Patch := ⟨.str r.operation, r.path.toSteps, r.value⟩

def entries (r : RequestedPatch) : Entries :=
  Entries.ofFields [("operation", .str r.operation), ("path", r.path.toValue),
    ("value", r.value)]

/-- Reads one patch of a list: its path has to be there, and its operation is a merge if it is left
out. -/
def ofValue? : Value → Option RequestedPatch
  | .map es => do
    let path ← PathSpelling.ofValue? (← Entries.field? es "path")
    match Entries.field? es "operation" with
    | none => pure ⟨"merge", path, Entries.field es "value"⟩
    | some v => pure ⟨← PathSpelling.text? v, path, Entries.field es "value"⟩
  | _ => none

end RequestedPatch

abbrev PatchRequest := List RequestedPatch

namespace PatchRequest

def fields : List String := ["operation", "path", "value", "patches"]

/-- A field that may be left out or null; any other value has to be readable. -/
def optional? {α : Type} (es : Entries) (name : String) (read? : Value → Option α) :
    Option (Option α) :=
  match Entries.field? es name with
  | none | some .null => some none
  | some v => (read? v).map some

def list? : Value → Option (List RequestedPatch)
  | .list items => items.mapM RequestedPatch.ofValue?
  | _ => none

def isKnown (e : Value × Value) : Bool := fields.any fun name => (Value.str name).same e.1

/-- Reads a request: a single patch, which has a path, or a list of patches, but not both. -/
def ofValue? : Value → Option PatchRequest
  | .map es => do
    if !es.all isKnown then none
    let operation ← optional? es "operation" PathSpelling.text?
    let path ← optional? es "path" PathSpelling.ofValue?
    let patches ← optional? es "patches" list?
    match path, patches with
    | some path, none =>
      let operation := operation.getD ""
      pure [⟨if operation.isEmpty then "merge" else operation, path, Entries.field es "value"⟩]
    | none, some patches => pure patches
    | _, _ => none
  | _ => none

end PatchRequest

end Rostering
