import Rostering.Config.Decode

/-!
# Patch — replacing one named entry of a specification

A patch names a section and an entry of it. For options, indexes and overrides the entry is
replaced or added; for parameters it has to exist, and only its data change. There is no deeper
merge and no other operation.

`Patch.applyAll` applies a batch from left to right and gives up at the first patch that fails, so
a batch has an effect as a whole or not at all.
-/

namespace Rostering

/-- A change to one entry. The operation is kept as it was written. -/
structure Patch where
  operation : Value
  path : List String
  value : Value

namespace Patch

/-- The steps of a path given as a value: its items, each as text. -/
def pathItems (v : Value) : Except Fault (List String) :=
  match v.items? with
  | some items => items.mapM Value.text
  | none => throw .mistyped

/-- A patch from its parts; a path that is null or empty has no steps. -/
def ofParts (operation path value : Value) : Except Fault Patch := do
  let steps ← if path.isTrue then pathItems path else pure []
  pure ⟨operation, steps, value⟩

/-- A patch from a mapping. Without a path there are no steps, and without an operation it is a
merge. -/
def ofEntries (es : Entries) : Except Fault Patch := do
  let path := (es.field? "path").getD (.list [])
  -- here a text is cut at its points, where `ofParts` takes its characters as steps
  let steps ← match path with
    | .str s => pure (s.splitOn ".")
    | path => pathItems path
  pure ⟨(es.field? "operation").getD (.str "merge"), steps, es.field "value"⟩

/-! ## Application -/

def reject {α : Type} (p : Patch) (fault : PatchFault) : Except Failure α :=
  throw (.patch ⟨fault, some p.path⟩)

/-- Reports an error in the value of a patch as one of the patch. Bare faults are passed on. -/
def reportConfig {α : Type} (p : Patch) (r : Except Failure α) : Except Failure α :=
  match r with
  | .error (.config e) => p.reject (.config e)
  | r => r

def updatedParameter (p : Patch) (name : String) : Parameter → Except Failure Parameter
  | .table schema source _ =>
    match p.value with
    | .list _ =>
      match Table.ofData p.value schema with
      | .ok t => pure (.table schema source (some t))
      | .error f => p.reject (.rowsMismatch name schema f)
    | _ => p.reject (.rowsExpected name schema)
  | .mapping key source _ =>
    match p.value with
    | .map es => pure (.mapping key source (some es))
    | _ => p.reject (.mappingExpected name)
  | .scalar _ type =>
    match Parameter.ofScalar p.value type.name with
    | .ok q => pure q
    | .error f => p.reject (.part f)

def apply (p : Patch) (s : Specification) : Except Failure Specification :=
  if !(patchOperations.any fun operation => p.operation.same (.str operation)) then
    -- the message shows the operation, which is of no fixed type
    if p.operation.hasText then p.reject (.unsupportedOperation p.operation)
    else throw (.fault .overlong)
  else
    match p.path with
    | [part, name] =>
      if part.isEmpty || name.isEmpty then p.reject .pathLength
      else
        match part with
        | "parameters" =>
          match s.parameters.find? name with
          | none => p.reject (.noParameter name s.parameters.names)
          | some q => (p.updatedParameter name q).map (s.withParameter name)
        | "options" => pure (s.withOption name p.value)
        | "indexes" =>
          (p.reportConfig (Config.index p.value ("indexes." ++ name))).map (s.withIndex name)
        | "overrides" =>
          if overridePhases.contains name then
            (p.reportConfig (Config.overrideList p.value ("overrides." ++ name))).map
              (s.withOverrides name)
          else p.reject (.unknownPhase name)
        | part => p.reject (.unknownSection part)
    | _ => p.reject .pathLength

def applyAll : List Patch → Specification → Except Failure Specification
  | [], s => pure s
  | p :: ps, s =>
    match p.apply s with
    | .ok s => applyAll ps s
    | .error e => throw e

end Patch

end Rostering
