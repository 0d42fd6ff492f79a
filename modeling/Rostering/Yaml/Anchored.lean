import Rostering.Value.Text
import Rostering.Yaml.Origin

/-!
# Yaml.Anchored — values in which a part stands once

A part that occurs several times is written where it occurs first, under a name, and is referred to
by that name wherever it occurs again. `Anchored.ofShared` finds these parts by the origin of the
value: texts, numbers, truth values and null are written again each time, anything else is not.

Names are numbered in the order in which parts occur for the second time (`Repeats.visit`).
-/

namespace Rostering.Yaml

/-- A value whose parts have names, or are referred to by name. -/
inductive Anchored where
  | alias (name : String)
  | scalar (anchor : Option String) (v : Value)
  | list (anchor : Option String) (items : List Anchored)
  | map (anchor : Option String) (entries : List (Anchored × Anchored))
  | set (anchor : Option String) (members : List Anchored)

/-! ## Parts that occur again -/

/-- The parts that have occurred, and those of them that have occurred again, latest first. -/
structure Repeats where
  seen : List Nat
  repeated : List Nat

namespace Repeats

/-- Notes an occurrence of a part; tells whether it is the first one. -/
def note (s : Repeats) : Option Nat → Bool × Repeats
  | none => (true, s)
  | some n =>
    if !s.seen.contains n then (true, { s with seen := n :: s.seen })
    else if s.repeated.contains n then (false, s)
    else (false, { s with repeated := n :: s.repeated })

mutual

/-- Goes through a value. What stands inside of a part is looked at once. -/
def visit (s : Repeats) (o : Origin) : Value → Repeats
  | .list items | .tuple items | .set items =>
    match s.note o.number? with
    | (true, s) => visitItems s o.parts items
    | (false, s) => s
  | .map es =>
    match s.note o.number? with
    | (true, s) => visitEntries s o.parts es
    | (false, s) => s
  | .day _ | .again _ => (s.note o.number?).2
  | _ => s

def visitItems (s : Repeats) (parts : List Origin) : List Value → Repeats
  | [] => s
  | v :: vs => visitItems (visit s (parts.headD .unknown) v) parts.tail vs

/-- Goes through entries, each key before its value. -/
def visitEntries (s : Repeats) (parts : List Origin) : List (Value × Value) → Repeats
  | [] => s
  | (k, v) :: es =>
    let s := visit s (parts.headD .unknown) k
    let s := visit s (parts.tail.headD .unknown) v
    visitEntries s (parts.drop 2) es

end

/-- The name of a part, if it occurs again. -/
def name? (s : Repeats) (number : Option Nat) : Option String :=
  number.bind fun n => (s.repeated.reverse.findIdx? (· == n)).map fun i =>
    "id" ++ padded 3 (i + 1)

end Repeats

/-! ## Names -/

namespace Anchored

/-- The names of repeated parts by their numbers, and the names that have been written. -/
structure Naming where
  repeats : Repeats
  written : List String

/-- Starts to write a part: under a name, if it occurs again, or with a reference to its name
alone, if it was written before. -/
def Naming.start (s : Naming) (o : Origin) : Except String (Option String × Naming) :=
  match s.repeats.name? o.number? with
  | none => pure (none, s)
  | some name =>
    if s.written.contains name then throw name
    else pure (some name, { s with written := name :: s.written })

mutual

def ofPart (s : Naming) (o : Origin) : Value → Anchored × Naming
  | .list items | .tuple items =>
    match s.start o with
    | .error name => (.alias name, s)
    | .ok (anchor, s) =>
      let (items, s) := ofItems s o.parts items
      (.list anchor items, s)
  | .set items =>
    match s.start o with
    | .error name => (.alias name, s)
    | .ok (anchor, s) =>
      let (items, s) := ofItems s o.parts items
      (.set anchor items, s)
  | .map es =>
    match s.start o with
    | .error name => (.alias name, s)
    | .ok (anchor, s) =>
      let (es, s) := ofEntries s o.parts es
      (.map anchor es, s)
  | .day d =>
    match s.start o with
    | .error name => (.alias name, s)
    | .ok (anchor, s) => (.scalar anchor (.day d), s)
  | .again isMap =>
    match s.start o with
    | .error name => (.alias name, s)
    | .ok (anchor, s) => (.scalar anchor (.again isMap), s)
  | v => (.scalar none v, s)

def ofItems (s : Naming) (parts : List Origin) : List Value → List Anchored × Naming
  | [] => ([], s)
  | v :: vs =>
    let (v, s) := ofPart s (parts.headD .unknown) v
    let (vs, s) := ofItems s parts.tail vs
    (v :: vs, s)

def ofEntries (s : Naming) (parts : List Origin) :
    List (Value × Value) → List (Anchored × Anchored) × Naming
  | [] => ([], s)
  | (k, v) :: es =>
    let (k, s) := ofPart s (parts.headD .unknown) k
    let (v, s) := ofPart s (parts.tail.headD .unknown) v
    let (es, s) := ofEntries s (parts.drop 2) es
    ((k, v) :: es, s)

end

def ofShared (v : Value) (o : Origin) : Anchored :=
  (ofPart ⟨Repeats.visit ⟨[], []⟩ o v, []⟩ o v).1

/-- A value all of whose parts are different. -/
def ofValue (v : Value) : Anchored := ofShared v .unknown

end Anchored

end Rostering.Yaml
