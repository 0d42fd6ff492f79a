import Rostering.Config.Encode
import Rostering.Yaml.Origin

/-!
# Config.Origins — what a written specification shares with its text

A specification is made anew of a configuration, but the values of its options, scalars, literal
data and arguments are those of the configuration. If two of them were one there, they are still
one: `specificationOrigin` carries the origins of a configuration over to what `Config.encode`
makes of its specification.
-/

namespace Rostering.Config

open Yaml (Origin)

/-- A value with its origin. -/
structure Traced where
  value : Value
  origin : Origin

namespace Traced

def entryAt (t : Traced) (es : Entries) (place : Option Nat) : Traced :=
  match place with
  | some i => ⟨((es[i]?).map Prod.snd).getD .null, t.origin.part (2 * i + 1)⟩
  | none => ⟨.null, .unknown⟩

def field (t : Traced) (name : String) : Traced :=
  match t.value with
  | .map es => t.entryAt es (es.findIdx? fun e => (Value.str name).same e.1)
  | _ => t.entryAt [] none

/-- The value under the last key that reads like a name. -/
def named (t : Traced) (name : String) : Traced :=
  match t.value with
  | .map es =>
    t.entryAt es (((List.range es.length).filter fun i =>
      ((es[i]?).map fun e => e.1.shown == name).getD false).getLast?)
  | _ => t.entryAt [] none

def item (t : Traced) (place : Nat) : Traced :=
  match t.value with
  | .list items => ⟨items[place]?.getD .null, t.origin.part place⟩
  | _ => ⟨.null, .unknown⟩

end Traced

/-- The origin of a new mapping, given those of its values. -/
def fieldOrigins (v : Value) (f : String → Value → Origin) : Origin :=
  match v with
  | .map es => .node none (es.flatMap fun (k, w) => [.unknown, f k.shown w])
  | _ => .unknown

/-- The origin of a new list, given those of its items. -/
def itemOrigins (v : Value) (f : Nat → Value → Origin) : Origin :=
  match v with
  | .list items => .node none (items.zipIdx.map fun (w, i) => f i w)
  | _ => .unknown

/-- The origin of a source: its options and arguments are new, what they hold is not. -/
def sourceOrigin (t : Traced) (v : Value) : Origin :=
  fieldOrigins v fun name _ =>
    match name with
    | "options" | "args" => (t.field name).origin.renewed
    | "data" => (t.field name).origin
    | _ => .unknown

def parameterOrigin (t : Traced) (v : Value) : Origin :=
  fieldOrigins v fun name w =>
    match name with
    | "source" => sourceOrigin (t.field name) w
    | "value" => (t.field name).origin
    | _ => .unknown

/-- The origin of an override: its arguments are under new keys. -/
def overrideOrigin (t : Traced) (v : Value) : Origin :=
  fieldOrigins v fun name w =>
    match name with
    | "args" => fieldOrigins w fun arg _ => ((t.field name).named arg).origin
    | _ => .unknown

/-- The origin of the mapping of a specification that was read from a configuration. -/
def specificationOrigin (t : Traced) (v : Value) : Origin :=
  fieldOrigins v fun name w =>
    let t := t.field name
    match name with
    | "parameters" => fieldOrigins w fun name p => parameterOrigin (t.named name) p
    | "options" => fieldOrigins w fun name _ => (t.named name).origin
    | "overrides" => fieldOrigins w fun phase l =>
      itemOrigins l fun i o => overrideOrigin ((t.named phase).item i) o
    | _ => .unknown

end Rostering.Config
