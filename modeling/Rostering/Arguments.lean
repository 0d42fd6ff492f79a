import Rostering.Failure
import Rostering.Named

/-!
# Arguments — reading the arguments of rules and goals

A rule or a goal is given its arguments by name and says which types it takes. Truth values are
integers nowhere: they are taken only where they are asked for.
-/

namespace Rostering

/-- A type that an argument may be asked to have. -/
inductive ArgumentType where
  | int
  | float
  | str
  | bool
  | list
  | dict
  deriving DecidableEq

namespace ArgumentType

def name : ArgumentType → String
  | .int => "int"
  | .float => "float"
  | .str => "str"
  | .bool => "bool"
  | .list => "list"
  | .dict => "dict"

def holds : ArgumentType → Value → Bool
  | .int, .int _ => true
  | .float, .float _ => true
  | .str, .str _ => true
  | .bool, .bool _ => true
  | .list, .list _ => true
  | .dict, .map _ => true
  | _, _ => false

end ArgumentType

abbrev Arguments := Named Value

namespace Arguments

def checked (key : String) (types : List ArgumentType) (v : Value) :
    Except ArgumentFault Value :=
  if types.any fun type => type.holds v then pure v
  else
    let expected := String.intercalate " or " (types.map ArgumentType.name)
    throw (.wrongType key expected v.typeName)

def require (args : Arguments) (key : String) (types : List ArgumentType) :
    Except ArgumentFault Value :=
  match args.find? key with
  | none => throw (.missing key)
  | some v => checked key types v

/-- An argument that may be left out or null. -/
def optional (args : Arguments) (key : String) (other : Value) (types : List ArgumentType) :
    Except ArgumentFault Value :=
  match args.find? key with
  | none | some .null => pure other
  | some v => checked key types v

end Arguments

end Rostering
