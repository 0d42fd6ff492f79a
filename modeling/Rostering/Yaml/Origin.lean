/-!
# Yaml.Origin — which parts of a value are one

An alias makes one list or mapping part of several others. A value does not show this; its
`Origin` does, which has the form of the value: two parts of the same number are one.
-/

namespace Rostering.Yaml

/-- The number of what a value was made of, if that is known, and the origins of its parts: of
items, or of keys and values in turn. Parts whose origin is missing have an unknown one. -/
inductive Origin where
  | node (number : Option Nat) (parts : List Origin)

namespace Origin

def unknown : Origin := .node none []

def number? : Origin → Option Nat
  | .node number _ => number

def parts : Origin → List Origin
  | .node _ parts => parts

def part (o : Origin) (place : Nat) : Origin := o.parts[place]?.getD unknown

def renewed (o : Origin) : Origin := .node none o.parts

end Origin

end Rostering.Yaml
