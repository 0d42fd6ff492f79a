import Rostering.Decimal.Read
import Rostering.Failure

/-!
# KeyPath — descending into a decoded document

A step leads from a mapping to the value of a key and from a list to an item, counted from the end
if the step has a minus. `KeyPath.descend` takes steps one after the other; where one leads nowhere
it tells how many were tried, so that a message can name the shortest path that is missing.
-/

namespace Rostering.KeyPath

/-- Why a descent ends early. -/
inductive Stop where
  /-- The last of so many steps leads nowhere. -/
  | missing (tried : Nat)
  | fault (f : Fault)

/-- What is left of a step without minus signs in front are digits. -/
def looksNumeric (step : String) : Bool :=
  let digits := step.toList.dropWhile (· == '-')
  !digits.isEmpty && digits.all Text.isDigit

/-- The item at a place, counted from the end if the place is negative. -/
def itemAt? (items : List Value) (place : Int) : Option Value :=
  if 0 ≤ place then items[place.toNat]?
  else if -Int.ofNat items.length ≤ place then items[(place + Int.ofNat items.length).toNat]?
  else none

/-- Takes one step. A step that looks like a number has to be one. -/
def step (name : String) : Value → Except Fault (Option Value)
  | .map es => pure (Entries.field? es name)
  | .list items =>
    if looksNumeric name then
      match integerOfText? 10 name with
      | some place => pure (itemAt? items place)
      | none => throw .malformed
    else pure none
  | _ => pure none

/-- Takes steps, counting those tried before. -/
def descendFrom (tried : Nat) : List String → Value → Except Stop Value
  | [], v => pure v
  | name :: names, v =>
    match step name v with
    | .error f => throw (.fault f)
    | .ok none => throw (.missing (tried + 1))
    | .ok (some w) => descendFrom (tried + 1) names w

def descend (names : List String) (v : Value) : Except Stop Value := descendFrom 0 names v

end Rostering.KeyPath
