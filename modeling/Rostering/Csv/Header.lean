/-!
# Csv.Header — names of columns

The fields of a header line name the columns. A column without a name is called after its place,
and of equal names all but the first get a number (`distinctNames`). Columns that were named keep
their names in preference to those that were not.
-/

namespace Rostering.Csv

/-- Names on the way to being different: the names as they are now, how often each was met, and
which one was made from which, latest first. -/
structure Naming where
  names : List String
  counts : List (String × Nat)
  renamed : List (String × String)

namespace Naming

/-- How often a name was met. -/
def count (s : Naming) (name : String) : Nat := (s.counts.lookup name).getD 0

/-- The first number, from `n` on, that behind the name makes one that is not in use. -/
def freeNumber (names : List String) (name : String) : (fuel n : Nat) → Nat
  | 0, n => n
  | fuel + 1, n =>
    if names.contains (name ++ "." ++ toString n) then freeNumber names name fuel (n + 1) else n

def settle (s : Naming) (place : Nat) : Naming :=
  let name := s.names[place]?.getD ""
  match s.count name with
  | 0 => { s with counts := (name, 1) :: s.counts }
  | n =>
    let number := freeNumber s.names name (s.names.length + 1) n
    let made := name ++ "." ++ toString number
    { names := s.names.set place made
      counts := (made, 1) :: (name, number + 1) :: s.counts
      renamed := (name, made) :: s.renamed }

end Naming

/-- What columns without a name are called. -/
def placedNames (header : List String) : List String :=
  header.zipIdx.map fun (name, i) => if name.isEmpty then "Unnamed: " ++ toString i else name

/-- Different names for the columns of a header, and which of them were made from which. -/
def distinctNames (header : List String) : List String × List (String × String) :=
  let isUnnamed := fun i => (header[i]?.getD "").isEmpty
  let places := List.range header.length
  let order := places.filter (fun i => !isUnnamed i) ++ places.filter isUnnamed
  let s := order.foldl Naming.settle ⟨placedNames header, [], []⟩
  (s.names, s.renamed.reverse)

end Rostering.Csv
