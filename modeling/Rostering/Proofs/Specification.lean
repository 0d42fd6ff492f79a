import Rostering.Proofs.Named
import Rostering.Specification

/-!
# Well-formed specifications

The checks that indexes, sources, parameters, overrides and whole specifications pass when they are
read: a range runs forward between plain dates, a list has members and all of them are texts,
whatever has to be named has a name, and a scalar is of its declared type. `WellFormed` says so for
each part.

* **`WellFormed.withIndex`** and its siblings — a specification stays well-formed when one of its
  entries is replaced by a well-formed one.
* **`Specification.withoutData`** — what a specification declares, without the data that were
  loaded or handed in.
-/

namespace Rostering

/-! ## Parts -/

/-- A range of plain dates that runs forward, or a list of texts that has members. -/
def Index.WellFormed : Index → Prop
  | .range (.date first) (.date last) => first.index ≤ last.index
  | .range _ _ => False
  | .listed members => ∃ names : List String, names ≠ [] ∧ members = names.map .str

/-- A source says where to fetch from; a transformation has a name if there is one. -/
def Source.WellFormed : Source → Prop
  | .csv path _ => path ≠ ""
  | .json path _ => path ≠ ""
  | .api url _ transform => url ≠ "" ∧ transform ≠ some ""
  | .function name _ => name ≠ ""
  | .literal _ => True

/-- A table has columns, a mapping has a key, and a scalar is of its type. -/
def Parameter.WellFormed : Parameter → Prop
  | .table schema source _ => schema ≠ [] ∧ source.WellFormed
  | .mapping key source _ => key ≠ "" ∧ source.WellFormed
  | .scalar value type => type.holds value = true

/-- Overrides that name a capability. -/
def Override.WellFormed (o : Override) : Prop := o.target ≠ ""

/-- A single value of a declared type is a scalar of that type. -/
theorem Parameter.ofScalar_eq_ok {value : Value} {type : String} {p : Parameter}
    (hp : Parameter.ofScalar value type = .ok p) :
    ∃ t, ScalarType.ofName? type = some t ∧ t.holds value = true ∧ p = .scalar value t := by
  unfold ofScalar at hp
  -- the type has to be one that is known, and then the value has to be of it
  cases ht : ScalarType.ofName? type with
  | none =>
      rw [ht] at hp
      cases hp
  | some t =>
      simp only [ht] at hp
      split at hp
      · next hholds =>
          cases hp
          exact ⟨t, rfl, hholds, rfl⟩
      · cases hp

theorem ScalarType.ofName?_name (t : ScalarType) : ScalarType.ofName? t.name = some t := by
  cases t <;> rfl

theorem ScalarType.ofName?_eq_some {name : String} {t : ScalarType} :
    ScalarType.ofName? name = some t ↔ name = t.name := by
  constructor
  · intro h
    unfold ScalarType.ofName? at h
    split at h <;> cases h <;> rfl
  · rintro rfl
    exact ScalarType.ofName?_name t

/-! ## Specifications -/

namespace Specification

/-- The template is named, and every entry of every section passes its checks. -/
structure WellFormed (s : Specification) : Prop where
  template : (Text.stripped s.template).isEmpty = false
  indexes : ∀ e ∈ s.indexes.entries, e.2.WellFormed
  parameters : ∀ e ∈ s.parameters.entries, e.2.WellFormed
  overrides : ∀ e ∈ s.overrides.entries,
    e.1 ∈ overridePhases ∧ ∀ o ∈ e.2, o.WellFormed

variable {s : Specification}

theorem WellFormed.withIndex (hs : s.WellFormed) (name : String) {index : Index}
    (hindex : index.WellFormed) : (s.withIndex name index).WellFormed :=
  { hs with indexes := Named.forall_insert hs.indexes hindex }

theorem WellFormed.withParameter (hs : s.WellFormed) (name : String) {p : Parameter}
    (hp : p.WellFormed) : (s.withParameter name p).WellFormed :=
  { hs with parameters := Named.forall_insert hs.parameters hp }

theorem WellFormed.withOption (hs : s.WellFormed) (name : String) (value : Value) :
    (s.withOption name value).WellFormed :=
  { hs with }

theorem WellFormed.withOverrides (hs : s.WellFormed) {phase : String} {l : List Override}
    (hphase : phase ∈ overridePhases) (hl : ∀ o ∈ l, o.WellFormed) :
    (s.withOverrides phase l).WellFormed :=
  { hs with overrides := Named.forall_insert hs.overrides ⟨hphase, hl⟩ }

end Specification

/-! ## Without data -/

def Parameter.withoutData : Parameter → Parameter
  | .table schema source _ => .table schema source none
  | .mapping key source _ => .mapping key source none
  | .scalar value type => .scalar value type

def Specification.withoutData (s : Specification) : Specification :=
  { s with parameters := s.parameters.map fun _ => Parameter.withoutData }

end Rostering
