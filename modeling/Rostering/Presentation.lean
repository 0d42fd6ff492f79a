import Rostering.Specification
import Rostering.Text.Case
import Rostering.Text.Search

/-!
# Presentation — how a front end could show a specification

A presentation follows from the specification alone: a control for each index, a slider for each
parameter whose name says that it is a price or an amount, the indexes to filter on, and the
figures to show. `Control.ofIndex` and `Control.ofParameter?` look at one entry each, so a change
of one entry changes at most one control.
-/

namespace Rostering

/-! ## Controls -/

/-- A control for an entry of a specification, by the name of the entry. -/
inductive Control where
  | days (name : String) (first last : Day)
  | choice (name : String) (members : List Value)
  | factor (name : String)
  | scale (name : String)

/-- Names of parameters that a factor applies to contain one of these. -/
def factorHints : List String := ["cost", "weight", "multiplier"]

/-- Names of parameters that are scaled contain one of these. -/
def scaleHints : List String := ["demand", "capacity"]

namespace Control

def ofIndex (name : String) : Index → Control
  | .range first last => .days name first last
  | .listed members => .choice name members

/-- The control for a parameter, if its name asks for one. -/
def ofParameter? (name : String) : Option Control :=
  if factorHints.any (Text.mentions name) then some (.factor name)
  else if scaleHints.any (Text.mentions name) then some (.scale name)
  else none

/-- What a control is called: the name of its entry as a title. -/
def title (name : String) : String :=
  Text.title (String.ofList (name.toList.map fun c => if c == '_' then ' ' else c))

/-- A slider between two ends, with one as its default. -/
def slider (label target : String) (least most : Float) : Value :=
  .ofFields [("type", .str "slider"), ("label", .str label), ("min", .float least),
    ("max", .float most), ("default", .float 1), ("step", .float 0.1), ("maps_to", .str target)]

def report : Control → Value
  | .days name first last =>
    .ofFields [("type", .str "date_range"), ("label", .str (title name)),
      ("default", .ofTexts [first.iso, last.iso]), ("maps_to", .str ("indexes." ++ name))]
  | .choice name members =>
    .ofFields [("type", .str "multiselect"), ("label", .str (title name)),
      ("options", .list members), ("default", .list members),
      ("maps_to", .str ("indexes." ++ name))]
  | .factor name =>
    slider (title name ++ " Multiplier") ("parameters." ++ name ++ ".multiplier") 0.1 3
  | .scale name => slider (title name ++ " Scale") ("parameters." ++ name ++ ".scale") 0.5 2

end Control

/-! ## Presentations -/

/-- How a front end could show a specification. -/
structure Presentation where
  view : String
  controls : List Control
  filters : List String
  metrics : List String
  query : String

namespace Presentation

def viewFor (template : String) : String :=
  if template == "work_scheduling" then "schedule_gantt"
  else if Text.mentions template "assignment" then "assignment_matrix"
  else if Text.mentions template "routing" then "route_map"
  else "generic_table"

def metricsFor (template : String) : List String :=
  ["objective_value", "solve_time"] ++
    (if template == "work_scheduling" then
      ["total_cost", "coverage_rate", "staff_utilization"]
    else if Text.mentions template "routing" then ["total_distance", "vehicle_utilization"]
    else [])

/-- The index is a list with something to choose from. -/
def isFilter : Index → Bool
  | .range _ _ => false
  | .listed members => 1 < members.length

/-- The presentation of a specification; a query is passed on as it is. -/
def ofSpecification (s : Specification) (query : String) : Presentation where
  view := viewFor s.template
  controls := (s.indexes.entries.map fun (name, index) => Control.ofIndex name index)
    ++ s.parameters.names.filterMap Control.ofParameter?
  filters := (s.indexes.entries.filter fun (_, index) => isFilter index).map Prod.fst
  metrics := metricsFor s.template
  query := query

def report (p : Presentation) : Value :=
  .ofFields [("visualization_type", .str p.view),
    ("controls", .list (p.controls.map Control.report)), ("filters", .ofTexts p.filters),
    ("metrics", .ofTexts p.metrics), ("query_context", .str p.query)]

end Presentation

end Rostering
