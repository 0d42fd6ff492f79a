/-!
# Settings — values that hold unless a configuration says otherwise
-/

namespace Rostering.Settings

def searchSeconds : Float := 60.0

def searchWorkers : Nat := 8

def searchSeed : Nat := 42

/-- Assignments of one candidate on one day. -/
def dailyLimit : Nat := 2

/-- Days in a row that a candidate may work. -/
def consecutiveDays : Nat := 5

/-- Days of rest between days of work. -/
def restDays : Nat := 1

/-- First hour of a time window. -/
def windowStart : Nat := 9

/-- Last hour of a time window. -/
def windowEnd : Nat := 17

/-- The scenario of a specification that names none. -/
def scenario : String := "base"

end Rostering.Settings
