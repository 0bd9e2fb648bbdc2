import RowAudit.Json.Decode
import RowAudit.Text.Basic

/-!
# Aggregate functions

A function reduces the rows of a table, or of each group of rows, to one value. `Handling` says how
many groups must pass for a grouped result to count as true.
-/

namespace RowAudit.Aggregation

/-- What becomes of a list of rows. -/
inductive Reducer where
  | sum
  | avg
  | count
  | min
  | max
  | distinctCount
  deriving DecidableEq, Repr

/-- The name of a reducer. -/
def Reducer.name : Reducer → String
  | sum => "SUM"
  | avg => "AVG"
  | count => "COUNT"
  | min => "MIN"
  | max => "MAX"
  | distinctCount => "DISTINCT_COUNT"

/-- All reducers. -/
def Reducer.all : List Reducer := [sum, avg, count, min, max, distinctCount]

/-- A reducer for the whole table or for each group of rows. -/
structure Function where
  grouped : Bool
  reducer : Reducer
  deriving DecidableEq, Repr

namespace Function

/-- The name of a function. -/
def name (f : Function) : String :=
  (if f.grouped then "DISTINCT_GROUP_" else "") ++ f.reducer.name

/-- All functions. -/
def all : List Function := Reducer.all.map (⟨false, ·⟩) ++ Reducer.all.map (⟨true, ·⟩)

/-- The function that a name means, in any case. -/
def named? (s : String) : Option Function :=
  all.find? fun f => Text.eqIgnoringAsciiCase f.name s

/-- The words that name functions in documents. -/
def choices : Document.Choices Function := all.map fun f => ([f.name], f)

/-- Reads a function. -/
def read : Reader Function := Document.asChoice choices

/-- A function as JSON. -/
def toJson (f : Function) : Json := .text f.name

end Function

/-- How many groups must pass. -/
inductive Handling where
  | all
  | any
  | majority
  deriving DecidableEq, Repr

namespace Handling

/-- The name of a handling. -/
def name : Handling → String
  | all => "ALL"
  | any => "ANY"
  | majority => "MAJORITY"

/-- The verdict on groups with given verdicts. A majority is more than half. -/
def reduce (h : Handling) (verdicts : List Bool) : Bool :=
  let passed := verdicts.count true
  match h with
  | all => passed == verdicts.length
  | any => 0 < passed
  | majority => verdicts.length < passed * 2

/-- The words that name handlings. -/
def choices : Document.Choices Handling :=
  [(["ALL", "all"], all), (["ANY", "any"], any), (["MAJORITY", "majority"], majority)]

/-- Reads a handling. -/
def read : Reader Handling := Document.asChoice choices

/-- A handling as JSON. -/
def toJson (h : Handling) : Json := .text h.name

end Handling

end RowAudit.Aggregation
