import PromptChart.Failure
import PromptChart.Json.Display

namespace PromptChart

inductive Aggregation where
  | sum
  | avg
  | count
  | min
  | max
  deriving DecidableEq, Repr

namespace Aggregation

def all : List Aggregation := [.sum, .avg, .count, .min, .max]

def name : Aggregation → String
  | .sum => "sum"
  | .avg => "avg"
  | .count => "count"
  | .min => "min"
  | .max => "max"

def keyword : Aggregation → String
  | .sum => "SUM"
  | .avg => "AVG"
  | .count => "COUNT"
  | .min => "MIN"
  | .max => "MAX"

def title : Aggregation → String
  | .sum => "Total"
  | .avg => "Average"
  | .count => "Count of"
  | .min => "Minimum"
  | .max => "Maximum"

def names : List (String × Aggregation) := all.map fun a => (a.name, a)

def ofName? (name : String) : Option Aggregation := names.lookup name

def read (j : Json) : Except Failure Aggregation :=
  match j.text?.bind ofName? with
  | some a => .ok a
  | none => .error (.unknownAggregation j.display)

end Aggregation

end PromptChart
