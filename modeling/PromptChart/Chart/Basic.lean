import PromptChart.Json.Basic
import PromptChart.Prompt.Intent
import PromptChart.Query.Request

namespace PromptChart

structure Point (ν : Type := Binary64) where
  label : String
  value : ν
  deriving DecidableEq, Repr

/-- A row of a grouped chart: the key `primaryGroup` has the name of the group, every other key
the value of a secondary group. -/
abbrev GroupedRow := List (String × Json)

/-- A breakdown with its data: the rows of the store, the rows of the chart, and the secondary
groups. -/
structure Grouped where
  raw : List PartialRow
  rows : List GroupedRow
  secondaries : List String
  deriving Repr

structure ChartConfig where
  title : String := ""
  xAxis : String := ""
  yAxis : String := ""
  aggregation : String := ""
  filters : List String := []
  terms : List String := []
  grouping : String := ""
  deriving DecidableEq, Repr

inductive ChartStatus where
  | ok
  | empty
  | error
  | superseded
  deriving DecidableEq, Repr

def ChartStatus.name : ChartStatus → String
  | .ok => "ok"
  | .empty => "empty"
  | .error => "error"
  | .superseded => "superseded"

def ChartStatus.names : List (String × ChartStatus) :=
  [ChartStatus.ok, .empty, .error, .superseded].map fun s => (s.name, s)

/-- Was the prompt read here, or by the reasoning service? -/
inductive ChartSource where
  | own
  | service
  deriving DecidableEq, Repr

def ChartSource.name : ChartSource → String
  | .own => "local"
  | .service => "fallback"

def ChartSource.names : List (String × ChartSource) :=
  [ChartSource.own, .service].map fun s => (s.name, s)

structure Chart where
  status : ChartStatus := .ok
  source : ChartSource := .own
  intent : Option Intent := none
  type : String := "bar"
  config : ChartConfig := {}
  description : String := ""
  points : List Point := []
  rows : List GroupedRow := []
  secondaries : List String := []
  raw : List PartialRow := []
  message : String := ""
  reasoning : List Json := []
  deriving Repr

namespace Chart

def succeeded (c : Chart) : Bool := c.status = .ok

def isGrouped (c : Chart) : Bool := !c.rows.isEmpty

end Chart

end PromptChart
