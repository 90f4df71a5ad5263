import PromptChart.Catalog.Resolve
import PromptChart.Decimal.Cents
import PromptChart.Query.Aggregation
import PromptChart.Text.Case
import PromptChart.Text.Search
import PromptChart.Trace.Reader
import PromptChart.Validation.Chart

namespace PromptChart

open Text (lower contains)

def Chart.typeWords : List (String × String) :=
  [("bar", "bar"), ("line", "line"), ("pie", "pie"), ("stat", "kpi"), ("table", "table"),
    ("area", "area")]

/-- The type of chart that a word means, in any case; bars if it means none. -/
def Chart.typeOf (word : String) : String := (typeWords.lookup (lower word)).getD "bar"

def Aggregation.hints : List (String × Aggregation) :=
  [("avg", .avg), ("average", .avg), ("sum", .sum), ("total", .sum), ("count", .count),
    ("min", .min),
   ("max", .max)]

/-- The aggregation that a text means, the average if it means none. -/
def Aggregation.ofWords (words : String) : Aggregation :=
  match hints.find? fun hint => contains (lower words) hint.1 with
  | some (_, a) => a
  | none => .avg

namespace Visualized

def label (row : Json) : String := row.plainOr "" "label"

def namesAdminTerm (c : Catalog) (label : String) : Bool :=
  c.adminTerms.any (contains (lower label))

def forCustomer (c : Catalog) (rows : List Json) : List Json :=
  rows.filter fun row => !namesAdminTerm c (label row)

def isObject : Json → Bool
  | .object _ => true
  | _ => false

/-- The data rows of a visualization; what is no object is left out. -/
def rows (visualization : Json) : Except Failure (List Json) := do
  let data ← (← visualization.memberOf "data").membersOrNone
  return (← ((Json.object data).get "data").elementsOrNone).filter isObject

/-- The value of a data row, rounded to cents; a value that holds nothing is zero. -/
def value (row : Json) : Except Failure Binary64 :=
  match (row.get "value").present? with
  | none => .ok 0
  | some v => v.number.map (·.roundCents)

def points (rows : List Json) : List Point :=
  rows.filterMap fun row => (value row).toOption.map (Point.mk (label row))

/-- The column that an axis means among those that a scope may see, or else the axis as it
is. -/
def axis (c : Catalog) (admin : Bool) (name : String) : String :=
  match c.mapToColumn? (c.visibleColumns admin) name with
  | some id => if id.isEmpty then name else id
  | none => name

def settle (c : Catalog) (admin : Bool) (config : ChartConfig) : ChartConfig :=
  { config with
    xAxis := axis c admin config.xAxis
    yAxis := axis c admin config.yAxis
    aggregation :=
      if config.aggregation.isEmpty then (Aggregation.ofWords config.aggregation).keyword
      else config.aggregation }

def type (visualization : Json) : Except Failure String :=
  match (visualization.get "type").present? with
  | none => .ok (Chart.typeOf "")
  | some (.text word) => .ok (Chart.typeOf word)
  | some _ => .error .noMember

/-- The chart of a visualization with the trace that led to it. -/
def chart (c : Catalog) (visualization trace prompt : Json) (scope : Scope) :
    Except Failure Chart := do
  let rows ← rows visualization
  let visible := if scope.isAdmin then rows else forCustomer c rows
  let config := settle c scope.isAdmin (← Trace.read c trace visualization prompt)
  let points := points visible
  let type ← type visualization
  let reasoning ← (Checked.under "reasoning" (Checked.list Checked.step trace)).toExcept
  return {
    source := .service, type, config, description := config.describe points.length, points,
      reasoning }

end Visualized

end PromptChart
