import PromptChart.Chart.Basic
import PromptChart.Query.Scope
import PromptChart.Text.Case
import PromptChart.Text.Search

namespace PromptChart

open Text (lower join)

def termClause (field term : String) : String := field ++ " ILIKE '%" ++ term ++ "%'"

def termGrouping (terms : List String) : String :=
  "Grouped by products matching: " ++ join ", " terms

/-- A field name as a heading: underscores are spaces, and words start in title form. -/
def Chart.heading (field : String) : String :=
  Text.title (String.ofList (field.toList.map fun c => if c = '_' then ' ' else c))

namespace ChartConfig

def categories (count : Int) : String :=
  "(" ++ toString count ++ " " ++ (if count = 1 then "category" else "categories") ++ ")"

def describe (config : ChartConfig) (count : Int) : String :=
  let aggregation := if config.aggregation.isEmpty then "Average" else config.aggregation
  let metric := if config.yAxis.isEmpty then "cost" else config.yAxis
  let shown := "Shows " ++ lower aggregation ++ " " ++ lower (Chart.heading metric)
  let matching :=
    if config.terms.isEmpty then []
    else ["for products matching: " ++ join ", " config.terms]
  join " " ([shown] ++ matching ++ [categories count])

end ChartConfig

def productData : String := "product data"

def emptyMessage (terms : List String) (range : Option DateRange) (what : String) : String :=
  let within := match range with
    | some r => " in the selected date range (" ++ r.text ++ ")"
    | none => ""
  if terms.isEmpty then "No " ++ what ++ " found" ++ within ++ ". Try widening the date range."
  else
    "No " ++ what ++ " found for \"" ++ join ", " terms ++ "\"" ++ within ++
      ". Try expanding the date range or check if this customer has shipments with " ++
      "these products."

end PromptChart
