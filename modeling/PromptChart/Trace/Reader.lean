import PromptChart.Chart.Describe
import PromptChart.Json.Access
import PromptChart.Prompt.Keywords
import PromptChart.Trace.Step

namespace PromptChart.Trace

def addNew (items : List String) (item : String) : List String :=
  if items.contains item then items else items ++ [item]

def addTerm (c : Catalog) (config : ChartConfig) (term : String) : ChartConfig :=
  { config with
    terms := addNew config.terms term
    filters := addNew config.filters (termClause c.textField term) }

/-- What is known of a chart after one more step: the last aggregation counts, and the first
grouping. -/
def addStep (c : Catalog) (config : ChartConfig) (step : Json) : ChartConfig :=
  let text := stepText step
  let marked := match aggregation? (Text.lower text) with
    | some a => { config with aggregation := a.keyword }
    | none => config
  let found := (lookedUp text).foldl (addTerm c) marked
  if found.xAxis.isEmpty then { found with xAxis := (firstField? text).getD "" } else found

/-- The terms of a prompt: what it has in quotes, and the products that it names. -/
def promptTerms (c : Catalog) (prompt : String) : List String :=
  (Prompt.terms c prompt).foldl addNew ((quotedTerm.findAll prompt).map (·.group 1))

def drawn (visualization : Json) : Except Failure ChartConfig := do
  let chart ← visualization.membersOrNone
  let config ← ((Json.object chart).get "config").membersOrNone
  return {
    title := (Json.object chart).plainAt "title"
    xAxis := (Json.object config).plainAt "groupBy"
    yAxis := (Json.object config).plainAt "metric" }

def promptText? (prompt : Json) : Option String :=
  match prompt.present? with
  | none => some ""
  | some v => v.text?

/-- What a trace tells of a chart, beside what its visualization says. A trace or a prompt that
cannot be read tells nothing. -/
def read (c : Catalog) (trace visualization prompt : Json) : Except Failure ChartConfig := do
  let drawn ← drawn visualization
  match promptText? prompt, trace.elementsOrNone with
  | some prompt, .ok steps =>
    let found := steps.foldl (addStep c) { drawn with terms := promptTerms c prompt }
    return { found with grouping :=
      if found.terms.isEmpty then "" else termGrouping found.terms }
  | _, _ => return drawn

end PromptChart.Trace
