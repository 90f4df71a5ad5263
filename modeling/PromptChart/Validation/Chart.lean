import PromptChart.Chart.Basic
import PromptChart.Reasoning.Basic
import PromptChart.Validation.Query

namespace PromptChart

open Checked

def Checked.someItems {α : Type} (check : Json → Checked α) (j : Json) : Checked (List α) :=
  (list check j).andThen fun xs => if xs.isEmpty then fail .listTooShort else .valid xs

/-- The kind of an intent may be left out, but cannot be another one. -/
def Intent.checkKind (kind : String) : Json → Checked Unit :=
  optional "kind" (word .notWord [(kind, ())]) ()

def Comparison.check : Json → Checked Comparison :=
  record fun j => (fun _ => Comparison.mk)
    <$> Intent.checkKind "category_comparison" j
    <*> required "terms" (someItems text) j
    <*> optional "aggregation" Aggregation.check .avg j

def Breakdown.check : Json → Checked Breakdown :=
  record fun j => (fun _ => Breakdown.mk)
    <$> Intent.checkKind "two_dimension" j
    <*> required "primary_group_by" text j
    <*> required "secondary_group_by" text j
    <*> required "metric" text j
    <*> optional "aggregation" Aggregation.check .avg j
    <*> optional "category_terms" (list text) [] j

def Json.countKeys (keys : List String) (j : Json) : Nat :=
  (keys.filter fun k => (j.get? k).isSome).length

/-- Of two readings the one with more fields, the comparison in a tie; if there is none, all
that is wrong with both. -/
def Intent.check (j : Json) : Checked Intent :=
  match Comparison.check j, Breakdown.check j with
  | .valid c, .valid b =>
    if j.countKeys ["kind", "terms", "aggregation"] < j.countKeys ["kind", "primary_group_by",
        "secondary_group_by", "metric", "aggregation", "category_terms"] then
          .valid (.breakdown b)
    else .valid (.comparison c)
  | .valid c, .invalid _ => .valid (.comparison c)
  | .invalid _, .valid b => .valid (.breakdown b)
  | .invalid xs, .invalid ys =>
    .invalid (xs.map (.under "CategoryComparison") ++ ys.map (.under "TwoDimensionBreakdown"))

def Point.check : Json → Checked Point :=
  record fun j => Point.mk <$> required "label" text j <*> required "value" real j

def Grouped.check : Json → Checked Grouped :=
  record fun j => Grouped.mk
    <$> optional "raw" (list PartialRow.check) [] j
    <*> optional "grouped" (list members) [] j
    <*> optional "secondary_groups" (list text) [] j

def ChartConfig.check : Json → Checked ChartConfig :=
  record fun j => ChartConfig.mk
    <$> optional "title" text "" j
    <*> optional "x_axis" text "" j
    <*> optional "y_axis" text "" j
    <*> optional "aggregation" text "" j
    <*> optional "filters" (list text) [] j
    <*> optional "search_terms" (list text) [] j
    <*> optional "grouping_logic" text "" j

def Checked.step (j : Json) : Checked Json := (members j).map .object

def Chart.check : Json → Checked Chart :=
  record fun j =>
    (fun status source intent type config description points rows secondaries raw message
        reasoning (_ : Int) =>
      Chart.mk status source intent type config description points rows secondaries raw message
        reasoning)
    <$> optional "status" (word .notWord ChartStatus.names) .ok j
    <*> optional "source" (word .notWord ChartSource.names) .own j
    <*> optional "intent" (nullable Intent.check) none j
    <*> optional "chart_type" text "bar" j
    <*> optional "config" ChartConfig.check {} j
    <*> optional "description" text "" j
    <*> optional "data" (list Point.check) [] j
    <*> optional "grouped" (list members) [] j
    <*> optional "secondary_groups" (list text) [] j
    <*> optional "raw" (list PartialRow.check) [] j
    <*> optional "message" text "" j
    <*> optional "reasoning" (list step) [] j
    <*> optional "latency_ms" whole 0 j

def ReasoningRequest.check : Json → Checked ReasoningRequest :=
  record fun j => ReasoningRequest.mk
    <$> required "question" text j
    <*> optional "scope_id" text "0" j
    <*> optional "user_id" (nullable text) none j
    <*> optional "preferences" members usualPreferences j

def Visualization.checkConfig : Json → Checked (Option String × Option String) :=
  record fun j => Prod.mk
    <$> optional "groupBy" (nullable text) none j
    <*> optional "metric" (nullable text) none j

def Visualization.check : Json → Checked Visualization :=
  record fun j => (fun type title (axes : Option String × Option String) data =>
      Visualization.mk type title axes.1 axes.2 data)
    <$> optional "type" text "bar" j
    <*> optional "title" text "" j
    <*> optional "config" checkConfig (none, none) j
    <*> optional "data" members [] j

def ReasoningResponse.check : Json → Checked ReasoningResponse :=
  record fun j => ReasoningResponse.mk
    <$> optional "success" truth false j
    <*> optional "visualizations" (list Visualization.check) [] j
    <*> optional "reasoning" (list step) [] j
    <*> optional "error" (nullable text) none j

end PromptChart
