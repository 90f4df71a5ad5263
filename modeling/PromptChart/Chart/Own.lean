import PromptChart.Catalog.Basic
import PromptChart.Chart.Describe

namespace PromptChart

namespace Comparison

def config (c : Catalog) (metric : String) (x : Comparison) : ChartConfig where
  title := x.aggregation.title ++ " " ++ Chart.heading metric ++ " by Product Category"
  xAxis := "Product Category"
  yAxis := metric
  aggregation := x.aggregation.keyword
  filters := x.terms.map (termClause c.textField)
  terms := x.terms
  grouping := termGrouping x.terms

def chart (c : Catalog) (metric : String) (x : Comparison) (points : List Point) : Chart :=
  let config := x.config c metric
  { type := "bar", config, description := config.describe points.length, points }

end Comparison

namespace Breakdown

def config (c : Catalog) (b : Breakdown) : ChartConfig where
  title := b.metric ++ " by " ++ b.primary ++ " and " ++ b.secondary
  xAxis := b.primary
  yAxis := b.metric
  aggregation := b.aggregation.keyword
  filters := b.terms.map (termClause c.textField)
  terms := b.terms
  grouping := "Grouped by " ++ b.primary ++ ", split by " ++ b.secondary

def chart (c : Catalog) (b : Breakdown) (g : Grouped) : Chart where
  type := "grouped_bar"
  config := b.config c
  description :=
    "Shows " ++ b.aggregation.name ++ " " ++ b.metric ++ " broken down by " ++ b.primary ++
    " and " ++ b.secondary
  rows := g.rows
  secondaries := g.secondaries
  raw := g.raw

end Breakdown

end PromptChart
